import MixerPanel.Proofs.Calls

/-!
# One document behind the store

A store holds a typed status and, beside it, the document that the status was read from, if it came
as one.  Three operations write the two: a typed status drops the document, a whole document sets
both, and a patch works on the document if there is one and on that of the typed status otherwise.
A drift between the two would be seen only in later patches.

This module shows that there is none.  A `Ledger` keeps a session and a single document.  It decides
by itself what to make of an operation: the document is the one that was installed last, exactly as
it was received, with every patch since then that applied and was accepted; what is refused is left
out.  The store follows the ledger step by step.

* `Ledger.step`, `Ledger.run` — the reference machine
* `Desk.ledger` — what the ledger would hold in the place of a desk
* `Desk.ledger_step`, `Desk.ledger_run` — one step, and a whole run, seen through `Desk.ledger`
* `document_refinement` — after every run the document of the store is the ledger's, its status is
  read from that document, and a call is refused by the store exactly where the ledger refuses it

The uniqueness of the serials is left out of `Store.Coherent`, because a typed status may repeat
one.  It comes back where a document is accepted.
-/

namespace MixerPanel

/-! ## A patch that only tests -/

/-- A patch of one test applies exactly where the document holds the value, and changes nothing. -/
theorem Json.Patch.apply_test_eq_ok_iff {doc next value : Json} {path : String} :
    Json.Patch.apply doc [.test path value] = .ok next ↔
      doc = next ∧ ∃ found, doc.valueAt? path = some found ∧ found.same value = true := by
  cases found : doc.valueAt? path with
  | none => simp [apply, applyFrom, Operation.apply, Operation.orFault, found]
  | some there =>
      by_cases same : there.same value
      · simp [apply, applyFrom, Operation.apply, Operation.orFault, found, same]
      · simp [apply, applyFrom, Operation.apply, Operation.orFault, found, same]

/-- A test succeeds on a store with distinct serials exactly where the document holds the value. -/
theorem Store.applyPatch_test_iff {s : Store} (coherent : s.Coherent)
    (distinct : s.status.SerialsDistinct) (path : String) (value : Json) :
    (∃ update, s.applyPatch [.test path value] = .ok update) ↔
      ∃ found, s.document.valueAt? path = some found ∧ found.same value = true := by
  have accepted : Status.ofValue s.document = .ok s.status :=
    Status.ofValue_eq_ok_iff.mpr ⟨coherent, distinct⟩
  simp only [applyPatch_eq, bind_eq_ok_iff, mapError_eq_ok_iff, Json.Patch.apply_test_eq_ok_iff]
  constructor
  · rintro ⟨update, next, ⟨-, holds⟩, -⟩
    exact holds
  · intro holds
    refine ⟨s.install s.status (some s.document), s.document, ⟨rfl, holds⟩, ?_⟩
    rw [replaceDocument_eq, accepted]
    rfl

/-! ## The reference machine -/

/-- A session, and one document in the place of a store. -/
structure Ledger where
  session : Session
  document : Json

namespace Ledger

/-- Before anything is known, the document is that of the status without a device.  The session may
be in any state. -/
def start (session : Session) : Ledger := ⟨session, Status.empty.toValue⟩

/-- An operation that asks for another document gets it, unless it is refused. -/
def step (l : Ledger) (operation : Desk.Operation) : Ledger where
  session := l.session.after operation
  document :=
    match l.session.call? operation with
    | none => l.document
    | some call => (call.document l.document).toOption.getD l.document

/-- The ledger after a list of operations. -/
def run (l : Ledger) (operations : List Desk.Operation) : Ledger := operations.foldl step l

end Ledger

namespace Desk

/-- What the ledger would hold in the place of the desk. -/
def ledger (d : Desk) : Ledger := ⟨d.session, d.store.document⟩

theorem ledger_start (session : Session) : ledger ⟨session, .empty⟩ = Ledger.start session := rfl

/-- **Every operation moves the desk as it moves the ledger**, whether it succeeds or not, and keeps
the status in step with the document. -/
theorem ledger_step {d : Desk} (coherent : d.store.Coherent) (operation : Operation) :
    (d.step operation).desk.ledger = d.ledger.step operation ∧
      (d.step operation).desk.store.Coherent := by
  have session := d.session_step operation
  cases asked : d.session.call? operation with
  | none =>
      obtain ⟨store, -, -⟩ := step_of_no_call asked
      simp [ledger, Ledger.step, session, asked, store, coherent]
  | some call =>
      cases outcome : d.store.serve call with
      | error e =>
          -- a selection that fails has nothing to say about the document, a write keeps it
          obtain ⟨store, -, -⟩ := step_of_refused asked outcome
          have kept := Store.document_kept_of_refused outcome
          simp [ledger, Ledger.step, session, asked, store, kept, coherent]
      | ok update =>
          obtain ⟨store, -, -⟩ := step_of_call asked outcome
          obtain ⟨document, coherentNow⟩ := Store.document_of_served outcome coherent
          simp [ledger, Ledger.step, session, asked, store, document, coherentNow, Except.toOption]

theorem ledger_run {d : Desk} (coherent : d.store.Coherent) (operations : List Operation) :
    (d.run operations).ledger = d.ledger.run operations ∧ (d.run operations).store.Coherent := by
  induction operations generalizing d with
  | nil => exact ⟨rfl, coherent⟩
  | cons operation rest ih =>
      obtain ⟨moved, coherentNow⟩ := ledger_step coherent operation
      obtain ⟨ledger, coherentLater⟩ := ih coherentNow
      refine ⟨?_, coherentLater⟩
      rw [run_cons, ledger, moved]
      rfl

/-- A call that writes is refused at the desk exactly where its document is refused. -/
theorem reply_eq_error_iff {d : Desk} (coherent : d.store.Coherent) {operation : Operation}
    {call : Store.Call} (asked : d.session.call? operation = some call)
    (writes : call.writes = true) (e : StatusError) :
    (d.step operation).reply = .error (.status e) ↔ call.document d.store.document = .error e := by
  cases outcome : d.store.serve call with
  | error cause =>
      obtain ⟨-, -, reply⟩ := step_of_refused asked outcome
      rw [reply, Store.document_of_refused outcome writes]
      simp
  | ok update =>
      obtain ⟨-, -, answer, reply, -⟩ := step_of_call asked outcome
      obtain ⟨document, -⟩ := Store.document_of_served outcome coherent
      rw [reply, document]
      simp

end Desk

/-- **One document is behind the store.**  After any run of operations on the empty store, failing
ones included, let `reference` be the document of the ledger.  Then

* it is the document that the next patch is applied to, with all its members; in particular, as
  long as no serial is repeated, a patch of one test succeeds exactly where it holds the value;
* the status of the store is what is read from it, the uniqueness of the serials aside;
* the session is the ledger's, and a call that asks for another document is refused by the store
  exactly when the ledger refuses it, for the same reason. -/
theorem document_refinement (session : Session) (operations : List Desk.Operation) :
    let d := Desk.run ⟨session, .empty⟩ operations
    let ledger := (Ledger.start session).run operations
    let reference := ledger.document
    (d.store.document = reference ∧
      (∀ patch, d.store.applyPatch patch
        = (patch.apply reference).mapError .patchFailed >>= d.store.replaceDocument) ∧
      ((d.store.devices.map Device.serial).Nodup → ∀ path value,
        (∃ update, d.store.applyPatch [.test path value] = .ok update) ↔
          ∃ found, reference.valueAt? path = some found ∧ found.same value = true)) ∧
    Json.ofValue Status.reader reference = .ok d.store.status ∧
    d.session = ledger.session ∧
    ∀ operation call, d.session.call? operation = some call → call.writes = true → ∀ e,
      (d.step operation).reply = .error (.status e) ↔ call.document reference = .error e := by
  intro d ledger reference
  have start : (⟨session, .empty⟩ : Desk).store.Coherent := Store.coherent_empty
  obtain ⟨moved, coherent⟩ := Desk.ledger_run start operations
  rw [Desk.ledger_start] at moved
  have document : d.store.document = reference := congrArg Ledger.document moved
  refine ⟨⟨document, ?_, ?_⟩, ?_, congrArg Ledger.session moved, ?_⟩
  · intro patch
    rw [← document]
    exact d.store.applyPatch_eq patch
  · intro distinct path value
    rw [← document]
    exact Store.applyPatch_test_iff coherent distinct path value
  · rw [← document]
    exact coherent
  · intro operation call asked writes e
    rw [← document]
    exact Desk.reply_eq_error_iff coherent asked writes e

/-- A document with a member that is not modelled, which is then patched, with failures in
between. -/
def notePatched : List Desk.Operation :=
  [.replaceDocument (.object [("devices", .list []), ("note", .string "x")]),
    .applyPatch [.remove "/absent"], .replaceDocument .null,
    .applyPatch [.replace "/note" (.string "y")]]

/-- The next patch finds the patched member, and a text is refused as a document. -/
theorem patched_note_found :
    let d := Desk.run ⟨.empty, .empty⟩ notePatched
    d.store.document = .object [("devices", .list []), ("note", .string "y")] ∧
      (d.store.devices.map Device.serial).Nodup ∧
      (∃ update, d.store.applyPatch [.test "/note" (.string "y")] = .ok update) ∧
      ∃ e, (d.step (.replaceDocument (.string "x"))).reply = .error (.status e) := by
  have document : ((Ledger.start .empty).run notePatched).document
      = .object [("devices", .list []), ("note", .string "y")] := rfl
  have distinct :
      ((Desk.run ⟨.empty, .empty⟩ notePatched).store.devices.map Device.serial).Nodup := by
    have none : (Desk.run ⟨.empty, .empty⟩ notePatched).store.devices = [] := rfl
    rw [none]
    exact List.nodup_nil
  obtain ⟨⟨same, -, tested⟩, -, -, refused⟩ := document_refinement .empty notePatched
  rw [document] at same tested refused
  have found := (tested distinct "/note" (.string "y")).mpr ⟨.string "y", rfl, by decide⟩
  have fails : ∃ e, Store.Call.document (.object [("devices", .list []), ("note", .string "y")])
      (.replaceDocument (.string "x")) = .error e := ⟨_, rfl⟩
  obtain ⟨e, fails⟩ := fails
  exact ⟨same, distinct, found, e, (refused _ _ rfl rfl e).mpr fails⟩

end MixerPanel
