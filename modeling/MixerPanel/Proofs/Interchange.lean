import MixerPanel.Proofs.Calls

/-!
# Typed and written statuses

A status can be put into place as it is, or as the document that it stands for.  The store keeps a
document beside the status in the second case only; in the first it writes one when a patch asks for
it.  From the outside the two cannot be told apart, neither at once nor by anything that is done
later.

* `Store.writtenOut` — the store with its document written down, whether it was kept or not
* `Store.serve_writtenOut`, `Session.handle_writtenOut`, `Desk.step_writtenOut` — to write the
  document down changes nothing about a call, a text or an operation
* `Desk.Sight`, `Desk.sights` — what can be seen of a run, and `Desk.sights_eq_of_writtenOut`, that
  it is the same
* `status_or_document` — a run that begins with a status and one that begins with its document are
  seen alike

Only the first operation reads the document of the status, and it is there that the serials have to
be distinct: as a document a status that repeats one is refused.
-/

namespace MixerPanel

/-! ## Writing the document down -/

namespace Store

/-- The store with its document written down. -/
def writtenOut (s : Store) : Store := { s with raw := some s.document }

/-- The update with the document of its store written down. -/
def Update.writtenOut (u : Update) : Update := { u with store := u.store.writtenOut }

theorem writtenOut_writtenOut (s : Store) : s.writtenOut.writtenOut = s.writtenOut := rfl

theorem replaceDocument_writtenOut (s : Store) (document : Json) :
    s.writtenOut.replaceDocument document = s.replaceDocument document := by
  rw [replaceDocument_eq, replaceDocument_eq]
  rfl

/-- A patch finds the same document. -/
theorem applyPatch_writtenOut (s : Store) (patch : Json.Patch) :
    s.writtenOut.applyPatch patch = s.applyPatch patch := by
  rw [applyPatch_eq, applyPatch_eq, funext s.replaceDocument_writtenOut]
  rfl

theorem select_writtenOut (s : Store) (serial : String) :
    (s.writtenOut.select serial).map Update.writtenOut
      = (s.select serial).map Update.writtenOut := by
  have listed : s.writtenOut.status = s.status := rfl
  have marked : s.writtenOut.activeSerial = s.activeSerial := rfl
  simp only [select_eq, listed, marked]
  split_ifs <;> rfl

/-- **A call is served alike** whether the document was kept or has to be written. -/
theorem serve_writtenOut (s : Store) (call : Call) :
    (s.writtenOut.serve call).map Update.writtenOut = (s.serve call).map Update.writtenOut := by
  cases call with
  | replaceStatus status =>
      rw [serve_replaceStatus, serve_replaceStatus]
      rfl
  | replaceDocument document =>
      exact congrArg (Except.map Update.writtenOut) (s.replaceDocument_writtenOut document)
  | applyPatch patch =>
      exact congrArg (Except.map Update.writtenOut) (s.applyPatch_writtenOut patch)
  | select serial => exact s.select_writtenOut serial
  | subscribe => rfl
  | unsubscribe id => rfl

/-- Two calls that are served alike are both served, or both refused for the same reason. -/
theorem serve_writtenOut_cases (s : Store) (call : Call) :
    (∃ update other, s.writtenOut.serve call = .ok update ∧ s.serve call = .ok other ∧
      update.writtenOut = other.writtenOut) ∨
    ∃ e, s.writtenOut.serve call = .error e ∧ s.serve call = .error e := by
  have same := s.serve_writtenOut call
  generalize s.writtenOut.serve call = written, s.serve call = kept at same ⊢
  cases written with
  | error e =>
      cases kept with
      | error e' => exact .inr ⟨e, rfl, congrArg Except.error (Except.error.inj same).symm⟩
      | ok other => cases same
  | ok update =>
      cases kept with
      | error e => cases same
      | ok other => exact .inl ⟨update, other, rfl, rfl, Except.ok.inj same⟩

end Store

namespace Session

/-- What becomes of a text, with the document of the store written down. -/
def Handled.writtenOut (h : Handled) : Handled :=
  { h with outcome := h.outcome.map id Store.Update.writtenOut }

theorem applyResponse_writtenOut (store : Store) (request : Option Request)
    (response : Response) :
    (applyResponse store.writtenOut request response).map id Store.Update.writtenOut
      = (applyResponse store request response).map id Store.Update.writtenOut := by
  cases content : response.call? with
  | some call =>
      obtain ⟨event, -, -, applied⟩ := applyResponse_of_call content
      rw [applied, applied]
      rcases store.serve_writtenOut_cases call with
        ⟨update, other, served, served', same⟩ | ⟨e, refused, refused'⟩
      · rw [served, served']
        exact congrArg (Prod.mk (Except.ok event)) same
      · rw [refused, refused']
        rfl
  | none =>
      cases response with
      | ok => rfl
      | err message => rfl
      | status document => simp [Response.call?] at content
      | patch operations => simp [Response.call?] at content

/-- **A text is handled alike** whether the document was kept or has to be written. -/
theorem handle_writtenOut (s : Session) (store : Store) (text : String) :
    (s.handle store.writtenOut text).writtenOut = (s.handle store text).writtenOut := by
  rcases s.taken?_cases text with ⟨e, bad⟩ | ⟨frame, decoded, other, unknown⟩ | ⟨frame, taken⟩
  · rw [handle_of_undecodable _ bad, handle_of_undecodable _ bad]
    rfl
  · rw [handle_of_unexpected _ decoded other unknown, handle_of_unexpected _ decoded other unknown]
    rfl
  · rw [handle_of_taken _ taken, handle_of_taken _ taken]
    simp only [Handled.writtenOut, applyResponse_writtenOut]

end Session

namespace Desk

/-- The desk with its document written down. -/
def writtenOut (d : Desk) : Desk := { d with store := d.store.writtenOut }

/-- The outcome with the document of its desk written down. -/
def Outcome.writtenOut (o : Outcome) : Outcome := { o with desk := o.desk.writtenOut }

section Outcomes

variable (d : Desk)

theorem updated_writtenOut (session : Session) (reply : Except ProtocolError Reply)
    {update other : Store.Update} (same : update.writtenOut = other.writtenOut) :
    (d.writtenOut.updated session reply update).writtenOut
      = (d.updated session reply other).writtenOut := by
  obtain ⟨store, log, events⟩ := update
  obtain ⟨otherStore, otherLog, otherEvents⟩ := other
  obtain ⟨stores, rfl, rfl⟩ := Store.Update.mk.inj same
  show Outcome.mk ⟨session, store.writtenOut⟩ reply log (d.store.deliveries events)
    = Outcome.mk ⟨session, otherStore.writtenOut⟩ reply log (d.store.deliveries events)
  rw [stores]

theorem attempted_writtenOut (call : Store.Call) :
    (d.writtenOut.attempted call.attempt).writtenOut = (d.attempted call.attempt).writtenOut := by
  rcases d.store.serve_writtenOut_cases call with
    ⟨update, other, served, served', same⟩ | ⟨e, refused, refused'⟩
  · rw [attempted_of_success (d := d.writtenOut) served, attempted_of_success served']
    exact d.updated_writtenOut d.session (.ok .done) same
  · rw [attempted_of_failure (d := d.writtenOut) refused, attempted_of_failure refused']
    rfl

theorem handled_writtenOut {h other : Session.Handled} (same : h.writtenOut = other.writtenOut) :
    (d.writtenOut.handled h).writtenOut = (d.handled other).writtenOut := by
  obtain ⟨session, log, done, update⟩ := h
  obtain ⟨session', log', done', update'⟩ := other
  obtain ⟨rfl, rfl, outcomes⟩ := Session.Handled.mk.inj same
  obtain ⟨rfl, updates⟩ := Prod.mk.inj outcomes
  have told := d.updated_writtenOut session (done.map .handled) updates
  exact congrArg (fun o : Outcome => { o with log := log ++ o.log }) told

end Outcomes

/-- **An operation has the same outcome** whether the document was kept or has to be written. -/
theorem step_writtenOut (d : Desk) (operation : Operation) :
    (d.writtenOut.step operation).writtenOut = (d.step operation).writtenOut := by
  cases operation with
  | message text => exact d.handled_writtenOut (d.session.handle_writtenOut d.store text)
  | replaceDocument document => exact d.attempted_writtenOut (.replaceDocument document)
  | applyPatch patch => exact d.attempted_writtenOut (.applyPatch patch)
  | select serial => exact d.attempted_writtenOut (.select serial)
  | replaceStatus status =>
      simp only [step, Store.written_replaceStatus]
      rfl
  | request _ | reset | subscribe | unsubscribe _ => rfl

/-! ## What can be seen -/

/-- What can be seen of an operation: its reply, the lines that are logged, who is told what, and
what the store shows afterwards. -/
structure Sight where
  reply : Except ProtocolError Reply
  log : List Log.Line
  deliveries : List (SubscriptionId × StoreEvent)
  pending : Nat
  status : Status
  devices : List Device
  activeSerial : Option String
  active : Option Device

/-- What can be seen of an outcome. -/
def Outcome.sight (o : Outcome) : Sight where
  reply := o.reply
  log := o.log
  deliveries := o.deliveries
  pending := o.desk.session.pending
  status := o.desk.store.status
  devices := o.desk.store.devices
  activeSerial := o.desk.store.activeSerial
  active := o.desk.store.active

@[simp] theorem sight_writtenOut (o : Outcome) : o.writtenOut.sight = o.sight := rfl

/-- What can be seen of a run, operation by operation. -/
def sights (d : Desk) (operations : List Operation) : List Sight :=
  noted (fun d operation => [(d.step operation).sight]) d operations

@[simp] theorem sights_cons (d : Desk) (operation : Operation) (rest : List Operation) :
    d.sights (operation :: rest)
      = (d.step operation).sight :: (d.step operation).desk.sights rest := rfl

/-- **Desks that agree with their documents written down are seen alike** in every run. -/
theorem sights_eq_of_writtenOut {d other : Desk} (same : d.writtenOut = other.writtenOut)
    (operations : List Operation) : d.sights operations = other.sights operations := by
  induction operations generalizing d other with
  | nil => rfl
  | cons operation rest ih =>
      have outcomes : (d.step operation).writtenOut = (other.step operation).writtenOut := by
        rw [← d.step_writtenOut, ← other.step_writtenOut, same]
      have desks : (d.step operation).desk.writtenOut = (other.step operation).desk.writtenOut :=
        congrArg Outcome.desk outcomes
      rw [sights_cons, sights_cons, ih desks, ← sight_writtenOut (d.step operation), outcomes,
        sight_writtenOut]

/-- A status whose serials are distinct is accepted as the document that it stands for. -/
theorem step_replaceDocument_toValue (d : Desk) {status : Status}
    (distinct : status.SerialsDistinct) :
    d.step (.replaceDocument status.toValue)
      = d.updated d.session (.ok .done) (d.store.install status (some status.toValue)) := by
  have accepted : Status.ofValue status.toValue = .ok status :=
    Status.ofValue_eq_ok_iff.mpr ⟨Status.ofValue_toValue status, distinct⟩
  rw [step, attempted, Store.written_replaceDocument, accepted]
  rfl

end Desk

/-- **A status and its document are interchangeable.**  In any state of the desk, and for any
operations that follow, it makes no visible difference whether a status with distinct serials is put
into place as it is or as the document that it stands for: every operation gives the same reply or
error, logs the same lines and tells every listener the same, and after it the store shows the same
status, the same devices and the same active device. -/
theorem status_or_document (d : Desk) (status : Status) (valid : status.validate = .ok ())
    (later : List Desk.Operation) :
    d.sights (.replaceStatus status :: later)
      = d.sights (.replaceDocument status.toValue :: later) := by
  have written := d.step_replaceDocument_toValue (Status.validate_eq_ok_iff.mp valid)
  -- the two desks differ in whether the document of the status was kept
  have desks : (d.step (.replaceStatus status)).desk.writtenOut
      = (d.step (.replaceDocument status.toValue)).desk.writtenOut := by
    rw [written, Desk.step, Store.written_replaceStatus]
    rfl
  have seen : (d.step (.replaceStatus status)).sight
      = (d.step (.replaceDocument status.toValue)).sight := by
    rw [written, Desk.step, Store.written_replaceStatus]
    rfl
  rw [Desk.sights_cons, Desk.sights_cons, seen, Desk.sights_eq_of_writtenOut desks later]

/-- Two devices, one of which then leaves by a patch. -/
theorem two_devices_or_their_document :
    let hardware : Hardware := ⟨"", "", .mini, .zero, []⟩
    let status : Status := ⟨[⟨"A", hardware⟩, ⟨"B", hardware⟩]⟩
    let later := [.subscribe, .select "B", .applyPatch [.remove "/devices/1"], .select "B"]
    status.validate = .ok () ∧
      Desk.empty.sights (.replaceStatus status :: later)
        = Desk.empty.sights (.replaceDocument status.toValue :: later) := by
  intro hardware status later
  have valid : status.validate = .ok () := rfl
  exact ⟨valid, status_or_document Desk.empty status valid later⟩

end MixerPanel
