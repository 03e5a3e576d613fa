import MixerPanel.Proofs.DocumentRefinement
import MixerPanel.Proofs.StatusRoundTrip

/-!
# Following the daemon

The daemon answers a request with its whole document and from then on broadcasts patches.  The
daemon checks nothing but that a patch applies.  The store checks the document after every patch as
well, and leaves a patch out whose document it refuses, such as one in which a serial is there twice
while a device is moved.  The patches that follow were made for a document that the store does not
have then.

This module says where that leaves the store.

* `Session.Idle` — an operation that brings no other document, and `Session.idle_message_iff`, which
  texts these are
* `Broadcasts` — the patches that are broadcast in a run, with whatever stands between them
* `Json.Patch.documentAfter` — the daemon's document after patches
* `Store.settled` — the document after patches of which the refused ones are left out
* `Store.settled_throughout_iff` — it is the daemon's document at every moment exactly if the store
  accepts every document on the way
* `shows_daemon_document_iff` — the store shows the daemon's document exactly when leaving out the
  refused patches makes no difference, so in particular when the store refuses none
* `relisting_in_two_patches_is_lost` — two patches for which it does make one

Nothing is assumed of the desk before the answer: a whole document puts every drift right.
-/

namespace MixerPanel

/-! ## What brings no other document -/

namespace Session

/-- The operation asks for no other document. -/
def Idle (s : Session) (operation : Desk.Operation) : Prop :=
  ∀ call, s.call? operation = some call → call.writes = false

/-- **The texts that bring no document** are those that are no frame, the frames that nothing waits
for, and the acknowledgements and errors of the daemon. -/
theorem idle_message_iff {s : Session} {text : String} :
    s.Idle (.message text) ↔
      (∃ e, ResponseFrame.decode text = .error e) ∨
      ∃ frame, ResponseFrame.decode text = .ok frame ∧
        ((frame.id ≠ broadcastId ∧ s.tracker.request? frame.id = none) ∨
          frame.data = .ok ∨ ∃ message, frame.data = .err message) := by
  rcases s.taken?_cases text with
    ⟨e, bad⟩ | ⟨frame, decoded, other, unknown⟩ | ⟨frame, taken⟩
  · simp [Idle, call?, taken?_of_undecodable bad, bad]
  · simp [Idle, call?, taken?_of_unexpected decoded other unknown, decoded, other, unknown]
  · obtain ⟨decoded, expected⟩ := taken?_eq_some_iff.mp taken
    have waited : ¬ (frame.id ≠ broadcastId ∧ s.tracker.request? frame.id = none) := by
      rintro ⟨other, unknown⟩
      simpa [unknown] using expected.resolve_left other
    simp only [Idle, call?, taken, Option.bind_some, decoded, reduceCtorEq,
      Except.ok.injEq, exists_eq_left', waited, false_or]
    cases frame.data <;> simp [Response.call?, Store.Call.writes]

theorem idle_select (s : Session) (serial : String) : s.Idle (.select serial) := by
  rintro call ⟨⟩
  rfl

/-- A broadcast patch is asked of the store in every state of the session, which it leaves alone. -/
theorem call?_of_broadcast {text : String} {patch : Json.Patch}
    (decoded : ResponseFrame.decode text = .ok ⟨broadcastId, .patch patch⟩) (s : Session) :
    s.call? (.message text) = some (.applyPatch patch) ∧ s.after (.message text) = s := by
  have taken : s.taken? text = some ⟨broadcastId, .patch patch⟩ :=
    taken?_eq_some_iff.mpr ⟨decoded, Or.inl rfl⟩
  exact ⟨by simp [call?, taken, Response.call?], by simp [after, taken, answered]⟩

end Session

/-- The patches that are broadcast in a run that starts with the session, in their order.  What
stands between them brings no document. -/
inductive Broadcasts : Session → List Desk.Operation → List Json.Patch → Prop where
  | nil {s : Session} : Broadcasts s [] []
  | broadcast {s : Session} {text : String} {patch : Json.Patch} {rest : List Desk.Operation}
      {patches : List Json.Patch}
      (decoded : ResponseFrame.decode text = .ok ⟨broadcastId, .patch patch⟩)
      (later : Broadcasts s rest patches) :
      Broadcasts s (.message text :: rest) (patch :: patches)
  | between {s : Session} {operation : Desk.Operation} {rest : List Desk.Operation}
      {patches : List Json.Patch} (idle : s.Idle operation)
      (later : Broadcasts (s.after operation) rest patches) :
      Broadcasts s (operation :: rest) patches

/-! ## The two ways to take patches -/

/-- **The daemon's document after patches**: every patch has to apply; no document is refused. -/
def Json.Patch.documentAfter (document : Json) (patches : List Json.Patch) :
    Except Json.PatchError Json :=
  patches.foldlM (fun document patch => patch.apply document) document

namespace Store

/-- The document is accepted. -/
def Accepted (document : Json) : Prop := ∃ status, Status.ofValue document = .ok status

/-- The document after a patch that is left out if it does not apply or its document is refused. -/
def settle (document : Json) (patch : Json.Patch) : Json :=
  match patch.apply document with
  | .error _ => document
  | .ok next =>
    match Status.ofValue next with
    | .error _ => document
    | .ok _ => next

/-- **The store's document after patches**, of which it leaves out what it refuses. -/
def settled (document : Json) (patches : List Json.Patch) : Json := patches.foldl settle document

/-- A patch is left out exactly where the store refuses it. -/
theorem settle_eq (document : Json) (patch : Json.Patch) :
    settle document patch = ((Call.applyPatch patch).document document).toOption.getD document := by
  cases applied : patch.apply document with
  | error e => simp [settle, Call.document, applied, Except.mapError, Except.toOption]
  | ok next =>
      cases read : Status.ofValue next <;>
        simp [settle, Call.document, applied, read, Except.mapError, Except.toOption]

theorem settle_of_accepted {document next : Json} {patch : Json.Patch}
    (applied : patch.apply document = .ok next) (accepted : Accepted next) :
    settle document patch = next := by
  obtain ⟨status, read⟩ := accepted
  simp [settle, applied, read]

theorem accepted_settle {document : Json} (accepted : Accepted document) (patch : Json.Patch) :
    Accepted (settle document patch) := by
  unfold settle
  cases patch.apply document with
  | error e => exact accepted
  | ok next =>
      cases read : Status.ofValue next with
      | error e => simpa [read] using accepted
      | ok status => exact ⟨status, by simp [read]⟩

/-- What the store has settled on is accepted if what it began with is. -/
theorem accepted_settled {first : Json} (accepted : Accepted first) (patches : List Json.Patch) :
    Accepted (settled first patches) := by
  induction patches generalizing first with
  | nil => exact accepted
  | cons patch rest ih => exact ih (accepted_settle accepted patch)

/-- As long as the store accepts every document of the daemon, it leaves no patch out. -/
theorem settled_of_accepted {first last : Json} {patches : List Json.Patch}
    (daemon : Json.Patch.documentAfter first patches = .ok last)
    (accepted : ∀ earlier, earlier <+: patches → ∀ document,
      Json.Patch.documentAfter first earlier = .ok document → Accepted document) :
    settled first patches = last := by
  induction patches generalizing first with
  | nil => exact Except.ok.inj daemon
  | cons patch rest ih =>
      simp only [Json.Patch.documentAfter, List.foldlM_cons, bind_eq_ok_iff] at daemon
      obtain ⟨next, applied, daemonLater⟩ := daemon
      have grown : ∀ earlier, Json.Patch.documentAfter first (patch :: earlier)
          = Json.Patch.documentAfter next earlier := by
        intro earlier
        simp [Json.Patch.documentAfter, applied]
      -- the document after the first patch is one of those on the way
      have nextAccepted : Accepted next :=
        accepted [patch] ⟨rest, rfl⟩ next (grown [])
      rw [settled, List.foldl_cons, settle_of_accepted applied nextAccepted]
      refine ih daemonLater fun earlier begins document reached => ?_
      exact accepted (patch :: earlier) ((List.prefix_cons_inj patch).mpr begins) document
        ((grown earlier).trans reached)

/-- **The store is in step all along** exactly if it accepts every document on the way. -/
theorem settled_throughout_iff {first : Json} (start : Accepted first)
    {patches : List Json.Patch} :
    (∀ earlier, earlier <+: patches → ∀ document,
      Json.Patch.documentAfter first earlier = .ok document → settled first earlier = document) ↔
    ∀ earlier, earlier <+: patches → ∀ document,
      Json.Patch.documentAfter first earlier = .ok document → Accepted document := by
  constructor
  · intro inStep earlier begins document reached
    rw [← inStep earlier begins document reached]
    exact accepted_settled start earlier
  · intro accepted earlier begins document reached
    exact settled_of_accepted reached fun first begun => accepted first (begun.trans begins)

/-! ## What a store shows -/

/-- The store shows a document: the status is what the document is accepted as, and it is the
document that patches are applied to. -/
def Shows (s : Store) (document : Json) : Prop :=
  Status.ofValue document = .ok s.status ∧
    ∀ patch, s.applyPatch patch
      = (patch.apply document).mapError .patchFailed >>= s.replaceDocument

/-- No other document than its own is shown by a store: the patch without operations already tells
two documents apart. -/
theorem shows_iff {s : Store} (accepted : Accepted s.document) (coherent : s.Coherent)
    {document : Json} : s.Shows document ↔ s.document = document := by
  obtain ⟨status, read⟩ := accepted
  obtain rfl : status = s.status :=
    Except.ok.inj ((Status.ofValue_eq_ok_iff.mp read).1.symm.trans coherent)
  constructor
  · rintro ⟨readToo, patched⟩
    have same := patched []
    simp only [applyPatch_eq, Json.Patch.apply, Json.Patch.applyFrom, Except.mapError, ok_bind,
      replaceDocument_eq, read, readToo, Except.map, Except.ok.injEq] at same
    exact Option.some.inj (congrArg (fun update => update.store.raw) same)
  · rintro rfl
    exact ⟨read, s.applyPatch_eq⟩

end Store

/-! ## A run after an answer -/

/-- The ledger goes through the broadcasts as `Store.settled` does. -/
theorem Ledger.document_run_of_broadcasts {s : Session} {operations : List Desk.Operation}
    {patches : List Json.Patch} (stream : Broadcasts s operations patches) (document : Json) :
    (Ledger.run ⟨s, document⟩ operations).document = Store.settled document patches := by
  induction stream generalizing document with
  | nil => rfl
  | @broadcast s text patch rest patches decoded later ih =>
      obtain ⟨asked, session⟩ := Session.call?_of_broadcast decoded s
      have taken : step ⟨s, document⟩ (.message text) = ⟨s, Store.settle document patch⟩ := by
        simp [step, asked, session, Store.settle_eq]
      simp only [run, List.foldl_cons, taken]
      exact ih (Store.settle document patch)
  | @between s operation rest patches idle later ih =>
      have kept : step ⟨s, document⟩ operation = ⟨s.after operation, document⟩ := by
        cases asked : s.call? operation with
        | none => simp [step, asked]
        | some call =>
            simp [step, asked, Store.Call.document_of_not_writes (idle call asked), Except.toOption]
      simp only [run, List.foldl_cons, kept]
      exact ih document

/-- An answer with a document that is accepted puts the document into place. -/
theorem Desk.step_of_status {d : Desk} {text : String} {frame : ResponseFrame} {document : Json}
    (taken : d.session.taken? text = some frame) (content : frame.data = .status document)
    (accepted : Store.Accepted document) :
    (d.step (.message text)).desk.store.document = document ∧
      (d.step (.message text)).desk.store.Coherent := by
  obtain ⟨status, read⟩ := accepted
  have asked : d.session.call? (.message text) = some (.replaceDocument document) :=
    Session.call?_message_eq_some_iff.mpr ⟨frame, taken, by simp [content, Response.call?]⟩
  have installed : d.store.serve (.replaceDocument document)
      = .ok (d.store.install status (some document)) := by
    show d.store.replaceDocument document = _
    rw [Store.replaceDocument_eq, read]
    rfl
  obtain ⟨store, -, -⟩ := step_of_call asked installed
  rw [store]
  exact ⟨rfl, (Status.ofValue_eq_ok_iff.mp read).1⟩

/-- What the store has in the end is settled by the answer and the broadcasts alone. -/
theorem Desk.document_run_of_answer {d : Desk} {text : String} {id : UInt64} {first : Json}
    {operations : List Desk.Operation} {patches : List Json.Patch}
    (decoded : ResponseFrame.decode text = .ok ⟨id, .status first⟩)
    (outstanding : (d.session.tracker.request? id).isSome) (accepted : Store.Accepted first)
    (stream : Broadcasts (d.session.after (.message text)) operations patches) :
    let s := (d.run (.message text :: operations)).store
    s.document = Store.settled first patches ∧ s.Coherent := by
  intro s
  have taken : d.session.taken? text = some ⟨id, .status first⟩ :=
    Session.taken?_eq_some_iff.mpr ⟨decoded, Or.inr outstanding⟩
  obtain ⟨document, coherent⟩ := step_of_status taken rfl accepted
  obtain ⟨moved, coherentLater⟩ := ledger_run coherent operations
  refine ⟨?_, coherentLater⟩
  -- from the answer on, the ledger of the desk is the session with the daemon's document
  have start : (d.step (.message text)).desk.ledger
      = ⟨d.session.after (.message text), first⟩ := by
    rw [ledger, d.session_step, document]
  have ended := congrArg Ledger.document moved
  rw [start, Ledger.document_run_of_broadcasts stream first] at ended
  exact ended

/-- **The store after an answer and broadcasts.**  The desk, in any state, gets the document of the
daemon as the answer to an outstanding request, and then the patches that the daemon broadcasts,
with anything in between that brings no document.  The daemon has applied all of the patches.  Then

* the store shows the document to which the patches lead that it has not left out;
* so it shows the daemon's last document exactly if leaving the others out makes no difference;
* this is so if every document that the daemon had on the way is accepted. -/
theorem shows_daemon_document_iff {d : Desk} {text : String} {id : UInt64} {first last : Json}
    {operations : List Desk.Operation} {patches : List Json.Patch}
    (decoded : ResponseFrame.decode text = .ok ⟨id, .status first⟩)
    (outstanding : (d.session.tracker.request? id).isSome) (accepted : Store.Accepted first)
    (stream : Broadcasts (d.session.after (.message text)) operations patches)
    (daemon : Json.Patch.documentAfter first patches = .ok last) :
    let s := (d.run (.message text :: operations)).store
    s.Shows (Store.settled first patches) ∧
    (s.Shows last ↔ Store.settled first patches = last) ∧
    ((∀ earlier, earlier <+: patches → ∀ document,
      Json.Patch.documentAfter first earlier = .ok document → Store.Accepted document) →
      s.Shows last) := by
  intro s
  obtain ⟨reached, coherent⟩ :=
    Desk.document_run_of_answer decoded outstanding accepted stream
  have settledAccepted : Store.Accepted s.document := by
    rw [reached]
    exact Store.accepted_settled accepted patches
  have shows : ∀ other, s.Shows other ↔ Store.settled first patches = other := by
    intro other
    rw [← reached]
    exact Store.shows_iff settledAccepted coherent
  refine ⟨(shows _).mpr rfl, shows last, fun allAccepted => (shows last).mpr ?_⟩
  exact Store.settled_of_accepted daemon allAccepted

/-! ## A device that is listed twice on the way -/

namespace Relisting

/-- The device that is listed at first. -/
def device : Device := ⟨"A", ⟨"A", "", .full, ⟨⟨1, 4, 2, 107⟩, 21, ⟨1, 0, 0, 0⟩⟩, []⟩⟩

/-- The daemon's document at first. -/
def first : Json := Status.toValue ⟨[device]⟩

/-- The device is listed once more, at the end. -/
def again : Json.Patch := [.copy "/devices/0" "/devices/-"]

/-- The device at the front gets a serial of its own. -/
def renamed : Json.Patch := [.replace "/devices/0/serial" (.string "B")]

/-- The daemon's document in the end. -/
def last : Json := Status.toValue ⟨[{ device with serial := "B" }, device]⟩

/-- The text that answers the first request with the first document. -/
def answer : String := ResponseFrame.encode ⟨0, .status first⟩

/-- The text that broadcasts a patch. -/
def broadcast (patch : Json.Patch) : String := ResponseFrame.encode ⟨broadcastId, .patch patch⟩

/-- A desk that has asked for the document. -/
def desk : Desk := Desk.empty.run [.request .getStatus]

theorem accepted_first : Store.Accepted first := ⟨⟨[device]⟩, by decide⟩

theorem accepted_last : Store.Accepted last :=
  ⟨⟨[{ device with serial := "B" }, device]⟩, by decide⟩

theorem decode_answer : ResponseFrame.decode answer = .ok ⟨0, .status first⟩ :=
  Status.decode_frame ⟨[device]⟩ 0

/-- What the patches hold is a text. -/
theorem decode_broadcast {patch : Json.Patch}
    (plain : ∀ j ∈ patch.flatMap Json.Operation.values, j = .string "B") :
    ResponseFrame.decode (broadcast patch) = .ok ⟨broadcastId, .patch patch⟩ := by
  refine ResponseFrame.decode_encode ⟨?_, ?_, ResponseFrame.nestsWithin_iff.mpr ⟨nofun, ?_⟩⟩
  · rintro j isValue
    rw [plain j isValue]
    trivial
  · rintro j isValue
    rw [plain j isValue]
    trivial
  · rintro _ ⟨⟩ op mem j isValue
    rw [plain j (List.mem_flatMap.mpr ⟨op, mem, isValue⟩)]
    trivial

theorem decode_again : ResponseFrame.decode (broadcast again) = .ok ⟨broadcastId, .patch again⟩ :=
  decode_broadcast (by simp [again, Json.Operation.values])

theorem decode_renamed :
    ResponseFrame.decode (broadcast renamed) = .ok ⟨broadcastId, .patch renamed⟩ :=
  decode_broadcast (by simp [renamed, Json.Operation.values])

theorem decode_both :
    ResponseFrame.decode (broadcast (again ++ renamed))
      = .ok ⟨broadcastId, .patch (again ++ renamed)⟩ :=
  decode_broadcast (by simp [again, renamed, Json.Operation.values])

theorem decode_acknowledgement :
    ResponseFrame.decode (ResponseFrame.encode ⟨broadcastId, .ok⟩) = .ok ⟨broadcastId, .ok⟩ :=
  ResponseFrame.decode_encode ⟨nofun, nofun, ResponseFrame.nestsWithin_iff.mpr ⟨nofun, nofun⟩⟩

/-- Without the patch that is refused, there is one device only. -/
theorem settled_ne_last : Store.settled first [again, renamed] ≠ last := by
  intro same
  have missing : ((Store.settled first [again, renamed]).valueAt? "/devices/1").isSome = false := by
    decide +kernel
  have listed : (last.valueAt? "/devices/1").isSome = true := by decide
  rw [same, listed] at missing
  cases missing

end Relisting

section

open Relisting

/-- **One patch that does both** is followed, whatever else comes with it. -/
theorem relisting_in_one_patch_is_followed :
    (desk.run [.message answer, .select "A", .message (ResponseFrame.encode ⟨broadcastId, .ok⟩),
      .message (broadcast (again ++ renamed))]).store.Shows last := by
  have stream : Broadcasts (desk.session.after (.message answer))
      [.select "A", .message (ResponseFrame.encode ⟨broadcastId, .ok⟩),
        .message (broadcast (again ++ renamed))] [again ++ renamed] := by
    refine .between (Session.idle_select _ _) (.between ?_ (.broadcast decode_both .nil))
    exact Session.idle_message_iff.mpr
      (Or.inr ⟨⟨broadcastId, .ok⟩, decode_acknowledgement, Or.inr (Or.inl rfl)⟩)
  have applied : Json.Patch.apply first (again ++ renamed) = .ok last := rfl
  have daemon : Json.Patch.documentAfter first [again ++ renamed] = .ok last := by
    rw [Json.Patch.documentAfter, List.foldlM_cons, applied]
    rfl
  have settled : Store.settled first [again ++ renamed] = last := by
    rw [Store.settled, List.foldl_cons, Store.settle_of_accepted applied accepted_last,
      List.foldl_nil]
  exact (shows_daemon_document_iff decode_answer rfl accepted_first stream daemon).2.1.mpr settled

/-- **Two patches leave the store behind**: the daemon lists a device twice and renames one of the
two in the next patch.  Its last document would be accepted, and yet the store does not show it. -/
theorem relisting_in_two_patches_is_lost :
    let operations := [.message (broadcast again), .message (broadcast renamed)]
    let s := (desk.run (.message answer :: operations)).store
    ResponseFrame.decode answer = .ok ⟨0, .status first⟩ ∧
    (desk.session.tracker.request? 0).isSome ∧
    Store.Accepted first ∧
    Broadcasts (desk.session.after (.message answer)) operations [again, renamed] ∧
    Json.Patch.documentAfter first [again, renamed] = .ok last ∧
    Store.Accepted last ∧
    ¬ s.Shows last := by
  intro operations s
  have outstanding : (desk.session.tracker.request? 0).isSome := rfl
  have stream : Broadcasts (desk.session.after (.message answer)) operations [again, renamed] :=
    .broadcast decode_again (.broadcast decode_renamed .nil)
  have daemon : Json.Patch.documentAfter first [again, renamed] = .ok last := rfl
  obtain ⟨reached, coherent⟩ :=
    Desk.document_run_of_answer decode_answer outstanding accepted_first stream
  have accepted : Store.Accepted s.document := by
    rw [reached]
    exact Store.accepted_settled accepted_first [again, renamed]
  refine ⟨decode_answer, outstanding, accepted_first, stream, daemon, accepted_last, ?_⟩
  rw [Store.shows_iff accepted coherent, reached]
  exact settled_ne_last

end

end MixerPanel
