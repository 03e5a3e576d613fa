import MixerPanel.Proofs.Changes
import MixerPanel.Proofs.Frames

/-!
# What an operation asks of the store

An operation on a desk reaches the store as at most one call: the operations on the store do so
directly, and a text does so when the session takes a frame from it that carries a document or a
patch.  Which call it is depends on the session alone (`Session.call?`), so that whatever holds of
the store under all calls holds under all operations.

`Store.Served` says once what a call can do, failures included:

* a writing call installs a status together with the document it was read from, or is refused for
  the reason for which `Store.Call.document` is;
* a selection moves the mark to a listed device, or is refused;
* the calls on listeners leave everything else as it is.

Every invariant of the store is a case analysis of `Store.served`, carried to a whole run by
`Desk.store_run_induction`.

## Main Definitions

* `Store.Call`, `Store.serve` — the calls
* `Store.Call.document` — the document after a call
* `Session.call?`, `Session.after` — what an operation asks of the store, and the session after it
* `Desk.step_of_call`, `Desk.step_of_refused`, `Desk.step_of_no_call` — what an operation does
* `Desk.noted` — what an observer notes along a run
-/

namespace MixerPanel

namespace Store

/-- What can be asked of a store. -/
inductive Call where
  | replaceStatus (status : Status)
  | replaceDocument (document : Json)
  | applyPatch (patch : Json.Patch)
  | select (serial : String)
  | subscribe
  | unsubscribe (id : SubscriptionId)

namespace Call

/-- Whether a call puts another status into place when it succeeds. -/
def writes : Call → Bool
  | replaceStatus _ | replaceDocument _ | applyPatch _ => true
  | select _ | subscribe | unsubscribe _ => false

/-- **The document after a call**, from the one before it.  A document has to be accepted before it
counts; a status that comes without a document stands for its own, and is not checked. -/
def document (before : Json) : Call → Except StatusError Json
  | replaceStatus status => .ok status.toValue
  | replaceDocument next => (Status.ofValue next).map fun _ => next
  | applyPatch patch => do
    let next ← (patch.apply before).mapError .patchFailed
    (Status.ofValue next).map fun _ => next
  | select _ | subscribe | unsubscribe _ => .ok before

/-- What a call does to a store. -/
def attempt : Call → Attempt Unit
  | replaceStatus status => Writing.replaceStatus status
  | replaceDocument document => Writing.replaceDocument document
  | applyPatch patch => Writing.applyPatch patch
  | select serial => Writing.select serial
  | subscribe => Writing.assign fun s => s.subscribe.1
  | unsubscribe id => Writing.assign fun s => (s.unsubscribe id).1

/-- **Every call is all or nothing.** -/
theorem allOrNothing_attempt (call : Call) : call.attempt.AllOrNothing := by
  cases call with
  | replaceDocument document => exact allOrNothing_replaceDocument document
  | applyPatch patch => exact allOrNothing_applyPatch patch
  | select serial => exact allOrNothing_select serial
  | replaceStatus _ | subscribe | unsubscribe _ => exact allOrNothing_lift _

/-- A call that writes nothing keeps the document. -/
theorem document_of_not_writes {call : Call} (quiet : call.writes = false) (before : Json) :
    call.document before = .ok before := by
  cases call with
  | replaceStatus _ | replaceDocument _ | applyPatch _ => simp [writes] at quiet
  | select _ | subscribe | unsubscribe _ => rfl

end Call

/-- Serves a call: what comes of it, or why it is refused. -/
def serve (s : Store) (call : Call) : Except StatusError Update :=
  success (s.written call.attempt.run)

theorem serve_replaceStatus (s : Store) (status : Status) :
    s.serve (.replaceStatus status) = .ok (s.install status none) := by
  rw [serve, Call.attempt, written_lift, written_replaceStatus]
  rfl

/-! ## What a call can do -/

/-- The ways in which a call can end. -/
inductive Served (s : Store) (call : Call) : Except StatusError Update → Prop where
  /-- A status is in place, with the document that it was read from. -/
  | installed {status : Status} {raw : Option Json} (writes : call.writes = true)
      (document : call.document s.document = .ok (raw.getD status.toValue))
      (reads : Json.ofValue Status.reader (raw.getD status.toValue) = .ok status)
      (checked : call = .replaceStatus status ∨ status.SerialsDistinct) :
      Served s call (.ok (s.install status raw))
  /-- A document is refused. -/
  | refused {e : StatusError} (writes : call.writes = true)
      (document : call.document s.document = .error e) : Served s call (.error e)
  /-- A listed device is the active one. -/
  | selected {serial : String} (log : List Log.Line) (asked : call = .select serial)
      (listed : (s.status.device? serial).isSome) :
      Served s call (.ok ⟨{ s with activeSerial := some serial }, log,
        if s.activeSerial = some serial then []
        else [.activeDeviceChanged s.activeSerial (some serial)]⟩)
  /-- No device with the serial is listed. -/
  | unlisted {serial : String} (asked : call = .select serial)
      (unknown : s.status.device? serial = none) : Served s call (.error (.unknownDevice serial))
  /-- Only the listeners have changed. -/
  | listening {listeners : List SubscriptionId} {next : UInt64}
      (asked : call = .subscribe ∨ ∃ id, call = .unsubscribe id) :
      Served s call (.ok ⟨{ s with listeners := listeners, nextSubscription := next }, [], []⟩)

/-- A document that is put into place, or refused. -/
theorem served_replaceDocument (s : Store) {call : Call} {next : Json}
    (writes : call.writes = true)
    (document : call.document s.document = (Status.ofValue next).map fun _ => next) :
    Served s call (s.replaceDocument next) := by
  cases read : Status.ofValue next with
  | error e =>
      rw [read] at document
      rw [replaceDocument_eq, read]
      exact Served.refused writes document
  | ok status =>
      rw [read] at document
      obtain ⟨reads, distinct⟩ := Status.ofValue_eq_ok_iff.mp read
      have installed : Served s call (.ok (s.install status (some next))) :=
        Served.installed writes document reads (Or.inr distinct)
      rwa [replaceDocument_eq, read]

/-- **Every call ends in one of the five ways.** -/
theorem served (s : Store) (call : Call) : Served s call (s.serve call) := by
  cases call with
  | replaceStatus status =>
      rw [serve_replaceStatus]
      exact Served.installed rfl rfl (Status.ofValue_toValue status) (Or.inl rfl)
  | replaceDocument next => exact served_replaceDocument s rfl rfl
  | applyPatch patch =>
      cases patched : patch.apply s.document with
      | error e =>
          have refused : Served s (.applyPatch patch) (.error (.patchFailed e)) :=
            Served.refused rfl (by simp [Call.document, patched, Except.mapError])
          show Served s _ (s.applyPatch patch)
          simpa [applyPatch_eq, patched, Except.mapError] using refused
      | ok next =>
          have replaced : Served s (.applyPatch patch) (s.replaceDocument next) :=
            served_replaceDocument s rfl (by simp [Call.document, patched, Except.mapError])
          show Served s _ (s.applyPatch patch)
          simpa [applyPatch_eq, patched, Except.mapError] using replaced
  | select serial =>
      show Served s _ (s.select serial)
      cases found : s.status.device? serial with
      | none => simpa [select_eq, found] using Served.unlisted (s := s) rfl found
      | some device =>
          have listed : (s.status.device? serial).isSome := by simp [found]
          -- to select the active device again is to write the mark that is there already
          by_cases already : s.activeSerial = some serial
          · have same : { s with activeSerial := some serial } = s := by rw [← already]
            have selected : Served s (.select serial) _ := Served.selected [] rfl listed
            simpa [select_eq, found, already, same, unchanged] using selected
          · have selected : Served s (.select serial) _ :=
              Served.selected [Log.info ("Active device changed to " ++ serial)] rfl listed
            simpa [select_eq, found, already] using selected
  | subscribe => exact Served.listening (Or.inl rfl)
  | unsubscribe id => exact Served.listening (Or.inr ⟨id, rfl⟩)

/-! ## The document and the status -/

/-- The status is the one that is read from the document. -/
def Coherent (s : Store) : Prop := Json.ofValue Status.reader s.document = .ok s.status

theorem coherent_empty : empty.Coherent := Status.ofValue_toValue Status.empty

section Document

variable {s : Store} {call : Call} {update : Update} {e : StatusError}

/-- **A call that is served** leaves the document that the call stands for, and a status that is
read from it, if it was so before. -/
theorem document_of_served (served : s.serve call = .ok update) (coherent : s.Coherent) :
    call.document s.document = .ok update.store.document ∧ update.store.Coherent := by
  have ended := s.served call
  rw [served] at ended
  cases ended with
  | installed writes document readsNow checked => exact ⟨document, readsNow⟩
  | selected log isSelect listed =>
      subst isSelect
      exact ⟨rfl, coherent⟩
  | listening isListening =>
      refine ⟨?_, coherent⟩
      rcases isListening with rfl | ⟨id, rfl⟩ <;> rfl

/-- A writing call that is refused is refused for the sake of the document. -/
theorem document_of_refused (refused : s.serve call = .error e) (writes : call.writes = true) :
    call.document s.document = .error e := by
  have ended := s.served call
  rw [refused] at ended
  cases ended with
  | refused _ document => exact document
  | unlisted isSelect unknown =>
      subst isSelect
      simp [Call.writes] at writes

/-- A call that is refused leaves the document out of account. -/
theorem document_kept_of_refused (refused : s.serve call = .error e) :
    (call.document s.document).toOption.getD s.document = s.document := by
  cases writes : call.writes with
  | true => rw [document_of_refused refused writes]; rfl
  | false => rw [Call.document_of_not_writes writes]; rfl

end Document

end Store

/-! ## What an operation asks -/

/-- What a response asks of the store. -/
def Response.call? : Response → Option Store.Call
  | .status document => some (.replaceDocument document)
  | .patch operations => some (.applyPatch operations)
  | .ok | .err _ => none

namespace Session

/-- What an operation asks of the store. -/
def call? (s : Session) : Desk.Operation → Option Store.Call
  | .replaceStatus status => some (.replaceStatus status)
  | .replaceDocument document => some (.replaceDocument document)
  | .applyPatch patch => some (.applyPatch patch)
  | .select serial => some (.select serial)
  | .subscribe => some .subscribe
  | .unsubscribe id => some (.unsubscribe id)
  | .message text => (s.taken? text).bind fun frame => frame.data.call?
  | .request _ | .reset => none

/-- The session after an operation. -/
def after (s : Session) : Desk.Operation → Session
  | .request data => (s.request data).1
  | .message text => ((s.taken? text).map s.answered).getD s
  | .reset => s.reset
  | _ => s

theorem call?_message_eq_some_iff {s : Session} {text : String} {call : Store.Call} :
    s.call? (.message text) = some call ↔
      ∃ frame, s.taken? text = some frame ∧ frame.data.call? = some call :=
  Option.bind_eq_some_iff

/-- A selection is asked for by no text. -/
theorem call?_eq_select {s : Session} {operation : Desk.Operation} {serial : String}
    (asked : s.call? operation = some (.select serial)) : operation = .select serial := by
  cases operation with
  | message text =>
      obtain ⟨frame, -, content⟩ := call?_message_eq_some_iff.mp asked
      cases data : frame.data <;> simp [data, Response.call?] at content
  | select _ => simpa [call?] using asked
  | _ => simp [call?] at asked

/-- A typed status is brought by no text. -/
theorem call?_eq_replaceStatus {s : Session} {operation : Desk.Operation} {status : Status}
    (asked : s.call? operation = some (.replaceStatus status)) :
    operation = .replaceStatus status := by
  cases operation with
  | message text =>
      obtain ⟨frame, -, content⟩ := call?_message_eq_some_iff.mp asked
      cases data : frame.data <;> simp [data, Response.call?] at content
  | replaceStatus _ => simpa [call?] using asked
  | _ => simp [call?] at asked

end Session

/-- What a frame brings comes to what the attempt in it comes to. -/
theorem Store.written_bring (store : Store) (event : SessionEvent) (call : Call) :
    store.written (do call.attempt.adapt ProtocolError.status; return event :
        ExceptT ProtocolError Writing SessionEvent).run
      = match store.serve call with
        | .ok update => (.ok event, update)
        | .error e => (.error (.status e), store.unchanged) := by
  have adapted : store.written (do call.attempt.adapt ProtocolError.status; return event :
        ExceptT ProtocolError Writing SessionEvent).run
      = (((store.written call.attempt.run).1.map fun _ => event).mapError .status,
          (store.written call.attempt.run).2) := by
    simp only [written, ExceptT.run_bind, ExceptT.run_adapt, StateT.run_bind, StateT.run_map]
    rcases call.attempt.run.run store.unchanged with ⟨_ | _, update⟩
    · rfl
    · rfl
  rw [adapted]
  cases result : store.serve call with
  | ok update => rw [written_of_success result]; rfl
  | error e => rw [call.allOrNothing_attempt.written_of_failure result]; rfl

/-- The content of a taken frame is served as the call that it is. -/
theorem Session.applyResponse_of_call {response : Response} {call : Store.Call}
    (asked : response.call? = some call) :
    ∃ event, (event = .statusReplaced ∨ event = .patched) ∧ call.writes = true ∧
      ∀ store request, applyResponse store request response
        = match store.serve call with
          | .ok update => (.ok event, update)
          | .error e => (.error (.status e), store.unchanged) := by
  cases response with
  | ok => simp [Response.call?] at asked
  | err message => simp [Response.call?] at asked
  | status document =>
      obtain rfl := Option.some.inj asked
      refine ⟨.statusReplaced, Or.inl rfl, rfl, fun store _ => ?_⟩
      exact store.written_bring .statusReplaced (.replaceDocument document)
  | patch operations =>
      obtain rfl := Option.some.inj asked
      refine ⟨.patched, Or.inr rfl, rfl, fun store _ => ?_⟩
      exact store.written_bring .patched (.applyPatch operations)

namespace Desk

/-- Whether a reply to an operation tells that another status is in place. -/
def Operation.installs : Operation → Except ProtocolError Reply → Bool
  | .replaceStatus _, .ok _ | .replaceDocument _, .ok _ | .applyPatch _, .ok _ => true
  | .message _, .ok (.handled .statusReplaced) | .message _, .ok (.handled .patched) => true
  | _, _ => false

@[simp] theorem Operation.installs_error (operation : Operation) (e : ProtocolError) :
    operation.installs (.error e) = false := by
  cases operation <;> rfl

section Attempted

variable {d : Desk} {call : Store.Call} {update : Store.Update} {e : StatusError}

theorem attempted_of_success (served : d.store.serve call = .ok update) :
    d.attempted call.attempt = d.updated d.session (.ok .done) update := by
  rw [attempted, Store.written_of_success served]
  rfl

theorem attempted_of_failure (refused : d.store.serve call = .error e) :
    d.attempted call.attempt = ⟨d, .error (.status e), [], []⟩ := by
  rw [attempted, call.allOrNothing_attempt.written_of_failure refused]
  rfl

end Attempted

/-- **The store has no say in the session.** -/
theorem session_step (d : Desk) (operation : Operation) :
    (d.step operation).desk.session = d.session.after operation := by
  cases operation with
  | message text => exact d.session.session_handle d.store text
  | _ => rfl

/-- An operation that asks nothing of the store leaves it as it is, and tells nobody. -/
theorem step_of_no_call {d : Desk} {operation : Operation}
    (quiet : d.session.call? operation = none) :
    (d.step operation).desk.store = d.store ∧ (d.step operation).deliveries = [] ∧
      operation.installs (d.step operation).reply = false := by
  cases operation with
  | message text =>
      rcases d.session.taken?_cases text with
        ⟨e, bad⟩ | ⟨frame, decoded, other, unknown⟩ | ⟨frame, taken⟩
      · rw [step, Session.handle_of_undecodable d.store bad]
        exact ⟨rfl, rfl, rfl⟩
      · rw [step, Session.handle_of_unexpected d.store decoded other unknown]
        exact ⟨rfl, rfl, rfl⟩
      · simp only [Session.call?, taken, Option.bind_some] at quiet
        rw [step, Session.handle_of_taken d.store taken]
        cases data : frame.data with
        | ok => exact ⟨rfl, rfl, rfl⟩
        | err message => exact ⟨rfl, rfl, rfl⟩
        | status document => simp [data, Response.call?] at quiet
        | patch operations => simp [data, Response.call?] at quiet
  | request data => exact ⟨rfl, rfl, rfl⟩
  | reset => exact ⟨rfl, rfl, rfl⟩
  | _ => simp [Session.call?] at quiet

/-- An operation whose call is served changes the store as the call does, and tells the listeners
what the call tells them. -/
theorem step_of_call {d : Desk} {operation : Operation} {call : Store.Call} {update : Store.Update}
    (asked : d.session.call? operation = some call) (served : d.store.serve call = .ok update) :
    (d.step operation).desk.store = update.store ∧
      (d.step operation).deliveries = d.store.deliveries update.events ∧
      ∃ reply, (d.step operation).reply = .ok reply ∧
        operation.installs (.ok reply) = call.writes := by
  cases operation with
  | message text =>
      -- a text asks for what the frame in it holds, and that is served like any other call
      obtain ⟨frame, taken, content⟩ := Option.bind_eq_some_iff.mp asked
      obtain ⟨event, kind, writes, applied⟩ := Session.applyResponse_of_call content
      rw [step, Session.handle_of_taken d.store taken, applied, served]
      refine ⟨rfl, rfl, .handled event, rfl, ?_⟩
      rcases kind with rfl | rfl <;> exact writes.symm
  | request data => simp [Session.call?] at asked
  | reset => simp [Session.call?] at asked
  | replaceDocument _ | applyPatch _ | select _ =>
      obtain rfl := Option.some.inj asked
      have outcome := attempted_of_success served
      simp only [Store.Call.attempt] at outcome
      rw [step, outcome]
      exact ⟨rfl, rfl, .done, rfl, rfl⟩
  | replaceStatus _ | subscribe | unsubscribe _ =>
      obtain rfl := Option.some.inj asked
      obtain rfl := Except.ok.inj served
      exact ⟨rfl, rfl, _, rfl, rfl⟩

/-- An operation whose call is refused leaves the store as it is, tells nobody, and gives the reason
of the refusal. -/
theorem step_of_refused {d : Desk} {operation : Operation} {call : Store.Call} {e : StatusError}
    (asked : d.session.call? operation = some call) (refused : d.store.serve call = .error e) :
    (d.step operation).desk.store = d.store ∧ (d.step operation).deliveries = [] ∧
      (d.step operation).reply = .error (.status e) := by
  cases operation with
  | message text =>
      obtain ⟨frame, taken, content⟩ := Option.bind_eq_some_iff.mp asked
      obtain ⟨event, -, -, applied⟩ := Session.applyResponse_of_call content
      rw [step, Session.handle_of_taken d.store taken, applied, refused]
      exact ⟨rfl, rfl, rfl⟩
  | request data => simp [Session.call?] at asked
  | reset => simp [Session.call?] at asked
  | replaceDocument _ | applyPatch _ | select _ =>
      obtain rfl := Option.some.inj asked
      have outcome := attempted_of_failure refused
      simp only [Store.Call.attempt] at outcome
      rw [step, outcome]
      exact ⟨rfl, rfl, rfl⟩
  | replaceStatus _ | subscribe | unsubscribe _ =>
      obtain rfl := Option.some.inj asked
      cases refused

/-! ## Runs -/

@[simp] theorem run_nil (d : Desk) : d.run [] = d := rfl

@[simp] theorem run_cons (d : Desk) (operation : Operation) (rest : List Operation) :
    d.run (operation :: rest) = (d.step operation).desk.run rest := rfl

theorem run_append (d : Desk) (before after : List Operation) :
    d.run (before ++ after) = (d.run before).run after := List.foldl_append

/-- What an observer notes along a run, one operation after the other. -/
def noted {α : Type} (observe : Desk → Operation → List α) (d : Desk) : List Operation → List α
  | [] => []
  | operation :: rest => observe d operation ++ noted observe (d.step operation).desk rest

section Noted

variable {α : Type} (observe : Desk → Operation → List α) (d : Desk)

@[simp] theorem noted_nil : noted observe d [] = [] := rfl

@[simp] theorem noted_cons (operation : Operation) (rest : List Operation) :
    noted observe d (operation :: rest)
      = observe d operation ++ noted observe (d.step operation).desk rest := rfl

theorem noted_append (before after : List Operation) :
    noted observe d (before ++ after)
      = noted observe d before ++ noted observe (d.run before) after := by
  induction before generalizing d with
  | nil => rfl
  | cons operation rest ih =>
      simp only [List.cons_append, noted_cons, run_cons, ih, List.append_assoc]

end Noted

/-- **What holds of the store at the start and is kept by every allowed call holds after every
run.**  A text can only ask what the frame in it asks, so it is enough to look at calls. -/
theorem store_run_induction (Holds : Store → Prop) (Allowed : Store.Call → Prop) {d : Desk}
    {operations : List Operation} (start : Holds d.store)
    (kept : ∀ s call update, Allowed call → s.serve call = .ok update → Holds s →
      Holds update.store)
    (allowed : ∀ operation ∈ operations, ∀ (s : Session) call, s.call? operation = some call →
      Allowed call) : Holds (d.run operations).store := by
  induction operations generalizing d with
  | nil => exact start
  | cons operation rest ih =>
      obtain ⟨first, others⟩ := List.forall_mem_cons.mp allowed
      refine ih ?_ others
      -- only a call that is served can have touched the store
      cases asked : d.session.call? operation with
      | none =>
          obtain ⟨store, -, -⟩ := step_of_no_call asked
          rwa [store]
      | some call =>
          cases outcome : d.store.serve call with
          | error e =>
              obtain ⟨store, -, -⟩ := step_of_refused asked outcome
              rwa [store]
          | ok update =>
              obtain ⟨store, -, -⟩ := step_of_call asked outcome
              rw [store]
              exact kept d.store call update (first d.session call asked) outcome start

end Desk

end MixerPanel
