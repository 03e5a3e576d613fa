import MixerPanel.Proofs.Calls
import MixerPanel.Proofs.StatusRoundTrip

/-!
# Refused frames

A text from the daemon can be refused at five depths: it does not decode, nothing waits for its id,
the daemon reports an error, its patch does not apply, or the document it leads to cannot be read or
repeats a serial.  By the time of the last three the session has already taken the frame.

`message_refused_atomic` says what is left of a refusal: nothing in the store, nothing told to a
listener, and of the session only that the request the frame answers is outstanding no more.
-/

namespace MixerPanel

/-- **What is refused of a taken frame** leaves the store as it was, and it is refused because the
frame is an error or because the store refuses what it brings. -/
theorem Session.applyResponse_of_error {store : Store} {request : Option Request}
    {response : Response} {e : ProtocolError}
    (refused : (applyResponse store request response).1 = .error e) :
    (applyResponse store request response).2 = store.unchanged ∧
      ((∃ message, e = .daemon message) ∨ ∃ cause, e = .status cause) := by
  cases content : response.call? with
  | some call =>
      obtain ⟨event, -, -, applied⟩ := applyResponse_of_call content
      cases outcome : store.serve call with
      | ok update =>
          rw [applied, outcome] at refused
          cases refused
      | error cause =>
          rw [applied, outcome] at refused ⊢
          exact ⟨rfl, Or.inr ⟨cause, (Except.error.inj refused).symm⟩⟩
  | none =>
      cases response with
      | ok => cases refused
      | err message => exact ⟨rfl, Or.inl ⟨message, (Except.error.inj refused).symm⟩⟩
      | status document => simp [Response.call?] at content
      | patch operations => simp [Response.call?] at content

namespace Desk

/-- **A refused frame is atomic.**  Whatever the text, the session and the store, a text that ends
in an error leaves the store as it is, with its document, its active device and its listeners, and
no listener hears of it.  If it is no frame, or if nothing waits for its id, the session is as
before as well.  Otherwise it is a frame, and the request under its id was outstanding and is so no
more, while every other request is what it was; of a broadcast not even that.

No text at all, refused or not, touches the id of the next request. -/
theorem message_refused_atomic (d : Desk) (text : String) :
    let o := d.step (.message text)
    o.desk.session.tracker.nextId = d.session.tracker.nextId ∧
    ∀ e, o.reply = .error e →
      o.desk.store = d.store ∧ o.deliveries = [] ∧
      match e with
      | .undecodable _ | .unexpectedId _ => o.desk.session = d.session
      | .daemon _ | .status _ =>
        ∃ frame, ResponseFrame.decode text = .ok frame ∧
          (frame.id = broadcastId → o.desk.session = d.session) ∧
          (frame.id ≠ broadcastId →
            (d.session.tracker.request? frame.id).isSome ∧
            (∀ id, o.desk.session.tracker.request? id
              = if id = frame.id then none else d.session.tracker.request? id) ∧
            ∀ entry, entry ∈ o.desk.session.tracker.outstanding ↔
              entry ∈ d.session.tracker.outstanding ∧ entry.1 ≠ frame.id) := by
  intro o
  have session : o.desk.session = ((d.session.taken? text).map d.session.answered).getD d.session :=
    d.session_step (.message text)
  have outcome : o = d.handled (d.session.handle d.store text) := rfl
  refine ⟨?_, ?_⟩
  · rw [session]
    cases d.session.taken? text <;> simp
  · intro e refused
    rcases d.session.taken?_cases text with
      ⟨fault, bad⟩ | ⟨frame, decoded, other, unknown⟩ | ⟨frame, taken⟩
    · rw [Session.handle_of_undecodable d.store bad] at outcome
      rw [outcome] at refused ⊢
      obtain rfl := Except.error.inj refused
      exact ⟨rfl, rfl, rfl⟩
    · rw [Session.handle_of_unexpected d.store decoded other unknown] at outcome
      rw [outcome] at refused ⊢
      obtain rfl := Except.error.inj refused
      exact ⟨rfl, rfl, rfl⟩
    · obtain ⟨decoded, expected⟩ := Session.taken?_eq_some_iff.mp taken
      rw [Session.handle_of_taken d.store taken] at outcome
      rcases applied : Session.applyResponse d.store (d.session.asked? frame) frame.data with
        ⟨cause | event, update⟩
      · -- what was done to the store before it refused the content is nothing
        obtain ⟨kept, reason⟩ := Session.applyResponse_of_error (congrArg Prod.fst applied)
        obtain rfl : update = d.store.unchanged := by rwa [applied] at kept
        rw [applied] at outcome
        rw [outcome] at refused ⊢
        obtain rfl := Except.error.inj refused
        have settled := Session.outstanding_answered expected
        refine ⟨rfl, rfl, ?_⟩
        rcases reason with ⟨message, rfl⟩ | ⟨cause, rfl⟩ <;> exact ⟨frame, decoded, settled⟩
      · rw [applied] at outcome
        rw [outcome] at refused
        cases refused

/-- A listener waits, one device is listed, and a request is outstanding. -/
def askedAgain : List Operation :=
  [.subscribe, .replaceDocument (Status.toValue ⟨[⟨"A", ⟨"", "", .mini, .zero, []⟩⟩]⟩),
    .request .getStatus]

/-- The answer lists the device twice: it is refused when the request is settled already, and what
was there before is there still. -/
theorem repeated_serial_refused :
    let device : Device := ⟨"A", ⟨"", "", .mini, .zero, []⟩⟩
    let d := Desk.run ⟨.empty, .empty⟩ askedAgain
    let text := ResponseFrame.encode ⟨0, .status (Status.toValue ⟨[device, device]⟩)⟩
    let o := d.step (.message text)
    d.store.listeners = [⟨0⟩] ∧ d.session.tracker.request? 0 = some .getStatus ∧
      o.reply = .error (.status (.duplicateSerial "A")) ∧ o.desk.store = d.store ∧
      o.deliveries = [] ∧ o.desk.session.tracker.request? 0 = none := by
  intro device
  have decoded := Status.decode_frame ⟨[device, device]⟩ 0
  have repeats : Status.ofValue (Status.toValue ⟨[device, device]⟩)
      = .error (.duplicateSerial "A") := by decide +kernel
  have listening : (Desk.run ⟨.empty, .empty⟩ askedAgain).store.listeners = [⟨0⟩] := by decide
  have outstanding : (Desk.run ⟨.empty, .empty⟩ askedAgain).session.tracker.request? 0
      = some .getStatus := by decide
  -- what the run and the text were is of no more use, and Lean would compute them over and over
  generalize Desk.run ⟨.empty, .empty⟩ askedAgain = d at *
  generalize ResponseFrame.encode _ = text at *
  have taken : d.session.taken? text = some _ :=
    Session.taken?_eq_some_iff.mpr ⟨decoded, Or.inr (by rw [outstanding]; rfl)⟩
  have asked : d.session.call? (.message text) = some (.replaceDocument _) :=
    Session.call?_message_eq_some_iff.mpr ⟨_, taken, rfl⟩
  have refused : (d.step (.message text)).reply = .error (.status (.duplicateSerial "A")) := by
    refine (step_of_refused asked ?_).2.2
    show d.store.replaceDocument _ = _
    rw [Store.replaceDocument_eq, repeats]
    rfl
  obtain ⟨store, deliveries, frame, decodedToo, -, settled⟩ :=
    (message_refused_atomic d text).2 _ refused
  obtain rfl := Except.ok.inj (decoded.symm.trans decodedToo)
  obtain ⟨-, forgotten, -⟩ := settled (by decide)
  exact ⟨listening, outstanding, refused, store, deliveries, forgotten 0⟩

end Desk

end MixerPanel
