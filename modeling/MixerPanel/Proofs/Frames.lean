import MixerPanel.Desk
import MixerPanel.Proofs.Serials

/-!
# What a session takes from a text

A text from the daemon is taken when it decodes to a frame that is either a broadcast or the answer
to an outstanding request.  Everything else is turned away before the store is looked at.  Whether
a text is taken, and which session is left afterwards, depends on the session alone, never on the
store; the store only decides whether the content of a taken frame can be applied.

* `Session.taken?` — the frame that the session takes from a text
* `Session.answered` — the session after a frame is taken
* `Session.handle_of_undecodable`, `Session.handle_of_unexpected`, `Session.handle_of_taken` — the
  three ways in which a text is handled, and `Session.taken?_cases`, that there are no others
* `Tracker.request?_track`, `Tracker.request?_complete` — what a request and an answer do to the
  outstanding requests, and `Tracker.complete_of_request?_eq_none`, that an answer that nothing
  waits for does nothing
-/

namespace MixerPanel

namespace Tracker

theorem request?_without (outstanding : List (UInt64 × Request)) (nextId id other : UInt64) :
    request? ⟨nextId, without outstanding id⟩ other
      = if other = id then none else request? ⟨nextId, outstanding⟩ other := by
  simp only [request?, without, List.find?_filter]
  split_ifs with same
  · subst same
    simp
  · refine congrArg (Option.map Prod.snd) (congrArg (outstanding.find? ·) (funext fun entry => ?_))
    by_cases equal : entry.1 = other
    · simp [equal, same]
    · simp [equal]

/-- **A tracked request is outstanding** under the id of its frame; under every other id stays what
was there. -/
theorem request?_track (t : Tracker) (data : Request) (id : UInt64) :
    (t.track data).1.request? id = if id = t.nextId then some data else t.request? id := by
  have others := request?_without t.outstanding (successor t.nextId) t.nextId id
  split_ifs with same
  · subst same
    simp [track, request?]
  · rw [if_neg same] at others
    have unequal : (t.nextId == id) = false := by simpa using Ne.symm same
    simpa [track, request?, unequal] using others

/-- **An answer settles its own request** and no other. -/
theorem request?_complete (t : Tracker) (id other : UInt64) :
    (t.complete id).1.request? other = if other = id then none else t.request? other :=
  request?_without t.outstanding t.nextId id other

@[simp] theorem nextId_complete (t : Tracker) (id : UInt64) :
    (t.complete id).1.nextId = t.nextId := rfl

/-- **An answer that nothing waits for** settles nothing. -/
theorem complete_of_request?_eq_none {t : Tracker} {id : UInt64} (unknown : t.request? id = none) :
    t.complete id = (t, none) := by
  have absent : ∀ entry ∈ t.outstanding, entry.1 ≠ id := by
    simpa [request?] using unknown
  have kept : without t.outstanding id = t.outstanding :=
    List.filter_eq_self.mpr fun entry mem => decide_eq_true (absent entry mem)
  rw [complete, kept, unknown]

end Tracker

namespace Session

/-- The frame that the session takes from a text: a broadcast, or the answer to an outstanding
request. -/
def taken? (s : Session) (text : String) : Option ResponseFrame :=
  match ResponseFrame.decode text with
  | .ok frame =>
    if frame.id = broadcastId ∨ (s.tracker.request? frame.id).isSome then some frame else none
  | .error _ => none

/-- The session after a frame is taken: what the frame answers is outstanding no more. -/
def answered (s : Session) (frame : ResponseFrame) : Session :=
  if frame.id = broadcastId then s else ⟨(s.tracker.complete frame.id).1⟩

/-- The request that a taken frame answers; a broadcast answers none. -/
def asked? (s : Session) (frame : ResponseFrame) : Option Request :=
  if frame.id = broadcastId then none else s.tracker.request? frame.id

/-! ## The three ways to handle a text -/

variable {s : Session} {text : String} {frame : ResponseFrame}

theorem taken?_eq_some_iff :
    s.taken? text = some frame ↔ ResponseFrame.decode text = .ok frame ∧
      (frame.id = broadcastId ∨ (s.tracker.request? frame.id).isSome) := by
  unfold taken?
  cases decoded : ResponseFrame.decode text with
  | error e => simp
  | ok found =>
      simp only [Option.ite_none_right_eq_some, Option.some.injEq, Except.ok.injEq]
      constructor
      · rintro ⟨expected, rfl⟩
        exact ⟨rfl, expected⟩
      · rintro ⟨rfl, expected⟩
        exact ⟨expected, rfl⟩

/-- A text is no frame, or a frame that nothing waits for, or it is taken. -/
theorem taken?_cases (s : Session) (text : String) :
    (∃ e, ResponseFrame.decode text = .error e) ∨
    (∃ frame, ResponseFrame.decode text = .ok frame ∧ frame.id ≠ broadcastId ∧
      s.tracker.request? frame.id = none) ∨
    ∃ frame, s.taken? text = some frame := by
  cases decoded : ResponseFrame.decode text with
  | error e => exact Or.inl ⟨e, rfl⟩
  | ok frame =>
      by_cases expected : frame.id = broadcastId ∨ (s.tracker.request? frame.id).isSome
      · exact Or.inr (Or.inr ⟨frame, taken?_eq_some_iff.mpr ⟨decoded, expected⟩⟩)
      · rw [not_or, Option.not_isSome_iff_eq_none] at expected
        exact Or.inr (Or.inl ⟨frame, rfl, expected⟩)

theorem taken?_of_undecodable {e : Json.ReadError} (bad : ResponseFrame.decode text = .error e) :
    s.taken? text = none := by
  simp [taken?, bad]

theorem taken?_of_unexpected (decoded : ResponseFrame.decode text = .ok frame)
    (other : frame.id ≠ broadcastId) (unknown : s.tracker.request? frame.id = none) :
    s.taken? text = none := by
  simp [taken?, decoded, other, unknown]

theorem handle_of_undecodable {e : Json.ReadError} (store : Store)
    (bad : ResponseFrame.decode text = .error e) :
    s.handle store text = ⟨s, [], (.error (.undecodable e), store.unchanged)⟩ := by
  simp [handle, bad]

theorem handle_of_unexpected (store : Store) (decoded : ResponseFrame.decode text = .ok frame)
    (other : frame.id ≠ broadcastId) (unknown : s.tracker.request? frame.id = none) :
    s.handle store text =
      ⟨s, [Log.warn ("Dropping daemon response for unknown id " ++ toString frame.id.toNat)],
        (.error (.unexpectedId frame.id), store.unchanged)⟩ := by
  simp [handle, decoded, other, Tracker.complete_of_request?_eq_none unknown]

/-- **A taken frame** changes the session by itself, and its content goes to the store. -/
theorem handle_of_taken (store : Store) (taken : s.taken? text = some frame) :
    s.handle store text =
      ⟨s.answered frame, [], applyResponse store (s.asked? frame) frame.data⟩ := by
  obtain ⟨decoded, expected⟩ := taken?_eq_some_iff.mp taken
  by_cases broadcast : frame.id = broadcastId
  · simp [handle, decoded, broadcast, answered, asked?]
  · obtain ⟨request, outstanding⟩ := Option.isSome_iff_exists.mp (expected.resolve_left broadcast)
    simp [handle, decoded, broadcast, answered, asked?, Tracker.complete, outstanding]

/-- **A broadcast is brought into the store as the answer to nothing**, and leaves the session as it
is. -/
theorem handle_of_broadcast (store : Store) (decoded : ResponseFrame.decode text = .ok frame)
    (broadcast : frame.id = broadcastId) :
    s.handle store text = ⟨s, [], applyResponse store none frame.data⟩ := by
  rw [handle_of_taken store (taken?_eq_some_iff.mpr ⟨decoded, .inl broadcast⟩), answered, asked?,
    if_pos broadcast, if_pos broadcast]

@[simp] theorem nextId_answered (s : Session) (frame : ResponseFrame) :
    (s.answered frame).tracker.nextId = s.tracker.nextId := by
  unfold answered
  split_ifs <;> rfl

/-- **A taken frame settles its own request** and leaves every other one outstanding; a broadcast
settles none. -/
theorem outstanding_answered (expected : frame.id = broadcastId ∨
    (s.tracker.request? frame.id).isSome) :
    (frame.id = broadcastId → s.answered frame = s) ∧
      (frame.id ≠ broadcastId →
        (s.tracker.request? frame.id).isSome ∧
        (∀ id, (s.answered frame).tracker.request? id
          = if id = frame.id then none else s.tracker.request? id) ∧
        ∀ entry, entry ∈ (s.answered frame).tracker.outstanding ↔
          entry ∈ s.tracker.outstanding ∧ entry.1 ≠ frame.id) := by
  constructor
  · intro broadcast
    simp [answered, broadcast]
  · intro other
    have settled : s.answered frame = ⟨(s.tracker.complete frame.id).1⟩ := by
      simp [answered, other]
    rw [settled]
    refine ⟨expected.resolve_left other, s.tracker.request?_complete frame.id, fun entry => ?_⟩
    simp [Tracker.complete, Tracker.without]

/-- The session after a text, whatever the store makes of it. -/
theorem session_handle (s : Session) (store : Store) (text : String) :
    (s.handle store text).session = ((s.taken? text).map s.answered).getD s := by
  rcases s.taken?_cases text with ⟨e, bad⟩ | ⟨frame, decoded, other, unknown⟩ | ⟨frame, taken⟩
  · rw [handle_of_undecodable store bad, taken?_of_undecodable bad]
    rfl
  · rw [handle_of_unexpected store decoded other unknown,
      taken?_of_unexpected decoded other unknown]
    rfl
  · rw [handle_of_taken store taken, taken]
    rfl

end Session

end MixerPanel
