import MixerPanel.Proofs.Answers

/-!
# Ids of requests

The ids of requests go round.  After the greatest id below the reserved one comes zero, so that the
reserved id is left out, however many requests are made, and no sum that leads to the next id
overflows.  What is outstanding was handed out, so that nothing is ever outstanding under the
reserved id, and a broadcast settles no request.

Here the ids may run out and start anew, unlike in `answers_matched_once`; an id may then stand for
a later request, but it is never the reserved one.

* `Tracker.Operation`, `Tracker.run`, `Tracker.frames` — what can be done with a tracker, and the
  frames that are handed out on the way
* `Tracker.InRange` — every id of a tracker is below the reserved one
* `Tracker.InRange.toNat_nextId_run`, `Tracker.InRange.toNat_id_frames` — which id is the next one,
  and which ids are handed out
* `Session.exists_tracker_run` — a session does nothing else with its tracker
* `request_ids_in_range` — all of it, for every run of a tracker
-/

namespace MixerPanel

namespace Tracker

/-- What can be done with a tracker. -/
inductive Operation where
  | track (data : Request)
  /-- An answer comes under an id, which may be any. -/
  | complete (id : UInt64)
  | reset

/-- Whether an operation makes a request. -/
def Operation.isTrack : Operation → Bool
  | .track _ => true
  | .complete _ | .reset => false

/-- The tracker after an operation. -/
def step (t : Tracker) : Operation → Tracker
  | .track data => (t.track data).1
  | .complete id => (t.complete id).1
  | .reset => t.reset

/-- The tracker after a list of operations. -/
def run (t : Tracker) (operations : List Operation) : Tracker := operations.foldl step t

/-- The frame that an operation hands out. -/
def frame? (t : Tracker) : Operation → Option RequestFrame
  | .track data => some (t.track data).2
  | .complete _ | .reset => none

/-- The frames that a list of operations hands out, the first first. -/
def frames (t : Tracker) : List Operation → List RequestFrame
  | [] => []
  | operation :: rest => (t.frame? operation).toList ++ (t.step operation).frames rest

/-! ## Ids below the reserved one -/

theorem successor_lt_broadcastId {id : UInt64} (below : id < broadcastId) :
    successor id < broadcastId := by
  rw [UInt64.lt_iff_toNat_lt, toNat_successor_eq_mod below]
  exact Nat.mod_lt _ (by decide)

/-- **Every id of a tracker is below the reserved one**: the next one, and those under which
something is outstanding. -/
structure InRange (t : Tracker) : Prop where
  next : t.nextId < broadcastId
  each : ∀ entry ∈ t.outstanding, entry.1 < broadcastId

theorem inRange_empty : empty.InRange where
  next := by decide
  each _ mem := nomatch mem

section Run

variable {t : Tracker} {operations : List Operation}

theorem InRange.step (inRange : t.InRange) (operation : Operation) : (t.step operation).InRange := by
  have kept : ∀ id, ∀ entry ∈ without t.outstanding id, entry.1 < broadcastId :=
    fun id entry mem => inRange.each entry (List.mem_filter.mp mem).1
  cases operation with
  | track data =>
      -- the request goes out under the id that was the next one, in place of what may be
      -- outstanding under it from an earlier round
      refine ⟨successor_lt_broadcastId inRange.next, fun entry mem => ?_⟩
      rcases List.mem_cons.mp mem with rfl | mem
      · exact inRange.next
      · exact kept _ entry mem
  | complete id => exact ⟨inRange.next, kept id⟩
  | reset => exact ⟨inRange.next, fun _ mem => nomatch mem⟩

theorem InRange.run (inRange : t.InRange) (operations : List Operation) :
    (t.run operations).InRange := by
  induction operations generalizing t with
  | nil => exact inRange
  | cons operation rest ih => exact ih (inRange.step operation)

/-! ## Which ids are handed out -/

/-- Every request, and nothing else, hands out a frame. -/
theorem length_frames (t : Tracker) (operations : List Operation) :
    (t.frames operations).length = operations.countP Operation.isTrack := by
  induction operations generalizing t with
  | nil => rfl
  | cons operation rest ih =>
      rw [frames, List.length_append, ih, List.countP_cons, Nat.add_comm]
      cases operation <;> rfl

theorem InRange.nextId_mod (inRange : t.InRange) :
    t.nextId.toNat % broadcastId.toNat = t.nextId.toNat :=
  Nat.mod_eq_of_lt (UInt64.lt_iff_toNat_lt.mp inRange.next)

theorem InRange.nextId_track_add_mod (inRange : t.InRange) (data : Request) (n : Nat) :
    ((t.step (.track data)).nextId.toNat + n) % broadcastId.toNat
      = (t.nextId.toNat + (n + 1)) % broadcastId.toNat := by
  have next : (t.step (.track data)).nextId.toNat = (t.nextId.toNat + 1) % broadcastId.toNat :=
    toNat_successor_eq_mod inRange.next
  rw [next, Nat.mod_add_mod, Nat.add_right_comm, Nat.add_assoc]

/-- **The next id counts the frames** that were handed out. -/
theorem InRange.toNat_nextId_run (inRange : t.InRange) (operations : List Operation) :
    (t.run operations).nextId.toNat
      = (t.nextId.toNat + (t.frames operations).length) % broadcastId.toNat := by
  induction operations generalizing t with
  | nil => exact inRange.nextId_mod.symm
  | cons operation rest ih =>
      have later := ih (inRange.step operation)
      cases operation with
      | track data => exact later.trans (inRange.nextId_track_add_mod data _)
      | complete id => exact later
      | reset => exact later

/-- **The frames are numbered in turn**, from the next id on and back to zero before the reserved
one. -/
theorem InRange.toNat_id_frames (inRange : t.InRange) (operations : List Operation) :
    (t.frames operations).map (fun frame => frame.id.toNat)
      = (List.range (t.frames operations).length).map
          fun k => (t.nextId.toNat + k) % broadcastId.toNat := by
  induction operations generalizing t with
  | nil => rfl
  | cons operation rest ih =>
      have later := ih (inRange.step operation)
      cases operation with
      | track data =>
          show t.nextId.toNat :: ((t.step (.track data)).frames rest).map _
            = (List.range (((t.step (.track data)).frames rest).length + 1)).map _
          rw [later, List.range_succ_eq_map, List.map_cons, List.map_map, Nat.add_zero,
            inRange.nextId_mod]
          exact congrArg (t.nextId.toNat :: ·)
            (List.map_congr_left fun k _ => inRange.nextId_track_add_mod data k)
      | complete id => exact later
      | reset => exact later

/-- No frame is handed out under the reserved id. -/
theorem InRange.id_lt_of_mem_frames (inRange : t.InRange) {frame : RequestFrame}
    (mem : frame ∈ t.frames operations) : frame.id < broadcastId := by
  have number := List.mem_map_of_mem (f := fun frame => frame.id.toNat) mem
  rw [inRange.toNat_id_frames] at number
  obtain ⟨k, -, isNumber⟩ := List.mem_map.mp number
  rw [UInt64.lt_iff_toNat_lt, ← isNumber]
  exact Nat.mod_lt _ (by decide)

/-- **Nothing is outstanding under the reserved id**, so that an answer under it changes nothing. -/
theorem InRange.complete_broadcastId (inRange : t.InRange) :
    t.complete broadcastId = (t, none) := by
  have other : ∀ entry ∈ t.outstanding, entry.1 ≠ broadcastId :=
    fun entry mem => UInt64.ne_of_lt (inRange.each entry mem)
  have unknown : t.request? broadcastId = none := by
    simpa [request?] using other
  exact complete_of_request?_eq_none unknown

end Run

/-- The last id before the reserved one, and the id after it. -/
example : ((⟨broadcastId - 1, []⟩ : Tracker).frames [.track .ping, .track .ping]).map
    RequestFrame.id = [broadcastId - 1, 0] := by decide

end Tracker

namespace Session

/-! ## What a session does with its tracker -/

theorem exists_tracker_step (s : Session) (operation : Operation) :
    ∃ operations, (s.step operation).tracker = s.tracker.run operations := by
  cases operation with
  | request data => exact ⟨[.track data], rfl⟩
  | reset => exact ⟨[.reset], rfl⟩
  | handle store text =>
      show ∃ operations, (s.handle store text).session.tracker = s.tracker.run operations
      rw [session_handle]
      cases s.taken? text with
      | none => exact ⟨[], rfl⟩
      | some frame =>
          by_cases broadcast : frame.id = broadcastId
          · exact ⟨[], by simp [answered, broadcast, Tracker.run]⟩
          · exact ⟨[.complete frame.id], by simp [answered, broadcast, Tracker.run, Tracker.step]⟩

/-- **A session does nothing else with its tracker**: what becomes of it on a run of the session
becomes of it on a run of the tracker. -/
theorem exists_tracker_run (s : Session) (exchanges : List Operation) :
    ∃ operations, (exchanges.foldl step s).tracker = s.tracker.run operations := by
  induction exchanges generalizing s with
  | nil => exact ⟨[], rfl⟩
  | cons operation rest ih =>
      obtain ⟨first, stepped⟩ := s.exists_tracker_step operation
      obtain ⟨others, ran⟩ := ih (s.step operation)
      refine ⟨first ++ others, ?_⟩
      rw [List.foldl_cons, ran, stepped, Tracker.run, Tracker.run, Tracker.run, List.foldl_append]

/-- The ids of a session are below the reserved one, whatever is done with it. -/
theorem inRange_run (exchanges : List Operation) :
    (exchanges.foldl step empty).tracker.InRange := by
  obtain ⟨operations, ran⟩ := empty.exists_tracker_run exchanges
  rw [ran]
  exact Tracker.inRange_empty.run operations

end Session

/-- **Ids stay below the reserved one**, however many requests are made, answered and forgotten.

* The next id is below the reserved one, so that one more still fits in 64 bits.  It is the number
  of requests that were made, counted modulo the reserved id.
* No frame is handed out under the reserved id: the frames are numbered in turn, modulo the reserved
  id.
* Nothing is outstanding under the reserved id.  So an answer under it would find nothing and change
  nothing, and a broadcast is brought into the store as the answer to no request. -/
theorem request_ids_in_range (operations : List Tracker.Operation) :
    let t := Tracker.empty.run operations
    let frames := Tracker.empty.frames operations
    let requests := operations.countP Tracker.Operation.isTrack
    (t.nextId < broadcastId ∧ (t.nextId + 1).toNat = t.nextId.toNat + 1 ∧
      t.nextId.toNat = requests % broadcastId.toNat) ∧
    ((∀ frame ∈ frames, frame.id < broadcastId) ∧
      frames.map (fun frame => frame.id.toNat)
        = (List.range requests).map (· % broadcastId.toNat)) ∧
    (∀ entry ∈ t.outstanding, entry.1 < broadcastId) ∧
    t.complete broadcastId = (t, none) ∧
    ∀ store text frame, ResponseFrame.decode text = .ok frame → frame.id = broadcastId →
      Session.handle ⟨t⟩ store text = ⟨⟨t⟩, [], Session.applyResponse store none frame.data⟩ := by
  intro t frames requests
  have begins := Tracker.inRange_empty
  have inRange : t.InRange := begins.run operations
  have counted := begins.toNat_nextId_run operations
  have numbered := begins.toNat_id_frames operations
  simp only [Tracker.length_frames, Tracker.empty, UInt64.toNat_zero, Nat.zero_add]
    at counted numbered
  refine ⟨⟨inRange.next, Tracker.toNat_add_one inRange.next, counted⟩, ⟨?_, numbered⟩,
    inRange.each, inRange.complete_broadcastId, ?_⟩
  · exact fun frame mem => begins.id_lt_of_mem_frames mem
  · exact fun store text frame => Session.handle_of_broadcast store

/-- A broadcast while a ping is outstanding; and the sum that leads to the reserved id, when the ids
are about to start anew. -/
theorem broadcast_settles_no_ping :
    let asked : List Tracker.Operation :=
      [.track .getStatus, .complete 0, .complete broadcastId, .track .ping]
    let round : List Tracker.Operation := List.replicate (UInt64.size - 2) (.track .ping)
    let t := Tracker.empty.run asked
    let text := ResponseFrame.encode ⟨broadcastId, .ok⟩
    (⟨0, .getStatus⟩ ∈ Tracker.empty.frames asked ∧ (0 : UInt64) < broadcastId) ∧
    ((1, .ping) ∈ t.outstanding ∧ (1 : UInt64) < broadcastId) ∧
    t.complete broadcastId = (t, none) ∧
    (ResponseFrame.decode text = .ok ⟨broadcastId, .ok⟩ ∧
      Session.handle ⟨t⟩ .empty text
        = ⟨⟨t⟩, [], (.ok (.acknowledged none), Store.empty.unchanged)⟩) ∧
    ((Tracker.empty.run round).nextId + 1).toNat = broadcastId.toNat := by
  intro asked round t text
  have decoded : ResponseFrame.decode text = .ok ⟨broadcastId, .ok⟩ :=
    ResponseFrame.decode_encode ⟨nofun, nofun, ResponseFrame.nestsWithin_iff.mpr ⟨nofun, nofun⟩⟩
  have handedOut : ⟨0, .getStatus⟩ ∈ Tracker.empty.frames asked := by decide
  have waits : (1, .ping) ∈ t.outstanding := by decide
  have requests : round.countP Tracker.Operation.isTrack = UInt64.size - 2 :=
    List.countP_replicate.trans (if_pos rfl)
  obtain ⟨-, ⟨below, -⟩, each, unknown, broadcast⟩ := request_ids_in_range asked
  obtain ⟨⟨-, sum, counted⟩, -⟩ := request_ids_in_range round
  refine ⟨⟨handedOut, below _ handedOut⟩, ⟨waits, each _ waits⟩, unknown,
    ⟨decoded, broadcast .empty text _ decoded rfl⟩, ?_⟩
  rw [sum, counted, requests]
  decide

end MixerPanel
