import MixerPanel.Proofs.RefusedFrames

/-!
# Every request is answered once

A session matches answers to requests by their ids alone.  The ids go on from where they are when
the outstanding requests are forgotten, so that an answer that comes late finds no other request
under its id.

A `Correspondence` is a session together with the history of what went back and forth: which frames
were handed out, which frames came back and whether they were accepted, and when everything was
forgotten.  The table of outstanding requests is what the history says it is:

* `Session.Awaits` — a history says that a request is to be answered still: it was handed out, and
  since then no frame has carried its id and nothing was forgotten
* `Session.Matches` — a session is as its history says
* `Session.matches_handOut`, `Session.matches_carry`, `Session.matches_forget` — the three ways in
  which the history grows
* `answers_matched_once` — what that means for ids, for acceptance and for the number of outstanding
  requests

The store that a text is handled against may be another one every time; the session does not depend
on it.
-/

namespace MixerPanel

namespace Session

/-- What can be done with a session. -/
inductive Operation where
  | request (data : Request)
  /-- A text comes, and is handled against a store. -/
  | handle (store : Store) (text : String)
  | reset

namespace Operation

/-- Whether an operation makes a request. -/
def isRequest : Operation → Bool
  | request _ => true
  | handle _ _ | reset => false

end Operation

/-- What goes back and forth. -/
inductive Exchange where
  /-- A frame is handed out. -/
  | handedOut (frame : RequestFrame)
  /-- A text decodes to a frame. -/
  | carried (frame : ResponseFrame) (accepted : Bool)
  /-- All outstanding requests are forgotten. -/
  | forgotten

namespace Exchange

/-- The frame that is handed out. -/
def request? : Exchange → Option RequestFrame
  | handedOut frame => some frame
  | carried _ _ | forgotten => none

/-- The id under which a frame is accepted as an answer; a broadcast answers nothing. -/
def answered? : Exchange → Option UInt64
  | carried frame true => if frame.id = broadcastId then none else some frame.id
  | carried _ false | handedOut _ | forgotten => none

/-- Whether the outstanding requests survive. -/
def remembers : Exchange → Bool
  | forgotten => false
  | handedOut _ | carried _ _ => true

end Exchange

/-- Whether a text is accepted, as far as its id goes. -/
def Handled.accepts (h : Handled) : Bool :=
  match h.outcome.1 with
  | .error (.unexpectedId _) => false
  | _ => true

/-- The session after an operation. -/
def step (s : Session) : Operation → Session
  | .request data => (s.request data).1
  | .handle store text => (s.handle store text).session
  | .reset => s.reset

/-- What an operation adds to the history. -/
def exchange? (s : Session) : Operation → Option Exchange
  | .request data => some (.handedOut (s.tracker.track data).2)
  | .handle store text =>
    match ResponseFrame.decode text with
    | .ok frame => some (.carried frame (s.handle store text).accepts)
    | .error _ => none
  | .reset => some .forgotten

/-! ## Histories, the latest first -/

/-- The frames that were handed out. -/
def requests (history : List Exchange) : List RequestFrame := history.filterMap Exchange.request?

/-- The ids under which frames were accepted as answers. -/
def answers (history : List Exchange) : List UInt64 := history.filterMap Exchange.answered?

/-- What has happened since everything was forgotten. -/
def recent (history : List Exchange) : List Exchange := history.takeWhile Exchange.remembers

/-- A request was handed out under an id, and since then nothing was forgotten and no frame has
carried the id. -/
def Awaits (history : List Exchange) (id : UInt64) (request : Request) : Prop :=
  ∃ since before, history = since ++ .handedOut ⟨id, request⟩ :: before ∧
    .forgotten ∉ since ∧ ∀ frame accepted, .carried frame accepted ∈ since → frame.id ≠ id

section Awaits

variable {history : List Exchange} {id : UInt64} {request : Request}

theorem not_awaits_nil : ¬ Awaits [] id request := by
  rintro ⟨since, before, split, -⟩
  cases since <;> cases split

theorem awaits_handedOut {frame : RequestFrame} :
    Awaits (.handedOut frame :: history) id request ↔
      frame = ⟨id, request⟩ ∨ Awaits history id request := by
  constructor
  · rintro ⟨since, before, split, kept, silent⟩
    cases since with
    | nil =>
        obtain ⟨⟨rfl⟩, -⟩ := List.cons.inj split
        exact Or.inl rfl
    | cons exchange since =>
        obtain ⟨rfl, rfl⟩ := List.cons.inj split
        refine Or.inr ⟨since, before, rfl, ?_, ?_⟩
        · exact fun mem => kept (List.mem_cons_of_mem _ mem)
        · exact fun other accepted mem => silent other accepted (List.mem_cons_of_mem _ mem)
  · rintro (rfl | ⟨since, before, rfl, kept, silent⟩)
    · exact ⟨[], history, rfl, List.not_mem_nil, fun _ _ mem => nomatch mem⟩
    · refine ⟨.handedOut frame :: since, before, rfl, ?_, ?_⟩
      · simpa using kept
      · simpa using silent

theorem awaits_carried {frame : ResponseFrame} {accepted : Bool} :
    Awaits (.carried frame accepted :: history) id request ↔
      Awaits history id request ∧ frame.id ≠ id := by
  constructor
  · rintro ⟨since, before, split, kept, silent⟩
    cases since with
    | nil => cases split
    | cons exchange since =>
        obtain ⟨rfl, rfl⟩ := List.cons.inj split
        refine ⟨⟨since, before, rfl, ?_, ?_⟩, silent frame accepted List.mem_cons_self⟩
        · exact fun mem => kept (List.mem_cons_of_mem _ mem)
        · exact fun other accepted mem => silent other accepted (List.mem_cons_of_mem _ mem)
  · rintro ⟨⟨since, before, rfl, kept, silent⟩, other⟩
    refine ⟨.carried frame accepted :: since, before, rfl, by simpa using kept, ?_⟩
    intro found acceptedToo mem
    rcases List.mem_cons.mp mem with same | mem
    · obtain ⟨rfl, -⟩ := Exchange.carried.inj same
      exact other
    · exact silent found acceptedToo mem

theorem not_awaits_forgotten : ¬ Awaits (.forgotten :: history) id request := by
  rintro ⟨since, before, split, kept, -⟩
  cases since with
  | nil => cases split
  | cons exchange since =>
      obtain ⟨rfl, -⟩ := List.cons.inj split
      exact kept List.mem_cons_self

/-- What is awaited was handed out. -/
theorem mem_requests_of_awaits (awaits : Awaits history id request) :
    ⟨id, request⟩ ∈ requests history := by
  obtain ⟨since, before, rfl, -⟩ := awaits
  exact List.mem_filterMap.mpr ⟨.handedOut ⟨id, request⟩, by simp, rfl⟩

end Awaits

/-! ## The table of outstanding requests -/

end Session

namespace Tracker

variable {t : Tracker} {id : UInt64} {request : Request}

theorem request?_isSome_iff : (t.request? id).isSome ↔ id ∈ t.outstanding.map Prod.fst := by
  simp [request?]

theorem request?_eq_some_iff (once : (t.outstanding.map Prod.fst).Nodup) :
    t.request? id = some request ↔ (id, request) ∈ t.outstanding := by
  obtain ⟨nextId, outstanding⟩ := t
  induction outstanding with
  | nil => simp [request?]
  | cons entry rest ih =>
      obtain ⟨key, value⟩ := entry
      obtain ⟨fresh, onceLater⟩ := List.nodup_cons.mp once
      by_cases same : key = id
      · subst same
        have notLater : (key, request) ∉ rest := fun mem =>
          fresh (List.mem_map.mpr ⟨(key, request), mem, rfl⟩)
        simp [request?, notLater, eq_comm]
      · have later := ih onceLater
        simp only [request?] at later
        simp [request?, same, Ne.symm same, later]

/-- An answer takes one entry out of the table. -/
theorem pending_complete (once : (t.outstanding.map Prod.fst).Nodup)
    (outstanding : id ∈ t.outstanding.map Prod.fst) :
    (t.complete id).1.pending + 1 = t.pending := by
  have keys : (without t.outstanding id).map Prod.fst = (t.outstanding.map Prod.fst).erase id := by
    rw [once.erase_eq_filter, List.filter_map]
    refine congrArg (List.map Prod.fst) (List.filter_congr fun entry _ => ?_)
    by_cases same : entry.1 = id <;> simp [same]
  have lengths := congrArg List.length keys
  rw [List.length_map, List.length_erase_of_mem outstanding, List.length_map] at lengths
  have some : 0 < t.outstanding.length := by
    simpa using List.length_pos_of_mem outstanding
  show (without t.outstanding id).length + 1 = t.outstanding.length
  omega

/-- There is room for one more below the reserved id, which is the greatest number of 64 bits. -/
theorem toNat_add_one (below : id < broadcastId) : (id + 1).toNat = id.toNat + 1 := by
  have less : id.toNat < broadcastId.toNat := UInt64.lt_iff_toNat_lt.mp below
  rw [UInt64.toNat_add]
  exact Nat.mod_eq_of_lt (Nat.succ_lt_succ less)

/-- **The ids go round**: they are counted modulo the reserved one. -/
theorem toNat_successor_eq_mod (below : id < broadcastId) :
    (successor id).toNat = (id.toNat + 1) % broadcastId.toNat := by
  have sum := toNat_add_one below
  unfold successor
  split_ifs with last
  · rw [← sum, last, Nat.mod_self]
    rfl
  · have other : id.toNat + 1 ≠ broadcastId.toNat :=
      fun same => last (UInt64.toNat_inj.mp (sum.trans same))
    have less : id.toNat < broadcastId.toNat := UInt64.lt_iff_toNat_lt.mp below
    rw [sum, Nat.mod_eq_of_lt (by omega)]

/-- As long as the ids do not run out, the next one is one more. -/
theorem toNat_successor (few : id.toNat + 1 < UInt64.size - 1) :
    (successor id).toNat = id.toNat + 1 := by
  have below : id < broadcastId := UInt64.lt_iff_toNat_lt.mpr (Nat.lt_of_succ_lt few)
  exact (toNat_successor_eq_mod below).trans (Nat.mod_eq_of_lt few)

end Tracker

namespace Session

theorem toNat_broadcastId : broadcastId.toNat = UInt64.size - 1 := rfl

/-! ## What is accepted -/

section Accepts

variable {s : Session} {text : String} {frame : ResponseFrame}

theorem accepts_iff (h : Handled) :
    h.accepts = true ↔ ∀ id, h.outcome.1 ≠ .error (.unexpectedId id) := by
  unfold Handled.accepts
  split
  · next id refused => simp [refused]
  · next other => simpa using other

theorem accepts_of_taken (store : Store) (taken : s.taken? text = some frame) :
    (s.handle store text).accepts = true := by
  rw [accepts_iff, handle_of_taken store taken]
  intro id refused
  rcases (applyResponse_of_error refused).2 with ⟨message, same⟩ | ⟨cause, same⟩ <;> cases same

theorem accepts_of_unexpected (store : Store) (decoded : ResponseFrame.decode text = .ok frame)
    (other : frame.id ≠ broadcastId) (unknown : s.tracker.request? frame.id = none) :
    (s.handle store text).accepts = false := by
  rw [handle_of_unexpected store decoded other unknown]
  rfl

end Accepts

/-! ## Sessions and their histories -/

/-- **A session is as its history says.** -/
structure Matches (history : List Exchange) (s : Session) : Prop where
  /-- The next id is the number of requests. -/
  counted : s.tracker.nextId.toNat = (requests history).length
  below : ∀ frame ∈ requests history, frame.id.toNat < s.tracker.nextId.toNat
  distinct : ((requests history).map RequestFrame.id).Nodup
  /-- What is outstanding is what is awaited. -/
  awaited : ∀ id request, (id, request) ∈ s.tracker.outstanding ↔ Awaits history id request
  once : (s.tracker.outstanding.map Prod.fst).Nodup
  /-- No id is answered twice, and none that is answered is outstanding. -/
  answered : (answers history).Nodup
  settled : ∀ id ∈ answers history,
    id.toNat < s.tracker.nextId.toNat ∧ id ∉ s.tracker.outstanding.map Prod.fst
  balanced : s.pending + (answers (recent history)).length = (requests (recent history)).length

theorem matches_empty : Matches [] empty where
  counted := rfl
  below _ mem := nomatch mem
  distinct := List.nodup_nil
  awaited id request := by simp [empty, Tracker.empty, not_awaits_nil]
  once := List.nodup_nil
  answered := List.nodup_nil
  settled _ mem := nomatch mem
  balanced := rfl

section Growth

variable {history : List Exchange} {s : Session}

/-- What is outstanding was handed out earlier, so that its id is below the next one. -/
theorem Matches.toNat_lt (m : Matches history s) {id : UInt64}
    (outstanding : id ∈ s.tracker.outstanding.map Prod.fst) :
    id.toNat < s.tracker.nextId.toNat := by
  obtain ⟨⟨_, request⟩, mem, rfl⟩ := List.mem_map.mp outstanding
  exact m.below _ (mem_requests_of_awaits ((m.awaited _ request).mp mem))

theorem matches_handOut (m : Matches history s) (data : Request)
    (few : (requests history).length + 1 < UInt64.size - 1) :
    Matches (.handedOut (s.tracker.track data).2 :: history) (s.request data).1 := by
  have next : (Tracker.successor s.tracker.nextId).toNat = s.tracker.nextId.toNat + 1 :=
    Tracker.toNat_successor (by rw [m.counted]; exact few)
  have fresh : s.tracker.nextId ∉ s.tracker.outstanding.map Prod.fst :=
    fun outstanding => Nat.lt_irrefl _ (m.toNat_lt outstanding)
  -- the id is a new one, so that it takes no entry out of the table
  have kept : Tracker.without s.tracker.outstanding s.tracker.nextId = s.tracker.outstanding := by
    refine List.filter_eq_self.mpr fun entry mem => ?_
    have other : entry.1 ≠ s.tracker.nextId := fun same =>
      fresh (List.mem_map.mpr ⟨entry, mem, same⟩)
    simp [other]
  have after : (s.request data).1
      = ⟨Tracker.successor s.tracker.nextId,
        (s.tracker.nextId, data) :: s.tracker.outstanding⟩ := by
    rw [← kept]
    rfl
  rw [after]
  exact {
    counted := by
      show (Tracker.successor s.tracker.nextId).toNat = (requests history).length + 1
      rw [next, m.counted]
    below := by
      intro frame mem
      show frame.id.toNat < (Tracker.successor s.tracker.nextId).toNat
      rw [next]
      rcases List.mem_cons.mp mem with rfl | mem
      · exact Nat.lt_succ_self _
      · exact Nat.lt_succ_of_lt (m.below frame mem)
    distinct := by
      refine List.nodup_cons.mpr ⟨?_, m.distinct⟩
      intro again
      obtain ⟨frame, mem, same⟩ := List.mem_map.mp again
      exact Nat.lt_irrefl _ (same ▸ m.below frame mem)
    awaited := by
      intro id request
      rw [awaits_handedOut, ← m.awaited id request, List.mem_cons, eq_comm]
      simp [Tracker.track]
    once := List.nodup_cons.mpr ⟨fresh, m.once⟩
    answered := m.answered
    settled := by
      intro id mem
      obtain ⟨earlier, gone⟩ := m.settled id mem
      refine ⟨?_, ?_⟩
      · show id.toNat < (Tracker.successor s.tracker.nextId).toNat
        omega
      · intro outstanding
        rcases List.mem_cons.mp outstanding with rfl | outstanding
        · exact Nat.lt_irrefl _ earlier
        · exact gone outstanding
    balanced := by
      have balanced := m.balanced
      show s.tracker.outstanding.length + 1 + (answers (recent history)).length
        = (requests (recent history)).length + 1
      rw [← balanced]
      show s.tracker.outstanding.length + 1 + _ = s.tracker.outstanding.length + _ + 1
      omega }

/-- A frame that is not accepted, or that answers nothing, changes nothing but the history. -/
theorem Matches.carry_idle (m : Matches history s) {frame : ResponseFrame} {accepted : Bool}
    (idle : (Exchange.carried frame accepted).answered? = none)
    (unknown : frame.id ∉ s.tracker.outstanding.map Prod.fst) :
    Matches (.carried frame accepted :: history) s := by
  have same : answers (.carried frame accepted :: history) = answers history :=
    List.filterMap_cons_none idle
  have sameRecent : answers (recent (.carried frame accepted :: history))
      = answers (recent history) := List.filterMap_cons_none idle
  exact { m with
    awaited := by
      intro id request
      rw [awaits_carried, ← m.awaited id request]
      refine ⟨fun mem => ⟨mem, ?_⟩, And.left⟩
      rintro rfl
      exact unknown (List.mem_map.mpr ⟨_, mem, rfl⟩)
    answered := by rw [same]; exact m.answered
    settled := by rw [same]; exact m.settled
    balanced := by rw [sameRecent]; exact m.balanced }

/-- An answer takes the request that it answers out of the table, for good. -/
theorem Matches.carry_answer (m : Matches history s) {frame : ResponseFrame}
    (other : frame.id ≠ broadcastId)
    (outstanding : frame.id ∈ s.tracker.outstanding.map Prod.fst) :
    Matches (.carried frame true :: history) ⟨(s.tracker.complete frame.id).1⟩ := by
  have isAnswer : (Exchange.carried frame true).answered? = some frame.id := if_neg other
  have more : answers (.carried frame true :: history) = frame.id :: answers history :=
    List.filterMap_cons_some isAnswer
  have moreRecent : answers (recent (.carried frame true :: history))
      = frame.id :: answers (recent history) := List.filterMap_cons_some isAnswer
  have left : ∀ id, id ∈ (Tracker.without s.tracker.outstanding frame.id).map Prod.fst ↔
      id ∈ s.tracker.outstanding.map Prod.fst ∧ id ≠ frame.id := by
    intro id
    simp only [Tracker.without, List.mem_map, List.mem_filter]
    constructor
    · rintro ⟨entry, ⟨mem, kept⟩, rfl⟩
      exact ⟨⟨entry, mem, rfl⟩, by simpa using kept⟩
    · rintro ⟨⟨entry, mem, rfl⟩, kept⟩
      exact ⟨entry, ⟨mem, by simpa using kept⟩, rfl⟩
  exact {
    counted := m.counted
    below := m.below
    distinct := m.distinct
    awaited := by
      intro id request
      rw [awaits_carried, ← m.awaited id request, ne_comm]
      simp [Tracker.complete, Tracker.without]
    once := m.once.sublist (List.filter_sublist.map Prod.fst)
    answered := by
      rw [more]
      exact List.nodup_cons.mpr ⟨fun again => (m.settled _ again).2 outstanding, m.answered⟩
    settled := by
      intro id mem
      rw [more] at mem
      show id.toNat < s.tracker.nextId.toNat ∧
        id ∉ (Tracker.without s.tracker.outstanding frame.id).map Prod.fst
      rw [left]
      rcases List.mem_cons.mp mem with rfl | mem
      · exact ⟨m.toNat_lt outstanding, fun still => still.2 rfl⟩
      · obtain ⟨earlier, gone⟩ := m.settled id mem
        exact ⟨earlier, fun still => gone still.1⟩
    balanced := by
      have balanced := m.balanced
      have oneLess := Tracker.pending_complete m.once outstanding
      rw [moreRecent, List.length_cons]
      show (s.tracker.complete frame.id).1.pending + ((answers (recent history)).length + 1)
        = (requests (recent history)).length
      rw [← balanced, pending, ← oneLess]
      omega }

theorem matches_carry (m : Matches history s)
    (few : (requests history).length < UInt64.size - 1) (store : Store) {text : String}
    {frame : ResponseFrame} (decoded : ResponseFrame.decode text = .ok frame) :
    Matches (.carried frame (s.handle store text).accepts :: history)
      (s.handle store text).session := by
  by_cases broadcast : frame.id = broadcastId
  · have taken : s.taken? text = some frame := taken?_eq_some_iff.mpr ⟨decoded, Or.inl broadcast⟩
    rw [accepts_of_taken store taken, handle_of_broadcast store decoded broadcast]
    refine m.carry_idle (if_pos broadcast) fun outstanding => ?_
    -- no request goes out under the id of broadcasts
    have below := m.toNat_lt outstanding
    rw [broadcast, toNat_broadcastId, m.counted] at below
    omega
  · cases known : s.tracker.request? frame.id with
    | none =>
        have same : (s.handle store text).session = s := by
          rw [session_handle, taken?_of_unexpected decoded broadcast known]
          rfl
        rw [accepts_of_unexpected store decoded broadcast known, same]
        refine m.carry_idle rfl fun outstanding => ?_
        rw [← Tracker.request?_isSome_iff, known] at outstanding
        cases outstanding
    | some request =>
        have isKnown : (s.tracker.request? frame.id).isSome := by rw [known]; rfl
        have taken : s.taken? text = some frame :=
          taken?_eq_some_iff.mpr ⟨decoded, Or.inr isKnown⟩
        have after : (s.handle store text).session = ⟨(s.tracker.complete frame.id).1⟩ := by
          rw [session_handle, taken]
          exact if_neg broadcast
        rw [accepts_of_taken store taken, after]
        exact m.carry_answer broadcast (Tracker.request?_isSome_iff.mp isKnown)

theorem matches_forget (m : Matches history s) : Matches (.forgotten :: history) s.reset where
  counted := m.counted
  below := m.below
  distinct := m.distinct
  awaited id request := by simp [reset, Tracker.reset, not_awaits_forgotten]
  once := List.nodup_nil
  answered := m.answered
  settled id mem := ⟨(m.settled id mem).1, List.not_mem_nil⟩
  balanced := rfl

end Growth

end Session

/-! ## Runs -/

/-- A session, and what went back and forth, the latest first. -/
structure Correspondence where
  session : Session
  history : List Session.Exchange

namespace Correspondence

open Session (requests answers recent Awaits Matches)

/-- Nothing has happened yet. -/
def start : Correspondence := ⟨.empty, []⟩

/-- What an operation makes of a correspondence. -/
def step (c : Correspondence) (operation : Session.Operation) : Correspondence :=
  ⟨c.session.step operation, (c.session.exchange? operation).toList ++ c.history⟩

/-- The correspondence after a list of operations. -/
def run (c : Correspondence) (operations : List Session.Operation) : Correspondence :=
  operations.foldl step c

theorem requests_step (c : Correspondence) (operation : Session.Operation) :
    (requests (c.step operation).history).length
      = (requests c.history).length + if operation.isRequest then 1 else 0 := by
  cases operation with
  | request data => rfl
  | reset => rfl
  | handle store text =>
      simp only [step, Session.exchange?, Session.Operation.isRequest]
      split <;> rfl

/-- **Every operation keeps session and history in step**, as long as the ids do not run out. -/
theorem matches_step {c : Correspondence} (m : Matches c.history c.session)
    (operation : Session.Operation)
    (few : (requests (c.step operation).history).length < UInt64.size - 1) :
    Matches (c.step operation).history (c.step operation).session := by
  cases operation with
  | request data => exact Session.matches_handOut m data few
  | reset => exact Session.matches_forget m
  | handle store text =>
      rw [requests_step] at few
      cases decoded : ResponseFrame.decode text with
      | ok frame =>
          have carried := Session.matches_carry m few store decoded
          simpa [step, Session.step, Session.exchange?, decoded] using carried
      | error e =>
          simpa [step, Session.step, Session.exchange?, decoded,
            Session.handle_of_undecodable store decoded] using m

theorem matches_run {c : Correspondence} (m : Matches c.history c.session)
    {operations : List Session.Operation}
    (few : (requests c.history).length + operations.countP Session.Operation.isRequest
      < UInt64.size - 1) :
    Matches (c.run operations).history (c.run operations).session ∧
      (requests (c.run operations).history).length < UInt64.size - 1 := by
  induction operations generalizing c with
  | nil => exact ⟨m, few⟩
  | cons operation rest ih =>
      have fewLater : (requests (c.step operation).history).length
          + rest.countP Session.Operation.isRequest < UInt64.size - 1 := by
        rw [requests_step, Nat.add_right_comm, Nat.add_assoc, ← List.countP_cons]
        exact few
      exact ih (matches_step m operation (Nat.lt_of_le_of_lt (Nat.le_add_right _ _) fewLater))
        fewLater

/-- A frame is accepted exactly if something is awaited under its id, and what it answers is what
was handed out under it. -/
theorem handle_iff {c : Correspondence} (m : Matches c.history c.session) (store : Store)
    {text : String} {frame : ResponseFrame} (decoded : ResponseFrame.decode text = .ok frame)
    (other : frame.id ≠ broadcastId) :
    ((∀ id, (c.session.handle store text).outcome.1 ≠ .error (.unexpectedId id)) ↔
      ∃ request, Awaits c.history frame.id request) ∧
    (frame.data = .ok → ∀ request, Awaits c.history frame.id request →
      (c.session.handle store text).outcome
        = (.ok (.acknowledged (some request)), store.unchanged)) := by
  have asked : ∀ request, c.session.tracker.request? frame.id = some request ↔
      Awaits c.history frame.id request := by
    intro request
    rw [Tracker.request?_eq_some_iff m.once]
    exact m.awaited frame.id request
  constructor
  · rw [← Session.accepts_iff]
    simp only [← asked]
    cases known : c.session.tracker.request? frame.id with
    | none => simp [Session.accepts_of_unexpected store decoded other known]
    | some request =>
        have taken : c.session.taken? text = some frame :=
          Session.taken?_eq_some_iff.mpr ⟨decoded, Or.inr (by rw [known]; rfl)⟩
        simp [Session.accepts_of_taken store taken]
  · intro acknowledges request awaits
    have known := (asked request).mpr awaits
    have taken : c.session.taken? text = some frame :=
      Session.taken?_eq_some_iff.mpr ⟨decoded, Or.inr (by rw [known]; rfl)⟩
    rw [Session.handle_of_taken store taken, Session.asked?, if_neg other, known, acknowledges]
    rfl

end Correspondence

open Session (requests answers recent Awaits)

/-- **Every request is answered once.**  In any run of a session, from its beginning and with fewer
requests than there are ids,

* every request goes out in a frame of its own id, and never under the id of broadcasts;
* a frame with any other id is accepted exactly if a request was handed out under that id, and since
  then nothing was forgotten and no frame has carried the id; no id is accepted twice;
* if such a frame is an acknowledgement, what it acknowledges is the request that was handed out
  under its id;
* the outstanding requests are as many as were made since everything was forgotten, less the frames
  that were accepted since then. -/
theorem answers_matched_once (operations : List Session.Operation)
    (few : operations.countP Session.Operation.isRequest < UInt64.size - 1) :
    let c := Correspondence.start.run operations
    let ids := (requests c.history).map RequestFrame.id
    (ids.Nodup ∧ broadcastId ∉ ids ∧
      ∀ data, ∃ frame : RequestFrame, frame.data = data ∧
        (c.session.request data).2.1 = frame.encode ∧
        (c.step (.request data)).history = .handedOut frame :: c.history) ∧
    (∀ store text frame, ResponseFrame.decode text = .ok frame → frame.id ≠ broadcastId →
      let outcome := (c.session.handle store text).outcome
      ((∀ id, outcome.1 ≠ .error (.unexpectedId id)) ↔
        ∃ request, Awaits c.history frame.id request) ∧
      (frame.data = .ok → ∀ request, Awaits c.history frame.id request →
        outcome = (.ok (.acknowledged (some request)), store.unchanged))) ∧
    (answers c.history).Nodup ∧
    c.session.pending + (answers (recent c.history)).length
      = (requests (recent c.history)).length := by
  intro c ids
  have begins : (requests Correspondence.start.history).length
      + operations.countP Session.Operation.isRequest < UInt64.size - 1 := by
    rw [← Nat.zero_add (operations.countP _)] at few
    exact few
  obtain ⟨m, fewMade⟩ := Correspondence.matches_run Session.matches_empty begins
  refine ⟨⟨m.distinct, ?_, fun data => ⟨_, rfl, rfl, rfl⟩⟩, ?_, m.answered, m.balanced⟩
  · intro outgoing
    obtain ⟨frame, mem, same⟩ := List.mem_map.mp outgoing
    have below := m.below frame mem
    rw [same, Session.toNat_broadcastId, m.counted] at below
    omega
  · intro store text frame decoded other
    exact Correspondence.handle_iff m store decoded other

/-- **An answer that comes late is not taken for another one**: after everything was forgotten, the
answer to the first request is refused, and that to the second one acknowledges it. -/
theorem late_answer_refused :
    let operations : List Session.Operation := [.request .ping, .reset, .request .getStatus]
    let s := (Correspondence.start.run operations).session
    operations.countP Session.Operation.isRequest < UInt64.size - 1 ∧
    (∃ id, (s.handle .empty (ResponseFrame.encode ⟨0, .ok⟩)).outcome.1
      = .error (.unexpectedId id)) ∧
    (s.handle .empty (ResponseFrame.encode ⟨1, .ok⟩)).outcome
      = (.ok (.acknowledged (some .getStatus)), Store.empty.unchanged) := by
  intro operations s
  have few : operations.countP Session.Operation.isRequest < UInt64.size - 1 := by decide
  have history : (Correspondence.start.run operations).history
      = [.handedOut ⟨1, .getStatus⟩, .forgotten, .handedOut ⟨0, .ping⟩] := rfl
  have first : ResponseFrame.decode (ResponseFrame.encode ⟨0, .ok⟩) = .ok ⟨0, .ok⟩ :=
    ResponseFrame.decode_encode ⟨nofun, nofun, ResponseFrame.nestsWithin_iff.mpr ⟨nofun, nofun⟩⟩
  have second : ResponseFrame.decode (ResponseFrame.encode ⟨1, .ok⟩) = .ok ⟨1, .ok⟩ :=
    ResponseFrame.decode_encode ⟨nofun, nofun, ResponseFrame.nestsWithin_iff.mpr ⟨nofun, nofun⟩⟩
  have matched := (answers_matched_once operations few).2.1
  refine ⟨few, ?_, ?_⟩
  · have refused := (matched .empty _ _ first (by decide)).1.not
    simp only [history, Session.awaits_handedOut, Session.not_awaits_forgotten] at refused
    simpa using refused
  · refine (matched .empty _ _ second (by decide)).2 rfl .getStatus ?_
    rw [history, Session.awaits_handedOut]
    exact Or.inl rfl

end MixerPanel
