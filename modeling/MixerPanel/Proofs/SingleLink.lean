import MixerPanel.Proofs.Answers
import MixerPanel.Proofs.Attendance

/-!
# One link, asked once

A page never has two links at a time: of the sockets that are open or being opened and the timers
that lead to another one there is at most one in all.  Over a socket that opens the full status is
asked for, once and at that moment, and nothing else is ever sent over it.

The ids of the requests go on from socket to socket.  The texts that were sent from a page are the
requests with the numbers `0`, `1`, `2` and so on, in this order, and as long as the ids do not
start anew no two of them are the same.

* `RequestFrame.id_eq_of_encode_eq` — the text of a request tells its id
* `WebSocket.Asked` — what was asked over a socket
* `Tending.Counts` — how many requests were sent, and which
* `Tending.opens_of_next` — how a socket comes to be open
* `single_link` — what that means for a page
-/

namespace MixerPanel

namespace RequestFrame

theorem toList_encode (frame : RequestFrame) :
    ∃ rest, frame.encode.toList
      = ['\x7b', '"', 'i', 'd', '"', ':'] ++ (Nat.toDigits 10 frame.id.toNat ++ ',' :: rest) := by
  let rest := Json.membersToChars [("data", frame.data.toJson)] ++ ['\x7d']
  have written : frame.toJson.toChars
      = ['\x7b', '"', 'i', 'd', '"', ':'] ++ (Nat.toDigits 10 frame.id.toNat ++ ',' :: rest) := by
    show '\x7b' :: (Json.Quotation.write "id" ++ ':' :: Nat.toDigits 10 frame.id.toNat ++
      ',' :: Json.membersToChars [("data", frame.data.toJson)]) ++ ['\x7d'] = _
    have key : Json.Quotation.write "id" = ['"', 'i', 'd', '"'] := by decide
    simp only [key, rest, List.cons_append, List.nil_append, List.append_assoc]
  refine ⟨rest, ?_⟩
  show (String.ofList frame.toJson.toChars).toList = _
  rw [String.toList_ofList, written]

/-- **The text of a request tells its id**: the digits up to the first comma. -/
theorem id_eq_of_encode_eq {frame other : RequestFrame} (same : frame.encode = other.encode) :
    frame.id = other.id := by
  have digits : ∀ f : RequestFrame,
      (f.encode.toList.drop 6).takeWhile Char.isDigit = Nat.toDigits 10 f.id.toNat := by
    intro f
    obtain ⟨rest, text⟩ := f.toList_encode
    rw [text]
    show (Nat.toDigits 10 f.id.toNat ++ ',' :: rest).takeWhile Char.isDigit = _
    rw [List.takeWhile_append_of_pos fun c mem =>
      Nat.isDigit_of_mem_toDigits (by decide) (by decide) mem]
    exact List.append_nil _
  have ids : frame.id.toNat = other.id.toNat := by
    rw [← Nat.ofDigitChars_toDigits (b := 10) (n := frame.id.toNat) (by decide) (by decide),
      ← digits frame, same, digits other, Nat.ofDigitChars_toDigits (by decide) (by decide)]
  exact UInt64.toNat_inj.mp ids

end RequestFrame

namespace Tracker

/-- The id of the request with a number, when requests are numbered from zero. -/
def nthId : Nat → UInt64
  | 0 => 0
  | n + 1 => successor (nthId n)

theorem toNat_nthId {n : Nat} (few : n < UInt64.size - 1) : (nthId n).toNat = n := by
  induction n with
  | zero => rfl
  | succ n ih =>
      have before : (nthId n).toNat = n := ih (Nat.lt_of_succ_lt few)
      show (successor (nthId n)).toNat = n + 1
      rw [toNat_successor (by rw [before]; exact few), before]

end Tracker

/-- The text of the request with a number, when the full status is all that is asked for. -/
def statusRequest (n : Nat) : String := RequestFrame.encode ⟨Tracker.nthId n, .getStatus⟩

theorem statusRequest_ne {n number : Nat} (few : n < UInt64.size - 1) (earlier : number < n)
    (data : Request) : statusRequest number ≠ RequestFrame.encode ⟨Tracker.nthId n, data⟩ := by
  intro same
  have ids : Tracker.nthId number = Tracker.nthId n := RequestFrame.id_eq_of_encode_eq same
  have numbers := congrArg UInt64.toNat ids
  rw [Tracker.toNat_nthId (Nat.lt_trans earlier few), Tracker.toNat_nthId few] at numbers
  exact Nat.ne_of_lt earlier numbers

/-- Whether over a socket the full status was asked for once, unless it never opened, and nothing
else. -/
def WebSocket.Asked (s : WebSocket) : Prop :=
  match s.state with
  | .connecting => s.sent = []
  | .opened => ∃ id, s.sent = [RequestFrame.encode ⟨id, .getStatus⟩]
  | .closed => s.sent = [] ∨ ∃ id, s.sent = [RequestFrame.encode ⟨id, .getStatus⟩]

namespace WebSocket

variable {s : WebSocket}

theorem Asked.closed (asked : s.Asked) : ({ s with state := .closed } : WebSocket).Asked := by
  show s.sent = [] ∨ ∃ id, s.sent = [RequestFrame.encode ⟨id, .getStatus⟩]
  unfold Asked at asked
  split at asked
  · exact Or.inl asked
  · exact Or.inr asked
  · exact asked

theorem Asked.sent_of_connecting (asked : s.Asked) (waiting : s.state = .connecting) :
    s.sent = [] := by
  unfold Asked at asked
  rw [waiting] at asked
  exact asked

end WebSocket

namespace Tending

variable {t later : Tending} {n : Nat}

/-! ## What is sent -/

/-- How many requests were sent: the ids go on from there, the texts are those requests in order,
and each was sent when its socket opened. -/
structure Counts (t : Tending) (n : Nat) : Prop where
  nextId : t.nextId = Tracker.nthId n
  texts : t.sockets.flatMap WebSocket.sent = (List.range n).map statusRequest
  asked : ∀ socket ∈ t.sockets, socket.Asked

theorem flatMap_sent : t.sockets.flatMap WebSocket.sent
    = t.earlier.flatMap WebSocket.sent ++ t.latest.sent := by
  rw [sockets, List.flatMap_append, List.flatMap_singleton]

theorem Counts.latest (counts : t.Counts n) : t.latest.Asked :=
  counts.asked _ (List.mem_append_right _ (List.mem_singleton.mpr rfl))

theorem asked_sockets (before : ∀ socket ∈ t.earlier, socket.Asked) (latest : t.latest.Asked) :
    ∀ socket ∈ t.sockets, socket.Asked := by
  intro socket mem
  rcases List.mem_append.mp mem with mem | mem
  · exact before socket mem
  · rw [List.mem_singleton.mp mem]
    exact latest

theorem counts_first (url : String) (delay : UInt32) : (first url delay).Counts 0 where
  nextId := rfl
  texts := rfl
  asked := asked_sockets (fun _ mem => absurd mem List.not_mem_nil) rfl

/-- The request that is sent when a socket opens is the next one. -/
theorem Counts.sent_opened (counts : t.Counts n) (waiting : t.latest.state = .connecting) :
    t.opened.latest.sent = [statusRequest n] := by
  show t.latest.sent ++ [RequestFrame.encode ⟨t.nextId, .getStatus⟩] = _
  rw [counts.latest.sent_of_connecting waiting, counts.nextId]
  rfl

theorem Counts.texts_opened (counts : t.Counts n) (waiting : t.latest.state = .connecting) :
    t.opened.sockets.flatMap WebSocket.sent
      = t.sockets.flatMap WebSocket.sent ++ [statusRequest n] := by
  rw [flatMap_sent, flatMap_sent, counts.latest.sent_of_connecting waiting,
    counts.sent_opened waiting, List.append_nil]
  rfl

theorem Counts.opened (counts : t.Counts n) (waiting : t.latest.state = .connecting) :
    t.opened.Counts (n + 1) where
  nextId := by
    show Tracker.successor t.nextId = Tracker.successor (Tracker.nthId n)
    rw [counts.nextId]
  texts := by
    rw [counts.texts_opened waiting, counts.texts, List.range_succ, List.map_append]
    rfl
  asked := by
    refine asked_sockets (fun socket mem => counts.asked socket (List.mem_append_left _ mem)) ?_
    exact ⟨Tracker.nthId n, counts.sent_opened waiting⟩

theorem Counts.closed (counts : t.Counts n) : t.closed.Counts n where
  nextId := counts.nextId
  texts := by
    rw [← counts.texts, flatMap_sent, flatMap_sent]
    rfl
  asked := asked_sockets (fun socket mem => counts.asked socket (List.mem_append_left _ mem))
    counts.latest.closed

theorem Counts.reopened (counts : t.Counts n) (ended : t.latest.state = .closed) (url : String) :
    (t.reopened ended url).Counts n where
  nextId := counts.nextId
  texts := by
    rw [flatMap_sent]
    exact (List.append_nil _).trans counts.texts
  asked := asked_sockets counts.asked rfl

theorem Counts.of_next (counts : t.Counts n) (becomes : t.Next later) :
    ∃ m, later.Counts m := by
  cases becomes with
  | same => exact ⟨n, counts⟩
  | opens waiting => exact ⟨n + 1, counts.opened waiting⟩
  | closes alive => exact ⟨n, counts.closed⟩
  | reopens ended url => exact ⟨n, counts.reopened ended url⟩

theorem Counts.of_reaches (counts : t.Counts n) (reaches : t.Reaches later) :
    ∃ m, later.Counts m := by
  induction reaches with
  | refl => exact ⟨n, counts⟩
  | tail _ becomes ih =>
      obtain ⟨m, before⟩ := ih
      exact before.of_next becomes

/-! ## How a socket comes to be open -/

/-- A socket that was not open and is open after a step is the latest one, and it was that socket
that opened. -/
theorem opens_of_next {place : Nat} {before after : WebSocket} (becomes : t.Next later)
    (there : t.sockets[place]? = some before) (unopened : before.state ≠ .opened)
    (thereAfter : later.sockets[place]? = some after) (opened : after.state = .opened) :
    t.latest.state = .connecting ∧ later = t.opened ∧ before = t.latest ∧
      after = t.opened.latest := by
  have alive : after.state ≠ .closed := by
    rw [opened]
    exact nofun
  obtain ⟨atLatest, rfl⟩ := later.latest_of_alive thereAfter alive
  cases becomes with
  | same =>
      rw [atLatest, getElem?_latest] at there
      rw [← Option.some.inj there] at unopened
      exact absurd opened unopened
  | opens waiting =>
      have sameLatest : t.sockets[t.earlier.length]? = some before := atLatest ▸ there
      rw [getElem?_latest] at sameLatest
      exact ⟨waiting, rfl, (Option.some.inj sameLatest).symm, rfl⟩
  | closes _ => cases opened
  | reopens ended url => cases opened

/-- Either the latest socket is alive, or there is a timer. -/
theorem live_add_timers (t : Tending) :
    (t.sockets.filter WebSocket.isLive).length + t.timers.length = 1 := by
  have past : t.earlier.filter WebSocket.isLive = [] := by
    refine List.filter_eq_nil_iff.mpr fun socket mem => ?_
    show ¬ (socket.state != .closed) = true
    rw [t.past socket mem]
    decide
  rw [sockets, List.filter_append, past, List.nil_append]
  by_cases ended : t.latest.state = .closed
  · have dead : ¬ t.latest.isLive = true := by
      show ¬ (t.latest.state != .closed) = true
      rw [ended]
      decide
    rw [timers_of_closed ended, List.filter_cons_of_neg dead]
    rfl
  · have alive : t.latest.isLive = true := bne_iff_ne.mpr ended
    rw [timers_of_alive ended, List.filter_cons_of_pos alive]
    rfl

end Tending

namespace Browser

theorem empty_or_counted {b : Browser} {started : Bool} (operations : List Operation)
    (ofPage : ∀ operation ∈ operations, operation.ofPage = true)
    (blank : b.wiring = .blank started) :
    ((b.run operations).sockets = [] ∧ (b.run operations).timers = []) ∨
    ∃ (t : Tending) (n : Nat), t.Counts n ∧ (b.run operations).wiring = t.wiring := by
  rcases run_wiring_cases operations ofPage blank with
    ⟨started, blank⟩ | ⟨before, after, -, -, -, ⟨-, abandoned⟩ | ⟨-, t, reaches, tended⟩⟩
  · exact Or.inl ⟨congrArg Wiring.sockets blank, congrArg Wiring.timers blank⟩
  · exact Or.inl ⟨congrArg Wiring.sockets abandoned, congrArg Wiring.timers abandoned⟩
  · obtain ⟨n, counts⟩ := (Tending.counts_first _ _).of_reaches reaches
    exact Or.inr ⟨t, n, counts, tended⟩

/-- All texts that were sent from a page. -/
def texts (b : Browser) : List String := b.sockets.flatMap WebSocket.sent

end Browser

/-- **A page has one link at most, and asks for the status once on each opening.**  The sockets that
are open or being opened and the timers are one at most.  Over a socket nothing is sent before it
opens, and after that the full status was asked for once.  In any step by which a socket comes to be
open, that request is all that is sent from the page, and its id is new as long as the ids do not
start anew. -/
theorem single_link (protocol host : String) (query : List (String × String)) (hash : String)
    (elements : Elements) (refused : List String) (operations : List Browser.Operation)
    (ofPage : ∀ operation ∈ operations, operation.ofPage = true) :
    let page := (Browser.fresh protocol host query hash elements refused).run operations
    page.liveSockets.length + page.timers.length ≤ 1 ∧
    (∀ socket ∈ page.sockets, socket.Asked) ∧
    ∀ operation : Browser.Operation, operation.ofPage = true →
    ∀ (place : Nat) (before after : WebSocket),
      page.sockets[place]? = some before → before.state ≠ .opened →
      (page.step operation).browser.sockets[place]? = some after → after.state = .opened →
      ∃ id, before.sent = [] ∧ after.sent = [RequestFrame.encode ⟨id, .getStatus⟩] ∧
        (page.step operation).browser.texts
          = page.texts ++ [RequestFrame.encode ⟨id, .getStatus⟩] ∧
        (page.texts.length < UInt64.size - 1 →
          ∀ data, RequestFrame.encode ⟨id, data⟩ ∉ page.texts) := by
  intro page
  rcases Browser.empty_or_counted operations ofPage
    (show (Browser.fresh protocol host query hash elements refused).wiring = .blank false from rfl)
    with ⟨sockets, timers⟩ | ⟨t, n, counts, tended⟩
  · have none : page.sockets = [] := sockets
    refine ⟨?_, ?_, ?_⟩
    · show (page.sockets.filter WebSocket.isLive).length + page.timers.length ≤ 1
      rw [none, show page.timers = [] from timers]
      exact Nat.zero_le 1
    · intro socket mem
      rw [none] at mem
      cases mem
    · intro operation _ place before after there
      rw [none] at there
      cases there
  · have sockets : page.sockets = t.sockets := Browser.sockets_of_wiring tended
    have texts : page.texts = t.sockets.flatMap WebSocket.sent :=
      congrArg (List.flatMap WebSocket.sent) sockets
    refine ⟨?_, ?_, ?_⟩
    · show (page.sockets.filter WebSocket.isLive).length + page.timers.length ≤ 1
      rw [sockets, Browser.timers_of_wiring tended]
      exact Nat.le_of_eq t.live_add_timers
    · rw [sockets]
      exact counts.asked
    · intro operation operationOfPage place before after there unopened thereAfter opened
      obtain ⟨later, becomes, tendedLater⟩ := Browser.next_of_step tended operationOfPage
      have socketsLater := Browser.sockets_of_wiring tendedLater
      rw [sockets] at there
      rw [socketsLater] at thereAfter
      obtain ⟨waiting, rfl, rfl, rfl⟩ :=
        Tending.opens_of_next becomes there unopened thereAfter opened
      refine ⟨Tracker.nthId n, counts.latest.sent_of_connecting waiting,
        counts.sent_opened waiting, ?_, ?_⟩
      · show (page.step operation).browser.sockets.flatMap WebSocket.sent = _
        rw [socketsLater, counts.texts_opened waiting, texts]
        rfl
      · intro few data mem
        rw [texts, counts.texts] at mem few
        obtain ⟨number, earlier, same⟩ := List.mem_map.mp mem
        rw [List.length_map, List.length_range] at few
        exact statusRequest_ne few (List.mem_range.mp earlier) data same

/-- A link that was lost asks for the status anew, under another id. -/
theorem reopened_link_asks_anew :
    let page := (Browser.plain []).run
      [.start, .socketEvent none .opened, .socketEvent none (.closed 1006 ""), .fireTimer 0]
    page.texts.length = 1 ∧
    ∃ id, (page.step (.socketEvent none .opened)).browser.texts
        = page.texts ++ [RequestFrame.encode ⟨id, .getStatus⟩] ∧
      RequestFrame.encode ⟨id, .getStatus⟩ ∉ page.texts := by
  intro page
  have once : page.texts.length = 1 := by decide
  let waiting : WebSocket := .connecting "ws://localhost:14564/api/websocket" 0
  let opened : WebSocket :=
    { waiting with state := .opened, sent := [RequestFrame.encode ⟨1, .getStatus⟩] }
  have before : page.sockets[1]? = some waiting := by decide
  have after : (page.step (.socketEvent none .opened)).browser.sockets[1]? = some opened := by
    decide
  obtain ⟨-, -, opening⟩ := single_link "http:" "localhost:14564" [] "" ⟨["#app"], [], []⟩ []
    [.start, .socketEvent none .opened, .socketEvent none (.closed 1006 ""), .fireTimer 0]
    (by decide)
  obtain ⟨id, -, -, texts, unused⟩ :=
    opening (.socketEvent none .opened) rfl 1 waiting opened before nofun after rfl
  refine ⟨once, id, texts, unused ?_ .getStatus⟩
  show page.texts.length < _
  rw [once]
  decide

end MixerPanel
