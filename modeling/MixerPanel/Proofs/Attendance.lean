import Mathlib.Logic.Relation
import MixerPanel.Proofs.Wiring

/-!
# Whether a lost link is attended to

Once the panel is mounted a page has one link.  If a socket was made for it at once, the link is
tended from then on: of the sockets only the latest can be alive, what is shown is the state of that
socket, and once it is closed there is a timer that leads to another one.  `Tending` is such a page
as far as its wiring goes, and `Tending.Next` is all that can become of it.

If no socket could be made at the start, nothing ever happens to the link again: there is no socket
that could close, no timer that could fire, and what is shown is that the link is being opened.

* `Browser.next_of_step`, `Browser.reaches_of_run` — a tended link stays tended
* `Browser.start_wiring_of_blank` — how a link comes to be tended, or not
* `Browser.run_wiring_cases` — the three ways in which a page can be found
* `attended_unless_refused_at_first` — when a lost link is attended to
-/

namespace MixerPanel

/-- What a link shows when it holds on to a socket in a state. -/
def SocketState.shown : SocketState → ConnectionState
  | connecting => .connecting
  | opened => .connected
  | closed => .disconnected

/-- A page with a link that is tended, as sockets and timers see it. -/
structure Tending where
  /-- The sockets before the latest. -/
  earlier : List WebSocket
  past : ∀ socket ∈ earlier, socket.state = .closed
  latest : WebSocket
  own : latest.owner = 0
  nextId : UInt64
  delay : UInt32

namespace Tending

/-- All sockets, in the order of their making. -/
def sockets (t : Tending) : List WebSocket := t.earlier ++ [t.latest]

/-- There is a timer once the latest socket is closed. -/
def timers (t : Tending) : List Timer := if t.latest.state = .closed then [⟨t.delay, 0⟩] else []

/-- The link. -/
def wire (t : Tending) : Wire := ⟨some t.earlier.length, t.latest.state.shown, t.nextId, t.delay⟩

/-- The wiring of the page. -/
def wiring (t : Tending) : Wiring := ⟨true, [t.wire], t.sockets, t.timers, 1⟩

/-- The link right after a socket was made for it at the start. -/
def first (url : String) (delay : UInt32) : Tending where
  earlier := []
  past _ mem := absurd mem (List.not_mem_nil)
  latest := .connecting url 0
  own := rfl
  nextId := 0
  delay := delay

/-- The latest socket is in another state. -/
def enter (t : Tending) (state : SocketState) : Tending :=
  { t with latest := { t.latest with state := state }, own := t.own }

/-- The latest socket opens, and the full status is asked for over it. -/
def opened (t : Tending) : Tending :=
  { t with
    latest := { t.latest with
      state := .opened
      sent := t.latest.sent ++ [RequestFrame.encode ⟨t.nextId, .getStatus⟩] }
    own := t.own
    nextId := Tracker.successor t.nextId }

/-- The latest socket closes. -/
def closed (t : Tending) : Tending := t.enter .closed

/-- Another socket is made after the latest one has closed. -/
def reopened (t : Tending) (ended : t.latest.state = .closed) (url : String) : Tending :=
  { t with
    earlier := t.sockets
    past := by
      intro socket mem
      rcases List.mem_append.mp mem with mem | mem
      · exact t.past socket mem
      · rw [List.mem_singleton.mp mem, ended]
    latest := .connecting url 0
    own := rfl }

/-- What can become of a tended link. -/
inductive Next : Tending → Tending → Prop
  | same (t : Tending) : Next t t
  | opens (t : Tending) (waiting : t.latest.state = .connecting) : Next t t.opened
  | closes (t : Tending) (alive : t.latest.state ≠ .closed) : Next t t.closed
  | reopens (t : Tending) (ended : t.latest.state = .closed) (url : String) :
      Next t (t.reopened ended url)

/-- What can become of a tended link in the end. -/
def Reaches : Tending → Tending → Prop := Relation.ReflTransGen Next

variable {t : Tending} {socket : WebSocket} {place : Nat}

theorem timers_of_alive (alive : t.latest.state ≠ .closed) : t.timers = [] := if_neg alive

theorem timers_of_closed (ended : t.latest.state = .closed) : t.timers = [⟨t.delay, 0⟩] :=
  if_pos ended

theorem getElem?_latest : t.sockets[t.earlier.length]? = some t.latest := by
  rw [sockets, List.getElem?_append_right (Nat.le_refl _), Nat.sub_self]
  rfl

/-- Only the latest socket can be alive. -/
theorem latest_of_alive (there : t.sockets[place]? = some socket) (alive : socket.state ≠ .closed) :
    place = t.earlier.length ∧ socket = t.latest := by
  rcases Nat.lt_trichotomy place t.earlier.length with before | rfl | after
  · rw [sockets, List.getElem?_append_left before] at there
    exact absurd (t.past socket (List.mem_of_getElem? there)) alive
  · rw [getElem?_latest] at there
    exact ⟨rfl, (Option.some.inj there).symm⟩
  · rw [sockets, List.getElem?_append_right (Nat.le_of_lt after),
      List.getElem?_eq_none (by simp; omega)] at there
    cases there

theorem set_latest (socket : WebSocket) :
    t.sockets.set t.earlier.length socket = t.earlier ++ [socket] := by
  rw [sockets, List.set_append_right _ _ (Nat.le_refl _), Nat.sub_self]
  rfl

end Tending

namespace SocketEvent

variable {state next : SocketState}

theorem after?_opened_eq_some_iff :
    opened.after? state = some next ↔ state = .connecting ∧ next = .opened := by
  cases state <;> simp [after?, eq_comm]

theorem after?_message_eq_some_iff {text : String} :
    (message text).after? state = some next ↔ state = .opened ∧ next = .opened := by
  cases state <;> simp [after?, eq_comm]

theorem after?_binary_eq_some_iff :
    binary.after? state = some next ↔ state = .opened ∧ next = .opened := by
  cases state <;> simp [after?, eq_comm]

theorem after?_closed_eq_some_iff {code : Nat} {reason : String} :
    (closed code reason).after? state = some next ↔ state ≠ .closed ∧ next = .closed := by
  cases state <;> simp [after?, eq_comm]

/-- Nothing happens to a socket that is closed. -/
theorem alive_of_after? {event : SocketEvent} (possible : event.after? state = some next) :
    state ≠ .closed := by
  rintro rfl
  cases event <;> cases possible

end SocketEvent

namespace Browser

variable {b : Browser} {t : Tending}

section Tended

theorem sockets_of_wiring (tended : b.wiring = t.wiring) : b.sockets = t.sockets :=
  congrArg Wiring.sockets tended

theorem timers_of_wiring (tended : b.wiring = t.wiring) : b.timers = t.timers :=
  congrArg Wiring.timers tended

/-- An event of the latest socket reaches the link, which finds the socket in its new state. -/
theorem socketEvent_latest (tended : b.wiring = t.wiring) {place : Option Nat} {event : SocketEvent}
    {state : SocketState} (latest : place.getD (b.sockets.length - 1) = t.earlier.length)
    (possible : event.after? t.latest.state = some state) :
    ∃ page : Browser, page.wiring = { t.wiring with sockets := (t.enter state).sockets } ∧
      (b.step (.socketEvent place event)).browser = page.react 0 event := by
  have sockets := sockets_of_wiring tended
  have there : b.sockets[t.earlier.length]? = some t.latest := by
    rw [sockets, Tending.getElem?_latest]
  let page : Browser :=
    { b with sockets := b.sockets.set t.earlier.length { t.latest with state := state } }
  have held : page.socketOf? t.latest.owner = some t.earlier.length := by
    obtain ⟨link, links, wire⟩ := exists_link (congrArg Wiring.wires tended)
    show b.links[t.latest.owner]?.bind DaemonLink.socket = _
    rw [t.own, links]
    exact congrArg Wire.socket wire
  refine ⟨page, ?_, ?_⟩
  · show { b.wiring with
      sockets := b.sockets.set t.earlier.length { t.latest with state := state } } = _
    rw [tended, sockets, Tending.set_latest]
    rfl
  · show (b.socketEvent place event).1 = page.react 0 event
    have heard : b.socketEvent place event = (page.react t.latest.owner event, .heard) := by
      simp only [socketEvent, latest, there, possible]
      exact if_pos held
    rw [heard, t.own]

theorem react_opened (waiting : t.latest.state = .connecting)
    (entered : b.wiring = { t.wiring with sockets := (t.enter .opened).sockets }) :
    (b.react 0 .opened).wiring = t.opened.wiring := by
  have one : b.wiring.wires = [t.wire] := congrArg Wiring.wires entered
  have sockets : b.sockets = (t.enter .opened).sockets := congrArg Wiring.sockets entered
  have there : b.sockets[t.earlier.length]? = some (t.enter .opened).latest := by
    rw [sockets]
    exact (t.enter .opened).getElem?_latest
  have quiet : t.timers = [] := Tending.timers_of_alive (by rw [waiting]; decide)
  have quietAfter : t.opened.timers = [] := Tending.timers_of_alive nofun
  have replaced := (t.enter .opened).set_latest t.opened.latest
  rw [wiring_react_opened one rfl there rfl, entered, sockets]
  show Wiring.mk true [_] ((t.enter .opened).sockets.set t.earlier.length t.opened.latest)
    t.timers 1 = Wiring.mk true [_] t.opened.sockets t.opened.timers 1
  rw [quiet, quietAfter]
  exact congrArg (fun sockets => Wiring.mk true [t.opened.wire] sockets [] 1) replaced

theorem react_closed (alive : t.latest.state ≠ .closed)
    (entered : b.wiring = { t.wiring with sockets := (t.enter .closed).sockets }) (code : Nat)
    (reason : String) : (b.react 0 (.closed code reason)).wiring = t.closed.wiring := by
  have one : b.wiring.wires = [t.wire] := congrArg Wiring.wires entered
  have timers : b.timers = [] :=
    (congrArg Wiring.timers entered).trans (Tending.timers_of_alive alive)
  have timersAfter : t.closed.timers = [⟨t.delay, 0⟩] := Tending.timers_of_closed rfl
  rw [wiring_react_closed one, timers, entered]
  show _ = Wiring.mk true [t.closed.wire] t.closed.sockets t.closed.timers 1
  rw [timersAfter]
  rfl

theorem next_of_socketEvent (tended : b.wiring = t.wiring) {place : Option Nat}
    {event : SocketEvent} {socket : WebSocket} {state : SocketState}
    (there : b.sockets[place.getD (b.sockets.length - 1)]? = some socket)
    (possible : event.after? socket.state = some state) :
    ∃ next, t.Next next ∧ (b.step (.socketEvent place event)).browser.wiring = next.wiring := by
  obtain ⟨latest, rfl⟩ := t.latest_of_alive (by rw [← sockets_of_wiring tended]; exact there)
    (SocketEvent.alive_of_after? possible)
  obtain ⟨page, entered, reacted⟩ := socketEvent_latest tended latest possible
  rw [reacted]
  -- what carries no change of the state leaves all as it is
  have still : t.latest.state = .opened → state = .opened → page.wiring = t.wiring := by
    intro isOpen remains
    rw [entered, remains, ← isOpen]
    rfl
  cases event with
  | opened =>
      obtain ⟨waiting, rfl⟩ := SocketEvent.after?_opened_eq_some_iff.mp possible
      exact ⟨t.opened, .opens t waiting, react_opened waiting entered⟩
  | message text =>
      obtain ⟨isOpen, remains⟩ := SocketEvent.after?_message_eq_some_iff.mp possible
      exact ⟨t, .same t, Eq.trans (wiring_receive text) (still isOpen remains)⟩
  | binary =>
      obtain ⟨isOpen, remains⟩ := SocketEvent.after?_binary_eq_some_iff.mp possible
      exact ⟨t, .same t, still isOpen remains⟩
  | closed code reason =>
      obtain ⟨alive, rfl⟩ := SocketEvent.after?_closed_eq_some_iff.mp possible
      exact ⟨t.closed, .closes t alive, react_closed alive entered code reason⟩

/-- A timer that fires leads to another socket, or to another timer. -/
theorem next_of_fireTimer (tended : b.wiring = t.wiring) {place : Nat} {timer : Timer}
    (there : b.timers[place]? = some timer) :
    ∃ next, t.Next next ∧ (b.step (.fireTimer place)).browser.wiring = next.wiring := by
  have timers := timers_of_wiring tended
  have ended : t.latest.state = .closed := by
    by_contra alive
    rw [timers, Tending.timers_of_alive alive] at there
    cases there
  obtain ⟨rfl, rfl⟩ : place = 0 ∧ timer = ⟨t.delay, 0⟩ := by
    rw [timers, Tending.timers_of_closed ended, List.getElem?_singleton] at there
    split at there
    next first => exact ⟨first, (Option.some.inj there).symm⟩
    next => cases there
  let page : Browser := { b with timers := [] }
  have fired : (b.step (.fireTimer 0)).browser = page.reconnect 0 := by
    have one : b.timers = [⟨t.delay, 0⟩] := timers.trans (Tending.timers_of_closed ended)
    show (b.fireTimer 0).1 = page.reconnect 0
    simp only [fireTimer, one]
    rfl
  have wiring : page.wiring = { t.wiring with timers := [] } := by rw [← tended]; rfl
  obtain ⟨link, links, wire⟩ := exists_link (congrArg Wiring.wires wiring)
  have delay : link.delay = t.delay := congrArg Wire.delay wire
  rw [fired]
  rcases page.wiring_reconnect links with ⟨-, refused⟩ | ⟨-, accepted⟩
  · refine ⟨t, .same t, ?_⟩
    rw [refused, wiring, wire, delay]
    show Wiring.mk true [⟨_, .disconnected, _, _⟩] t.sockets [⟨t.delay, 0⟩] 1
      = Wiring.mk true [⟨_, t.latest.state.shown, _, _⟩] t.sockets t.timers 1
    rw [Tending.timers_of_closed ended, ended]
    rfl
  · refine ⟨t.reopened ended link.url, .reopens t ended link.url, ?_⟩
    have sockets : page.sockets = t.sockets := congrArg Wiring.sockets wiring
    rw [accepted, wiring, wire, sockets]
    rfl

/-- **A tended link stays tended**, whatever comes from the page. -/
theorem next_of_step (tended : b.wiring = t.wiring) {operation : Operation}
    (ofPage : operation.ofPage = true) :
    ∃ next, t.Next next ∧ (b.step operation).browser.wiring = next.wiring := by
  rcases b.step_wiring_cases ofPage with same | ⟨rfl, unstarted⟩ |
    ⟨place, event, socket, state, rfl, there, possible⟩ | ⟨place, timer, rfl, there⟩
  · exact ⟨t, .same t, same.trans tended⟩
  · have started : b.started = true := congrArg Wiring.started tended
    rw [started] at unstarted
    cases unstarted
  · exact next_of_socketEvent tended there possible
  · exact next_of_fireTimer tended there

theorem reaches_of_run (operations : List Operation)
    (ofPage : ∀ operation ∈ operations, operation.ofPage = true) (tended : b.wiring = t.wiring) :
    ∃ last, t.Reaches last ∧ (b.run operations).wiring = last.wiring := by
  induction operations generalizing b t with
  | nil => exact ⟨t, .refl, tended⟩
  | cons operation rest ih =>
      obtain ⟨next, becomes, tendedNext⟩ :=
        next_of_step tended (ofPage operation List.mem_cons_self)
      obtain ⟨last, reaches, tendedLast⟩ :=
        ih (fun later mem => ofPage later (List.mem_cons_of_mem _ mem)) tendedNext
      exact ⟨last, .head becomes reaches, tendedLast⟩

end Tended

/-! ## Before the panel is mounted, and where no socket can be made -/

/-- The address of the daemon, from the query and the address of the page. -/
def daemonUrl (b : Browser) : String := (Config.ofQuery b.query).1.socketUrl b.protocol b.host

/-- The delay that the query of the page asks for. -/
def reconnectDelay (b : Browser) : UInt32 := (Config.ofQuery b.query).1.reconnectDelay

end Browser

namespace Wiring

/-- A page on which nothing is mounted. -/
def blank (started : Bool) : Wiring := ⟨started, [], [], [], 0⟩

/-- A page with a link that no socket was ever made for, nor ever will be. -/
def abandoned (delay : UInt32) : Wiring := ⟨true, [⟨none, .connecting, 0, delay⟩], [], [], 1⟩

end Wiring

namespace Browser

variable {b : Browser}

section Mounting

/-- **The first attempt decides.** The start of the panel on a page leaves it blank, or abandons the
link at once, or leads to a link that is tended. -/
theorem start_wiring_of_blank (blank : b.wiring = .blank false) :
    b.start.1.wiring = .blank true ∨
    (b.daemonUrl ∈ b.refused ∧ b.start.1.wiring = .abandoned b.reconnectDelay) ∨
    (b.daemonUrl ∉ b.refused ∧
      b.start.1.wiring = (Tending.first b.daemonUrl b.reconnectDelay).wiring) := by
  have unstarted : b.started = false := congrArg Wiring.started blank
  have links : b.links = [] := List.map_eq_nil_iff.mp (congrArg Wiring.wires blank)
  obtain ⟨filter, log, outcome⟩ := b.start_of_unstarted unstarted
  let page : Browser := { b with started := true, filter := filter, log := log }
  have pageBlank : page.wiring = .blank true := by
    show { b.wiring with started := true } = _
    rw [blank]
    rfl
  have pageLinks : page.links = [] := links
  have sockets : page.sockets = [] := congrArg Wiring.sockets pageBlank
  dsimp only at outcome
  split_ifs at outcome with there
  · obtain ⟨app, line, result, -⟩ := outcome
    rw [result, wiring_note]
    rcases page.wiring_mountPanel pageLinks (Config.ofQuery b.query).1
      (Config.ofQuery b.query).1.hostSelector app with ⟨refusal, wiring⟩ | ⟨accepted, wiring⟩
    · refine Or.inr (Or.inl ⟨List.contains_iff_mem.mp refusal, ?_⟩)
      rw [wiring, pageBlank]
      rfl
    · refine Or.inr (Or.inr ⟨fun mem => ?_, ?_⟩)
      · cases accepted.symm.trans (List.contains_iff_mem.mpr mem)
      · rw [wiring, pageBlank, sockets]
        rfl
  · exact Or.inl (by rw [outcome.1]; exact pageBlank)

/-- Nothing ever happens to a link that is abandoned. -/
theorem abandoned_run {delay : UInt32} (operations : List Operation)
    (ofPage : ∀ operation ∈ operations, operation.ofPage = true)
    (abandoned : b.wiring = .abandoned delay) : (b.run operations).wiring = .abandoned delay := by
  induction operations generalizing b with
  | nil => exact abandoned
  | cons operation rest ih =>
      refine ih (fun later mem => ofPage later (List.mem_cons_of_mem _ mem)) ?_
      rcases b.step_wiring_of_empty (ofPage operation List.mem_cons_self)
        (congrArg Wiring.sockets abandoned) (congrArg Wiring.timers abandoned) with
        same | ⟨-, unstarted⟩
      · exact same.trans abandoned
      · have started : b.started = true := congrArg Wiring.started abandoned
        rw [started] at unstarted
        cases unstarted

/-- A page is blank, or there was a start that mounted the panel on it. -/
theorem blank_or_mounted {started : Bool} (operations : List Operation)
    (ofPage : ∀ operation ∈ operations, operation.ofPage = true)
    (blank : b.wiring = .blank started) :
    (∃ started, (b.run operations).wiring = .blank started) ∨
    ∃ before after, operations = before ++ .start :: after ∧
      (b.run before).wiring = .blank false ∧ (b.run before).start.1.wiring ≠ .blank true := by
  induction operations generalizing b started with
  | nil => exact Or.inl ⟨started, blank⟩
  | cons operation rest ih =>
      have continued : ∀ now, (b.step operation).browser.wiring = .blank now →
          (∃ started, (b.run (operation :: rest)).wiring = .blank started) ∨
          ∃ before after, operation :: rest = before ++ .start :: after ∧
            (b.run before).wiring = .blank false ∧
              (b.run before).start.1.wiring ≠ .blank true := by
        intro now blankNow
        rcases ih (fun later mem => ofPage later (List.mem_cons_of_mem _ mem)) blankNow with
          stays | ⟨before, after, rfl, blankThen, mounted⟩
        · exact Or.inl stays
        · exact Or.inr ⟨operation :: before, after, rfl, blankThen, mounted⟩
      rcases b.step_wiring_of_empty (ofPage operation List.mem_cons_self)
        (congrArg Wiring.sockets blank) (congrArg Wiring.timers blank) with same | ⟨rfl, unstarted⟩
      · exact continued started (same.trans blank)
      · obtain rfl : started = false := (congrArg Wiring.started blank).symm.trans unstarted
        by_cases stays : b.start.1.wiring = .blank true
        · exact continued true stays
        · exact Or.inr ⟨[], rest, rfl, blank, stays⟩

theorem run_append (before after : List Operation) :
    b.run (before ++ after) = (b.run before).run after :=
  List.foldl_append

/-- **The three ways in which a page can be found**: blank, or with a link that was abandoned at the
start since its address was refused, or with one that is tended from the start on. -/
theorem run_wiring_cases {started : Bool} (operations : List Operation)
    (ofPage : ∀ operation ∈ operations, operation.ofPage = true)
    (blank : b.wiring = .blank started) :
    (∃ started, (b.run operations).wiring = .blank started) ∨
    ∃ before after, operations = before ++ .start :: after ∧
      (b.run before).wiring = .blank false ∧ (b.run before).start.1.wiring ≠ .blank true ∧
      let page := b.run before
      (page.daemonUrl ∈ page.refused ∧
          (b.run operations).wiring = .abandoned page.reconnectDelay ∨
        page.daemonUrl ∉ page.refused ∧
          ∃ t, (Tending.first page.daemonUrl page.reconnectDelay).Reaches t ∧
            (b.run operations).wiring = t.wiring) := by
  rcases b.blank_or_mounted operations ofPage blank with
    stays | ⟨before, after, rfl, blankThen, mounted⟩
  · exact Or.inl stays
  · have later : ∀ operation ∈ after, operation.ofPage = true := fun operation mem =>
      ofPage operation (List.mem_append_right _ (List.mem_cons_of_mem _ mem))
    have split : b.run (before ++ .start :: after) = ((b.run before).start.1).run after :=
      run_append before (.start :: after)
    refine Or.inr ⟨before, after, rfl, blankThen, mounted, ?_⟩
    rw [split]
    rcases start_wiring_of_blank blankThen with stays | ⟨refusal, abandoned⟩ | ⟨accepted, tended⟩
    · exact absurd stays mounted
    · exact Or.inl ⟨refusal, abandoned_run after later abandoned⟩
    · exact Or.inr ⟨accepted, reaches_of_run after later tended⟩

end Mounting

/-! ## When a lost link is attended to -/

/-- Whether a link is attended to: without a socket that is open or being opened, it is shown as
lost and there is a timer. -/
def Attended (b : Browser) : Prop :=
  b.liveSockets = [] →
    b.context?.map Context.connection = some .disconnected ∧ b.timers ≠ []

/-- Whether a link is left to itself: it is shown as being opened, and there is neither a socket nor
a timer. -/
def Abandoned (b : Browser) : Prop :=
  b.liveSockets = [] ∧ b.timers = [] ∧ b.context?.map Context.connection = some .connecting

section Attendance

theorem connection_eq :
    b.context?.map Context.connection = b.wiring.wires.getLast?.map Wire.connection := by
  show (b.links.getLast?.map DaemonLink.context).map Context.connection
    = (b.links.map DaemonLink.wire).getLast?.map Wire.connection
  rw [List.getLast?_map, Option.map_map, Option.map_map]
  rfl

theorem attended_of_tended {t : Tending} (tended : b.wiring = t.wiring) : b.Attended := by
  intro quiet
  have ended : t.latest.state = .closed := by
    by_contra alive
    have mem : t.latest ∈ b.liveSockets := by
      refine List.mem_filter.mpr ⟨?_, ?_⟩
      · rw [sockets_of_wiring tended]
        exact List.mem_append_right _ (List.mem_singleton.mpr rfl)
      · show (t.latest.state != .closed) = true
        exact bne_iff_ne.mpr alive
    rw [quiet] at mem
    cases mem
  refine ⟨?_, ?_⟩
  · rw [connection_eq, tended]
    show some t.latest.state.shown = _
    rw [ended]
    rfl
  · rw [timers_of_wiring tended, Tending.timers_of_closed ended]
    exact List.cons_ne_nil _ _

theorem abandoned_of_wiring {delay : UInt32} (abandoned : b.wiring = .abandoned delay) :
    b.Abandoned := by
  have sockets : b.sockets = [] := congrArg Wiring.sockets abandoned
  refine ⟨?_, congrArg Wiring.timers abandoned, ?_⟩
  · show b.sockets.filter WebSocket.isLive = []
    rw [sockets]
    rfl
  · rw [connection_eq, abandoned]
    rfl

end Attendance

end Browser

/-- A page with the element that the panel is mounted on, and no query. -/
def Browser.plain (refused : List String) : Browser :=
  .fresh "http:" "localhost:14564" [] "" ⟨["#app"], [], []⟩ refused

/-- **A lost link is attended to unless its address was refused when the panel was mounted.** Once
the panel is mounted, the link is shown as lost and a timer is set in every state in which no socket
is open or being opened, provided that a socket could be made at the start that mounted the panel.
Otherwise the link is left to itself in every state. -/
theorem attended_unless_refused_at_first (protocol host : String) (query : List (String × String))
    (hash : String) (elements : Elements) (refused : List String)
    (operations : List Browser.Operation)
    (ofPage : ∀ operation ∈ operations, operation.ofPage = true) :
    let fresh := Browser.fresh protocol host query hash elements refused
    (fresh.run operations).roots ≠ [] →
    ∃ before after, operations = before ++ .start :: after ∧
      (fresh.run before).roots = [] ∧ (fresh.run (before ++ [.start])).roots ≠ [] ∧
      let page := fresh.run before
      (page.daemonUrl ∉ page.refused → (fresh.run operations).Attended) ∧
      (page.daemonUrl ∈ page.refused → (fresh.run operations).Abandoned) := by
  intro fresh mounted
  rcases fresh.run_wiring_cases operations ofPage (show fresh.wiring = .blank false from rfl) with
    ⟨started, blank⟩ | ⟨before, after, split, blank, mountedThen, outcome⟩
  · exact absurd (List.length_eq_zero_iff.mp (congrArg Wiring.roots blank)) mounted
  · refine ⟨before, after, split, List.length_eq_zero_iff.mp (congrArg Wiring.roots blank), ?_, ?_⟩
    · rw [Browser.run_append]
      show (fresh.run before).start.1.roots ≠ []
      have shown : (fresh.run before).start.1.roots.length = 1 := by
        rcases Browser.start_wiring_of_blank blank with stays | ⟨-, wiring⟩ | ⟨-, wiring⟩
        · exact absurd stays mountedThen
        · exact congrArg Wiring.roots wiring
        · exact congrArg Wiring.roots wiring
      exact List.ne_nil_of_length_pos (by rw [shown]; exact Nat.one_pos)
    · intro page
      rcases outcome with ⟨refusal, abandoned⟩ | ⟨accepted, t, -, tended⟩
      · exact ⟨fun accepted => absurd refusal accepted,
          fun _ => Browser.abandoned_of_wiring abandoned⟩
      · exact ⟨fun _ => Browser.attended_of_tended tended,
          fun refusal => absurd refusal accepted⟩

/-- A socket that closes before it opens leaves a link that waits. -/
theorem closed_at_once_is_attended :
    let page := (Browser.plain []).run [.start, .socketEvent none (.closed 1006 "")]
    page.roots ≠ [] ∧ page.liveSockets = [] ∧
      page.context?.map Context.connection = some .disconnected ∧ page.timers ≠ [] := by
  intro page
  have mounted : page.roots ≠ [] := by decide
  have quiet : page.liveSockets = [] := by decide
  obtain ⟨before, after, split, -, -, attended, -⟩ :=
    attended_unless_refused_at_first "http:" "localhost:14564" [] "" ⟨["#app"], [], []⟩ []
      [.start, .socketEvent none (.closed 1006 "")] (by decide) mounted
  -- the only start is the first operation
  obtain rfl : before = [] := by
    rcases before with _ | ⟨first, _ | ⟨second, rest⟩⟩
    · rfl
    · cases split
    · have short := congrArg List.length split
      simp at short
  exact ⟨mounted, quiet, attended (List.not_mem_nil) quiet⟩

/-- An address that is refused at the first attempt: the link is shown as being opened for good. -/
theorem refused_at_first_is_unattended :
    let page := (Browser.plain ["ws://localhost:14564/api/websocket"]).run [.start]
    page.roots ≠ [] ∧ ¬ page.Attended := by
  intro page
  have quiet : page.liveSockets = [] := by decide
  have timers : page.timers = [] := by decide
  exact ⟨by decide, fun attended => (attended quiet).2 timers⟩

end MixerPanel
