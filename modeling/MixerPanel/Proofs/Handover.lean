import MixerPanel.Proofs.Board

/-!
# What is outstanding was handed over

A link counts a request as outstanding from the moment it is made.  Whether the request reaches the
socket is decided after that, and whatever is decided, the entry stays.  So that an outstanding
request was handed to the socket that the link holds on to, after that socket had opened, is a
matter of what the link is made to do:

* a request that is sent by hand before the socket has opened, or without a socket, is outstanding
  though nobody got it;
* a socket that is made by hand while requests are outstanding takes over what was handed to another
  one.

Nothing else goes wrong, and where no link is driven by hand neither of the two happens.

* `Browser.OpenedIn`, `Browser.HandedOver` — what a run has handed to the socket that is held
* `Browser.GoesAstray` — one of the two happens
* `Browser.handedOver_of_not_goesAstray`, `Browser.not_goesAstray_of_handedOver` — that is all
* `Browser.open_of_outstanding` — where no link is driven by hand, requests are outstanding only
  while a socket is open
* `outstanding_handed_over_unless_astray` — the whole
-/

namespace MixerPanel

namespace Session

/-- What is outstanding after an operation was so before, or is the request that is made. -/
theorem mem_outstanding_step {s : Session} {operation : Operation} {entry : UInt64 × Request}
    (mem : entry ∈ (s.step operation).tracker.outstanding) :
    entry ∈ s.tracker.outstanding ∨
      ∃ data, operation = .request data ∧ entry = (s.tracker.nextId, data) := by
  cases operation with
  | request data =>
      rcases List.mem_cons.mp mem with rfl | old
      · exact Or.inr ⟨data, rfl, rfl⟩
      · exact Or.inl (List.mem_of_mem_filter old)
  | handle store text =>
      refine Or.inl ?_
      have after : s.step (.handle store text) = ((s.taken? text).map s.answered).getD s :=
        s.session_handle store text
      rw [after] at mem
      cases taken : s.taken? text with
      | none =>
          rw [taken] at mem
          exact mem
      | some frame =>
          rw [taken, Option.map_some, Option.getD_some, answered] at mem
          split_ifs at mem
          · exact mem
          · exact List.mem_of_mem_filter mem
  | reset => cases mem

theorem mem_outstanding_request (s : Session) (data : Request) :
    (s.tracker.nextId, data) ∈ (s.step (.request data)).tracker.outstanding :=
  List.mem_cons_self

end Session

namespace Browser

section Definitions

variable (b : Browser) (i : Nat)

/-- The requests that are outstanding over the link at a place. -/
def outstanding : List (UInt64 × Request) := (b.sessionAt i).tracker.outstanding

/-- The socket at a place was open at some time of a run. -/
def OpenedIn (k : Nat) (operations : List Operation) : Prop :=
  ∃ earlier, earlier <+: operations ∧
    (b.run earlier).sockets[k]?.map WebSocket.state = some .opened

/-- In a run a request was made over the link at a place, and its frame was handed to the socket
that the link holds on to at the end.  That socket had opened, and took the frame without an error,
as a socket does that is not being opened. -/
def HandedOver (operations : List Operation) (frame : RequestFrame) : Prop :=
  ∃ before operation k,
    before ++ [operation] <+: operations ∧
    (b.run before).dealing? i operation = some (.request frame.data) ∧
    ((b.run before).sessionAt i).tracker.nextId = frame.id ∧
    (b.run (before ++ [operation])).socketOf? i = some k ∧
    (b.run operations).socketOf? i = some k ∧
    b.OpenedIn k (before ++ [operation]) ∧
    ∃ socket, (b.run (before ++ [operation])).sockets[k]? = some socket ∧
      socket.state ≠ .connecting

/-- In a run a request was sent by hand over the link at a place before the socket that it held on
to had opened, if it held on to one at all, or another socket was made for the link while requests
were outstanding. -/
def GoesAstray (operations : List Operation) : Prop :=
  ∃ before operation, before ++ [operation] <+: operations ∧
    ((∃ data, operation = .send i data ∧ i < (b.run before).links.length ∧
        ∀ k, (b.run before).socketOf? i = some k → ¬ b.OpenedIn k before) ∨
      ((b.run (before ++ [operation])).socketOf? i ≠ (b.run before).socketOf? i ∧
        (b.run before).outstanding i ≠ []))

end Definitions

/-! ## One operation more -/

section OneMore

variable {b : Browser} {i k : Nat} {operations : List Operation} {operation : Operation}

theorem run_concat (b : Browser) (operations : List Operation) (operation : Operation) :
    b.run (operations ++ [operation]) = ((b.run operations).step operation).browser :=
  b.run_append operations [operation]

theorem OpenedIn.mono {later : List Operation} (opened : b.OpenedIn k operations)
    (longer : operations <+: later) : b.OpenedIn k later := by
  obtain ⟨earlier, begins, isOpen⟩ := opened
  exact ⟨earlier, begins.trans longer, isOpen⟩

/-- A socket that has opened is there, and not being opened any more. -/
theorem OpenedIn.state (opened : b.OpenedIn k operations) :
    ∃ socket, (b.run operations).sockets[k]? = some socket ∧ socket.state ≠ .connecting := by
  obtain ⟨earlier, ⟨rest, rfl⟩, isOpen⟩ := opened
  have begun : ∃ state, (b.run earlier).board.states[k]? = some state ∧ state ≠ .connecting :=
    ⟨.opened, (states_board _ k).trans isOpen, nofun⟩
  rw [run_append]
  generalize b.run earlier = page at begun
  obtain ⟨state, there, begun⟩ : ∃ state, (page.run rest).board.states[k]? = some state ∧
      state ≠ .connecting := by
    clear isOpen
    induction rest generalizing page with
    | nil => exact begun
    | cons operation rest ih =>
        obtain ⟨state, there, begun⟩ := begun
        exact ih _ ((board_step operation).state there begun)
  rw [states_board] at there
  obtain ⟨socket, isSocket, rfl⟩ := Option.map_eq_some_iff.mp there
  exact ⟨socket, isSocket, begun⟩

/-- What is handed over stays so while the link holds on to its socket. -/
theorem HandedOver.concat {frame : RequestFrame} (handed : b.HandedOver i operations frame)
    (held : (b.run (operations ++ [operation])).socketOf? i = (b.run operations).socketOf? i) :
    b.HandedOver i (operations ++ [operation]) frame := by
  obtain ⟨before, made, k, begins, request, id, holds, holdsStill, opened, taken⟩ := handed
  exact ⟨before, made, k, begins.trans (List.prefix_append _ _), request, id, holds,
    held.trans holdsStill, opened, taken⟩

/-- An operation that has to do with a session is a request by hand, or an event that is heard. -/
theorem dealing?_cases {page : Browser} {dealing : Session.Operation}
    (deals : page.dealing? i operation = some dealing) :
    (∃ data, operation = .send i data ∧ i < page.links.length ∧ dealing = .request data) ∨
    ∃ place event, ∃ link : DaemonLink, operation = .socketEvent place event ∧
      page.hearer? place event = some i ∧ link.dealing? event = some dealing := by
  cases operation with
  | send link data =>
      simp only [dealing?, Option.ite_none_right_eq_some, Option.map_eq_some_iff] at deals
      obtain ⟨rfl, found, there, rfl⟩ := deals
      exact Or.inl ⟨data, rfl, (List.getElem?_eq_some_iff.mp there).1, rfl⟩
  | socketEvent place event =>
      simp only [dealing?, Option.ite_none_right_eq_some, Option.bind_eq_some_iff] at deals
      obtain ⟨heard, link, -, deals⟩ := deals
      exact Or.inr ⟨place, event, link, rfl, heard, deals⟩
  | start => cases deals
  | addLink url delay => cases deals
  | connect link => cases deals
  | fireTimer place => cases deals
  | setElements elements => cases deals
  | setRefused urls => cases deals
  | setHash hash => cases deals
  | choose serial => cases deals
  | render component => cases deals

/-- A request is made by hand, or when a socket opens. -/
theorem request_cases {page : Browser} {data : Request}
    (deals : page.dealing? i operation = some (.request data)) :
    (operation = .send i data ∧ i < page.links.length) ∨
      ∃ place, operation = .socketEvent place .opened ∧ page.hearer? place .opened = some i := by
  rcases dealing?_cases deals with
    ⟨_, rfl, inside, isRequest⟩ | ⟨place, event, link, rfl, heard, deals⟩
  · cases isRequest
    exact Or.inl ⟨rfl, inside⟩
  · cases event with
    | opened => exact Or.inr ⟨place, rfl, heard⟩
    | message text => cases deals
    | binary => cases deals
    | closed code reason => cases deals

theorem socketOf?_socketEvent (page : Browser) (place : Option Nat) (event : SocketEvent) :
    (page.step (.socketEvent place event)).browser.socketOf? i = page.socketOf? i := by
  rw [← held_board, ← held_board]
  show (page.socketEvent place event).1.board.held i = _
  rcases page.board_socketEvent place event with same | ⟨before, after, -, -, moved⟩
  · rw [same]
  · rw [moved]
    rfl

/-- Requests and events do not make a link let go of its socket. -/
theorem socketOf?_of_dealing {page : Browser} {dealing : Session.Operation}
    (deals : page.dealing? i operation = some dealing) :
    (page.step operation).browser.socketOf? i = page.socketOf? i := by
  rcases dealing?_cases deals with ⟨data, rfl, -, -⟩ | ⟨place, event, link, rfl, -, -⟩
  · rw [← held_board, ← held_board]
    show (page.send i data).1.board.held i = _
    rw [board_send]
  · exact socketOf?_socketEvent page place event

/-- A link hears of the socket that it holds on to. -/
theorem held_of_hearer {page : Browser} {place : Option Nat} {event : SocketEvent}
    (heard : page.hearer? place event = some i) :
    page.socketOf? i = some (place.getD (page.sockets.length - 1)) := by
  cases there : page.sockets[place.getD (page.sockets.length - 1)]? with
  | none => simp [hearer?, there] at heard
  | some socket =>
      simp only [hearer?, there, Option.ite_none_right_eq_some, Option.some.injEq] at heard
      obtain ⟨⟨-, held⟩, rfl⟩ := heard
      exact held

/-- A socket of whose event its link hears is in the state that the event leads to. -/
theorem state_of_hearer {page : Browser} {place : Option Nat} {event : SocketEvent}
    (heard : page.hearer? place event = some i) :
    ∃ before after, event.after? before = some after ∧
      (page.step (.socketEvent place event)).browser.sockets[
        place.getD (page.sockets.length - 1)]?.map WebSocket.state = some after := by
  obtain ⟨socket, state, link, there, possible, -, outcome⟩ := socketEvent_of_hearer heard
  refine ⟨socket.state, state, possible, ?_⟩
  have board : (page.socketEvent place event).1.board
      = (page.setSocket (place.getD (page.sockets.length - 1))
          { socket with state := state }).board := by
    rw [outcome]
    exact board_react event
  obtain ⟨inside, -⟩ := List.getElem?_eq_some_iff.mp there
  show (page.socketEvent place event).1.sockets[_]?.map WebSocket.state = _
  rw [← states_board, board, states_board, setSocket, List.getElem?_set_self inside]
  rfl

/-- A link that goes on after an event of its socket holds on to an open one. -/
theorem opened_of_hearer {page : Browser} {place : Option Nat} {event : SocketEvent}
    (heard : page.hearer? place event = some i)
    (lasts : ∀ code reason, event ≠ .closed code reason) :
    (page.step (.socketEvent place event)).browser.sockets[
      place.getD (page.sockets.length - 1)]?.map WebSocket.state = some .opened := by
  obtain ⟨before, after, possible, isAfter⟩ := state_of_hearer heard
  have isOpen : after = .opened := by
    cases event with
    | opened => exact (SocketEvent.after?_opened_eq_some_iff.mp possible).2
    | message text => exact (SocketEvent.after?_message_eq_some_iff.mp possible).2
    | binary => exact (SocketEvent.after?_binary_eq_some_iff.mp possible).2
    | closed code reason => exact absurd rfl (lasts code reason)
  rw [isAfter, isOpen]

/-- **A request is handed over** if it is not sent by hand before the socket has opened. -/
theorem handedOver_of_request {data : Request}
    (deals : (b.run operations).dealing? i operation = some (.request data))
    (opened : operation = .send i data →
      ∃ k, (b.run operations).socketOf? i = some k ∧ b.OpenedIn k operations) :
    b.HandedOver i (operations ++ [operation])
      ⟨((b.run operations).sessionAt i).tracker.nextId, data⟩ := by
  have held : (b.run (operations ++ [operation])).socketOf? i = (b.run operations).socketOf? i := by
    rw [run_concat]
    exact socketOf?_of_dealing deals
  obtain ⟨k, holds, isOpened⟩ : ∃ k, (b.run operations).socketOf? i = some k ∧
      b.OpenedIn k (operations ++ [operation]) := by
    rcases request_cases deals with ⟨byHand, -⟩ | ⟨place, rfl, heard⟩
    · obtain ⟨k, holds, isOpened⟩ := opened byHand
      exact ⟨k, holds, isOpened.mono (List.prefix_append _ _)⟩
    · refine ⟨_, held_of_hearer heard, operations ++ [.socketEvent place .opened],
        List.prefix_refl _, ?_⟩
      rw [run_concat]
      exact opened_of_hearer heard (by rintro code reason ⟨⟩)
  exact ⟨operations, operation, k, List.prefix_refl _, deals, rfl, held.trans holds,
    held.trans holds, isOpened, isOpened.state⟩

end OneMore

/-! ## Whole runs -/

section Runs

variable {b : Browser} {i : Nat} {operations : List Operation}

theorem outstanding_concat {operation : Operation} {entry : UInt64 × Request}
    (mem : entry ∈ (b.run (operations ++ [operation])).outstanding i) :
    entry ∈ (b.run operations).outstanding i ∨
      ∃ data, (b.run operations).dealing? i operation = some (.request data) ∧
        entry = (((b.run operations).sessionAt i).tracker.nextId, data) := by
  rw [run_concat, outstanding, sessionAt_step] at mem
  cases deals : (b.run operations).dealing? i operation with
  | none =>
      rw [deals] at mem
      exact Or.inl mem
  | some dealing =>
      rw [deals] at mem
      rcases Session.mem_outstanding_step mem with old | ⟨data, rfl, new⟩
      · exact Or.inl old
      · exact Or.inr ⟨data, rfl, new⟩

/-- **If nothing goes astray, what is outstanding was handed over.** -/
theorem handedOver_of_not_goesAstray (blank : b.links = [])
    (well : ¬ b.GoesAstray i operations) {id : UInt64} {request : Request}
    (mem : (id, request) ∈ (b.run operations).outstanding i) :
    b.HandedOver i operations ⟨id, request⟩ := by
  induction operations using List.reverseRecOn generalizing id request with
  | nil =>
      have nothing : b.outstanding i = [] := by
        rw [outstanding, sessionAt, getElem?_sessions, blank]
        rfl
      rw [show b.run [] = b from rfl, nothing] at mem
      cases mem
  | append_singleton operations operation ih =>
      have wellBefore : ¬ b.GoesAstray i operations := by
        rintro ⟨before, first, begins, astray⟩
        exact well ⟨before, first, begins.trans (List.prefix_append _ _), astray⟩
      rcases outstanding_concat mem with old | ⟨data, deals, new⟩
      · refine (ih wellBefore old).concat ?_
        by_contra another
        exact well ⟨operations, operation, List.prefix_refl _,
          Or.inr ⟨another, List.ne_nil_of_mem old⟩⟩
      · obtain ⟨rfl, rfl⟩ := Prod.mk.inj new
        refine handedOver_of_request deals ?_
        intro byHand
        by_contra unopened
        have inside : i < (b.run operations).links.length := by
          rcases request_cases deals with ⟨-, inside⟩ | ⟨place, rfl, -⟩
          · exact inside
          · cases byHand
        refine well ⟨operations, operation, List.prefix_refl _, Or.inl ⟨_, byHand, inside, ?_⟩⟩
        intro k holds opened
        exact unopened ⟨k, holds, opened⟩

theorem OpenedIn.of_concat {operation : Operation} {k : Nat}
    (opened : b.OpenedIn k (operations ++ [operation])) :
    b.OpenedIn k operations ∨
      (b.run (operations ++ [operation])).board.states[k]? = some .opened := by
  obtain ⟨earlier, begins, isOpen⟩ := opened
  rcases List.prefix_concat_iff.mp begins with rfl | before
  · exact Or.inr ((states_board _ k).trans isOpen)
  · exact Or.inl ⟨earlier, before, isOpen⟩

theorem HandedOver.openedIn {frame : RequestFrame} (handed : b.HandedOver i operations frame) :
    ∃ k, (b.run operations).socketOf? i = some k ∧ b.OpenedIn k operations := by
  obtain ⟨before, made, k, begins, -, -, -, holds, opened, -⟩ := handed
  exact ⟨k, holds, opened.mono begins⟩

/-- A request that is sent before the socket has opened was not handed over. -/
theorem not_handedOver_of_unopened {data : Request} {frame : RequestFrame}
    (unopened : ∀ k, (b.run operations).socketOf? i = some k → ¬ b.OpenedIn k operations) :
    ¬ b.HandedOver i (operations ++ [.send i data]) frame := by
  intro handed
  obtain ⟨k, holds, opened⟩ := handed.openedIn
  have board : (b.run (operations ++ [.send i data])).board = (b.run operations).board := by
    rw [run_concat]
    exact board_send data
  rw [← held_board, board, held_board] at holds
  rcases opened.of_concat with before | now
  · exact unopened k holds before
  · rw [board, states_board] at now
    exact unopened k holds ⟨operations, List.prefix_refl _, now⟩

/-- What was outstanding before another socket was made was not handed to that one. -/
theorem not_handedOver_of_another {operation : Operation} {frame : RequestFrame}
    (another : (b.run (operations ++ [operation])).socketOf? i ≠ (b.run operations).socketOf? i) :
    ¬ b.HandedOver i (operations ++ [operation]) frame := by
  intro handed
  obtain ⟨k, holds, opened⟩ := handed.openedIn
  have next := (b.run operations).board_step operation
  rw [← run_concat] at next
  rcases next.held i with same | ⟨new, states⟩
  · rw [held_board, held_board] at same
    exact another same
  · rw [held_board, holds] at new
    obtain rfl := Option.some.inj new
    rcases opened.of_concat with before | now
    · obtain ⟨socket, there, -⟩ := before.state
      have missing := states_board (b.run operations) (b.run operations).board.states.length
      rw [there, List.getElem?_eq_none (Nat.le_refl _)] at missing
      cases missing
    · rw [states, List.getElem?_concat_length] at now
      cases now

/-- **If something goes astray, something is outstanding that was not handed over.** -/
theorem not_goesAstray_of_handedOver
    (handed : ∀ earlier, earlier <+: operations → ∀ id request,
      (id, request) ∈ (b.run earlier).outstanding i → b.HandedOver i earlier ⟨id, request⟩) :
    ¬ b.GoesAstray i operations := by
  rintro ⟨before, operation, begins, ⟨data, rfl, inside, unopened⟩ | ⟨another, waiting⟩⟩
  · have deals : (b.run before).dealing? i (.send i data) = some (.request data) := by
      simp [dealing?, inside]
    have mem : (((b.run before).sessionAt i).tracker.nextId, data)
        ∈ (b.run (before ++ [.send i data])).outstanding i := by
      rw [run_concat, outstanding, sessionAt_step, deals]
      exact Session.mem_outstanding_request _ data
    exact not_handedOver_of_unopened unopened (handed _ begins _ _ mem)
  · have untouched : (b.run before).dealing? i operation = none := by
      by_contra touched
      obtain ⟨dealing, deals⟩ := Option.ne_none_iff_exists'.mp touched
      rw [run_concat] at another
      exact another (socketOf?_of_dealing deals)
    obtain ⟨⟨id, request⟩, mem⟩ := List.exists_mem_of_ne_nil _ waiting
    have still : (id, request) ∈ (b.run (before ++ [operation])).outstanding i := by
      rw [run_concat, outstanding, sessionAt_step, untouched]
      exact mem
    exact not_handedOver_of_another another (handed _ begins _ _ still)

end Runs

/-! ## Pages that are left to themselves -/

section OfPage

variable {b : Browser} {i : Nat} {started : Bool} {operations : List Operation}

/-- Over a link that is not there nothing is outstanding. -/
theorem exists_link_of_outstanding {page : Browser} (waiting : page.outstanding i ≠ []) :
    ∃ link, page.links[i]? = some link := by
  cases there : page.links[i]? with
  | some link => exact ⟨link, rfl⟩
  | none =>
      rw [outstanding, sessionAt, getElem?_sessions, there] at waiting
      exact absurd rfl waiting

/-- A page that is left to itself has one link at most. -/
theorem eq_zero_of_link (ofPage : ∀ operation ∈ operations, operation.ofPage = true)
    (blank : b.wiring = .blank started) {link : DaemonLink}
    (there : (b.run operations).links[i]? = some link) : i = 0 := by
  obtain ⟨inside, -⟩ := List.getElem?_eq_some_iff.mp there
  have few : (b.run operations).wiring.wires.length ≤ 1 := by
    rcases b.run_wiring_cases operations ofPage blank with
      ⟨_, stays⟩ | ⟨before, after, -, -, -, ⟨-, abandoned⟩ | ⟨-, t, -, tended⟩⟩
    · rw [stays]
      exact Nat.zero_le 1
    · rw [abandoned]
      exact Nat.le_refl 1
    · rw [tended]
      exact Nat.le_refl 1
  have wires : (b.run operations).wiring.wires.length = (b.run operations).links.length :=
    List.length_map ..
  omega

/-- Where a timer is set the socket that is held has closed. -/
theorem closed_of_timer (ofPage : ∀ operation ∈ operations, operation.ofPage = true)
    (blank : b.wiring = .blank started) {place : Nat} {timer : Timer}
    (set : (b.run operations).timers[place]? = some timer) {k : Nat}
    (held : (b.run operations).socketOf? 0 = some k) :
    (b.run operations).sockets[k]?.map WebSocket.state = some .closed := by
  rcases b.run_wiring_cases operations ofPage blank with
    ⟨_, stays⟩ | ⟨before, after, -, -, -, ⟨-, abandoned⟩ | ⟨-, t, -, tended⟩⟩
  · rw [show (b.run operations).timers = [] from congrArg Wiring.timers stays] at set
    cases set
  · rw [show (b.run operations).timers = [] from congrArg Wiring.timers abandoned] at set
    cases set
  · have ended : t.latest.state = .closed := by
      by_contra alive
      rw [timers_of_wiring tended, Tending.timers_of_alive alive] at set
      cases set
    obtain ⟨link, links, wire⟩ := exists_link (congrArg Wiring.wires tended)
    have latest : (b.run operations).socketOf? 0 = some t.earlier.length := by
      rw [socketOf?, links]
      exact congrArg Wire.socket wire
    obtain rfl := Option.some.inj (latest.symm.trans held)
    rw [sockets_of_wiring tended, Tending.getElem?_latest, Option.map_some, ended]

/-- Before the panel is started there is no link. -/
theorem started_of_link (ofPage : ∀ operation ∈ operations, operation.ofPage = true)
    (blank : b.wiring = .blank started) {link : DaemonLink}
    (there : (b.run operations).links[i]? = some link) : (b.run operations).started = true := by
  rcases b.run_wiring_cases operations ofPage blank with
    ⟨_, stays⟩ | ⟨before, after, -, -, -, ⟨-, abandoned⟩ | ⟨-, t, -, tended⟩⟩
  · have links : (b.run operations).links = [] :=
      List.map_eq_nil_iff.mp (congrArg Wiring.wires stays)
    rw [links] at there
    cases there
  · exact congrArg Wiring.started abandoned
  · exact congrArg Wiring.started tended

/-- While requests are outstanding over an open socket, all that can come from the page and touch
its wiring are events of that socket. -/
theorem step_of_outstanding (ofPage : ∀ operation ∈ operations, operation.ofPage = true)
    (blank : b.wiring = .blank started) (waiting : (b.run operations).outstanding i ≠ [])
    {k : Nat} (holds : (b.run operations).socketOf? i = some k)
    (isOpen : (b.run operations).sockets[k]?.map WebSocket.state = some .opened)
    {operation : Operation} (last : operation.ofPage = true) :
    ((b.run operations).step operation).browser.wiring = (b.run operations).wiring ∨
      ∃ place event, operation = .socketEvent place event ∧
        (b.run operations).hearer? place event = some i := by
  obtain ⟨link, there⟩ := exists_link_of_outstanding waiting
  obtain rfl : i = 0 := eq_zero_of_link ofPage blank there
  rcases (b.run operations).step_wiring_cases last with same | ⟨-, unstarted⟩ |
    ⟨place, event, socket, state, rfl, isSocket, possible⟩ | ⟨place, timer, -, set⟩
  · exact Or.inl same
  · rw [started_of_link ofPage blank there] at unstarted
    cases unstarted
  · exact Or.inr ⟨place, event, rfl, hearer?_of_ofPage ofPage blank isSocket possible⟩
  · rw [closed_of_timer ofPage blank set holds] at isOpen
    cases isOpen

/-- **Where no link is driven by hand, requests are outstanding only while the socket that is held
is open.** -/
theorem open_of_outstanding (ofPage : ∀ operation ∈ operations, operation.ofPage = true)
    (blank : b.wiring = .blank started) (waiting : (b.run operations).outstanding i ≠ []) :
    ∃ k, (b.run operations).socketOf? i = some k ∧
      (b.run operations).sockets[k]?.map WebSocket.state = some .opened := by
  induction operations using List.reverseRecOn with
  | nil =>
      have links : b.links = [] := List.map_eq_nil_iff.mp (congrArg Wiring.wires blank)
      obtain ⟨link, there⟩ := exists_link_of_outstanding waiting
      rw [show (b.run []).links = [] from links] at there
      cases there
  | append_singleton operations operation ih =>
      have ofPageBefore : ∀ operation ∈ operations, operation.ofPage = true :=
        fun earlier mem => ofPage earlier (List.mem_append_left _ mem)
      have ofPageLast : operation.ofPage = true :=
        ofPage operation (List.mem_append_right _ (List.mem_singleton_self _))
      obtain ⟨entry, mem⟩ := List.exists_mem_of_ne_nil _ waiting
      rw [run_concat] at waiting ⊢
      rcases outstanding_concat mem with old | ⟨data, deals, -⟩
      · have waitingBefore := List.ne_nil_of_mem old
        obtain ⟨k, holds, isOpen⟩ := ih ofPageBefore waitingBefore
        rcases step_of_outstanding ofPageBefore blank waitingBefore holds isOpen ofPageLast with
          same | ⟨place, event, rfl, heard⟩
        · have board := board_of_wiring same
          refine ⟨k, ?_, ?_⟩
          · rw [← held_board, board, held_board, holds]
          · rw [← states_board, board, states_board, isOpen]
        · refine ⟨_, (socketOf?_socketEvent _ place event).trans (held_of_hearer heard),
            opened_of_hearer heard ?_⟩
          -- a close would have left nothing outstanding
          rintro code reason rfl
          obtain ⟨link, there⟩ := exists_link_of_outstanding waitingBefore
          have resets : (b.run operations).dealing? i (.socketEvent place (.closed code reason))
              = some .reset := by
            simp only [dealing?, heard, if_true, there, Option.bind_some]
            rfl
          rw [outstanding, sessionAt_step, resets] at waiting
          exact waiting rfl
      · rcases request_cases deals with ⟨rfl, -⟩ | ⟨place, rfl, heard⟩
        · cases ofPageLast
        · exact ⟨_, (socketOf?_of_dealing deals).trans (held_of_hearer heard),
            opened_of_hearer heard (by rintro code reason ⟨⟩)⟩

/-- **Where no link is driven by hand nothing goes astray.** -/
theorem not_goesAstray_of_ofPage (ofPage : ∀ operation ∈ operations, operation.ofPage = true)
    (blank : b.wiring = .blank started) : ¬ b.GoesAstray i operations := by
  rintro ⟨before, operation, ⟨rest, rfl⟩, astray⟩
  have ofPageBefore : ∀ operation ∈ before, operation.ofPage = true :=
    fun earlier mem => ofPage earlier (List.mem_append_left _ (List.mem_append_left _ mem))
  have ofPageHere : operation.ofPage = true :=
    ofPage operation (List.mem_append_left _ (List.mem_append_right _ (List.mem_singleton_self _)))
  rcases astray with ⟨data, rfl, -⟩ | ⟨another, waiting⟩
  · cases ofPageHere
  · obtain ⟨k, holds, isOpen⟩ := open_of_outstanding ofPageBefore blank waiting
    rw [run_concat] at another
    rcases step_of_outstanding ofPageBefore blank waiting holds isOpen ofPageHere with
      same | ⟨place, event, rfl, -⟩
    · rw [← held_board, board_of_wiring same, held_board] at another
      exact another rfl
    · exact another (socketOf?_socketEvent _ place event)

end OfPage

end Browser

/-- **Outstanding means handed over, unless something goes astray.**  Take any run of a page in
which links may be driven by hand in any way, and any of its links.  In every state of the run each
outstanding request of the link was handed without an error to the socket that the link holds on to,
after that socket had opened, exactly if

* no request was sent by hand over the link before its socket had opened, and
* no other socket was made for the link while requests were outstanding.

Where no link is driven by hand, neither happens. -/
theorem outstanding_handed_over_unless_astray (protocol host : String)
    (query : List (String × String)) (hash : String) (elements : Elements)
    (refused : List String) (i : Nat) (operations : List Browser.Operation) :
    let fresh := Browser.fresh protocol host query hash elements refused
    ((∀ earlier, earlier <+: operations → ∀ id request,
        (id, request) ∈ (fresh.run earlier).outstanding i →
        fresh.HandedOver i earlier ⟨id, request⟩) ↔
      ¬ fresh.GoesAstray i operations) ∧
    ((∀ operation ∈ operations, operation.ofPage = true) → ¬ fresh.GoesAstray i operations) := by
  intro fresh
  refine ⟨⟨Browser.not_goesAstray_of_handedOver, ?_⟩, ?_⟩
  · intro well earlier begins id request mem
    refine Browser.handedOver_of_not_goesAstray rfl ?_ mem
    rintro ⟨before, operation, start, astray⟩
    exact well ⟨before, operation, start.trans begins, astray⟩
  · intro ofPage
    exact Browser.not_goesAstray_of_ofPage ofPage (show fresh.wiring = .blank false from rfl)

/-- The status is asked for once more over the second socket, and nothing else is outstanding. -/
theorem status_request_handed_to_second_socket :
    let operations : List Browser.Operation := [.start, .socketEvent none .opened,
      .socketEvent none (.closed 1006 ""), .fireTimer 0, .socketEvent none .opened]
    ((Browser.plain []).run operations).outstanding 0 = [(1, .getStatus)] ∧
      (Browser.plain []).HandedOver 0 operations ⟨1, .getStatus⟩ := by
  intro operations
  have waiting : ((Browser.plain []).run operations).outstanding 0 = [(1, .getStatus)] := by decide
  obtain ⟨iff, left⟩ := outstanding_handed_over_unless_astray "http:" "localhost:14564" [] ""
    ⟨["#app"], [], []⟩ [] 0 operations
  refine ⟨waiting, iff.mpr (left (by decide)) operations (List.prefix_refl _) 1 .getStatus ?_⟩
  show (1, .getStatus) ∈ ((Browser.plain []).run operations).outstanding 0
  rw [waiting]
  exact List.mem_singleton_self _

/-- A request that is sent by hand while there is no socket fails, and is outstanding. -/
theorem ping_without_socket_outstanding :
    let made : List Browser.Operation := [.addLink "ws://localhost:14564/api/websocket" 2000]
    let page := (Browser.plain []).run made
    let after := page.step (.send 0 .ping)
    after.reply = .error (.link .noSocket) ∧ page.outstanding 0 = [] ∧
      after.browser.outstanding 0 = [(0, .ping)] ∧
      ¬ (Browser.plain []).HandedOver 0 (made ++ [.send 0 .ping]) ⟨0, .ping⟩ := by
  intro made page after
  refine ⟨rfl, rfl, rfl, ?_⟩
  intro handed
  obtain ⟨k, holds, -⟩ := handed.openedIn
  cases holds

end MixerPanel
