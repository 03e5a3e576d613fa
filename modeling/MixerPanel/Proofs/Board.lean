import MixerPanel.Proofs.Dealings

/-!
# Who holds which socket

Of a link and its sockets it is often enough to know which socket the link holds on to and how far
that socket has come.  This is a board with a row of links and a row of sockets, and few moves: a
link is added, a link is plugged into a new socket, a socket opens or closes.  A socket that has
opened is never again being opened, and a link lets go of a socket only for a new one.

* `Board`, `Browser.board` — the board of a page
* `Board.Next` — the moves
* `Browser.board_step` — every operation makes one move at most
* `Board.Next.held`, `Board.Next.state` — what a move can change
-/

namespace MixerPanel

/-- Which socket each link holds on to, and how far each socket has come. -/
structure Board where
  holds : List (Option Nat)
  states : List SocketState

namespace Board

/-- The socket that the link at a place holds on to. -/
def held (t : Board) (i : Nat) : Option Nat := t.holds[i]?.getD none

/-- There is another link, without a socket. -/
def link (t : Board) : Board := { t with holds := t.holds ++ [none] }

/-- The link at a place holds on to a new socket. -/
def plug (t : Board) (i : Nat) : Board :=
  ⟨t.holds.modify i fun _ => some t.states.length, t.states ++ [.connecting]⟩

/-- The socket at a place is in another state. -/
def move (t : Board) (k : Nat) (state : SocketState) : Board :=
  { t with states := t.states.set k state }

/-- The moves. -/
inductive Next (t : Board) : Board → Prop
  | same : Next t t
  | linked : Next t t.link
  | plugged (i : Nat) : Next t (t.plug i)
  | linkedAndPlugged : Next t (t.link.plug t.holds.length)
  | moved {k : Nat} {before after : SocketState} {event : SocketEvent}
      (there : t.states[k]? = some before) (possible : event.after? before = some after) :
      Next t (t.move k after)

section Moves

variable {t later : Board} {i k : Nat}

theorem held_link (t : Board) (i : Nat) : t.link.held i = t.held i := getD_concat t.holds none i

theorem held_plug (t : Board) (i k : Nat) :
    (t.plug i).held k = t.held k ∨ (t.plug i).held k = some t.states.length := by
  rw [held, held, plug, List.getElem?_modify]
  by_cases here : i = k
  · subst here
    cases t.holds[i]? with
    | none => exact Or.inl rfl
    | some _ => exact Or.inr (by simp)
  · exact Or.inl (by simp [here])

/-- **A link lets go of a socket only for a new one.** -/
theorem Next.held (next : t.Next later) (i : Nat) :
    later.held i = t.held i ∨
      (later.held i = some t.states.length ∧ later.states = t.states ++ [.connecting]) := by
  cases next with
  | same => exact Or.inl rfl
  | linked => exact Or.inl (t.held_link i)
  | plugged j => exact (t.held_plug j i).imp_right fun new => ⟨new, rfl⟩
  | linkedAndPlugged =>
      rcases t.link.held_plug t.holds.length i with old | new
      · exact Or.inl (old.trans (t.held_link i))
      · exact Or.inr ⟨new, rfl⟩
  | moved there possible => exact Or.inl rfl

theorem state_append {state new : SocketState} (there : t.states[k]? = some state) :
    (t.states ++ [new])[k]? = some state := by
  obtain ⟨inside, -⟩ := List.getElem?_eq_some_iff.mp there
  rw [List.getElem?_append_left inside, there]

/-- **A socket that has opened is never again being opened.** -/
theorem Next.state (next : t.Next later) {state : SocketState}
    (there : t.states[k]? = some state) (begun : state ≠ .connecting) :
    ∃ after, later.states[k]? = some after ∧ after ≠ .connecting := by
  cases next with
  | same => exact ⟨state, there, begun⟩
  | linked => exact ⟨state, there, begun⟩
  | plugged j => exact ⟨state, state_append there, begun⟩
  | linkedAndPlugged => exact ⟨state, state_append (t := t.link) there, begun⟩
  | @moved place before after event found possible =>
      show ∃ state, (t.states.set place after)[k]? = some state ∧ state ≠ .connecting
      rw [List.getElem?_set]
      by_cases here : place = k
      · subst here
        obtain ⟨inside, -⟩ := List.getElem?_eq_some_iff.mp there
        refine ⟨after, by simp [inside], ?_⟩
        rintro rfl
        cases event <;> cases before <;> cases possible
      · exact ⟨state, by simp [here, there], begun⟩

end Moves

end Board

namespace Browser

/-- The board of a page. -/
def board (b : Browser) : Board := ⟨b.links.map DaemonLink.socket, b.sockets.map WebSocket.state⟩

section Moves

variable {b : Browser} {i : Nat}

theorem held_board (b : Browser) (i : Nat) : b.board.held i = b.socketOf? i := by
  rw [Board.held, board, List.getElem?_map, socketOf?]
  cases b.links[i]? <;> rfl

theorem states_board (b : Browser) (k : Nat) :
    b.board.states[k]? = b.sockets[k]?.map WebSocket.state := List.getElem?_map

@[simp] theorem board_note (line : Log.Line) : (b.note line).board = b.board := rfl

theorem board_of_wiring {page : Browser} (same : page.wiring = b.wiring) :
    page.board = b.board := by
  have seen : ∀ b : Browser,
      b.board = ⟨b.wiring.wires.map Wire.socket, b.wiring.sockets.map WebSocket.state⟩ := by
    intro b
    simp only [wiring, List.map_map]
    rfl
  rw [seen page, seen b, same]

theorem board_of_machinery {page : Browser} (same : page.machinery = b.machinery) :
    page.board = b.board := board_of_wiring (wiring_of_machinery same)

/-- A change of a link that keeps its socket. -/
theorem board_modifyLink {change : DaemonLink → DaemonLink}
    (same : ∀ link, (change link).socket = link.socket) :
    (b.modifyLink i change).board = b.board := by
  have holds : (b.links.modify i change).map DaemonLink.socket = b.links.map DaemonLink.socket := by
    cases there : b.links[i]? with
    | none => rw [List.modify_eq_self (List.getElem?_eq_none_iff.mp there)]
    | some link => exact map_modify_of_same there (same link)
  show Board.mk ((b.links.modify i change).map DaemonLink.socket) _ = _
  rw [holds]
  rfl

@[simp] theorem board_setConnection (state : ConnectionState) :
    (b.setConnection i state).board = b.board := board_modifyLink fun _ => rfl

theorem board_addSocket (url : String) : (b.addSocket i url).board = b.board.plug i := by
  have holds : (b.links.modify i fun link =>
      { link with socket := some b.sockets.length }).map DaemonLink.socket
      = (b.links.map DaemonLink.socket).modify i fun _ => some b.sockets.length :=
    map_modify fun _ => rfl
  have states : (b.sockets ++ [WebSocket.connecting url i]).map WebSocket.state
      = b.sockets.map WebSocket.state ++ [.connecting] := List.map_append
  show Board.mk ((b.links.modify i _).map DaemonLink.socket)
    ((b.sockets ++ [WebSocket.connecting url i]).map WebSocket.state) = _
  rw [holds, states, Board.plug, board, List.length_map]

theorem board_connect : (b.connect i).1.board = b.board ∨
    (b.connect i).1.board = b.board.plug i := by
  unfold connect
  cases there : b.links[i]? with
  | none => exact Or.inl rfl
  | some link =>
      dsimp only
      split_ifs
      · exact Or.inl (board_setConnection _)
      · refine Or.inr ?_
        rw [board_addSocket, board_setConnection, board_note]

/-- What is sent over a socket leaves it in its state. -/
theorem board_transmit (k : Nat) (text : String) : (b.transmit k text).1.board = b.board := by
  unfold transmit
  cases there : b.sockets[k]? with
  | none => rfl
  | some socket =>
      dsimp only
      cases sent : socket.send text with
      | error e => rfl
      | ok after =>
          have sameState : after.state = socket.state := by
            unfold WebSocket.send at sent
            split at sent <;> cases sent <;> rfl
          have states : (b.sockets.set k after).map WebSocket.state
              = b.sockets.map WebSocket.state := by
            rw [List.map_set, sameState]
            exact set_of_there (by rw [List.getElem?_map, there]; rfl)
          show Board.mk _ ((b.sockets.set k after).map WebSocket.state) = _
          rw [states]
          rfl

theorem board_send (data : Request) : (b.send i data).1.board = b.board := by
  unfold send
  cases b.links[i]? with
  | none => rfl
  | some link =>
      dsimp only
      cases link.socket with
      | none => exact board_modifyLink fun _ => rfl
      | some k => exact (board_transmit k _).trans (board_modifyLink fun _ => rfl)

@[simp] theorem board_scheduleReconnect : (b.scheduleReconnect i).board = b.board := by
  unfold scheduleReconnect
  cases b.links[i]? <;> rfl

/-- What a link does when it hears of an event touches neither. -/
theorem board_react (event : SocketEvent) : (b.react i event).board = b.board := by
  cases event with
  | opened =>
      have sent := (b.setConnection i .connected).board_send (i := i) .getStatus
      rw [board_setConnection] at sent
      unfold react
      rcases attempt : (b.setConnection i .connected).send i .getStatus with ⟨page, _ | _⟩
      · rw [attempt] at sent
        exact sent
      · rw [attempt] at sent
        exact sent
  | message text =>
      unfold react receive
      cases b.links[i]? with
      | none => rfl
      | some link => exact board_modifyLink fun _ => rfl
  | binary => rfl
  | closed code reason =>
      unfold react
      rw [board_scheduleReconnect, board_setConnection]
      exact board_modifyLink fun _ => rfl

/-- A socket that something happens to is in the state that this leads to. -/
theorem board_socketEvent (place : Option Nat) (event : SocketEvent) :
    (b.socketEvent place event).1.board = b.board ∨
      ∃ before after, b.board.states[place.getD (b.sockets.length - 1)]? = some before ∧
        event.after? before = some after ∧
        (b.socketEvent place event).1.board
          = b.board.move (place.getD (b.sockets.length - 1)) after := by
  cases there : b.sockets[place.getD (b.sockets.length - 1)]? with
  | none => exact Or.inl (by simp only [socketEvent, there])
  | some socket =>
      cases possible : event.after? socket.state with
      | none => exact Or.inl (by simp only [socketEvent, there, possible])
      | some state =>
          refine Or.inr ⟨socket.state, state, by rw [states_board, there]; rfl, possible, ?_⟩
          let moved := b.setSocket (place.getD (b.sockets.length - 1))
            { socket with state := state }
          have isMoved : moved.board
              = b.board.move (place.getD (b.sockets.length - 1)) state := by
            show Board.mk _ ((b.sockets.set _ _).map WebSocket.state) = _
            rw [List.map_set]
            rfl
          simp only [socketEvent, there, possible]
          split_ifs
          · exact (board_react (b := moved) event).trans isMoved
          · exact isMoved

theorem board_fireTimer (place : Nat) : (b.fireTimer place).1.board = b.board ∨
    ∃ i, (b.fireTimer place).1.board = b.board.plug i := by
  unfold fireTimer
  cases b.timers[place]? with
  | none => exact Or.inl rfl
  | some timer =>
      let waiting : Browser := { b with timers := b.timers.eraseIdx place }
      have connected : (waiting.connect timer.link).1.board = b.board ∨
          (waiting.connect timer.link).1.board = b.board.plug timer.link := board_connect
      have reconnected : (waiting.reconnect timer.link).board
          = (waiting.connect timer.link).1.board := by
        unfold reconnect
        rcases waiting.connect timer.link with ⟨page, _ | _⟩
        · show ((page.note _).setConnection timer.link _ |>.scheduleReconnect _).board = page.board
          rw [board_scheduleReconnect, board_setConnection, board_note]
        · rfl
      show (waiting.reconnect timer.link).board = b.board ∨
        ∃ i, (waiting.reconnect timer.link).board = b.board.plug i
      rw [reconnected]
      exact connected.imp_right fun plugged => ⟨timer.link, plugged⟩

theorem board_followAndShow (selector : String) :
    (b.followAndShow i selector).board = b.board := by
  have shown : ∀ page : Browser, (page.showPanel i selector).board = page.board := by
    intro page
    unfold showPanel
    cases page.links[i]? <;> rfl
  have synced : (b.syncRoute i).board = b.board := board_of_machinery machinery_syncRoute
  rw [followAndShow, shown]
  exact synced

theorem board_mountPanel (config : Config) (selector : String) (app : Application) :
    (b.mountPanel config selector app).board = b.board.link ∨
      (b.mountPanel config selector app).board = b.board.link.plug b.board.holds.length := by
  obtain ⟨lines, mounted⟩ := b.exists_mountPanel_eq config selector app
  have added : (b.addLink (.ofApplication (config.socketUrl b.protocol b.host)
      config.reconnectDelay app)).1.board = b.board.link := by
    show Board.mk ((b.links ++ [_]).map DaemonLink.socket) _ = _
    rw [List.map_append]
    rfl
  have length : b.board.holds.length = b.links.length := List.length_map ..
  rw [mounted, board_followAndShow, length, ← added]
  exact board_connect

theorem board_start : b.board.Next b.start.1.board := by
  cases started : b.started with
  | true =>
      rw [start_of_started started]
      exact .same
  | false =>
      obtain ⟨filter, log, outcome⟩ := start_of_unstarted started
      let begun : Browser := { b with started := true, filter := filter, log := log }
      have isBegun : begun.board = b.board := rfl
      dsimp only at outcome
      split_ifs at outcome
      · obtain ⟨app, line, mounted, -⟩ := outcome
        rw [mounted, board_note, ← isBegun]
        rcases begun.board_mountPanel (Config.ofQuery b.query).1
          (Config.ofQuery b.query).1.hostSelector app with linked | plugged
        · rw [linked]
          exact .linked
        · rw [plugged]
          exact .linkedAndPlugged
      · rw [outcome.1, ← isBegun]
        exact .same

/-- **Every operation makes one move at most.** -/
theorem board_step (operation : Operation) : b.board.Next (b.step operation).browser.board := by
  have seen : operation.quiet = true → b.board.Next (b.step operation).browser.board := by
    intro quiet
    rw [board_of_machinery (machinery_step_of_quiet quiet)]
    exact .same
  cases operation with
  | start => exact board_start
  | addLink url delay =>
      have added : (b.step (.addLink url delay)).browser.board = b.board.link := by
        show Board.mk ((b.links ++ [_]).map DaemonLink.socket) _ = _
        rw [List.map_append]
        rfl
      rw [added]
      exact .linked
  | connect link =>
      show b.board.Next (b.connect link).1.board
      rcases b.board_connect (i := link) with same | plugged
      · rw [same]
        exact .same
      · rw [plugged]
        exact .plugged link
  | send link data =>
      show b.board.Next (b.send link data).1.board
      rw [board_send]
      exact .same
  | socketEvent place event =>
      show b.board.Next (b.socketEvent place event).1.board
      rcases b.board_socketEvent place event with same | ⟨before, after, there, possible, moved⟩
      · rw [same]
        exact .same
      · rw [moved]
        exact .moved there possible
  | fireTimer place =>
      show b.board.Next (b.fireTimer place).1.board
      rcases b.board_fireTimer place with same | ⟨link, plugged⟩
      · rw [same]
        exact .same
      · rw [plugged]
        exact .plugged link
  | setElements elements => exact seen rfl
  | setRefused urls => exact seen rfl
  | setHash hash => exact seen rfl
  | choose serial => exact seen rfl
  | render component => exact seen rfl

end Moves

end Browser

end MixerPanel
