import MixerPanel.Proofs.Answers
import MixerPanel.Proofs.Attendance

/-!
# What a page has to do with the sessions of its links

Each link of a page has a session.  Of all that happens to the page only four things reach that of a
given link: a request that is sent over the link by hand, the socket that the link holds on to when
it opens, and then the status is asked for, a text that comes over that socket, and its end.  The
session of a link is thus driven by a list of operations that can be read off the run of the page,
and what is known of sessions by themselves is known of the links of a page.

* `Browser.hearer?` — the link that hears of an event of a socket
* `Browser.dealing?`, `Browser.dealings` — what an operation, and a run, has to do with a session
* `Browser.sessionAt_step` — nothing else touches the session
* `Browser.correspondence` — what went back and forth over a link, and
  `Browser.session_correspondence`, that the session is as it leaves it
* `Browser.hearer?_of_ofPage` — where no link is driven by hand, all that happens to sockets is
  heard
-/

namespace MixerPanel

/-- What a link has to do with its session when it hears of an event of its socket. -/
def DaemonLink.dealing? (link : DaemonLink) : SocketEvent → Option Session.Operation
  | .opened => some (.request .getStatus)
  | .message text => some (.handle link.context.store text)
  | .binary => none
  | .closed _ _ => some .reset

namespace Browser

/-- The sessions of the links, in their order. -/
def sessions (b : Browser) : List Session := b.links.map DaemonLink.session

/-- The session of the link at a place.  A link that is not there yet will begin with an empty
one. -/
def sessionAt (b : Browser) (i : Nat) : Session := b.sessions[i]?.getD .empty

/-- The link that hears of an event of a socket, if the event can happen: the one that has made the
socket, unless it has let go of it. -/
def hearer? (b : Browser) (place : Option Nat) (event : SocketEvent) : Option Nat :=
  let k := place.getD (b.sockets.length - 1)
  match b.sockets[k]? with
  | some socket =>
    if (event.after? socket.state).isSome ∧ b.socketOf? socket.owner = some k then
      some socket.owner
    else none
  | none => none

/-- What an operation has to do with the session of the link at a place. -/
def dealing? (b : Browser) (i : Nat) : Operation → Option Session.Operation
  | .send link data => if link = i then b.links[i]?.map fun _ => .request data else none
  | .socketEvent place event =>
    if b.hearer? place event = some i then b.links[i]?.bind (·.dealing? event) else none
  | _ => none

/-- What a run has to do with the session of the link at a place. -/
def dealings (b : Browser) (i : Nat) : List Operation → List Session.Operation
  | [] => []
  | operation :: rest =>
    (b.dealing? i operation).toList ++ (b.step operation).browser.dealings i rest

theorem dealings_append (b : Browser) (i : Nat) (before after : List Operation) :
    b.dealings i (before ++ after) = b.dealings i before ++ (b.run before).dealings i after := by
  induction before generalizing b with
  | nil => rfl
  | cons operation rest ih =>
      show (b.dealing? i operation).toList ++ (b.step operation).browser.dealings i (rest ++ after)
        = (b.dealing? i operation).toList ++ (b.step operation).browser.dealings i rest
          ++ ((b.step operation).browser.run rest).dealings i after
      rw [ih, List.append_assoc]

/-! ## What leaves the sessions alone -/

section Kept

variable {b : Browser} {i : Nat}

theorem getElem?_sessions (i : Nat) : b.sessions[i]? = b.links[i]?.map DaemonLink.session :=
  List.getElem?_map

theorem sessionAt_of_link {link : DaemonLink} (there : b.links[i]? = some link) :
    b.sessionAt i = link.session := by
  rw [sessionAt, getElem?_sessions, there]
  rfl

theorem sessions_modifyLink {change : DaemonLink → DaemonLink} {f : Session → Session}
    (changes : ∀ link, (change link).session = f link.session) :
    (b.modifyLink i change).sessions = b.sessions.modify i f := map_modify changes

/-- A change of a link that is none of its session. -/
theorem sessions_modifyLink_of_same {change : DaemonLink → DaemonLink}
    (same : ∀ link, (change link).session = link.session) :
    (b.modifyLink i change).sessions = b.sessions := by
  rw [sessions_modifyLink (f := id) same]
  exact List.modify_id _ _

@[simp] theorem sessions_note (line : Log.Line) : (b.note line).sessions = b.sessions := rfl

@[simp] theorem sessions_setConnection (state : ConnectionState) :
    (b.setConnection i state).sessions = b.sessions :=
  sessions_modifyLink_of_same fun _ => rfl

@[simp] theorem sessions_addSocket (url : String) : (b.addSocket i url).sessions = b.sessions :=
  sessions_modifyLink_of_same fun _ => rfl

@[simp] theorem sessions_connect : (b.connect i).1.sessions = b.sessions := by
  unfold connect
  cases b.links[i]? with
  | none => rfl
  | some link =>
      dsimp only
      split_ifs
      · simp
      · simp

@[simp] theorem sessions_scheduleReconnect : (b.scheduleReconnect i).sessions = b.sessions := by
  unfold scheduleReconnect
  cases b.links[i]? <;> rfl

@[simp] theorem sessions_reconnect : (b.reconnect i).sessions = b.sessions := by
  unfold reconnect
  rcases attempt : b.connect i with ⟨page, _ | _⟩
  · have same : page.sessions = b.sessions := by rw [← sessions_connect (b := b), attempt]
    simpa using same
  · show page.sessions = b.sessions
    rw [← sessions_connect (b := b), attempt]

theorem sessions_fireTimer (place : Nat) : (b.fireTimer place).1.sessions = b.sessions := by
  unfold fireTimer
  cases b.timers[place]? with
  | none => rfl
  | some timer => exact sessions_reconnect

/-- What is the same behind what is seen has the same sessions. -/
theorem sessions_of_machinery {page : Browser} (same : page.machinery = b.machinery) :
    page.sessions = b.sessions := by
  have behind : ∀ b : Browser, b.sessions = b.machinery.leads.map Lead.session := by
    intro b
    simp only [machinery, List.map_map]
    rfl
  rw [behind page, behind b, same]

@[simp] theorem sessions_syncRoute : (b.syncRoute i).sessions = b.sessions :=
  sessions_of_machinery machinery_syncRoute

@[simp] theorem sessions_showPanel (selector : String) :
    (b.showPanel i selector).sessions = b.sessions := by
  unfold showPanel
  cases b.links[i]? <;> rfl

end Kept

/-! ## What touches them -/

section Touched

variable {b : Browser} {i : Nat}

/-- What becomes of the item at a place depends on that item only. -/
theorem modify_congr {α : Type} {items : List α} {item : α} {f g : α → α}
    (there : items[i]? = some item) (same : f item = g item) :
    items.modify i f = items.modify i g := by
  refine List.ext_getElem? fun k => ?_
  rw [List.getElem?_modify, List.getElem?_modify]
  by_cases here : i = k
  · subst here
    simp [there, same]
  · simp [here]

theorem sessions_transmit (k : Nat) (text : String) :
    (b.transmit k text).1.sessions = b.sessions := by
  unfold transmit
  cases b.sockets[k]? with
  | none => rfl
  | some socket =>
      dsimp only
      cases socket.send text <;> rfl

theorem sessions_send (data : Request) :
    (b.send i data).1.sessions = b.sessions.modify i fun s => (s.request data).1 := by
  cases there : b.links[i]? with
  | none =>
      have outside : b.sessions.length ≤ i := by
        rw [sessions, List.length_map]
        exact List.getElem?_eq_none_iff.mp there
      rw [List.modify_eq_self outside]
      simp only [send, there]
  | some link =>
      let page := (b.modifyLink i fun other =>
        { other with session := (link.session.request data).1 }).noteAll
          (link.session.request data).2.2
      have tracked : page.sessions = b.sessions.modify i fun s => (s.request data).1 :=
        (sessions_modifyLink (f := fun _ => (link.session.request data).1) fun _ => rfl).trans
          (modify_congr (by rw [getElem?_sessions, there]; rfl) rfl)
      cases holds : link.socket with
      | none =>
          simp only [send, there, holds]
          exact tracked
      | some k =>
          simp only [send, there, holds]
          exact (sessions_transmit k _).trans tracked

/-- **A link that hears of an event** does with its session what it has to. -/
theorem sessions_react {link : DaemonLink} (there : b.links[i]? = some link)
    (event : SocketEvent) :
    (b.react i event).sessions
      = b.sessions.modify i fun s => (link.dealing? event).elim s s.step := by
  cases event with
  | opened =>
      have sent : ((b.setConnection i .connected).send i .getStatus).1.sessions
          = b.sessions.modify i fun s => (s.request .getStatus).1 := by
        rw [sessions_send, sessions_setConnection]
      unfold react
      rcases attempt : (b.setConnection i .connected).send i .getStatus with ⟨page, _ | _⟩
      · rw [attempt] at sent
        exact sent
      · rw [attempt] at sent
        exact sent
  | message text =>
      simp only [react, receive, there]
      let received := link.context.receive link.session text
      have taken : received.session = (link.session.handle link.context.store text).session :=
        Context.session_receive link.context link.session text
      exact (sessions_modifyLink (f := fun _ => received.session) fun _ => rfl).trans
        (modify_congr (by rw [getElem?_sessions, there]; rfl) taken)
  | binary => exact (List.modify_id _ _).symm
  | closed code reason =>
      unfold react
      simp only [sessions_scheduleReconnect, sessions_setConnection]
      exact sessions_modifyLink fun _ => rfl

/-! ## Events of sockets -/

/-- The page with another socket at a place. -/
def setSocket (b : Browser) (k : Nat) (socket : WebSocket) : Browser :=
  { b with sockets := b.sockets.set k socket }

/-- An event that is heard is one that can happen, and the link reacts to it. -/
theorem socketEvent_of_hearer {place : Option Nat} {event : SocketEvent}
    (heard : b.hearer? place event = some i) :
    let k := place.getD (b.sockets.length - 1)
    ∃ socket state link, b.sockets[k]? = some socket ∧ event.after? socket.state = some state ∧
      b.links[i]? = some link ∧
      b.socketEvent place event
        = ((b.setSocket k { socket with state := state }).react i event, .heard) := by
  intro k
  cases there : b.sockets[place.getD (b.sockets.length - 1)]? with
  | none => simp [hearer?, there] at heard
  | some socket =>
      simp only [hearer?, there, Option.ite_none_right_eq_some, Option.some.injEq] at heard
      obtain ⟨⟨possible, held⟩, rfl⟩ := heard
      obtain ⟨state, becomes⟩ := Option.isSome_iff_exists.mp possible
      obtain ⟨link, linked, -⟩ := Option.bind_eq_some_iff.mp held
      refine ⟨socket, state, link, rfl, becomes, linked, ?_⟩
      simp only [socketEvent, there, becomes]
      exact if_pos held

/-- An event that is not heard leaves the links alone. -/
theorem links_socketEvent_of_unheard {place : Option Nat} {event : SocketEvent}
    (unheard : b.hearer? place event = none) : (b.socketEvent place event).1.links = b.links := by
  cases there : b.sockets[place.getD (b.sockets.length - 1)]? with
  | none => simp only [socketEvent, there]
  | some socket =>
      cases becomes : event.after? socket.state with
      | none => simp only [socketEvent, there, becomes]
      | some state =>
          have letGo : ¬ b.socketOf? socket.owner
              = some (place.getD (b.sockets.length - 1)) := by
            intro held
            simp [hearer?, there, becomes, held] at unheard
          have passed : b.socketEvent place event
              = (b.setSocket (place.getD (b.sockets.length - 1)) { socket with state := state },
                .unheard) := by
            simp only [socketEvent, there, becomes]
            exact if_neg letGo
          rw [passed]
          rfl

end Touched

/-! ## New links -/

section NewLinks

variable {b : Browser}

theorem sessions_mountPanel (config : Config) (selector : String) (app : Application) :
    (b.mountPanel config selector app).sessions = b.sessions ++ [.empty] := by
  obtain ⟨lines, mounted⟩ := b.exists_mountPanel_eq config selector app
  let link := DaemonLink.ofApplication (config.socketUrl b.protocol b.host)
    config.reconnectDelay app
  let attempted := ((b.addLink link).1.connect b.links.length).1.noteAll lines
  have added : attempted.sessions = b.sessions ++ [.empty] :=
    Eq.trans (sessions_connect (b := (b.addLink link).1)) List.map_append
  rw [mounted, ← added]
  show (Browser.showPanel _ b.links.length selector).sessions = _
  rw [sessions_showPanel]
  exact sessions_syncRoute

/-- To start the panel adds one link at most. -/
theorem sessions_start : b.start.1.sessions = b.sessions ∨
    b.start.1.sessions = b.sessions ++ [.empty] := by
  cases started : b.started with
  | true => exact Or.inl (by rw [start_of_started started, sessions_note])
  | false =>
      obtain ⟨filter, log, outcome⟩ := start_of_unstarted started
      by_cases there : b.elements.isHtml (Config.ofQuery b.query).1.hostSelector = true
      · rw [if_pos there] at outcome
        obtain ⟨app, line, mounted, -⟩ := outcome
        exact Or.inr (by rw [mounted, sessions_note, sessions_mountPanel]; rfl)
      · rw [if_neg there] at outcome
        exact Or.inl (by rw [outcome.1]; rfl)

end NewLinks

/-! ## A whole operation, and a run -/

section WholeStep

variable {b page : Browser} {i : Nat}

theorem sessionAt_of_sessions (same : page.sessions = b.sessions) :
    page.sessionAt i = b.sessionAt i := by
  rw [sessionAt, sessionAt, same]

/-- A new link has an empty session, which is what a link that is not there counts as having. -/
theorem sessionAt_of_append (added : page.sessions = b.sessions ++ [.empty]) :
    page.sessionAt i = b.sessionAt i := by
  rw [sessionAt, sessionAt, added, getD_concat]

theorem sessionAt_of_modify {link : DaemonLink} {f : Session → Session}
    (there : b.links[i]? = some link) (changed : page.sessions = b.sessions.modify i f) :
    page.sessionAt i = f (b.sessionAt i) := by
  rw [sessionAt, changed, List.getElem?_modify, sessionAt_of_link there, getElem?_sessions, there]
  simp

theorem sessionAt_of_modify_other {k : Nat} {f : Session → Session} (other : k ≠ i)
    (changed : page.sessions = b.sessions.modify k f) :
    page.sessionAt i = b.sessionAt i := by
  rw [sessionAt, changed, List.getElem?_modify, sessionAt]
  simp [other]

theorem sessionAt_send (k : Nat) (data : Request) :
    (b.send k data).1.sessionAt i
      = (b.dealing? i (.send k data)).elim (b.sessionAt i) (b.sessionAt i).step := by
  by_cases here : k = i
  · subst here
    cases there : b.links[k]? with
    | none => simp [dealing?, send, there]
    | some link =>
        simp only [dealing?, there, if_true, Option.map_some, Option.elim_some]
        exact sessionAt_of_modify there (sessions_send data)
  · simp only [dealing?, if_neg here, Option.elim_none]
    exact sessionAt_of_modify_other here (sessions_send data)

theorem sessionAt_socketEvent (place : Option Nat) (event : SocketEvent) :
    (b.socketEvent place event).1.sessionAt i
      = (b.dealing? i (.socketEvent place event)).elim (b.sessionAt i) (b.sessionAt i).step := by
  cases heard : b.hearer? place event with
  | none =>
      simp only [dealing?, heard, reduceCtorEq, if_false, Option.elim_none]
      exact sessionAt_of_sessions
        (congrArg (List.map DaemonLink.session) (links_socketEvent_of_unheard heard))
  | some k =>
      obtain ⟨socket, state, link, -, -, there, outcome⟩ := socketEvent_of_hearer heard
      let held := b.setSocket (place.getD (b.sockets.length - 1)) { socket with state := state }
      have reacted := sessions_react (b := held) there event
      rw [outcome]
      by_cases here : k = i
      · subst here
        simp only [dealing?, heard, if_true, there, Option.bind_some]
        exact sessionAt_of_modify there reacted
      · have other : some k ≠ some i := fun same => here (Option.some.inj same)
        simp only [dealing?, heard, if_neg other, Option.elim_none]
        exact sessionAt_of_modify_other here reacted

/-- **Every operation does with a session what it has to**, and otherwise leaves it alone. -/
theorem sessionAt_step (operation : Operation) :
    (b.step operation).browser.sessionAt i
      = (b.dealing? i operation).elim (b.sessionAt i) (b.sessionAt i).step := by
  have seen : operation.quiet = true →
      (b.step operation).browser.sessionAt i = b.sessionAt i :=
    fun quiet => sessionAt_of_sessions (sessions_of_machinery (machinery_step_of_quiet quiet))
  cases operation with
  | start => exact (sessions_start (b := b)).elim sessionAt_of_sessions sessionAt_of_append
  | addLink url delay => exact sessionAt_of_append List.map_append
  | connect link => exact sessionAt_of_sessions sessions_connect
  | send link data => exact sessionAt_send link data
  | socketEvent place event => exact sessionAt_socketEvent place event
  | fireTimer place => exact sessionAt_of_sessions (sessions_fireTimer place)
  | setElements elements => exact seen rfl
  | setRefused urls => exact seen rfl
  | setHash hash => exact seen rfl
  | choose serial => exact seen rfl
  | render component => exact seen rfl

/-- What went back and forth over the link at a place in a run, from the beginning of the link. -/
def correspondence (b : Browser) (i : Nat) (operations : List Operation) : Correspondence :=
  Correspondence.start.run (b.dealings i operations)

theorem session_run_dealings (operations : List Operation) {c : Correspondence}
    (same : c.session = b.sessionAt i) :
    (c.run (b.dealings i operations)).session = (b.run operations).sessionAt i := by
  induction operations generalizing b c with
  | nil => exact same
  | cons operation rest ih =>
      have stepped := sessionAt_step (b := b) (i := i) operation
      show (c.run ((b.dealing? i operation).toList ++ _)).session = _
      cases deals : b.dealing? i operation with
      | none =>
          rw [deals] at stepped
          exact ih (same.trans stepped.symm)
      | some dealing =>
          rw [deals] at stepped
          refine ih (c := c.step dealing) ?_
          rw [stepped, ← same]
          rfl

/-- **The session of a link is as the correspondence over it leaves it.** -/
theorem session_correspondence (blank : b.links = []) (i : Nat) (operations : List Operation) :
    (b.correspondence i operations).session = (b.run operations).sessionAt i := by
  refine session_run_dealings operations ?_
  rw [sessionAt, getElem?_sessions, blank]
  rfl

end WholeStep

/-! ## Pages that are left to themselves -/

/-- **Where no link is driven by hand, all that happens to sockets is heard**: of the sockets of a
tended link only the latest can be alive, and the link holds on to it. -/
theorem hearer?_of_tended {b : Browser} {t : Tending} (tended : b.wiring = t.wiring)
    {place : Option Nat} {event : SocketEvent} {socket : WebSocket} {state : SocketState}
    (there : b.sockets[place.getD (b.sockets.length - 1)]? = some socket)
    (possible : event.after? socket.state = some state) : b.hearer? place event = some 0 := by
  obtain ⟨latest, rfl⟩ := t.latest_of_alive (by rw [← sockets_of_wiring tended]; exact there)
    (SocketEvent.alive_of_after? possible)
  obtain ⟨link, links, wire⟩ := exists_link (congrArg Wiring.wires tended)
  have held : b.socketOf? t.latest.owner = some t.earlier.length := by
    show b.links[t.latest.owner]?.bind DaemonLink.socket = _
    rw [t.own, links]
    exact congrArg Wire.socket wire
  simp only [hearer?, there]
  rw [if_pos ⟨by rw [possible]; rfl, latest ▸ held⟩, t.own]

/-- Every event that can happen on a page on which the panel is started is heard by its link. -/
theorem hearer?_of_ofPage {b : Browser} {started : Bool} {operations : List Operation}
    (ofPage : ∀ operation ∈ operations, operation.ofPage = true)
    (blank : b.wiring = .blank started) {place : Option Nat} {event : SocketEvent}
    {socket : WebSocket} {state : SocketState}
    (there : (b.run operations).sockets[place.getD ((b.run operations).sockets.length - 1)]?
      = some socket)
    (possible : event.after? socket.state = some state) :
    (b.run operations).hearer? place event = some 0 := by
  have noSocket : (b.run operations).sockets ≠ [] := by
    intro none
    rw [none] at there
    cases there
  rcases b.run_wiring_cases operations ofPage blank with
    ⟨_, stays⟩ | ⟨before, after, -, -, -, ⟨-, abandoned⟩ | ⟨-, t, -, tended⟩⟩
  · exact absurd (congrArg Wiring.sockets stays) noSocket
  · exact absurd (congrArg Wiring.sockets abandoned) noSocket
  · exact hearer?_of_tended tended there possible

end Browser

end MixerPanel
