import MixerPanel.Proofs.Frames
import MixerPanel.Proofs.Machinery
import MixerPanel.Proofs.StartupSequence

/-!
# The wiring of a page

Of all that a page holds, sockets and timers see little: which socket a link holds on to, what it
shows of that socket, the id of its next request and its delay.  This is the wiring of the page.
Most of what happens to a page leaves it alone: lines are logged, routes and devices are chosen,
components are shown, texts from the daemon are taken.

* `Wire`, `Wiring` — a link and a page as sockets and timers see them
* `Browser.connect_cases`, `Browser.wiring_react_opened`, `Browser.wiring_react_closed`,
  `Browser.wiring_reconnect`, `Browser.wiring_mountPanel` — the equations of what does touch the
  wiring, for a page with one link
* `Browser.step_wiring_cases` — nothing else touches it, as long as no link is driven by hand
* `Browser.start_of_unstarted` — what the first start of the panel comes to
-/

namespace MixerPanel

/-- A link as sockets and timers see it. -/
structure Wire where
  socket : Option Nat
  connection : ConnectionState
  nextId : UInt64
  delay : UInt32

/-- What sockets and timers see of a link. -/
def DaemonLink.wire (link : DaemonLink) : Wire :=
  ⟨link.socket, link.context.connection, link.session.tracker.nextId, link.delay⟩

/-- A page as sockets and timers see it. -/
structure Wiring where
  started : Bool
  wires : List Wire
  sockets : List WebSocket
  timers : List Timer
  /-- How often something was mounted. -/
  roots : Nat

namespace Session

@[simp] theorem nextId_handle (s : Session) (store : Store) (text : String) :
    (s.handle store text).session.tracker.nextId = s.tracker.nextId := by
  rw [session_handle]
  cases s.taken? text with
  | none => rfl
  | some frame => exact s.nextId_answered frame

end Session

namespace Context

variable (c : Context) (s : Session) (text : String)

@[simp] theorem connection_receive : (c.receive s text).context.connection = c.connection := rfl

@[simp] theorem session_receive :
    (c.receive s text).session = (s.handle c.store text).session := rfl

end Context

namespace Browser

/-- What sockets and timers see of a page. -/
def wiring (b : Browser) : Wiring :=
  ⟨b.started, b.links.map DaemonLink.wire, b.sockets, b.timers, b.roots.length⟩

/-- Whether an operation comes from the page or its user; the others drive a link by hand. -/
def Operation.ofPage : Operation → Bool
  | .addLink _ _ | .connect _ | .send _ _ => false
  | _ => true

/-! ## What leaves the wiring alone -/

section Quiet

variable {b : Browser} {i : Nat}

@[simp] theorem wiring_note (line : Log.Line) : (b.note line).wiring = b.wiring := rfl

/-- What is the same behind what is seen is the same for sockets and timers. -/
theorem wiring_of_machinery {page : Browser} (same : page.machinery = b.machinery) :
    page.wiring = b.wiring := by
  have behind : ∀ b : Browser, b.wiring = ⟨b.machinery.started,
      b.machinery.leads.map fun lead =>
        ⟨lead.socket, lead.connection, lead.session.tracker.nextId, lead.delay⟩,
      b.machinery.sockets, b.machinery.timers, b.machinery.roots.length⟩ := by
    intro b
    simp only [machinery, List.map_map]
    rfl
  rw [behind page, behind b, same]

/-- A change of a link that sockets and timers do not see. -/
theorem wiring_modifyLink {link : DaemonLink} (there : b.links[i]? = some link)
    {change : DaemonLink → DaemonLink} (same : (change link).wire = link.wire) :
    (b.modifyLink i change).wiring = b.wiring := by
  have wires : (b.links.modify i change).map DaemonLink.wire = b.links.map DaemonLink.wire :=
    map_modify_of_same there same
  show Wiring.mk b.started ((b.links.modify i change).map DaemonLink.wire) b.sockets b.timers
    b.roots.length = b.wiring
  rw [wires]
  rfl

theorem wiring_syncRoute : (b.syncRoute i).wiring = b.wiring :=
  wiring_of_machinery machinery_syncRoute

theorem wiring_receive (text : String) : (b.receive i text).wiring = b.wiring := by
  unfold receive
  cases there : b.links[i]? with
  | none => rfl
  | some link =>
      refine wiring_modifyLink there ?_
      simp only [DaemonLink.wire, Context.connection_receive, Context.session_receive,
        Session.nextId_handle]

end Quiet

/-! ## What touches the wiring of a page with one link -/

section OneLink

variable {b : Browser} {w : Wire}

theorem exists_link (one : b.wiring.wires = [w]) : ∃ link, b.links = [link] ∧ link.wire = w :=
  List.map_eq_singleton_iff.mp one

theorem wiring_setConnection (one : b.wiring.wires = [w]) (state : ConnectionState) :
    (b.setConnection 0 state).wiring
      = { b.wiring with wires := [{ w with connection := state }] } := by
  obtain ⟨link, links, rfl⟩ := exists_link one
  simp only [setConnection, modifyContext, modifyLink, links]
  rfl

theorem wiring_addSocket (one : b.wiring.wires = [w]) (url : String) :
    (b.addSocket 0 url).wiring
      = { b.wiring with
          wires := [{ w with socket := some b.sockets.length }]
          sockets := b.sockets ++ [.connecting url 0] } := by
  obtain ⟨link, links, rfl⟩ := exists_link one
  simp only [addSocket, modifyLink, links]
  rfl

theorem wiring_scheduleReconnect (one : b.wiring.wires = [w]) :
    (b.scheduleReconnect 0).wiring
      = { b.wiring with timers := b.timers ++ [⟨w.delay, 0⟩] } := by
  obtain ⟨link, links, rfl⟩ := exists_link one
  have there : b.links[0]? = some link := by rw [links]; rfl
  simp only [scheduleReconnect, there]
  rfl

/-- **An attempt to open the link** shows that it is being opened, whether a socket is made or
not. -/
theorem connect_cases {link : DaemonLink} (links : b.links = [link]) :
    (b.refused.contains link.url = true ∧ (b.connect 0).2 = .error .refusedUrl ∧
      (b.connect 0).1.wiring
        = { b.wiring with wires := [{ link.wire with connection := .connecting }] }) ∨
    (b.refused.contains link.url = false ∧ (b.connect 0).2 = .ok () ∧
      (b.connect 0).1.wiring
        = { b.wiring with
            wires := [{ link.wire with
              connection := .connecting
              socket := some b.sockets.length }]
            sockets := b.sockets ++ [.connecting link.url 0] }) := by
  have one : b.wiring.wires = [link.wire] := by
    show b.links.map DaemonLink.wire = _
    rw [links]
    rfl
  have there : b.links[0]? = some link := by rw [links]; rfl
  have shown := wiring_setConnection
    (b := b.note (Log.info ("Connecting to daemon at " ++ link.url))) one .connecting
  cases refusal : b.refused.contains link.url with
  | true =>
      refine Or.inl ⟨rfl, ?_⟩
      simp only [connect, there]
      rw [if_pos (by exact refusal)]
      exact ⟨rfl, shown⟩
  | false =>
      refine Or.inr ⟨rfl, ?_⟩
      simp only [connect, there]
      rw [if_neg (by rw [Bool.not_eq_true]; exact refusal)]
      refine ⟨rfl, ?_⟩
      rw [wiring_addSocket (w := { link.wire with connection := .connecting }) (by rw [shown]),
        shown]
      rfl

/-- **A request is sent** on the open socket that the link holds on to. -/
theorem wiring_send {k : Nat} {socket : WebSocket} (one : b.wiring.wires = [w])
    (holds : w.socket = some k) (there : b.sockets[k]? = some socket)
    (opened : socket.state = .opened) (data : Request) :
    (b.send 0 data).2 = .ok () ∧
      (b.send 0 data).1.wiring
        = { b.wiring with
            wires := [{ w with nextId := Tracker.successor w.nextId }]
            sockets := b.sockets.set k
              { socket with sent := socket.sent ++ [RequestFrame.encode ⟨w.nextId, data⟩] } } := by
  obtain ⟨link, links, rfl⟩ := exists_link one
  have linked : b.links[0]? = some link := by rw [links]; rfl
  have holdsLink : link.socket = some k := holds
  let page := (b.modifyLink 0 fun other =>
    { other with session := (link.session.request data).1 }).noteAll
      (link.session.request data).2.2
  let text := RequestFrame.encode ⟨link.session.tracker.nextId, data⟩
  have tracked : page.wiring
      = { b.wiring with wires := [{ link.wire with
          nextId := Tracker.successor link.session.tracker.nextId }] } := by
    simp only [page, modifyLink, links]
    rfl
  have attempt : b.send 0 data = page.transmit k text := by
    simp only [send, linked, holdsLink]
    rfl
  have sent : page.transmit k text
      = ({ page with sockets := b.sockets.set k { socket with sent := socket.sent ++ [text] } },
        .ok ()) := by
    have thereToo : page.sockets[k]? = some socket := there
    have taken : socket.send text = .ok { socket with sent := socket.sent ++ [text] } := by
      simp only [WebSocket.send, opened]
    simp only [transmit, thereToo, taken]
    rfl
  rw [attempt, sent]
  exact ⟨rfl, congrArg (fun before : Wiring => { before with
    sockets := b.sockets.set k { socket with sent := socket.sent ++ [text] } }) tracked⟩

theorem wiring_react_opened {k : Nat} {socket : WebSocket} (one : b.wiring.wires = [w])
    (holds : w.socket = some k) (there : b.sockets[k]? = some socket)
    (opened : socket.state = .opened) :
    (b.react 0 .opened).wiring
      = { b.wiring with
          wires := [{ w with
            connection := .connected
            nextId := Tracker.successor w.nextId }]
          sockets := b.sockets.set k { socket with
            sent := socket.sent ++ [RequestFrame.encode ⟨w.nextId, .getStatus⟩] } } := by
  have shown := wiring_setConnection one .connected
  have showsIt : (b.setConnection 0 .connected).wiring.wires
      = [{ w with connection := .connected }] := by rw [shown]
  obtain ⟨sent, wiring⟩ := wiring_send showsIt holds there opened .getStatus
  have attempt : (b.setConnection 0 .connected).send 0 .getStatus
      = (((b.setConnection 0 .connected).send 0 .getStatus).1, .ok ()) :=
    Prod.ext rfl sent
  rw [react, attempt]
  show ((b.setConnection 0 .connected).send 0 .getStatus).1.wiring = _
  rw [wiring, shown]
  rfl

theorem wiring_react_closed (one : b.wiring.wires = [w]) (code : Nat) (reason : String) :
    (b.react 0 (.closed code reason)).wiring
      = { b.wiring with
          wires := [{ w with connection := .disconnected }]
          timers := b.timers ++ [⟨w.delay, 0⟩] } := by
  obtain ⟨link, links, rfl⟩ := exists_link one
  have linked : b.links[0]? = some link := by rw [links]; rfl
  -- to forget what is outstanding does not touch the ids
  let page := b.note (Log.warn ("Daemon socket closed (" ++ toString code ++ "): " ++ reason))
  have forgotten : (page.modifyLink 0 fun link =>
      { link with session := link.session.reset }).wiring = b.wiring :=
    wiring_modifyLink (b := page) linked rfl
  have shown := wiring_setConnection (by rw [forgotten]; exact one) .disconnected
  rw [react, wiring_scheduleReconnect (w := { link.wire with connection := .disconnected })
    (by rw [shown]), shown, forgotten]
  rfl

/-- **A link that waited** has a new socket, or waits once more. -/
theorem wiring_reconnect {link : DaemonLink} (links : b.links = [link]) :
    (b.refused.contains link.url = true ∧
      (b.reconnect 0).wiring
        = { b.wiring with
            wires := [{ link.wire with connection := .disconnected }]
            timers := b.timers ++ [⟨link.delay, 0⟩] }) ∨
    (b.refused.contains link.url = false ∧
      (b.reconnect 0).wiring
        = { b.wiring with
            wires := [{ link.wire with
              connection := .connecting
              socket := some b.sockets.length }]
            sockets := b.sockets ++ [.connecting link.url 0] }) := by
  rcases b.connect_cases links with ⟨refusal, result, wiring⟩ | ⟨accepted, result, wiring⟩
  · refine Or.inl ⟨refusal, ?_⟩
    have attempt : b.connect 0 = ((b.connect 0).1, .error .refusedUrl) := Prod.ext rfl result
    let page := (b.connect 0).1.note
      (Log.error ("Reconnect failed: " ++ LinkError.refusedUrl.describe))
    have attempted : page.wiring
        = { b.wiring with wires := [{ link.wire with connection := .connecting }] } := wiring
    have shown := wiring_setConnection
      (w := { link.wire with connection := .connecting }) (by rw [attempted]) .disconnected
    have timers : (page.setConnection 0 .disconnected).timers = b.timers :=
      (congrArg Wiring.timers shown).trans (congrArg Wiring.timers attempted)
    rw [reconnect, attempt]
    show ((page.setConnection 0 .disconnected).scheduleReconnect 0).wiring = _
    rw [wiring_scheduleReconnect (w := { link.wire with connection := .disconnected })
      (by rw [shown]), shown, timers, attempted]
    rfl
  · refine Or.inr ⟨accepted, ?_⟩
    have attempt : b.connect 0 = ((b.connect 0).1, .ok ()) := Prod.ext rfl result
    rw [reconnect, attempt]
    exact wiring

theorem wiring_showPanel (one : b.wiring.wires = [w]) (selector : String) :
    (b.showPanel 0 selector).wiring = { b.wiring with roots := b.wiring.roots + 1 } := by
  obtain ⟨link, links, rfl⟩ := exists_link one
  have there : b.links[0]? = some link := by rw [links]; rfl
  simp only [showPanel, there]
  show Wiring.mk b.started _ b.sockets b.timers (b.roots ++ [_]).length = _
  rw [List.length_append]
  rfl

/-- What the panel shows leaves the wiring alone, except that there is one root more. -/
theorem wiring_followAndShow (one : b.wiring.wires = [w]) (selector : String) :
    (b.followAndShow 0 selector).wiring = { b.wiring with roots := b.wiring.roots + 1 } := by
  let page : Browser := { b.syncRoute 0 with
    hashListeners := (b.syncRoute 0).hashListeners ++ [0] }
  have followed : page.wiring = b.wiring := Eq.trans rfl wiring_syncRoute
  show (page.showPanel 0 selector).wiring = _
  rw [wiring_showPanel (by rw [followed]; exact one), followed]

/-- **The panel is mounted** on a page without links: it is shown with a link of which a first
attempt to open it has been made. -/
theorem wiring_mountPanel (links : b.links = []) (config : Config) (selector : String)
    (app : Application) :
    let url := config.socketUrl b.protocol b.host
    (b.refused.contains url = true ∧
      (b.mountPanel config selector app).wiring
        = { b.wiring with
            wires := [⟨none, .connecting, 0, config.reconnectDelay⟩]
            roots := b.wiring.roots + 1 }) ∨
    (b.refused.contains url = false ∧
      (b.mountPanel config selector app).wiring
        = { b.wiring with
            wires := [⟨some b.sockets.length, .connecting, 0, config.reconnectDelay⟩]
            sockets := b.sockets ++ [.connecting url 0]
            roots := b.wiring.roots + 1 }) := by
  intro url
  let link := DaemonLink.ofApplication url config.reconnectDelay app
  obtain ⟨lines, mounted⟩ := b.exists_mountPanel_eq config selector app
  have added : (b.addLink link).1.links = [link] := by
    rw [addLink, links]
    rfl
  rw [links, List.length_nil] at mounted
  rcases (b.addLink link).1.connect_cases added with ⟨refusal, -, wiring⟩ | ⟨accepted, -, wiring⟩
  · refine Or.inl ⟨refusal, ?_⟩
    have attempted : (((b.addLink link).1.connect 0).1.noteAll lines).wiring
        = { b.wiring with wires := [⟨none, .connecting, 0, config.reconnectDelay⟩] } := wiring
    rw [mounted, wiring_followAndShow (w := ⟨none, .connecting, 0, config.reconnectDelay⟩)
      (by rw [attempted]), attempted]
  · refine Or.inr ⟨accepted, ?_⟩
    have attempted : (((b.addLink link).1.connect 0).1.noteAll lines).wiring
        = { b.wiring with
            wires := [⟨some b.sockets.length, .connecting, 0, config.reconnectDelay⟩]
            sockets := b.sockets ++ [.connecting url 0] } := wiring
    rw [mounted, wiring_followAndShow
      (w := ⟨some b.sockets.length, .connecting, 0, config.reconnectDelay⟩) (by rw [attempted]),
      attempted]

end OneLink

/-! ## A whole operation -/

section WholeStep

variable {b : Browser}

/-- To start the panel a second time is only warned of. -/
theorem start_of_started (started : b.started = true) :
    b.start = (b.note (Log.warn "Bootstrap called twice, ignoring"), .error .alreadyStarted) := by
  rw [start, if_pos started]

/-- An operation of the page that touches its machinery starts the panel, or is an event that a
socket can have, or a timer that was set. -/
theorem step_machinery_cases {operation : Operation} (ofPage : operation.ofPage = true) :
    (b.step operation).browser.machinery = b.machinery ∨
    (operation = .start ∧ b.started = false) ∨
    (∃ place event socket state, operation = .socketEvent place event ∧
      b.sockets[place.getD (b.sockets.length - 1)]? = some socket ∧
      event.after? socket.state = some state) ∨
    ∃ place timer, operation = .fireTimer place ∧ b.timers[place]? = some timer := by
  cases isQuiet : operation.quiet with
  | true => exact Or.inl (machinery_step_of_quiet isQuiet)
  | false =>
      cases operation with
      | start =>
          cases started : b.started with
          | false => exact Or.inr (Or.inl ⟨rfl, rfl⟩)
          | true =>
              refine Or.inl ?_
              show b.start.1.machinery = b.machinery
              rw [start_of_started started, machinery_note]
      | addLink url delay => cases ofPage
      | connect link => cases ofPage
      | send link data => cases ofPage
      | socketEvent place event =>
          cases there : b.sockets[place.getD (b.sockets.length - 1)]? with
          | none =>
              refine Or.inl ?_
              show (b.socketEvent place event).1.machinery = b.machinery
              simp only [socketEvent, there]
          | some socket =>
              cases possible : event.after? socket.state with
              | none =>
                  refine Or.inl ?_
                  show (b.socketEvent place event).1.machinery = b.machinery
                  simp only [socketEvent, there, possible]
              | some state =>
                  exact Or.inr (Or.inr (Or.inl ⟨place, event, socket, state, rfl, there, possible⟩))
      | fireTimer place =>
          cases there : b.timers[place]? with
          | none =>
              refine Or.inl ?_
              show (b.fireTimer place).1.machinery = b.machinery
              simp only [fireTimer, there]
          | some timer => exact Or.inr (Or.inr (Or.inr ⟨place, timer, rfl, there⟩))
      | setElements elements => cases isQuiet
      | setRefused urls => cases isQuiet
      | setHash hash => cases isQuiet
      | choose serial => cases isQuiet
      | render component => cases isQuiet

/-- The same for what sockets and timers see. -/
theorem step_wiring_cases {operation : Operation} (ofPage : operation.ofPage = true) :
    (b.step operation).browser.wiring = b.wiring ∨
    (operation = .start ∧ b.started = false) ∨
    (∃ place event socket state, operation = .socketEvent place event ∧
      b.sockets[place.getD (b.sockets.length - 1)]? = some socket ∧
      event.after? socket.state = some state) ∨
    ∃ place timer, operation = .fireTimer place ∧ b.timers[place]? = some timer :=
  (step_machinery_cases ofPage).imp_left wiring_of_machinery

/-- Where there are neither sockets nor timers, only the first start touches the machinery. -/
theorem step_machinery_of_empty {operation : Operation} (ofPage : operation.ofPage = true)
    (sockets : b.sockets = []) (timers : b.timers = []) :
    (b.step operation).browser.machinery = b.machinery ∨
      (operation = .start ∧ b.started = false) := by
  rcases b.step_machinery_cases ofPage with same | first |
    ⟨place, event, socket, state, -, there, -⟩ | ⟨place, timer, -, there⟩
  · exact Or.inl same
  · exact Or.inr first
  · rw [sockets] at there
    cases there
  · rw [timers] at there
    cases there

/-- Where there are neither sockets nor timers, only the first start touches the wiring. -/
theorem step_wiring_of_empty {operation : Operation} (ofPage : operation.ofPage = true)
    (sockets : b.sockets = []) (timers : b.timers = []) :
    (b.step operation).browser.wiring = b.wiring ∨ (operation = .start ∧ b.started = false) :=
  (step_machinery_of_empty ofPage sockets timers).imp_left wiring_of_machinery

end WholeStep

/-! ## The first start -/

section FirstStart

variable {b : Browser}

theorem bootstrap_of_isHtml (site : MountSite) {selector : String}
    (there : site.browser.elements.isHtml selector = true) :
    ∃ app first last, (bootstrap site selector).result = .ok selector ∧
      (bootstrap site selector).page.browser
        = ((site.browser.note first).mountPanel site.config selector app).note last := by
  have found : Host.hasElement (registered site) selector = true := by
    show (site.browser.elements.isHtml selector || _) = true
    rw [there, Bool.true_or]
  have shown : Host.mountRoot (registered site) selector .standard
      = (.ok (), { registered site with
          browser := (registered site).browser.mountPanel site.config selector .standard }) :=
    if_pos there
  have whole := bootstrap_eq site selector
  rw [if_pos found, shown] at whole
  exact ⟨.standard, _, _, by rw [whole], by rw [whole]; rfl⟩

/-- Why nothing can be mounted where a selector matches no element to mount on. -/
def refusal (e : Elements) (selector : String) : StartupError :=
  if e.has selector then .mountFailed ("'" ++ selector ++ "' is not an HTML element")
  else .hostElementMissing selector

theorem bootstrap_of_not_isHtml (site : MountSite) {selector : String}
    (absent : site.browser.elements.isHtml selector = false) :
    ∃ line, (bootstrap site selector).result = .error (refusal site.browser.elements selector) ∧
      (bootstrap site selector).page.browser = site.browser.note line := by
  -- another element than those to mount on may match; it is refused later
  have failed : bootstrap site selector
      = ⟨registered site, .error (refusal site.browser.elements selector)⟩ := by
    rw [bootstrap_eq, refusal]
    show (if site.browser.elements.has selector = true then _ else _) = _
    cases found : site.browser.elements.has selector with
    | false => rfl
    | true =>
        have refused : Host.mountRoot (registered site) selector .standard
            = (.error (.mountFailed ("'" ++ selector ++ "' is not an HTML element")),
                registered site) :=
          (if_neg (Bool.eq_false_iff.mp absent)).trans (if_pos found)
        rw [refused]
        rfl
  exact ⟨_, by rw [failed], by rw [failed]; rfl⟩

theorem configure_eq : ∃ filter log,
    b.configure = ({ b with filter := filter, log := log }, (Config.ofQuery b.query).1) := by
  unfold configure
  rcases Config.ofQuery b.query with ⟨config, refusal⟩
  let filter := if config.logFilter = .off then b.filter else config.logFilter
  have filtered : (if config.logFilter = .off then b else { b with filter := config.logFilter })
      = { b with filter := filter } := by
    by_cases off : config.logFilter = .off
    · simp only [filter, if_pos off]
    · simp only [filter, if_neg off]
  cases refusal with
  | none => exact ⟨filter, b.log, by simp only [filtered]⟩
  | some e =>
      let page : Browser := { b with filter := filter }
      refine ⟨filter, (page.note (Log.warn ("Ignoring page configuration: " ++ e.message))).log, ?_⟩
      simp only [filtered]
      rfl

/-- **The first start** mounts the panel if the configured element is there to mount on, and
otherwise tells why it does not. -/
theorem start_of_unstarted (unstarted : b.started = false) :
    ∃ filter log,
      let page : Browser := { b with started := true, filter := filter, log := log }
      let config := (Config.ofQuery b.query).1
      if b.elements.isHtml config.hostSelector = true then
        ∃ app line, b.start.1 = (page.mountPanel config config.hostSelector app).note line ∧
          b.start.2 = .ok config.hostSelector
      else b.start.1 = page ∧ b.start.2 = .error (refusal b.elements config.hostSelector) := by
  obtain ⟨filter, log, configured⟩ := ({ b with started := true } : Browser).configure_eq
  let page : Browser := { b with started := true, filter := filter, log := log }
  let config := (Config.ofQuery b.query).1
  let noted := page.note (Log.info ("Starting " ++ View.panelName))
  let attempt := bootstrap (MountSite.mk noted config) config.hostSelector
  have started : (∃ selector, attempt.result = .ok selector ∧
        b.start = (attempt.page.browser, .ok selector)) ∨
      ∃ e, attempt.result = .error e ∧
        b.start = (attempt.page.browser.note (Log.error ("Startup failed: " ++ e.message)),
          .error e) := by
    rw [start, if_neg (by rw [unstarted]; exact Bool.false_ne_true), configured]
    dsimp only
    split
    next selector done => exact Or.inl ⟨selector, done, rfl⟩
    next e failed => exact Or.inr ⟨e, failed, rfl⟩
  by_cases there : b.elements.isHtml config.hostSelector = true
  · obtain ⟨app, first, last, result, browser⟩ := bootstrap_of_isHtml ⟨noted, config⟩ there
    refine ⟨filter, (noted.note first).log, ?_⟩
    intro _ _
    rw [if_pos there]
    refine ⟨app, last, ?_⟩
    rcases started with ⟨selector, done, mounted⟩ | ⟨e, failed, -⟩
    · obtain rfl : config.hostSelector = selector := Except.ok.inj (result.symm.trans done)
      rw [mounted]
      exact ⟨browser, rfl⟩
    · cases failed.symm.trans result
  · obtain ⟨line, result, browser⟩ := bootstrap_of_not_isHtml ⟨noted, config⟩
      (Bool.not_eq_true _ ▸ there)
    let failure := Log.error
      ("Startup failed: " ++ (refusal b.elements config.hostSelector).message)
    refine ⟨filter, ((noted.note line).note failure).log, ?_⟩
    intro _ _
    rw [if_neg there]
    rcases started with ⟨_, mounted, -⟩ | ⟨e, failed, outcome⟩
    · cases mounted.symm.trans result
    · obtain rfl : e = refusal b.elements config.hostSelector :=
        Except.error.inj (failed.symm.trans result)
      rw [outcome, browser]
      exact ⟨rfl, rfl⟩

end FirstStart

end Browser

end MixerPanel
