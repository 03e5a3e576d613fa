import MixerPanel.Proofs.Dealings

/-!
# One start for a page

A page remembers that the panel was started, and this before anything else is tried.  So what the
first start comes to is settled for good: if it fails, nothing is left of it but log lines, and what
would be needed may turn up later in vain; if it succeeds, there is one root, and no other ever.

* `Mounting` — what is mounted on a page, and whether it was started
* `Browser.mounting_step` — only the first start touches it
* `Browser.mounting_start`, `Browser.start_result` — what the first start comes to
* `one_start_per_page` — and what holds ever after
-/

namespace MixerPanel

/-- What is mounted on a page. -/
structure Mounting where
  started : Bool
  hashListeners : List Nat
  roots : List MountedRoot

namespace Browser

/-- What is mounted on a page. -/
def mounting (b : Browser) : Mounting := ⟨b.started, b.hashListeners, b.roots⟩

/-! ## What leaves it alone -/

section Kept

variable {b : Browser} {i : Nat}

@[simp] theorem mounting_note (line : Log.Line) : (b.note line).mounting = b.mounting := rfl

theorem mounting_of_machinery {page : Browser} (same : page.machinery = b.machinery) :
    page.mounting = b.mounting :=
  congrArg (fun m : Machinery => Mounting.mk m.started m.hashListeners m.roots) same

@[simp] theorem mounting_setConnection (state : ConnectionState) :
    (b.setConnection i state).mounting = b.mounting := rfl

@[simp] theorem mounting_connect : (b.connect i).1.mounting = b.mounting := by
  unfold connect
  cases b.links[i]? with
  | none => rfl
  | some link =>
      dsimp only
      split_ifs <;> rfl

theorem mounting_transmit (k : Nat) (text : String) :
    (b.transmit k text).1.mounting = b.mounting := by
  unfold transmit
  cases b.sockets[k]? with
  | none => rfl
  | some socket =>
      dsimp only
      cases socket.send text <;> rfl

theorem mounting_send (data : Request) : (b.send i data).1.mounting = b.mounting := by
  unfold send
  cases b.links[i]? with
  | none => rfl
  | some link =>
      dsimp only
      cases link.socket with
      | none => rfl
      | some k => exact mounting_transmit k _

@[simp] theorem mounting_scheduleReconnect : (b.scheduleReconnect i).mounting = b.mounting := by
  unfold scheduleReconnect
  cases b.links[i]? <;> rfl

theorem mounting_react (event : SocketEvent) : (b.react i event).mounting = b.mounting := by
  cases event with
  | opened =>
      have sent := (b.setConnection i .connected).mounting_send (i := i) .getStatus
      unfold react
      rcases attempt : (b.setConnection i .connected).send i .getStatus with ⟨page, _ | _⟩
      · rw [attempt] at sent
        exact sent
      · rw [attempt] at sent
        exact sent
  | message text =>
      unfold react receive
      cases b.links[i]? <;> rfl
  | binary => rfl
  | closed code reason =>
      unfold react
      rw [mounting_scheduleReconnect, mounting_setConnection]
      rfl

theorem mounting_socketEvent (place : Option Nat) (event : SocketEvent) :
    (b.socketEvent place event).1.mounting = b.mounting := by
  unfold socketEvent
  dsimp only
  split
  · rfl
  · split
    · rfl
    · split_ifs
      · exact mounting_react event
      · rfl

theorem mounting_fireTimer (place : Nat) : (b.fireTimer place).1.mounting = b.mounting := by
  unfold fireTimer
  cases b.timers[place]? with
  | none => rfl
  | some timer =>
      let waiting : Browser := { b with timers := b.timers.eraseIdx place }
      have connected : (waiting.connect timer.link).1.mounting = b.mounting := mounting_connect
      show (waiting.reconnect timer.link).mounting = b.mounting
      unfold reconnect
      rcases attempt : waiting.connect timer.link with ⟨page, _ | _⟩
      · rw [attempt] at connected
        rw [mounting_scheduleReconnect, mounting_setConnection]
        exact connected
      · rw [attempt] at connected
        exact connected

/-- **Only the first start mounts anything**, whatever else happens, by hand or not. -/
theorem mounting_step {operation : Operation} (later : operation = .start → b.started = true) :
    (b.step operation).browser.mounting = b.mounting := by
  have seen : operation.quiet = true → (b.step operation).browser.mounting = b.mounting :=
    fun quiet => mounting_of_machinery (machinery_step_of_quiet quiet)
  cases operation with
  | start =>
      show b.start.1.mounting = b.mounting
      rw [start_of_started (later rfl), mounting_note]
  | addLink url delay => rfl
  | connect link => exact mounting_connect
  | send link data => exact mounting_send data
  | socketEvent place event => exact mounting_socketEvent place event
  | fireTimer place => exact mounting_fireTimer place
  | setElements elements => exact seen rfl
  | setRefused urls => exact seen rfl
  | setHash hash => exact seen rfl
  | choose serial => exact seen rfl
  | render component => exact seen rfl

theorem mounting_run (started : b.started = true) (operations : List Operation) :
    (b.run operations).mounting = b.mounting := by
  induction operations generalizing b with
  | nil => rfl
  | cons operation rest ih =>
      have stepped : (b.step operation).browser.mounting = b.mounting :=
        b.mounting_step fun _ => started
      have startedThen : (b.step operation).browser.started = true :=
        (congrArg Mounting.started stepped).trans started
      exact (ih startedThen).trans stepped

end Kept

/-! ## What the first start mounts -/

section Mounted

variable {b : Browser} {i : Nat}

theorem length_links_of_sessions {page : Browser} (same : page.sessions = b.sessions) :
    page.links.length = b.links.length := by
  have lengths := congrArg List.length same
  rwa [sessions, sessions, List.length_map, List.length_map] at lengths

theorem mounting_showPanel {link : DaemonLink} (there : b.links[i]? = some link)
    (selector : String) :
    (b.showPanel i selector).mounting
      = { b.mounting with
          roots := b.roots ++
            [⟨selector, (View.panel link.context).draw link.context.icons⟩] } := by
  simp only [showPanel, there]
  rfl

theorem mounting_followAndShow {link : DaemonLink} (there : b.links[i]? = some link)
    (selector : String) :
    ∃ content, (b.followAndShow i selector).mounting
      = ⟨b.started, b.hashListeners ++ [i], b.roots ++ [⟨selector, content⟩]⟩ := by
  let page : Browser := { b.syncRoute i with
    hashListeners := (b.syncRoute i).hashListeners ++ [i] }
  obtain ⟨shown, isShown⟩ : ∃ shown, page.links[i]? = some shown := by
    refine ⟨_, List.getElem?_eq_getElem ?_⟩
    show i < (b.syncRoute i).links.length
    rw [length_links_of_sessions sessions_syncRoute]
    exact (List.getElem?_eq_some_iff.mp there).1
  have followed : (b.syncRoute i).mounting = b.mounting :=
    mounting_of_machinery machinery_syncRoute
  let content := (View.panel shown.context).draw shown.context.icons
  refine ⟨content, (page.mounting_showPanel isShown selector).trans ?_⟩
  show Mounting.mk (b.syncRoute i).mounting.started
    ((b.syncRoute i).mounting.hashListeners ++ [i]) ((b.syncRoute i).mounting.roots ++ _) = _
  rw [followed]
  rfl

/-- Mounting the panel adds one root, with one listener for the fragment. -/
theorem mounting_mountPanel (b : Browser) (config : Config) (selector : String)
    (app : Application) :
    ∃ content, (b.mountPanel config selector app).mounting
      = ⟨b.started, b.hashListeners ++ [b.links.length], b.roots ++ [⟨selector, content⟩]⟩ := by
  obtain ⟨lines, mounted⟩ := b.exists_mountPanel_eq config selector app
  let link := DaemonLink.ofApplication (config.socketUrl b.protocol b.host)
    config.reconnectDelay app
  let attempted := ((b.addLink link).1.connect b.links.length).1.noteAll lines
  have same : attempted.mounting = b.mounting := mounting_connect
  obtain ⟨opening, there⟩ : ∃ opening, attempted.links[b.links.length]? = some opening := by
    refine ⟨_, List.getElem?_eq_getElem ?_⟩
    have length : attempted.links.length = (b.links ++ [link]).length :=
      length_links_of_sessions sessions_connect
    rw [length, List.length_append]
    exact Nat.lt_succ_self _
  obtain ⟨content, shown⟩ := attempted.mounting_followAndShow there selector
  refine ⟨content, ?_⟩
  rw [mounted]
  refine shown.trans ?_
  show Mounting.mk attempted.mounting.started (attempted.mounting.hashListeners ++ _)
    (attempted.mounting.roots ++ _) = _
  rw [same]
  rfl

end Mounted

/-! ## A start that fails -/

section Failed

variable {b : Browser}

/-- A page on which the panel was started in vain: it has neither links nor what comes of them. -/
def idle : Machinery := ⟨true, [], [], [], [], []⟩

/-- Where the panel was started in vain the page does nothing of itself. -/
theorem idle_run (operations : List Operation)
    (ofPage : ∀ operation ∈ operations, operation.ofPage = true)
    (isIdle : b.machinery = idle) : (b.run operations).machinery = idle := by
  induction operations generalizing b with
  | nil => exact isIdle
  | cons operation rest ih =>
      have sockets : b.sockets = [] := congrArg Machinery.sockets isIdle
      have timers : b.timers = [] := congrArg Machinery.timers isIdle
      have started : b.started = true := congrArg Machinery.started isIdle
      have here := ofPage operation List.mem_cons_self
      have later : ∀ operation ∈ rest, operation.ofPage = true :=
        fun operation mem => ofPage operation (List.mem_cons_of_mem _ mem)
      refine ih later ?_
      rcases step_machinery_of_empty here sockets timers with same | ⟨-, unstarted⟩
      · rw [same, isIdle]
      · cases unstarted.symm.trans started

end Failed

end Browser

/-- **A page has one start.**  Take a page with any query and any elements, start the panel, and let
anything happen that comes from the page or its user, further starts among it.  Then, at any time,

* another start is only warned of: it is refused, and the page is as it was but for the log line;
* if the configured selector matched an element to mount on at the first start, that start has told
  so, and one root is mounted, under that selector;
* if not, the first start has told why, and the page has neither a root nor a socket, a timer or a
  listener for its fragment, whatever elements it got since. -/
theorem one_start_per_page (protocol host : String) (query : List (String × String))
    (hash : String) (elements : Elements) (refused : List String)
    (operations : List Browser.Operation)
    (ofPage : ∀ operation ∈ operations, operation.ofPage = true) :
    let first := (Browser.fresh protocol host query hash elements refused).start
    let selector := (Config.ofQuery query).1.hostSelector
    let page := first.1.run operations
    page.start
      = (page.note (Log.warn "Bootstrap called twice, ignoring"), .error .alreadyStarted) ∧
    (elements.isHtml selector = true →
      first.2 = .ok selector ∧ ∃ content, page.roots = [⟨selector, content⟩]) ∧
    (elements.isHtml selector = false →
      first.2 = .error (if elements.has selector
        then .mountFailed ("'" ++ selector ++ "' is not an HTML element")
        else .hostElementMissing selector) ∧
      page.roots = [] ∧ page.sockets = [] ∧ page.timers = [] ∧ page.hashListeners = []) := by
  intro first selector page
  let fresh := Browser.fresh protocol host query hash elements refused
  obtain ⟨filter, log, outcome⟩ := fresh.start_of_unstarted rfl
  let begun : Browser := { fresh with started := true, filter := filter, log := log }
  by_cases there : elements.isHtml selector = true
  · obtain ⟨app, line, browser, result⟩ : ∃ app line,
        first.1 = (begun.mountPanel (Config.ofQuery query).1 selector app).note line ∧
          first.2 = .ok selector := (if_pos there).mp outcome
    obtain ⟨content, mounted⟩ := begun.mounting_mountPanel (Config.ofQuery query).1 selector app
    have mountedFirst : first.1.mounting = ⟨true, [0], [⟨selector, content⟩]⟩ := by
      rw [browser, Browser.mounting_note, mounted]
      rfl
    have mountedNow : page.mounting = ⟨true, [0], [⟨selector, content⟩]⟩ := by
      rw [← mountedFirst]
      exact Browser.mounting_run (congrArg Mounting.started mountedFirst) operations
    refine ⟨Browser.start_of_started (congrArg Mounting.started mountedNow), ?_, ?_⟩
    · intro _
      exact ⟨result, content, congrArg Mounting.roots mountedNow⟩
    · intro absent
      cases there.symm.trans absent
  · obtain ⟨browser, result⟩ : first.1 = begun ∧
        first.2 = .error (Browser.refusal elements selector) := (if_neg there).mp outcome
    have idleNow : page.machinery = Browser.idle := by
      refine Browser.idle_run operations ofPage ?_
      rw [browser]
      rfl
    refine ⟨Browser.start_of_started (congrArg Machinery.started idleNow), ?_, ?_⟩
    · intro isHtml
      exact absurd isHtml there
    · intro _
      exact ⟨result, congrArg Machinery.roots idleNow, congrArg Machinery.sockets idleNow,
        congrArg Machinery.timers idleNow, congrArg Machinery.hashListeners idleNow⟩

/-- The element comes too late: at the first start the selector matched another kind of element. -/
theorem nothing_mounted_on_late_element :
    let first := (Browser.fresh "http:" "localhost:14564" [("host", "#panel")] ""
      ⟨[], ["#panel"], []⟩ []).start
    let page := first.1.run [.setElements ⟨["#panel"], [], []⟩, .start]
    first.2 = .error (.mountFailed "'#panel' is not an HTML element") ∧
      page.elements.isHtml "#panel" = true ∧ page.roots = [] ∧
      page.start.2 = .error .alreadyStarted := by
  intro first page
  have selector : (Config.ofQuery [("host", "#panel")]).1.hostSelector = "#panel" := by decide
  obtain ⟨again, -, failed⟩ := one_start_per_page "http:" "localhost:14564" [("host", "#panel")] ""
    ⟨[], ["#panel"], []⟩ [] [.setElements ⟨["#panel"], [], []⟩, .start] (by decide)
  rw [selector] at failed
  obtain ⟨result, roots, -⟩ := failed (by decide)
  exact ⟨result, by decide, roots, congrArg Prod.snd again⟩

end MixerPanel
