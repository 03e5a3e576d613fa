import MixerPanel.Browser.Traffic
import MixerPanel.View.Component

/-!
# Startup in the browser

The panel is started once for a page. Its configuration comes from the query; it is then mounted on
the configured element, where it opens a link to the daemon and shows the route of the fragment.

## Main Definitions

* `Browser.syncRoute` — a context follows the fragment
* `Browser.render` — shows a component
* `Browser.mountPanel` — shows the whole panel
* `MountSite` — the page and the configuration, as what an application is mounted on
* `Browser.start` — starts the panel
-/

namespace MixerPanel

namespace Browser

/-- Leads the context of the link at a place to the route of the fragment. -/
def syncRoute (b : Browser) (i : Nat) : Browser :=
  match b.links[i]? with
  | none => b
  | some link =>
    let context := link.context.navigate b.hash
    (b.note (Log.debug ("Route '" ++ b.hash ++ "' -> " ++ context.route.page.name))).modifyContext
      i fun _ => context

/-- Another fragment: all contexts that follow it are led to its route. -/
def setHash (b : Browser) (hash : String) : Browser :=
  b.hashListeners.foldl syncRoute { b with hash := hash }

/-- Chooses a device in the device selector that was shown last, if one was. -/
def choose (b : Browser) (serial : String) : Browser × Bool :=
  match b.selector with
  | none => (b, false)
  | some i =>
    match b.links[i]? with
    | none => (b, false)
    | some link =>
      let (context, log) := link.context.selectDevice serial
      ((b.modifyContext i fun _ => context).noteAll log, true)

/-- Shows a component in the current context, if there is one. -/
def render (b : Browser) (component : View.Component) : Browser × Option (List Html) :=
  match b.context? with
  | none => (b, none)
  | some c =>
    let b := b.noteAll (component.log c)
    (if component = .deviceSelector then { b with selector := some (b.links.length - 1) } else b,
      some (component.draw c))

/-- Draws the whole panel for the link at a place into the element that matches a selector. -/
def showPanel (b : Browser) (i : Nat) (selector : String) : Browser :=
  match b.links[i]? with
  | none => b
  | some link =>
    let markup := View.panel link.context
    let icons := link.context.icons
    { b.noteAll (Markup.drawLog icons [markup]) with
      selector := some i
      roots := b.roots ++ [⟨selector, markup.draw icons⟩] }

/-- Opens a link for an application, follows the fragment from now on, and shows the whole panel in
the element that matches a selector. -/
def mountPanel (b : Browser) (config : Config) (selector : String) (app : Application) :
    Browser :=
  let (b, i) := b.addLink
    (.ofApplication (config.socketUrl b.protocol b.host) config.reconnectDelay app)
  let b :=
    match b.connect i with
    | (b, .ok ()) => b
    | (b, .error e) => b.note (Log.error ("Could not open daemon socket: " ++ e.describe))
  let b := b.syncRoute i
  { b with hashListeners := b.hashListeners ++ [i] }.showPanel i selector

end Browser

/-- The page and the configuration, as what an application is mounted on. -/
structure MountSite where
  browser : Browser
  config : Config

namespace MountSite

/-- Mounts the panel on the element that matches a selector, if that can be done. -/
def mountRoot (site : MountSite) (selector : String) (app : Application) :
    Except StartupError Unit × MountSite :=
  if site.browser.elements.isHtml selector then
    (.ok (), { site with browser := site.browser.mountPanel site.config selector app })
  else if site.browser.elements.has selector then
    (.error (.mountFailed ("'" ++ selector ++ "' is not an HTML element")), site)
  else
    (.error (.hostElementMissing selector), site)

instance : Host MountSite where
  hasElement site selector := site.browser.elements.has selector
  mountRoot := mountRoot
  note site line := { site with browser := site.browser.note line }

end MountSite

namespace Browser

/-- Reads the configuration from the query, and keeps the log lines that it wants. If it wants none,
the lines that are kept stay the same. -/
def configure (b : Browser) : Browser × Config :=
  let (config, refusal) := Config.ofQuery b.query
  let b := if config.logFilter = .off then b else { b with filter := config.logFilter }
  match refusal with
  | none => (b, config)
  | some e => (b.note (Log.warn ("Ignoring page configuration: " ++ e.message)), config)

/-- Starts the panel, unless it was started before: the selector that it is mounted on, or why it is
not. -/
def start (b : Browser) : Browser × Except StartupError String :=
  if b.started then
    (b.note (Log.warn "Bootstrap called twice, ignoring"), .error .alreadyStarted)
  else
    let (b, config) := { b with started := true }.configure
    let b := b.note (Log.info ("Starting " ++ View.panelName))
    let attempt := bootstrap (MountSite.mk b config) config.hostSelector
    match attempt.result with
    | .ok selector => (attempt.page.browser, .ok selector)
    | .error e =>
      (attempt.page.browser.note (Log.error ("Startup failed: " ++ e.message)), .error e)

end Browser

end MixerPanel
