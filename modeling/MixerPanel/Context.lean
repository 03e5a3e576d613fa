import MixerPanel.App.Basic
import MixerPanel.Device.Capability
import MixerPanel.Protocol.Session

/-!
# The context of the views

What the views of a mounted application have in common: the store, the state of the link, the current
route, and the icons and routes of the application.

## Main Definitions

* `ConnectionState` — the state of the link
* `Context` — what views have in common
* `Context.ofApplication` — the context of an application that is mounted
* `Context.selectDevice`, `Context.navigate`, `Context.receive` — how it changes

## Design Notes

The context is the first listener of its store, and logs every change of the active device.
-/

namespace MixerPanel

/-- The state of the link to the daemon. -/
inductive ConnectionState where
  | connecting
  | connected
  | disconnected
deriving DecidableEq, Repr

/-- The text shown for a state of the link. -/
def ConnectionState.label : ConnectionState → String
  | connecting => "Connecting"
  | connected => "Connected"
  | disconnected => "Disconnected"

/-- What views have in common. -/
structure Context where
  store : Store
  connection : ConnectionState
  /-- The current route. -/
  route : Route
  icons : IconSet
  routes : RouteTable

namespace Context

/-- The context of an application; without a router it has the standard routes. -/
def ofApplication (app : Application) : Context :=
  let routes := app.router.getD .standard
  { store := Store.empty.subscribe.1
    connection := .connecting
    route := routes.resolve "/"
    icons := app.icons
    routes := routes }

instance : HasActiveDevice Context := ⟨fun c => c.store.active⟩

@[simp] theorem activeDevice_eq (c : Context) : activeDevice c = c.store.active := rfl

/-- What the context logs of an event. -/
def logOf : StoreEvent → List Log.Line
  | .statusReplaced => []
  | .activeDeviceChanged previous current =>
    [Log.info ("Active device " ++ Text.quotedOption previous ++ " -> " ++
      Text.quotedOption current)]

/-- The context from what comes of its store, and what is logged. -/
def update (c : Context) (u : Store.Update) : Context × List Log.Line :=
  ({ c with store := u.store }, u.log ++ u.events.flatMap logOf)

/-- Puts a status document into place: whether this can be done, the context then, and what is
logged. -/
def replaceDocument (c : Context) (document : Json) :
    Except StatusError Unit × Context × List Log.Line :=
  let (done, u) := c.store.written (Store.Writing.replaceDocument document).run
  (done, c.update u)

/-- What is logged of a choice of a device. -/
def choiceLog : Except StatusError Unit → List Log.Line
  | .ok () => []
  | .error e => [Log.warn ("Cannot select device: " ++ e.message)]

/-- Makes the device with a serial the active one; if there is none, only the log says so. -/
def selectDevice (c : Context) (serial : String) : Context × List Log.Line :=
  let (done, u) := c.store.written (Store.Writing.select serial).run
  let (context, log) := c.update u
  (context, log ++ choiceLog done)

/-- Goes to the route of a location. -/
def navigate (c : Context) (location : String) : Context :=
  { c with route := c.routes.resolve location }

/-- What became of a text from the daemon. -/
structure Received where
  context : Context
  session : Session
  log : List Log.Line
  result : Except ProtocolError SessionEvent

/-- Takes a text from the daemon. -/
def receive (c : Context) (session : Session) (text : String) : Received :=
  let handled := session.handle c.store text
  let (done, u) := handled.outcome
  let (context, log) := c.update u
  ⟨context, handled.session, handled.log ++ log, done⟩

end Context

end MixerPanel
