import MixerPanel.Browser.Startup

/-!
# Runs of the browser

What can happen to a page, one thing after the other: the panel is started, sockets and timers act, and
the user moves about.

## Main Definitions

* `Browser.Operation` — what can happen
* `Browser.step` — what becomes of it
* `Browser.run` — the page after a list of operations
-/

namespace MixerPanel.Browser

/-- What can happen to a page. -/
inductive Operation where
  /-- The panel is started. -/
  | start
  /-- The page gets other elements. -/
  | setElements (elements : Elements)
  /-- Other addresses are refused. -/
  | setRefused (urls : List String)
  /-- A link is made by hand, and all log lines are kept from now on. -/
  | addLink (url : String) (delay : UInt32)
  /-- The link at a place is opened. -/
  | connect (link : Nat)
  /-- A request is sent over the link at a place. -/
  | send (link : Nat) (data : Request)
  /-- Something happens to the socket at a place, or to the latest one. -/
  | socketEvent (place : Option Nat) (event : SocketEvent)
  /-- The timer at a place fires. -/
  | fireTimer (place : Nat)
  /-- The fragment changes. -/
  | setHash (hash : String)
  /-- A device is chosen. -/
  | choose (serial : String)
  /-- A component is shown. -/
  | render (component : View.Component)

/-- Why an operation fails. -/
inductive Failure where
  | startup (e : StartupError)
  | link (e : LinkError)
deriving DecidableEq, Repr

/-- What an operation that succeeds gives. -/
inductive Reply where
  | done
  | mountedOn (selector : String)
  | reaction (r : Reaction)
  /-- The delay of the timer that fired. -/
  | fired (delay : Option UInt32)
  /-- How many contexts follow the fragment. -/
  | followers (count : Nat)
  /-- Whether there was something to choose in. -/
  | chosen (heard : Bool)
  | shown (content : Option (List Html))
deriving Repr

/-- What becomes of an operation. -/
structure Outcome where
  browser : Browser
  reply : Except Failure Reply

/-- The outcome of an operation on a link. -/
def linkOutcome (attempt : Browser × Except LinkError Unit) : Outcome :=
  ⟨attempt.1, (attempt.2.map fun _ => .done).mapError .link⟩

/-- What becomes of an operation. -/
def step (b : Browser) : Operation → Outcome
  | .start =>
    let (b, result) := b.start
    ⟨b, (result.map .mountedOn).mapError .startup⟩
  | .setElements elements => ⟨{ b with elements := elements }, .ok .done⟩
  | .setRefused urls => ⟨{ b with refused := urls }, .ok .done⟩
  | .addLink url delay =>
    let app := { Application.empty.registerIcons Icon.all with router := some .standard }
    let (b, _) := b.addLink (.ofApplication url delay app)
    ⟨{ b with filter := .upTo .trace }, .ok .done⟩
  | .connect link => linkOutcome (b.connect link)
  | .send link data => linkOutcome (b.send link data)
  | .socketEvent place event =>
    let (b, reaction) := b.socketEvent place event
    ⟨b, .ok (.reaction reaction)⟩
  | .fireTimer place =>
    let (b, delay) := b.fireTimer place
    ⟨b, .ok (.fired delay)⟩
  | .setHash hash => ⟨b.setHash hash, .ok (.followers b.hashListeners.length)⟩
  | .choose serial =>
    let (b, heard) := b.choose serial
    ⟨b, .ok (.chosen heard)⟩
  | .render component =>
    let (b, content) := b.render component
    ⟨b, .ok (.shown content)⟩

/-- The page after a list of operations. -/
def run (b : Browser) (operations : List Operation) : Browser :=
  operations.foldl (fun b operation => (b.step operation).browser) b

end MixerPanel.Browser
