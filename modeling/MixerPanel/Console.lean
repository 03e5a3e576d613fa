import MixerPanel.Context

/-!
# The console

A session and a context together, driven by what the daemon sends and by what the user does.

## Main Definitions

* `Console` — a session and a context
* `Console.Operation`, `Console.step` — what is done, and what becomes of it
* `Console.run` — the console after a list of operations
-/

namespace MixerPanel

/-- A session and a context. -/
structure Console where
  session : Session
  context : Context

namespace Console

/-- The console of an application. -/
def ofApplication (app : Application) : Console := ⟨.empty, .ofApplication app⟩

/-- What is done. -/
inductive Operation where
  /-- Makes a request. -/
  | request (data : Request)
  /-- Takes a text from the daemon. -/
  | message (text : String)
  /-- Puts a status document into place. -/
  | document (document : Json)
  /-- Chooses a device. -/
  | select (serial : String)
  /-- Goes to a location. -/
  | navigate (location : String)
  /-- Tells the state of the link. -/
  | connection (state : ConnectionState)

/-- What an operation that succeeds gives. -/
inductive Reply where
  | done
  /-- The text to be sent. -/
  | frame (text : String)
  | handled (event : SessionEvent)
  | route (r : Route)
deriving DecidableEq, Repr

/-- What becomes of an operation. -/
structure Outcome where
  console : Console
  reply : Except ProtocolError Reply
  log : List Log.Line

/-- What is done, and what becomes of it. -/
def step (c : Console) : Operation → Outcome
  | .request data =>
    let (session, text, log) := c.session.request data
    ⟨{ c with session := session }, .ok (.frame text), log⟩
  | .message text =>
    let received := c.context.receive c.session text
    ⟨⟨received.session, received.context⟩, received.result.map .handled, received.log⟩
  | .document document =>
    let (done, context, log) := c.context.replaceDocument document
    ⟨{ c with context := context }, (done.map fun _ => .done).mapError .status, log⟩
  | .select serial =>
    let (context, log) := c.context.selectDevice serial
    ⟨{ c with context := context }, .ok .done, log⟩
  | .navigate location =>
    let context := c.context.navigate location
    ⟨{ c with context := context }, .ok (.route context.route), []⟩
  | .connection state =>
    ⟨{ c with context := { c.context with connection := state } }, .ok .done, []⟩

/-- The console after a list of operations. -/
def run (c : Console) (operations : List Operation) : Console :=
  operations.foldl (fun c operation => (c.step operation).console) c

end Console

end MixerPanel
