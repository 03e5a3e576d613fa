import MixerPanel.Browser.Basic

/-!
# Traffic with the daemon

A link is opened by making a socket. When the socket opens the full status is asked for; when it closes
the link waits and is opened again. What a socket tells reaches its link only as long as the link holds
on to that socket.

## Main Definitions

* `Browser.connect` — opens a link
* `Browser.send` — sends a request over a link
* `Browser.react` — what a link does when it hears of an event of its socket
* `Browser.socketEvent` — something happens to a socket
* `Browser.fireTimer` — a timer fires

## Design Notes

Timers are the browser's. It is assumed to set one for every delay that a link can have, which is any
number of milliseconds below 2³², without an error.
-/

namespace MixerPanel.Browser

/-! ## Requests -/

/-- Makes a socket for the link at a place, which from now on holds on to that socket. -/
def addSocket (b : Browser) (i : Nat) (url : String) : Browser :=
  { b.modifyLink i fun link => { link with socket := some b.sockets.length } with
    sockets := b.sockets ++ [.connecting url i] }

/-- Opens the link at a place. -/
def connect (b : Browser) (i : Nat) : Browser × Except LinkError Unit :=
  match b.links[i]? with
  | none => (b, .ok ())
  | some link =>
    let b := (b.note (Log.info ("Connecting to daemon at " ++ link.url))).setConnection i .connecting
    if b.refused.contains link.url then (b, .error .refusedUrl)
    else (b.addSocket i link.url, .ok ())

/-- Sends a text over the socket at a place. -/
def transmit (b : Browser) (k : Nat) (text : String) : Browser × Except LinkError Unit :=
  match b.sockets[k]? with
  | none => (b, .error .noSocket)
  | some socket =>
    match socket.send text with
    | .ok socket => ({ b with sockets := b.sockets.set k socket }, .ok ())
    | .error e => (b, .error e)

/-- Sends a request over the link at a place. It is outstanding even if it could not be sent. -/
def send (b : Browser) (i : Nat) (data : Request) : Browser × Except LinkError Unit :=
  match b.links[i]? with
  | none => (b, .ok ())
  | some link =>
    let (session, text, log) := link.session.request data
    let b := (b.modifyLink i fun link => { link with session := session }).noteAll log
    match link.socket with
    | none => (b, .error .noSocket)
    | some k => b.transmit k text

/-! ## Events of sockets -/

/-- Sets a timer after which the link at a place is opened again. That a timer can be set for every
delay is an assumption about the browser. -/
def scheduleReconnect (b : Browser) (i : Nat) : Browser :=
  match b.links[i]? with
  | none => b
  | some link => { b with timers := b.timers ++ [⟨link.delay, i⟩] }

/-- What is logged of a text from the daemon that was taken. -/
def receiptLog : Except ProtocolError SessionEvent → Log.Line
  | .ok event => Log.debug ("Daemon message handled: " ++ event.describe)
  | .error (.unexpectedId id) =>
    Log.debug ("Ignored response for request " ++ toString id.toNat)
  | .error e => Log.error ("Daemon message error: " ++ e.message)

/-- The link at a place takes a text from the daemon. -/
def receive (b : Browser) (i : Nat) (text : String) : Browser :=
  match b.links[i]? with
  | none => b
  | some link =>
    let received := link.context.receive link.session text
    (b.modifyLink i fun link =>
      { link with session := received.session, context := received.context }).noteAll
        (received.log ++ [receiptLog received.result])

/-- What the link at a place does when it hears of an event of its socket. -/
def react (b : Browser) (i : Nat) : SocketEvent → Browser
  | .opened =>
    match (b.setConnection i .connected).send i .getStatus with
    | (b, .ok ()) => b
    | (b, .error e) => b.note (Log.error ("Status request failed: " ++ e.describe))
  | .message text => b.receive i text
  | .binary => b.note (Log.warn "Ignoring non-text daemon frame")
  | .closed code reason =>
    let b := b.note
      (Log.warn ("Daemon socket closed (" ++ toString code ++ "): " ++ reason))
    ((b.modifyLink i fun link => { link with session := link.session.reset }).setConnection i
      .disconnected).scheduleReconnect i

/-- What became of an event of a socket. -/
inductive Reaction where
  /-- The link heard of it. -/
  | heard
  /-- The link holds on to another socket and did not hear of it. -/
  | unheard
  /-- It cannot happen in the state of the socket. -/
  | impossible
  /-- There is no socket at all. -/
  | noSocket
  /-- There is no socket at that place. -/
  | noSuchSocket
deriving DecidableEq, Repr

/-- Something happens to the socket at a place, or to the latest one. -/
def socketEvent (b : Browser) (place : Option Nat) (event : SocketEvent) : Browser × Reaction :=
  let k := place.getD (b.sockets.length - 1)
  match b.sockets[k]? with
  | none => (b, if b.sockets.isEmpty then .noSocket else .noSuchSocket)
  | some socket =>
    match event.after? socket.state with
    | none => (b, .impossible)
    | some state =>
      let b := { b with sockets := b.sockets.set k { socket with state := state } }
      if b.socketOf? socket.owner = some k then (b.react socket.owner event, .heard)
      else (b, .unheard)

/-! ## Timers -/

/-- Opens the link at a place again; if that fails, it waits once more. -/
def reconnect (b : Browser) (i : Nat) : Browser :=
  match b.connect i with
  | (b, .ok ()) => b
  | (b, .error e) =>
    ((b.note (Log.error ("Reconnect failed: " ++ e.describe))).setConnection i
      .disconnected).scheduleReconnect i

/-- The timer at a place fires, if there is one; its delay. -/
def fireTimer (b : Browser) (k : Nat) : Browser × Option UInt32 :=
  match b.timers[k]? with
  | none => (b, none)
  | some timer =>
    ({ b with timers := b.timers.eraseIdx k }.reconnect timer.link, some timer.delay)

end MixerPanel.Browser
