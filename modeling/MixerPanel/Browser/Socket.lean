import MixerPanel.Text.Quoted

/-!
# Sockets

A socket carries texts to the daemon and back. It is being opened, then open, then closed, and may be
closed before it is open.

## Main Definitions

* `SocketState`, `WebSocket` — a socket and its state
* `SocketEvent` — what the other end does
* `SocketEvent.after?` — the state that an event leads to, if it can happen
* `WebSocket.send` — sends a text
* `LinkError` — why a socket cannot be made or used
-/

namespace MixerPanel

/-- The state of a socket. -/
inductive SocketState where
  | connecting
  | opened
  | closed
deriving DecidableEq, Repr

/-- A socket. -/
structure WebSocket where
  url : String
  state : SocketState
  /-- The texts that were sent, in their order. -/
  sent : List String
  /-- The place of the link that made it among the links of the browser. -/
  owner : Nat
deriving DecidableEq, Repr

/-- What the other end of a socket does. -/
inductive SocketEvent where
  | opened
  | message (text : String)
  /-- A message that is no text. -/
  | binary
  | closed (code : Nat) (reason : String)
deriving DecidableEq, Repr

/-- The state that an event leads to, if it can happen. -/
def SocketEvent.after? : SocketEvent → SocketState → Option SocketState
  | opened, .connecting => some .opened
  | message _, .opened => some .opened
  | binary, .opened => some .opened
  | closed _ _, .connecting => some .closed
  | closed _ _, .opened => some .closed
  | _, _ => none

/-- Why a socket cannot be made or used. -/
inductive LinkError where
  /-- The browser refuses the address. -/
  | refusedUrl
  /-- The socket is not open yet. -/
  | stillConnecting
  /-- No socket was ever made. -/
  | noSocket
deriving DecidableEq, Repr

namespace LinkError

/-- The wording of an error. -/
def message : LinkError → String
  | refusedUrl => "invalid URL"
  | stillConnecting => "still in CONNECTING state"
  | noSocket => "Daemon socket not open"

/-- The name of the exception of the browser that an error is, if it is one. -/
def exception? : LinkError → Option String
  | refusedUrl => some "SyntaxError"
  | stillConnecting => some "InvalidStateError"
  | noSocket => none

/-- An error as log lines tell it. -/
def describe (e : LinkError) : String :=
  match e.exception? with
  | some name => "JsValue(" ++ name ++ ": " ++ e.message ++ ")"
  | none => "JsValue(" ++ Text.quoted e.message ++ ")"

end LinkError

namespace WebSocket

/-- A socket that is being opened. -/
def connecting (url : String) (owner : Nat) : WebSocket := ⟨url, .connecting, [], owner⟩

/-- Whether a socket is open or being opened. -/
def isLive (s : WebSocket) : Bool := s.state != .closed

/-- Sends a text. Over a closed socket it is lost. -/
def send (s : WebSocket) (text : String) : Except LinkError WebSocket :=
  match s.state with
  | .connecting => .error .stillConnecting
  | .opened => .ok { s with sent := s.sent ++ [text] }
  | .closed => .ok s

end WebSocket

end MixerPanel
