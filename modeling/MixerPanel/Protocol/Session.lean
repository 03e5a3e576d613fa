import MixerPanel.Protocol.Tracker
import MixerPanel.Store.Basic

/-!
# Sessions

A session sends requests to the daemon and brings what comes back into the store.

## Main Definitions

* `ProtocolError` — why a frame is refused
* `SessionEvent` — what a frame did
* `Session` — the state of the exchange
* `Session.request` — the text of a request
* `Session.handle` — takes one text from the daemon
-/

namespace MixerPanel

/-- Why a frame is refused. -/
inductive ProtocolError where
  /-- The text is no frame. -/
  | undecodable (e : Json.ReadError)
  /-- The daemon answers with an error. -/
  | daemon (message : String)
  /-- The status or the patch in the frame is refused. -/
  | status (e : StatusError)
  /-- The frame answers a request that is not outstanding. -/
  | unexpectedId (id : UInt64)
deriving DecidableEq, Repr

/-- The wording of an error. -/
def ProtocolError.message : ProtocolError → String
  | undecodable e => "Could not decode daemon message: " ++ e.message
  | daemon message => "Daemon error: " ++ message
  | status e => e.message
  | unexpectedId id => "Response for unknown request id " ++ toString id.toNat

/-- What a frame did. -/
inductive SessionEvent where
  /-- It acknowledged a request, or none if it was a broadcast. -/
  | acknowledged (request : Option Request)
  | statusReplaced
  | patched
deriving DecidableEq, Repr

/-- What a frame did, as log lines tell it. -/
def SessionEvent.describe : SessionEvent → String
  | acknowledged none => "Ack(None)"
  | acknowledged (some request) => "Ack(Some(" ++ request.wireName ++ "))"
  | statusReplaced => "StatusReplaced"
  | patched => "Patched"

/-- The state of the exchange with the daemon. -/
structure Session where
  tracker : Tracker
deriving DecidableEq, Repr

namespace Session

/-- The session before any request. -/
def empty : Session := ⟨.empty⟩

/-- The number of requests that await their answer. -/
def pending (s : Session) : Nat := s.tracker.pending

/-- The text that sends a request, and what is logged. -/
def request (s : Session) (data : Request) : Session × String × List Log.Line :=
  let (tracker, frame) := s.tracker.track data
  (⟨tracker⟩, frame.encode,
    [Log.debug ("Daemon request " ++ toString frame.id.toNat ++ ": " ++ frame.data.wireName)])

/-- Forgets the outstanding requests. -/
def reset (s : Session) : Session := ⟨s.tracker.reset⟩

/-- What becomes of a text from the daemon. -/
structure Handled where
  session : Session
  /-- What is logged before the store is touched. -/
  log : List Log.Line
  /-- What the frame does, or why it is refused, and what comes of the store either way. -/
  outcome : Except ProtocolError SessionEvent × Store.Update

/-- What a response does to the store. -/
def bring (request : Option Request) : Response → ExceptT ProtocolError Store.Writing SessionEvent
  | .ok => return .acknowledged request
  | .err message => throw (.daemon message)
  | .status document => do
    (Store.Writing.replaceDocument document).adapt ProtocolError.status
    return .statusReplaced
  | .patch operations => do
    (Store.Writing.applyPatch operations).adapt ProtocolError.status
    return .patched

/-- Brings a response into the store. -/
def applyResponse (store : Store) (request : Option Request) (response : Response) :
    Except ProtocolError SessionEvent × Store.Update :=
  store.written (bring request response).run

/-- Takes one text from the daemon. A broadcast answers no request; any other frame must answer an
outstanding one, which is then outstanding no more. -/
def handle (s : Session) (store : Store) (text : String) : Handled :=
  match ResponseFrame.decode text with
  | .error e => ⟨s, [], (.error (.undecodable e), store.unchanged)⟩
  | .ok frame =>
    if frame.id = broadcastId then ⟨s, [], applyResponse store none frame.data⟩
    else
      match s.tracker.complete frame.id with
      | (tracker, some request) => ⟨⟨tracker⟩, [], applyResponse store (some request) frame.data⟩
      | (tracker, none) =>
        ⟨⟨tracker⟩,
          [Log.warn ("Dropping daemon response for unknown id " ++ toString frame.id.toNat)],
          (.error (.unexpectedId frame.id), store.unchanged)⟩

end Session

end MixerPanel
