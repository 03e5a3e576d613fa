import MixerPanel.Protocol.Session

/-!
# The desk

A session and a store together, driven by operations one after the other. Every operation gives a
reply or an error, and tells which lines were logged and which listener was told what.

## Main Definitions

* `Desk` — a session and a store
* `Desk.Operation` — the operations
* `Desk.step` — what an operation does
* `Desk.run` — the desk after a list of operations
-/

namespace MixerPanel

/-- A session and a store. -/
structure Desk where
  session : Session
  store : Store

namespace Desk

/-- The desk before anything is known. -/
def empty : Desk := ⟨.empty, .empty⟩

/-- The operations on a desk. -/
inductive Operation where
  /-- Makes a request. -/
  | request (data : Request)
  /-- Takes a text from the daemon. -/
  | message (text : String)
  /-- Forgets the outstanding requests. -/
  | reset
  | replaceStatus (status : Status)
  | replaceDocument (document : Json)
  | applyPatch (patch : Json.Patch)
  | select (serial : String)
  | subscribe
  | unsubscribe (id : SubscriptionId)

/-- What an operation that succeeds gives. -/
inductive Reply where
  | done
  /-- The text to be sent. -/
  | frame (text : String)
  | handled (event : SessionEvent)
  | subscribed (id : SubscriptionId)
  | unsubscribed (wasThere : Bool)
deriving DecidableEq, Repr

/-- What an operation does. -/
structure Outcome where
  desk : Desk
  reply : Except ProtocolError Reply
  log : List Log.Line
  /-- What is told to listeners, each time to which one. -/
  deliveries : List (SubscriptionId × StoreEvent)

/-- The outcome of an operation that no listener hears of. -/
def quiet (desk : Desk) (reply : Reply) (log : List Log.Line) : Outcome :=
  ⟨desk, .ok reply, log, []⟩

/-- The outcome of an operation on the store, from what comes of the store. -/
def updated (d : Desk) (session : Session) (reply : Except ProtocolError Reply)
    (update : Store.Update) : Outcome :=
  ⟨⟨session, update.store⟩, reply, update.log, d.store.deliveries update.events⟩

/-- The outcome of an operation on the store that may fail. -/
def attempted (d : Desk) (attempt : Store.Attempt Unit) : Outcome :=
  let (done, update) := d.store.written attempt.run
  d.updated d.session ((done.map fun _ => .done).mapError .status) update

/-- The outcome of a text from the daemon. -/
def handled (d : Desk) (h : Session.Handled) : Outcome :=
  let (done, update) := h.outcome
  let outcome := d.updated h.session (done.map .handled) update
  { outcome with log := h.log ++ outcome.log }

/-- What an operation does. -/
def step (d : Desk) : Operation → Outcome
  | .request data =>
    let (session, text, log) := d.session.request data
    quiet { d with session := session } (.frame text) log
  | .message text => d.handled (d.session.handle d.store text)
  | .reset => quiet { d with session := d.session.reset } .done []
  | .replaceStatus status =>
    let ((), update) := d.store.written (Store.Writing.replaceStatus status)
    d.updated d.session (.ok .done) update
  | .replaceDocument document => d.attempted (Store.Writing.replaceDocument document)
  | .applyPatch patch => d.attempted (Store.Writing.applyPatch patch)
  | .select serial => d.attempted (Store.Writing.select serial)
  | .subscribe =>
    let (store, id) := d.store.subscribe
    quiet { d with store := store } (.subscribed id) []
  | .unsubscribe id =>
    let (store, wasThere) := d.store.unsubscribe id
    quiet { d with store := store } (.unsubscribed wasThere) []

/-- The desk after a list of operations. -/
def run (d : Desk) (operations : List Operation) : Desk :=
  operations.foldl (fun d operation => (d.step operation).desk) d

end Desk

end MixerPanel
