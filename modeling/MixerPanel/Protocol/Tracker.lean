import MixerPanel.Protocol.Frame

/-!
# Outstanding requests

The tracker hands out the ids of requests and remembers those that are not answered yet.

## Main Definitions

* `Tracker` — the next id, and the requests that are outstanding
* `Tracker.track` — a frame with a fresh id
* `Tracker.complete` — takes the answer to a request
* `Tracker.reset` — forgets what is outstanding; the ids go on from where they are
-/

namespace MixerPanel

/-- The ids of requests, and what is outstanding. -/
structure Tracker where
  /-- The id of the next request. -/
  nextId : UInt64
  /-- The outstanding requests by their ids, the latest first. -/
  outstanding : List (UInt64 × Request)
deriving DecidableEq, Repr

namespace Tracker

/-- The tracker before any request. -/
def empty : Tracker := ⟨0, []⟩

/-- The id after an id; the reserved one is left out. -/
def successor (id : UInt64) : UInt64 :=
  if id + 1 = broadcastId then 0 else id + 1

/-- The requests that are not outstanding under an id. -/
def without (outstanding : List (UInt64 × Request)) (id : UInt64) : List (UInt64 × Request) :=
  outstanding.filter fun entry => entry.1 ≠ id

/-- Puts a request into a frame with a fresh id. -/
def track (t : Tracker) (data : Request) : Tracker × RequestFrame :=
  (⟨successor t.nextId, (t.nextId, data) :: without t.outstanding t.nextId⟩, ⟨t.nextId, data⟩)

/-- The request that is outstanding under an id. -/
def request? (t : Tracker) (id : UInt64) : Option Request :=
  (t.outstanding.find? fun entry => entry.1 == id).map Prod.snd

/-- Takes a request as answered, and tells which it was. -/
def complete (t : Tracker) (id : UInt64) : Tracker × Option Request :=
  ({ t with outstanding := without t.outstanding id }, t.request? id)

/-- The number of outstanding requests. -/
def pending (t : Tracker) : Nat := t.outstanding.length

/-- Forgets all outstanding requests. -/
def reset (t : Tracker) : Tracker := { t with outstanding := [] }

end Tracker

end MixerPanel
