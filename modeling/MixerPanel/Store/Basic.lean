import MixerPanel.Device.Active
import MixerPanel.Device.Status
import MixerPanel.Log

/-!
# The store

The store holds the latest status document, in its typed view and as it was received, and which of
the devices is the active one. Listeners are told of changes.

## Main Definitions

* `Store` — the state
* `Store.document` — the document that the next patch is applied to
* `Store.active` — the active device
* `Store.Update` — a store, with what was logged and what listeners were told until then
* `Store.Writing`, `Store.Attempt` — what is done to a store in place, and may fail
* `Store.Writing.replaceStatus`, `Store.Writing.replaceDocument`, `Store.Writing.applyPatch`,
  `Store.Writing.select` — the changes
* `Store.written` — what comes of a store
* `Store.subscribe`, `Store.unsubscribe` — the listeners
* `Store.deliveries` — which listener is told what, in order

## Design Notes

A change works on the store in place, and what it has done before it fails stays done: the store,
the log and what listeners were told are there whether it fails or not. The document is kept beside
the typed view because patches address members that the typed view does not have.
-/

namespace MixerPanel

/-- What listeners are told. -/
inductive StoreEvent where
  /-- Another status document is in place. -/
  | statusReplaced
  /-- Another device is active, or the active device is of another model. -/
  | activeDeviceChanged (previous current : Option String)
deriving DecidableEq, Repr

/-- The number of a subscription. -/
structure SubscriptionId where
  number : UInt64
deriving DecidableEq, Repr

/-- The latest status and the active device. -/
structure Store where
  status : Status
  /-- The document as it was received, if the status came as a document. -/
  raw : Option Json
  /-- The serial of the active device. -/
  activeSerial : Option String
  /-- The listeners, in the order of their subscription. -/
  listeners : List SubscriptionId
  /-- The number of the next subscription. -/
  nextSubscription : UInt64
deriving Repr

namespace Store

/-- The store before anything is known. -/
def empty : Store := ⟨.empty, none, none, [], 0⟩

/-- The devices in the daemon's order. -/
def devices (s : Store) : List Device := s.status.devices

/-- The document that the next patch is applied to. -/
def document (s : Store) : Json := s.raw.getD s.status.toValue

/-- The active device. -/
def active (s : Store) : Option Device := s.activeSerial.bind s.status.device?

/-- The model of the active device. -/
def activeModel (s : Store) : Option Model := s.active.map Device.model

instance : HasActiveDevice Store := ⟨active⟩

@[simp] theorem activeDevice_eq (s : Store) : activeDevice s = s.active := rfl

/-- A store with what was logged and what listeners were told, in order, until it came to be so. -/
structure Update where
  store : Store
  log : List Log.Line
  events : List StoreEvent

/-- The store as it is, before anything is done to it. -/
def unchanged (s : Store) : Update := ⟨s, [], []⟩

@[simp] theorem unchanged_store (s : Store) : s.unchanged.store = s := rfl

@[simp] theorem unchanged_log (s : Store) : s.unchanged.log = [] := rfl

@[simp] theorem unchanged_events (s : Store) : s.unchanged.events = [] := rfl

/-- The serial of the first device of a status. -/
def firstSerial (status : Status) : Option String := status.devices.head?.map Device.serial

/-- The serial that is active under a new status: the one before if a device has it, otherwise that
of the first device. -/
def reselect (status : Status) : Option String → Option String
  | some serial => if (status.device? serial).isSome then some serial else firstSerial status
  | none => firstSerial status

/-! ## Changes in place -/

/-- What is done to a store in place, one step after the other. -/
abbrev Writing := StateM Update

/-- What is done to a store in place and may fail. There is no way back: what is done before it
fails stays done. -/
abbrev Attempt := ExceptT StatusError Writing

theorem Attempt.run_get_bind {α : Type} (next : Update → Attempt α) (u : Update) :
    (get >>= next : Attempt α).run.run u = (next u).run.run u := rfl

/-- What comes of a store when something is done to it. -/
def written {α : Type} (s : Store) (writing : Writing α) : α × Update := writing.run s.unchanged

namespace Writing

/-- Assigns to the fields of the store. -/
def assign (fields : Store → Store) : Writing Unit :=
  modify fun u => { u with store := fields u.store }

/-- Logs a line. -/
def note (line : Log.Line) : Writing Unit := modify fun u => { u with log := u.log ++ [line] }

/-- Tells every listener of an event. -/
def tell (event : StoreEvent) : Writing Unit :=
  modify fun u => { u with events := u.events ++ [event] }

@[simp] theorem run_assign (fields : Store → Store) (u : Update) :
    (assign fields).run u = pure ((), { u with store := fields u.store }) := rfl

@[simp] theorem run_note (line : Log.Line) (u : Update) :
    (note line).run u = pure ((), { u with log := u.log ++ [line] }) := rfl

@[simp] theorem run_tell (event : StoreEvent) (u : Update) :
    (tell event).run u = pure ((), { u with events := u.events ++ [event] }) := rfl

/-- Puts a status into place, and then selects the active device again. Listeners are told when both
are done. -/
def install (status : Status) : Writing Unit := do
  let before := (← get).store
  assign fun s => { s with status := status }
  assign fun s => { s with activeSerial := reselect s.status s.activeSerial }
  let after := (← get).store
  note (Log.debug ("Status replaced: " ++ toString after.status.devices.length ++
    " device(s), active " ++ Text.quotedOption after.activeSerial))
  tell .statusReplaced
  if before.activeSerial ≠ after.activeSerial ∨ before.activeModel ≠ after.activeModel then
    tell (.activeDeviceChanged before.activeSerial after.activeSerial)

/-- Puts a typed status into place; there is no document then. -/
def replaceStatus (status : Status) : Writing Unit := do
  assign fun s => { s with raw := none }
  install status

/-- Puts a status document into place, if it can be read. -/
def replaceDocument (document : Json) : Attempt Unit := do
  let status ← Status.ofValue document
  assign fun s => { s with raw := some document }
  install status

/-- Patches a copy of the document, and puts it into place if the patch applies and the result can
be read. -/
def applyPatch (patch : Json.Patch) : Attempt Unit := do
  let document ← (patch.apply (← get).store.document).mapError StatusError.patchFailed
  replaceDocument document

/-- Makes the device with a serial the active one, if there is one. To select the active device
again changes nothing. -/
def select (serial : String) : Attempt Unit := do
  let before := (← get).store
  if (before.status.device? serial).isNone then
    throw (.unknownDevice serial)
  else unless before.activeSerial = some serial do
    assign fun s => { s with activeSerial := some serial }
    note (Log.info ("Active device changed to " ++ serial))
    tell (.activeDeviceChanged before.activeSerial (some serial))

end Writing

/-! ## Listeners -/

/-- Adds a listener, after those that are there. -/
def subscribe (s : Store) : Store × SubscriptionId :=
  let id : SubscriptionId := ⟨s.nextSubscription⟩
  ({ s with listeners := s.listeners ++ [id], nextSubscription := s.nextSubscription + 1 }, id)

/-- Removes a listener, and tells whether it was there. -/
def unsubscribe (s : Store) (id : SubscriptionId) : Store × Bool :=
  ({ s with listeners := s.listeners.filter (· ≠ id) }, s.listeners.contains id)

/-- Which listener is told what: every event goes to all listeners, in the order of their
subscription, before the next event does. -/
def deliveries (s : Store) (events : List StoreEvent) : List (SubscriptionId × StoreEvent) :=
  events.flatMap fun event => s.listeners.map fun id => (id, event)

@[simp] theorem deliveries_nil (s : Store) : s.deliveries [] = [] := rfl

end Store

end MixerPanel
