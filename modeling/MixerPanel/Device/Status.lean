import MixerPanel.Device.Basic
import MixerPanel.Json.Patch

/-!
# The status document

The daemon publishes one document on all connected devices. The typed view holds what is shown and
ignores the rest.

## Main Definitions

* `Status` — the connected devices, in the daemon's order
* `Status.device?` — the device with a serial
* `Status.validate` — the serials are pairwise distinct
* `Status.ofText`, `Status.ofValue` — reads and validates
* `Status.toValue` — the document that the typed view stands for
-/

namespace MixerPanel

/-- Why a status document is refused, or a request to the store of one. -/
inductive StatusError where
  | unreadable (e : Json.ReadError)
  | patchFailed (e : Json.PatchError)
  | unknownDevice (serial : String)
  | duplicateSerial (serial : String)
deriving DecidableEq, Repr

/-- The wording of an error. -/
def StatusError.message : StatusError → String
  | unreadable e => "Status JSON error: " ++ e.message
  | patchFailed e => "Status patch error: " ++ e.message
  | unknownDevice serial => "Unknown device: " ++ serial
  | duplicateSerial serial => "Duplicate device serial: " ++ serial

/-- The status of all connected devices. -/
structure Status where
  /-- The devices in the daemon's order. -/
  devices : List Device
deriving DecidableEq, Repr, Inhabited

namespace Status

/-- The status without a device. -/
def empty : Status := ⟨[]⟩

/-- The first device with a serial. -/
def device? (s : Status) (serial : String) : Option Device :=
  s.devices.find? fun d => d.serial == serial

/-- The serial of the first device that has the serial of one before it. -/
def repeatedSerial? (seen : List String) : List Device → Option String
  | [] => none
  | d :: rest =>
    if d.serial ∈ seen then some d.serial else repeatedSerial? (d.serial :: seen) rest

/-- Refuses a status in which a serial is repeated. -/
def validate (s : Status) : Except StatusError Unit :=
  match repeatedSerial? [] s.devices with
  | none => .ok ()
  | some serial => .error (.duplicateSerial serial)

/-- Reads a status; the devices may be missing. -/
def reader : Json.Reader Status :=
  Json.Fields.record "DaemonStatus"
    (mk <$> Json.Fields.optional "devices" (Json.listOf Device.reader) [])

/-- A status as an object, the members in the order in which they are written. -/
def toJson (s : Status) : Json := .object [("devices", .list (s.devices.map Device.toJson))]

/-- The document that a status stands for. -/
def toValue (s : Status) : Json := s.toJson.canonical

/-- A status that is read, if it is valid. -/
def accept (read : Json.Result Status) : Except StatusError Status := do
  let s ← read.mapError .unreadable
  s.validate
  return s

/-- Reads and validates a status document in text form. -/
def ofText (text : String) : Except StatusError Status := accept (Json.ofText reader text)

/-- Reads and validates a status document. -/
def ofValue (document : Json) : Except StatusError Status := accept (Json.ofValue reader document)

end Status

end MixerPanel
