import MixerPanel.Device.Version
import MixerPanel.Json.Choice

/-!
# Devices

## Main Definitions

* `Model` — the variants of the hardware
* `Feature` — what a firmware may offer
* `Hardware` — the hardware section of a device
* `Device` — a connected device: its serial and its hardware

## Design Notes

A model that is not known by its name is read as `Model.other`, so that one new model cannot take the
rest of a status document down with it.
-/

namespace MixerPanel

/-- The variants of the hardware. -/
inductive Model where
  | full
  /-- The small variant: no scribble strips, no effects and no sampler. -/
  | mini
  /-- Any other variant; it is treated as full-size. -/
  | other
deriving DecidableEq, Repr, Inhabited

namespace Model

/-- The name by which the daemon knows a model. -/
def wireName : Model → String
  | full => "Full"
  | mini => "Mini"
  | other => "Other"

/-- The name shown to the user. -/
def displayName : Model → String
  | full => "GoXLR"
  | mini => "GoXLR Mini"
  | other => "GoXLR (unrecognised model)"

/-- Whether the model is the small one. -/
def isMini (m : Model) : Bool := m == mini

/-- Reads a model. Every name that is not known is another model. -/
def reader : Json.Reader Model :=
  Json.Variants.choice ⟨[("Full", .plain full), ("Mini", .plain mini)], some (.plain other)⟩

/-- A model as its name. -/
def toJson (m : Model) : Json := .string m.wireName

end Model

/-- What a firmware may offer. -/
inductive Feature where
  | animation
  | subMix
  | voiceOfDisappearing
deriving DecidableEq, Repr

namespace Feature

/-- The name by which the daemon knows a feature. -/
def wireName : Feature → String
  | animation => "Animation"
  | subMix => "SubMix"
  | voiceOfDisappearing => "VoD"

/-- All features. -/
def all : List Feature := [animation, subMix, voiceOfDisappearing]

/-- Reads a feature. -/
def reader : Json.Reader Feature :=
  Json.Variants.choice ⟨all.map fun f => (f.wireName, .plain f), none⟩

/-- A feature as its name. -/
def toJson (f : Feature) : Json := .string f.wireName

end Feature

/-- The hardware section of a device. -/
structure Hardware where
  serial : String
  /-- The date of manufacture, as the device tells it. -/
  manufactureDate : String
  model : Model
  firmware : Firmware
  features : List Feature
deriving DecidableEq, Repr, Inhabited

namespace Hardware

/-- Whether the firmware offers a feature. -/
def hasFeature (h : Hardware) (f : Feature) : Bool := h.features.contains f

/-- Reads a hardware section; the features may be missing. -/
def reader : Json.Reader Hardware :=
  Json.Fields.record "DeviceInfo"
    (mk <$> Json.Fields.required "serial" Json.text
      <*> Json.Fields.required "manufacture_date" Json.text
      <*> Json.Fields.required "device_type" Model.reader
      <*> Json.Fields.required "firmware" Firmware.reader
      <*> Json.Fields.optional "features" (Json.listOf Feature.reader) [])

/-- A hardware section as an object. -/
def toJson (h : Hardware) : Json :=
  .object [("serial", .string h.serial), ("manufacture_date", .string h.manufactureDate),
    ("device_type", h.model.toJson), ("firmware", h.firmware.toJson),
    ("features", .list (h.features.map Feature.toJson))]

end Hardware

/-- A connected device. -/
structure Device where
  /-- The serial, by which a device is told from the others. -/
  serial : String
  hardware : Hardware
deriving DecidableEq, Repr, Inhabited

namespace Device

/-- The model of a device. -/
def model (d : Device) : Model := d.hardware.model

/-- The text that stands for a device where one is chosen. -/
def label (d : Device) : String := d.model.displayName ++ " (" ++ d.serial ++ ")"

/-- Reads a device. -/
def reader : Json.Reader Device :=
  Json.Fields.record "DeviceStatus"
    (mk <$> Json.Fields.required "serial" Json.text
      <*> Json.Fields.required "hardware" Hardware.reader)

/-- A device as an object. -/
def toJson (d : Device) : Json :=
  .object [("serial", .string d.serial), ("hardware", d.hardware.toJson)]

end Device

end MixerPanel
