import MixerPanel.Store.Basic

/-!
# Descriptions for diagnosis

A description names the kind of a value and the names and values of its fields, so that a whole store
can be looked at in one line.

## Main Definitions

* `Firmware.describe`, `Hardware.describe`, `Device.describe`, `Status.describe`, `Store.describe`
-/

namespace MixerPanel

/-- The description of a record: its kind, and its fields between braces. -/
def describeRecord (kind : String) (fields : List (String × String)) : String :=
  kind ++ " \x7b " ++ ", ".intercalate (fields.map fun field => field.1 ++ ": " ++ field.2)
    ++ " \x7d"

/-- The description of a list: its items between brackets. -/
def describeList (items : List String) : String := "[" ++ ", ".intercalate items ++ "]"

namespace Firmware

/-- The description of firmware versions. -/
def describe (f : Firmware) : String :=
  describeRecord "FirmwareVersions"
    [("firmware", f.main.text), ("fpga_count", toString f.fpgaCount.toNat), ("dice", f.dice.text)]

end Firmware

namespace Hardware

/-- The description of a hardware section. -/
def describe (h : Hardware) : String :=
  describeRecord "DeviceInfo"
    [("serial", Text.quoted h.serial), ("manufacture_date", Text.quoted h.manufactureDate),
      ("device_type", h.model.wireName), ("firmware", h.firmware.describe),
      ("features", describeList (h.features.map Feature.wireName))]

end Hardware

namespace Device

/-- The description of a device. -/
def describe (d : Device) : String :=
  describeRecord "DeviceStatus"
    [("serial", Text.quoted d.serial), ("hardware", d.hardware.describe)]

end Device

namespace Status

/-- The description of a status. -/
def describe (s : Status) : String :=
  describeRecord "DaemonStatus" [("devices", describeList (s.devices.map Device.describe))]

end Status

namespace SubscriptionId

/-- The description of a subscription. -/
def describe (id : SubscriptionId) : String :=
  "SubscriptionId(" ++ toString id.number.toNat ++ ")"

end SubscriptionId

namespace Store

/-- The description of a store. -/
def describe (s : Store) : String :=
  describeRecord "DeviceStore"
    [("status", s.status.describe), ("active", Text.quotedOption s.activeSerial),
      ("listeners", toString s.listeners.length)]

end Store

end MixerPanel
