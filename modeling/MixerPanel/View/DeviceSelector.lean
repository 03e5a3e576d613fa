import MixerPanel.Context
import MixerPanel.View.Markup

/-!
# The device selector

A list of the connected devices in which the active one is marked.

## Main Definitions

* `View.Choice`, `View.choices` — the devices that can be chosen
* `View.deviceSelector` — their layout
-/

namespace MixerPanel.View

open Markup

/-- A device that can be chosen. -/
structure Choice where
  /-- The serial, by which it is chosen. -/
  value : String
  /-- The text that is shown. -/
  label : String
  /-- Whether it is the active device. -/
  selected : Bool
deriving DecidableEq, Repr

/-- The devices that can be chosen, in the daemon's order. -/
def choices (c : Context) : List Choice :=
  c.store.devices.map fun d => ⟨d.serial, d.label, c.store.activeSerial == some d.serial⟩

/-- An attribute that is on or off. -/
def flag (name : String) (on : Bool) : List (String × String) := if on then [(name, "")] else []

/-- The layout of a choice. -/
def Choice.markup (choice : Choice) : Markup :=
  element "option" (("value", choice.value) :: flag "selected" choice.selected)
    [text choice.label]

/-- The layout of the choices. Without a device nothing can be chosen. -/
def deviceSelector (c : Context) : Markup :=
  styled "div" "device-selector"
    [element "select" (flag "disabled" c.store.devices.isEmpty) ((choices c).map Choice.markup),
      icon "angle-down" "select-arrow"]

end MixerPanel.View
