import MixerPanel.Device.Basic

/-!
# Where the active device is found

## Main Definitions

* `HasActiveDevice` — anything that can tell which device is active
-/

namespace MixerPanel

/-- Anything that can tell which device is active. -/
class HasActiveDevice (σ : Type) where
  /-- The active device, or none while no device is chosen. -/
  activeDevice : σ → Option Device

export HasActiveDevice (activeDevice)

instance : HasActiveDevice (Option Device) := ⟨id⟩

instance : HasActiveDevice Device := ⟨some⟩

@[simp] theorem activeDevice_option (d : Option Device) : activeDevice d = d := rfl

@[simp] theorem activeDevice_device (d : Device) : activeDevice d = some d := rfl

end MixerPanel
