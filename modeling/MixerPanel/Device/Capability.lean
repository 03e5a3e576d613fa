import MixerPanel.Device.Active

/-!
# What a device can do

Everything here follows from the device that is active when the question is asked; nothing is kept.

## Main Definitions

* `Capabilities` — what may be offered for a device
* `Capabilities.of` — the capabilities of a hardware section
* `isMini`, `isMiniOr`, `capabilities` — questions about the active device
-/

namespace MixerPanel

/-- A question about the active device while there is none. -/
inductive CapabilityError where
  | noActiveDevice
deriving DecidableEq, Repr

/-- The wording of the error. -/
def CapabilityError.message : CapabilityError → String
  | noActiveDevice => "No active device"

/-- What may be offered for a device. -/
structure Capabilities where
  /-- The displays of the fader strips. -/
  scribbles : Bool
  /-- The effects and their encoders. -/
  effects : Bool
  /-- The sampler pads. -/
  sampler : Bool
  /-- The lights of the whole device and of the faders. -/
  lighting : Bool
  /-- The sub-mix outputs. -/
  submix : Bool
  /-- Animated lights. -/
  animation : Bool
  /-- The voice of disappearing. -/
  vod : Bool
  /-- The number of equaliser bands of the microphone. -/
  eqBands : Nat
deriving DecidableEq, Repr

/-- The capabilities of a hardware section. -/
def Capabilities.of (h : Hardware) : Capabilities :=
  let full := !h.model.isMini
  { scribbles := full
    effects := full
    sampler := full
    lighting := true
    submix := h.hasFeature .subMix
    animation := h.hasFeature .animation
    vod := h.hasFeature .voiceOfDisappearing
    eqBands := if full then 10 else 6 }

section Questions

variable {σ : Type} [HasActiveDevice σ]

/-- Whether the active device is a small one. -/
def isMini (source : σ) : Except CapabilityError Bool :=
  match activeDevice source with
  | some d => .ok d.model.isMini
  | none => .error .noActiveDevice

/-- Whether the active device is a small one, with an answer for when there is none. -/
def isMiniOr (source : σ) (fallback : Bool) : Bool :=
  match isMini source with
  | .ok mini => mini
  | .error _ => fallback

/-- The capabilities of the active device. -/
def capabilities (source : σ) : Except CapabilityError Capabilities :=
  match activeDevice source with
  | some d => .ok (Capabilities.of d.hardware)
  | none => .error .noActiveDevice

end Questions

end MixerPanel
