import MixerPanel.Context
import MixerPanel.View.Markup

/-!
# The pages

One layout per page. What depends on the device follows the active device.

## Main Definitions

* `View.mixer`, `View.microphone`, `View.effects`, `View.sampler`, `View.lighting`, `View.settings`,
  `View.notFound` — the pages
* `View.unavailable` — what is shown in place of a page that the small device lacks
* `View.noDevice` — what is shown in a page while no device is active
-/

namespace MixerPanel.View

open Markup

/-- A page with a heading. -/
def page (name : String) (heading : List Markup) (content : List Markup) : Markup :=
  styled "section" ("page " ++ name) (plain "h2" heading :: content)

/-- What is shown while no device is active. -/
def noDevice : Markup :=
  styled "div" "no-device"
    [plain "p" [text "No GoXLR connected."],
      plain "p" [text "Waiting for the daemon to report a device..."]]

/-- What is shown of the active device's capabilities. -/
def withDevice (c : Context) (layout : Capabilities → List Markup) : List Markup :=
  match capabilities c with
  | .ok caps => layout caps
  | .error _ => [noDevice]

/-- The names of the faders. -/
def faders : List String := ["A", "B", "C", "D"]

/-- The display of a fader strip. -/
def scribble : Markup := styled "div" "scribble" [text "Scribble"]

/-- The strip of a fader. -/
def faderStrip (caps : Capabilities) (fader : String) : Markup :=
  styled "div" "fader-strip"
    ([styled "span" "fader-name" [text ("Fader " ++ fader)]]
      ++ (if caps.scribbles then [scribble] else [])
      ++ [styled "button" "mute-button" [icon "volume-xmark" ""]])

/-- Faders and mute buttons. -/
def mixer (c : Context) : Markup :=
  page "mixer-page" [text "Mixer"] (withDevice c fun caps => faders.map (faderStrip caps))

/-- A part of the microphone page. -/
def micSection (s : String) : Markup := styled "div" "mic-section" [text s]

/-- Gate, compressor and equaliser. -/
def microphone (c : Context) : Markup :=
  page "microphone-page" [text "Microphone"] (withDevice c fun caps =>
    [micSection "Noise Gate", micSection "Compressor",
      micSection ("Equaliser (" ++ toString caps.eqBands ++ " bands)")])

/-- The number of effect presets. -/
def presetCount : Nat := 6

/-- The names of the effects. -/
def effectNames : List String := ["Reverb", "Echo", "Pitch", "Gender", "Megaphone", "Robot"]

/-- Effect presets and effects. -/
def effects : Markup :=
  page "effects-page" [text "Effects"]
    [styled "div" "effect-presets"
        ((List.range presetCount).map fun n =>
          styled "button" "preset" [text ("Preset " ++ toString (n + 1))]),
      styled "div" "effect-types" (effectNames.map fun e => styled "div" "effect" [text e])]

/-- The names of the sampler's banks. -/
def samplerBanks : List String := ["A", "B", "C"]

/-- The names of the pads of a bank. -/
def samplerPads : List String := ["Top Left", "Top Right", "Bottom Left", "Bottom Right"]

/-- Sampler banks and pads. -/
def sampler : Markup :=
  page "sampler-page" [text "Sampler"]
    (samplerBanks.map fun bank =>
      styled "div" "sampler-bank"
        (plain "h3" [text ("Bank " ++ bank)]
          :: samplerPads.map fun pad => styled "button" "sample-pad" [text pad]))

/-- A part of the lighting page. -/
def lightingSection (s : String) : Markup := styled "div" "lighting-section" [text s]

/-- The lights of the device, of its faders and of its buttons. -/
def lighting (c : Context) : Markup :=
  page "lighting-page" [icon "palette" "", text " Lighting"] (withDevice c fun caps =>
    [lightingSection "Global", lightingSection "Faders", lightingSection "Buttons"]
      ++ (if caps.animation then [lightingSection "Animation"] else []))

/-- The features of a device in words. -/
def featureText (features : List Feature) : String :=
  if features.isEmpty then "None" else ", ".intercalate (features.map Feature.wireName)

/-- A term and what it stands for. -/
def detail (term description : String) : List Markup :=
  [plain "dt" [text term], plain "dd" (label description)]

/-- The details of a device. -/
def details (d : Device) : Markup :=
  styled "dl" "device-details"
    (detail "Model" d.model.displayName
      ++ detail "Serial" d.serial
      ++ detail "Manufactured" d.hardware.manufactureDate
      ++ detail "Firmware" d.hardware.firmware.main.text
      ++ detail "DICE" d.hardware.firmware.dice.text
      ++ detail "Features" (featureText d.hardware.features)
      ++ detail "Sub-mix"
        (if (Capabilities.of d.hardware).submix then "Available" else "Unavailable"))

/-- The hardware of the active device. -/
def settings (c : Context) : Markup :=
  page "settings-page" [icon "gear" "", text " Settings"] ((activeDevice c).toList.map details)

/-- What is shown where no route leads. -/
def notFound : Markup :=
  page "not-found" [text "Page not found"]
    [element "a" [("href", "#/")] [text "Back to the mixer"]]

/-- What is shown in place of a page that the small device lacks. -/
def unavailable (name : String) : Markup :=
  page "unavailable" (label name)
    [plain "p" [text "The GoXLR Mini does not have this feature."]]

/-- The layout of a page. -/
def ofPage (c : Context) : Page → Markup
  | .mixer => mixer c
  | .microphone => microphone c
  | .effects => effects
  | .sampler => sampler
  | .lighting => lighting c
  | .settings => settings c
  | .notFound => notFound

end MixerPanel.View
