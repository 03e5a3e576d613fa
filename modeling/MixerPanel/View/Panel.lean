import MixerPanel.View.DeviceSelector
import MixerPanel.View.Navigation

/-!
# The whole panel

## Main Definitions

* `View.header` — the title, the device selector and a badge for the model
* `View.statusBar` — the state of the link, the firmware and the version
* `View.panel` — all of it around the links and the current page
-/

namespace MixerPanel.View

open Markup

/-- The version of the panel. -/
def panelVersion : String := "0.1.0"

/-- The name of the panel with its version. -/
def panelName : String := "GoXLR Web UI v" ++ panelVersion

/-- The badge for the model of the active device. -/
def badge (c : Context) : String :=
  match isMini c with
  | .ok true => "Mini"
  | .ok false => "Full"
  | .error _ => ""

/-- The header. -/
def header (c : Context) : Markup :=
  styled "header" "app-header"
    [styled "h1" "app-title" [text "GoXLR Utility"], deviceSelector c,
      styled "span" "device-badge" [computed (badge c)]]

/-- The firmware of the active device. -/
def firmwareText (c : Context) : String :=
  match activeDevice c with
  | some d => "Firmware " ++ d.hardware.firmware.main.text
  | none => ""

/-- The status bar. -/
def statusBar (c : Context) : Markup :=
  styled "footer" "status-bar"
    [styled "span" "status" [icon "clock" "", text (" " ++ c.connection.label)],
      styled "span" "firmware" [computed (firmwareText c)],
      styled "span" "version" [text panelName]]

/-- The whole panel. -/
def panel (c : Context) : Markup :=
  styled "main" "goxlr-app"
    [header c, styled "div" "main-content" [nav c, routeView c], statusBar c]

end MixerPanel.View
