import MixerPanel.View.Panel

/-!
# Components by name

The parts of the panel that can be shown on their own.

## Main Definitions

* `View.Component` — the components
* `View.Component.markup` — the layout of a component
* `View.Component.draw`, `View.Component.log` — what is shown, and what is logged
-/

namespace MixerPanel.View

/-- The parts of the panel that can be shown on their own. -/
inductive Component where
  | nav
  | routeView
  | deviceSelector
  | page (p : Page)
  | unavailable (name : String)
  | icon (name : String) (classes : String)
deriving DecidableEq, Repr

namespace Component

/-- The layout of a component. -/
def markup (c : Context) : Component → Markup
  | nav => View.nav c
  | routeView => View.routeView c
  | deviceSelector => View.deviceSelector c
  | page p => ofPage c p
  | unavailable name => View.unavailable name
  | icon name classes => .icon name classes

/-- What a component shows. -/
def draw (component : Component) (c : Context) : List Html := (component.markup c).draw c.icons

/-- What is logged when a component is drawn. -/
def log (component : Component) (c : Context) : List Log.Line :=
  Markup.drawLog c.icons [component.markup c]

end Component

end MixerPanel.View
