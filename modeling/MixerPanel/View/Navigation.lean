import MixerPanel.View.Pages

/-!
# Navigation

The links to the pages, and the page that the current route leads to.

## Main Definitions

* `View.Link`, `View.links` — the links that are offered
* `View.nav` — their layout
* `View.Screen`, `View.screen` — what the current route shows
* `View.routeView` — its layout
-/

namespace MixerPanel.View

open Markup

/-- A link to the page of a route. -/
structure Link where
  route : Route
  /-- Whether it leads to the page that is shown. -/
  current : Bool
deriving DecidableEq, Repr

/-- Whether the active device is a small one; while there is none, it is not. -/
def mini (c : Context) : Bool := isMiniOr c false

/-- The links that are offered, in the order of the routes. -/
def links (c : Context) : List Link :=
  (c.routes.visible (mini c)).map fun r => ⟨r, r.page == c.route.page⟩

/-- The icon in the link to a page. -/
def linkIcon : Page → String
  | .lighting => "palette"
  | .settings => "gear"
  | .sampler => "clock"
  | _ => "hand-pointer"

/-- The layout of a link. -/
def Link.markup (l : Link) : Markup :=
  element "a"
    [("class", if l.current then "nav-link active" else "nav-link"), ("href", l.route.href)]
    [icon (linkIcon l.route.page) "", text (" " ++ l.route.name)]

/-- The layout of the links. -/
def nav (c : Context) : Markup := styled "nav" "app-nav" ((links c).map Link.markup)

/-- What a route shows. -/
inductive Screen where
  | page (p : Page)
  /-- The active device lacks the page. -/
  | unavailable (name : String)
deriving DecidableEq, Repr

/-- What the current route shows. -/
def screen (c : Context) : Screen :=
  if c.route.fullOnly && mini c then .unavailable c.route.name else .page c.route.page

/-- The layout of what a route shows. -/
def Screen.markup (c : Context) : Screen → Markup
  | page p => ofPage c p
  | unavailable name => View.unavailable name

/-- The layout of what the current route shows. -/
def routeView (c : Context) : Markup := (screen c).markup c

end MixerPanel.View
