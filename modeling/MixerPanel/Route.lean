/-!
# Routes

A location is a path, or the fragment of an address that holds one. It leads to the page of the first
route with that path.

## Main Definitions

* `Page` — the pages
* `Route` — a path, with the page that it leads to
* `Location.normalForm` — the path that a location stands for
* `RouteTable` — the routes in their order
* `RouteTable.resolve` — the route of a location
* `RouteTable.visible` — the routes that are offered
-/

namespace MixerPanel

/-- The pages. -/
inductive Page where
  | mixer
  | microphone
  | effects
  | sampler
  | lighting
  | settings
  /-- What is shown where no route leads. -/
  | notFound
deriving DecidableEq, Repr

namespace Page

/-- All pages. -/
def all : List Page := [mixer, microphone, effects, sampler, lighting, settings, notFound]

/-- The name of a page in log lines. -/
def name : Page → String
  | mixer => "Mixer"
  | microphone => "Microphone"
  | effects => "Effects"
  | sampler => "Sampler"
  | lighting => "Lighting"
  | settings => "Settings"
  | notFound => "NotFound"

end Page

/-- A path, with the page that it leads to. -/
structure Route where
  path : String
  /-- The text of the link. -/
  name : String
  page : Page
  /-- Whether the small device lacks the page. -/
  fullOnly : Bool
deriving DecidableEq, Repr

namespace Route

/-- The route of a location that no other route has. -/
def notFound : Route := ⟨"", "Not Found", .notFound, false⟩

/-- The address of a route, as the fragment of a link. -/
def href (r : Route) : String := "#" ++ r.path

end Route

namespace Location

/-- A location without the mark of a fragment that it may start with. -/
def withoutMark : List Char → List Char
  | '#' :: rest => rest
  | cs => cs

/-- Whether a character ends the path in a location. -/
def endsPath (c : Char) : Bool := c == '?' || c == '#'

/-- A path without the slashes at its end. -/
def withoutTrailingSlashes (path : List Char) : List Char :=
  (path.reverse.dropWhile (· == '/')).reverse

/-- A path that starts with a slash. -/
def rooted (path : List Char) : List Char :=
  if path.head? = some '/' then path else '/' :: path

/-- The path that a location stands for: without the mark of a fragment, up to a query or another
fragment, without slashes at the end, and starting with a slash. -/
def normalForm (location : String) : String :=
  String.ofList (rooted (withoutTrailingSlashes
    ((withoutMark location.toList).takeWhile fun c => !endsPath c)))

end Location

/-- The routes in their order. -/
structure RouteTable where
  routes : List Route
deriving DecidableEq, Repr

namespace RouteTable

/-- The routes of the application. -/
def standard : RouteTable :=
  ⟨[⟨"/", "Mixer", .mixer, false⟩,
    ⟨"/microphone", "Microphone", .microphone, false⟩,
    ⟨"/effects", "Effects", .effects, true⟩,
    ⟨"/sampler", "Sampler", .sampler, true⟩,
    ⟨"/lighting", "Lighting", .lighting, false⟩,
    ⟨"/settings", "Settings", .settings, false⟩]⟩

/-- Whether a route is hidden while the active device is small, or not. -/
def hides (mini : Bool) (r : Route) : Bool := mini && r.fullOnly

/-- The routes that are offered, in their order. -/
def visible (t : RouteTable) (mini : Bool) : List Route := t.routes.filter fun r => !hides mini r

/-- The route of a location: the first with its path. -/
def resolve (t : RouteTable) (location : String) : Route :=
  (t.routes.find? fun r => r.path == Location.normalForm location).getD .notFound

end RouteTable

end MixerPanel
