import MixerPanel.Proofs.HardwareGates

/-!
# Links

The navigation offers a link for each route that the active device does not lack.  A link holds an
address and nothing else, so what it leads to is decided only when it is followed: the address is
brought into normal form, looked up among the routes, and the route is held against the active
device once more.  For routes with distinct paths in normal form all of this fits together.

* `View.lacks`, `View.offered` — the routes that the active device does not lack
* `View.LeadsTo` — a link is one to a route, and following it shows the page of the route
* `links_lead_to_their_pages` — each link that is shown leads to the route in its place

The browser follows a link.  It is assumed to hand the fragment of the address over as it stands in
the link, also where that has blanks, quotation marks or letters beyond ASCII, and not to encode it.
-/

namespace MixerPanel

namespace View

open Html

variable {c : Context}

/-- Whether a route is hidden for the active device. -/
def lacks (c : Context) (r : Route) : Bool :=
  r.fullOnly && (activeDevice c).any fun d => d.model == .mini

/-- The routes that the active device does not lack, in their order. -/
def offered (c : Context) : List Route := c.routes.routes.filter fun r => !lacks c r

/-- A link tells the name of a route, and following it shows the page of the route. To follow it is
to go to its address, which the browser is assumed to hand over unchanged. -/
structure LeadsTo (c : Context) (link : Html) (r : Route) : Prop where
  address : link.attribute? "href" = some r.href
  label : link.content = " " ++ r.name
  resolves : c.routes.resolve r.href = r
  shows : Shows (c.navigate r.href) (.page r.page)
  available : ∀ name, ¬ Shows (c.navigate r.href) (.unavailable name)
  found : ¬ Shows (c.navigate r.href) (.page .notFound)

theorem mini_eq_any (c : Context) : mini c = (activeDevice c).any fun d => d.model == .mini := by
  cases active : activeDevice c with
  | none => rw [mini_of_none active, Option.any_none]
  | some d => rw [mini_of_active active, Option.any_some]; rfl

/-- The routes that are offered are those that are not lacking. -/
theorem visible_eq_offered (c : Context) : c.routes.visible (mini c) = offered c := by
  have hides : ∀ r, RouteTable.hides (mini c) r = lacks c r := by
    intro r
    rw [RouteTable.hides, lacks, mini_eq_any, Bool.and_comm]
  simp only [RouteTable.visible, offered, hides]

/-! ## The links that are shown -/

/-- How a link is drawn. -/
def drawnLink (c : Context) (l : Link) : Html :=
  .element "a" [("class", if l.current then "nav-link active" else "nav-link"),
    ("href", l.route.href)]
    (Markup.drawAll c.icons [.icon (linkIcon l.route.page) "", .text (" " ++ l.route.name)])

theorem matching_link (c : Context) (l : Link) :
    matching (hasTag "a") (l.markup.draw c.icons) = [drawnLink c l] := by
  have icon : ∀ icon, (Html.ofIcon icon "").hasTag "a" = false := by
    intro icon
    rw [Html.ofIcon, hasTag_element]
    decide
  rw [Link.markup, Markup.matching_draw_element, hasTag_element, if_pos (beq_self_eq_true _)]
  simp only [Markup.matching_drawAll_cons, Markup.matching_draw_icon c.icons icon,
    Markup.matching_draw_text, Markup.matching_drawAll_nil, List.append_nil]
  rfl

theorem matching_nav (c : Context) :
    matching (hasTag "a") (Component.nav.draw c) = (links c).map (drawnLink c) := by
  show matching _ ((nav c).draw c.icons) = _
  have notLink : (("nav" : String) == "a") = false := by decide
  rw [nav, Markup.styled, Markup.matching_draw_element, hasTag_element, notLink,
    if_neg Bool.false_ne_true, List.nil_append, Markup.matching_drawAll_map]
  simp only [matching_link, List.map_eq_flatMap]

theorem content_drawnLink (c : Context) (l : Link) :
    (drawnLink c l).content = " " ++ l.route.name := by
  rw [drawnLink, content, Markup.drawAll, Markup.draw]
  cases c.icons.lookup? (linkIcon l.route.page) with
  | none => simp [Markup.content_drawAll_text]
  | some icon => simp [Html.contentOfAll, Html.ofIcon, content, Markup.content_drawAll_text]

/-! ## Following a link -/

/-- At the address of a route the current route is that route, and all else is as it was. -/
theorem leadsTo_of_offered (distinct : (c.routes.routes.map Route.path).Nodup)
    (normal : ∀ r ∈ c.routes.routes, Location.Normal r.path)
    (pages : ∀ r ∈ c.routes.routes, r.page ≠ .notFound) {r : Route} (isOffered : r ∈ offered c)
    (current : Bool) : LeadsTo c (drawnLink c ⟨r, current⟩) r := by
  obtain ⟨listed, there⟩ := List.mem_filter.mp isOffered
  have resolves : c.routes.resolve r.href = r :=
    RouteTable.resolve_href distinct listed (normal r listed)
  have route : (c.navigate r.href).route = r := resolves
  have notLacked : ¬ ((c.navigate r.href).route.fullOnly = true ∧
      mini (c.navigate r.href) = true) := by
    rw [route, ← Bool.and_eq_true, mini_eq_any, Bool.not_eq_true]
    rwa [Bool.not_eq_true'] at there
  have shows : Shows (c.navigate r.href) (.page r.page) :=
    shows_page_iff.mpr ⟨congrArg Route.page route, notLacked⟩
  refine ⟨rfl, content_drawnLink c _, resolves, shows, ?_, ?_⟩
  · intro name unavailable
    exact not_shows_both shows unavailable
  · intro missing
    have isMissing : r.page = .notFound := route ▸ (shows_page_iff.mp missing).1
    exact pages r listed isMissing

end View

open View Html

/-- **Links lead to their pages.**  Take any routes with distinct paths in normal form, none of
which is for the page of missing routes, and any state of the store.  Then the navigation shows one
link for each route that the active device does not lack, in the order of the routes.  The address
of the link leads to exactly that route, and following it shows the page of the route, not that the
page is unavailable or missing. -/
theorem links_lead_to_their_pages (c : Context)
    (distinct : (c.routes.routes.map Route.path).Nodup)
    (normal : ∀ r ∈ c.routes.routes, Location.Normal r.path)
    (pages : ∀ r ∈ c.routes.routes, r.page ≠ .notFound) :
    List.Forall₂ (LeadsTo c) (matching (hasTag "a") (Component.nav.draw c)) (offered c) := by
  rw [matching_nav, links, visible_eq_offered, List.map_map, List.forall₂_map_left_iff,
    List.forall₂_same]
  intro r isOffered
  exact leadsTo_of_offered distinct normal pages isOffered _

/-- Routes whose paths look alike, one of them not for the small device. -/
def alikeRoutes : RouteTable :=
  ⟨[⟨"/effects", "Effects", .effects, true⟩, ⟨"/", "Start", .mixer, false⟩,
    ⟨"//lights", "Lights", .lighting, false⟩, ⟨"/Effects", "Presets", .effects, false⟩]⟩

/-- The links while a small device is active. -/
theorem links_of_alike_routes_on_small_device :
    let c := ((Console.ofApplication { Application.empty with router := some alikeRoutes }).run
      [.document (besideFull .mini).toValue, .select "B"]).context
    (c.routes.routes.map Route.path).Nodup ∧
      (∀ r ∈ c.routes.routes, Location.Normal r.path) ∧
      (∀ r ∈ c.routes.routes, r.page ≠ .notFound) ∧
      (offered c).map Route.href = ["#/", "#//lights", "#/Effects"] ∧
      List.Forall₂ (LeadsTo c) (matching (hasTag "a") (Component.nav.draw c)) (offered c) := by
  intro c
  have routes : c.routes = alikeRoutes := (Console.reached_run _ _).routes_eq
  have distinct : (c.routes.routes.map Route.path).Nodup := by
    rw [routes]
    decide
  have normal : ∀ r ∈ c.routes.routes, Location.Normal r.path := by
    rw [routes]
    decide
  have pages : ∀ r ∈ c.routes.routes, r.page ≠ .notFound := by
    rw [routes]
    decide
  have hrefs : (offered ((Console.ofApplication
      { Application.empty with router := some alikeRoutes }).run
        [.document (besideFull .mini).toValue, .select "B"]).context).map Route.href
      = ["#/", "#//lights", "#/Effects"] := by decide
  exact ⟨distinct, normal, pages, hrefs, links_lead_to_their_pages c distinct normal pages⟩

end MixerPanel
