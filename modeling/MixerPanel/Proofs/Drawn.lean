import MixerPanel.View.Component

/-!
# What is shown

What a component shows is a list of trees.  It is read like a page: which elements of a style class
or of a tag are there, in the order in which they stand, and what is written in them.

* `Html.matching` — the elements with a property, each before those in it
* `Html.content`, `Html.attribute?`, `Html.hasClass`, `Html.hasTag` — what is asked of them
* `Markup.matching_draw_element`, `Markup.matching_draw_icon`, `Markup.matching_drawAll_map` — the
  elements of a layout, part by part
* `View.Shows` — the current route shows a component, told by the drawing alone
* `View.shows_page_iff`, `View.shows_unavailable_iff` — when it does
-/

namespace MixerPanel

namespace Html

/-! ## Elements -/

mutual

/-- The elements of a tree, each before those in it. -/
def elements : Html → List Html
  | text _ => []
  | element tag attributes children => element tag attributes children :: elementsOfAll children

/-- The elements of trees one after the other. -/
def elementsOfAll : List Html → List Html
  | [] => []
  | tree :: rest => elements tree ++ elementsOfAll rest

end

mutual

/-- What is written in a tree. -/
def content : Html → String
  | text s => s
  | element _ _ children => contentOfAll children

/-- What is written in trees one after the other. -/
def contentOfAll : List Html → String
  | [] => ""
  | tree :: rest => content tree ++ contentOfAll rest

end

/-- The elements with a property. -/
def matching (p : Html → Bool) (shown : List Html) : List Html := (elementsOfAll shown).filter p

/-- The value of an attribute. -/
def attribute? (name : String) : Html → Option String
  | text _ => none
  | element _ attributes _ => Keyed.lookup name attributes

/-- Whether an element has a style class. -/
def hasClass (name : String) (tree : Html) : Bool :=
  ((tree.attribute? "class").toList.flatMap Text.words).contains name

/-- Whether an element has a tag. -/
def hasTag (tag : String) : Html → Bool
  | text _ => false
  | element t _ _ => t == tag

section Matching

variable (p : Html → Bool)

@[simp] theorem matching_nil : matching p [] = [] := rfl

theorem elementsOfAll_append (front back : List Html) :
    elementsOfAll (front ++ back) = elementsOfAll front ++ elementsOfAll back := by
  induction front with
  | nil => rfl
  | cons tree rest ih => simp only [List.cons_append, elementsOfAll, ih, List.append_assoc]

@[simp] theorem matching_append (front back : List Html) :
    matching p (front ++ back) = matching p front ++ matching p back := by
  rw [matching, elementsOfAll_append, List.filter_append]
  rfl

@[simp] theorem matching_text (s : String) : matching p [text s] = [] := rfl

theorem matching_element (tag : String) (attributes : List (String × String))
    (children : List Html) :
    matching p [element tag attributes children]
      = (if p (element tag attributes children) then [element tag attributes children] else [])
        ++ matching p children := by
  have all : elementsOfAll [element tag attributes children]
      = element tag attributes children :: elementsOfAll children := by
    simp only [elementsOfAll, elements, List.append_nil]
  rw [matching, all, List.filter_cons]
  cases p (element tag attributes children) <;> rfl

end Matching

@[simp] theorem hasClass_element (name tag classes : String) (others : List (String × String))
    (children : List Html) :
    (element tag (("class", classes) :: others) children).hasClass name
      = (Text.words classes).contains name := by
  simp [hasClass, attribute?, Keyed.lookup_cons]

@[simp] theorem hasClass_element_nil (name tag : String) (children : List Html) :
    (element tag [] children).hasClass name = false := rfl

@[simp] theorem hasTag_element (tag t : String) (attributes : List (String × String))
    (children : List Html) : (element t attributes children).hasTag tag = (t == tag) := rfl

end Html

/-! ## Layouts -/

namespace Markup

variable (p : Html → Bool) (icons : IconSet)

theorem drawAll_append (front back : List Markup) :
    drawAll icons (front ++ back) = drawAll icons front ++ drawAll icons back := by
  induction front with
  | nil => rfl
  | cons m rest ih => simp only [List.cons_append, drawAll, ih, List.append_assoc]

@[simp] theorem matching_drawAll_nil : Html.matching p (drawAll icons []) = [] := rfl

@[simp] theorem matching_drawAll_cons (m : Markup) (rest : List Markup) :
    Html.matching p (drawAll icons (m :: rest))
      = Html.matching p (draw icons m) ++ Html.matching p (drawAll icons rest) :=
  Html.matching_append p _ _

@[simp] theorem matching_drawAll_append (front back : List Markup) :
    Html.matching p (drawAll icons (front ++ back))
      = Html.matching p (drawAll icons front) ++ Html.matching p (drawAll icons back) := by
  rw [drawAll_append, Html.matching_append]

@[simp] theorem matching_drawAll_map {α : Type} (layout : α → Markup) (xs : List α) :
    Html.matching p (drawAll icons (xs.map layout))
      = xs.flatMap fun x => Html.matching p (draw icons (layout x)) := by
  induction xs with
  | nil => rfl
  | cons x rest ih => rw [List.map_cons, matching_drawAll_cons, ih, List.flatMap_cons]

@[simp] theorem matching_draw_text (s : String) : Html.matching p (draw icons (.text s)) = [] := rfl

@[simp] theorem content_drawAll_text (s : String) :
    Html.contentOfAll (drawAll icons [.text s]) = s := by
  simp only [drawAll, draw, List.append_nil, Html.contentOfAll, Html.content, String.append_empty]

theorem matching_draw_element (tag : String) (attributes : List (String × String))
    (children : List Markup) :
    Html.matching p (draw icons (element tag attributes children))
      = (if p (.element tag attributes (drawAll icons children))
          then [.element tag attributes (drawAll icons children)] else [])
        ++ Html.matching p (drawAll icons children) :=
  Html.matching_element p tag attributes (drawAll icons children)

/-- An icon is found only if icons have the property; whether it is available does not matter. -/
theorem matching_draw_icon {p : Html → Bool} {classes : String}
    (other : ∀ icon, p (Html.ofIcon icon classes) = false) (name : String) :
    Html.matching p (draw icons (.icon name classes)) = [] := by
  cases found : icons.lookup? name with
  | none => simp only [draw, found, Html.matching_nil]
  | some icon =>
      have drawn : draw icons (.icon name classes) = [Html.ofIcon icon classes] := by
        simp only [draw, found]
      rw [drawn, Html.ofIcon, Html.matching_element, Html.matching_nil, ← Html.ofIcon, other icon]
      rfl

theorem words_ofIcon (icon : Icon) :
    Text.words (" ".intercalate (Text.words (icon.cssClass ++ " " ++ "")))
      = ["fa-solid", "fa-" ++ icon.name] := by
  cases icon <;> decide

/-- An icon without further classes is of its own two classes only. -/
theorem matching_draw_bare_icon {name : String}
    (other : ∀ icon ∈ Icon.all, name ∉ ["fa-solid", "fa-" ++ icon.name]) (iconName : String) :
    Html.matching (Html.hasClass name) (draw icons (.icon iconName "")) = [] := by
  refine matching_draw_icon icons ?_ iconName
  intro icon
  have isIcon : icon ∈ Icon.all := by cases icon <;> decide
  rw [Html.ofIcon, Html.hasClass_element, words_ofIcon, List.contains_eq_mem]
  exact decide_eq_false (other icon isIcon)

theorem draw_styled (tag classes : String) (children : List Markup) :
    draw icons (styled tag classes children)
      = [.element tag [("class", classes)] (drawAll icons children)] := rfl

theorem matching_draw_styled (name tag classes : String) (children : List Markup) :
    Html.matching (Html.hasClass name) (draw icons (styled tag classes children))
      = (if name ∈ Text.words classes
          then [.element tag [("class", classes)] (drawAll icons children)] else [])
        ++ Html.matching (Html.hasClass name) (drawAll icons children) := by
  rw [styled, matching_draw_element, Html.hasClass_element]
  simp only [List.contains_eq_mem, decide_eq_true_eq]

/-- A layout of one class, with texts or nothing else in it, is all that is found of the class. -/
theorem matching_drawn_styled {name classes : String} (hit : name ∈ Text.words classes)
    {children : List Markup}
    (alone : Html.matching (Html.hasClass name) (drawAll icons children) = []) (tag : String) :
    Html.matching (Html.hasClass name) (draw icons (styled tag classes children))
      = draw icons (styled tag classes children) := by
  rw [matching_draw_styled, if_pos hit, alone, List.append_nil, draw_styled]

theorem matching_draw_plain (name tag : String) (children : List Markup) :
    Html.matching (Html.hasClass name) (draw icons (plain tag children))
      = Html.matching (Html.hasClass name) (drawAll icons children) := by
  rw [plain, matching_draw_element, Html.hasClass_element_nil, if_neg Bool.false_ne_true,
    List.nil_append]

end Markup

namespace View

open Html

variable {c : Context}

/-- In a page everything stands under the heading. -/
theorem matching_draw_page {name title : String} (other : name ∉ Text.words ("page " ++ title))
    (icons : IconSet) (heading content : List Markup) :
    matching (hasClass name) ((page title heading content).draw icons)
      = matching (hasClass name) (Markup.drawAll icons heading)
        ++ matching (hasClass name) (Markup.drawAll icons content) := by
  rw [page, Markup.matching_draw_styled, if_neg other, List.nil_append,
    Markup.matching_drawAll_cons, Markup.matching_draw_plain]

/-! ## What the current route shows -/

/-- The classes of what is shown as a whole. -/
def rootClasses (shown : List Html) : Option String := shown.head?.bind (attribute? "class")

/-- The name by which a page can be told from the others. -/
def pageClass : Page → String
  | .mixer => "mixer-page"
  | .microphone => "microphone-page"
  | .effects => "effects-page"
  | .sampler => "sampler-page"
  | .lighting => "lighting-page"
  | .settings => "settings-page"
  | .notFound => "not-found"

theorem rootClasses_page (c : Context) (p : Page) :
    rootClasses ((Component.page p).draw c) = some ("page " ++ pageClass p) := by
  cases p <;> rfl

theorem rootClasses_unavailable (c : Context) (name : String) :
    rootClasses ((Component.unavailable name).draw c) = some "page unavailable" := rfl

theorem pageClass_inj {p q : Page} (same : "page " ++ pageClass p = "page " ++ pageClass q) :
    p = q := by
  revert same
  cases p <;> cases q <;> decide

theorem pageClass_ne_unavailable (p : Page) : "page " ++ pageClass p ≠ "page unavailable" := by
  cases p <;> decide

/-- The current route shows a component. -/
def Shows (c : Context) (component : Component) : Prop :=
  Component.routeView.draw c = component.draw c

theorem shows_of_lacked (lacked : c.route.fullOnly = true ∧ mini c = true) :
    Shows c (.unavailable c.route.name) := by
  have isScreen : screen c = .unavailable c.route.name := by simp [screen, lacked]
  simp only [Shows, Component.draw, Component.markup, routeView, isScreen, Screen.markup]

theorem shows_of_not_lacked (there : ¬ (c.route.fullOnly = true ∧ mini c = true)) :
    Shows c (.page c.route.page) := by
  have isScreen : screen c = .page c.route.page :=
    if_neg (by simpa only [Bool.and_eq_true] using there)
  simp only [Shows, Component.draw, Component.markup, routeView, isScreen, Screen.markup]

/-- What is shown cannot be both a page and the notice that a page is unavailable. -/
theorem not_shows_both {p : Page} {name : String} (shows : Shows c (.page p)) :
    ¬ Shows c (.unavailable name) := by
  intro unavailable
  have root := congrArg rootClasses (shows.symm.trans unavailable)
  rw [rootClasses_page, rootClasses_unavailable] at root
  exact pageClass_ne_unavailable p (Option.some.inj root)

/-- **The current route shows a page** if it leads there and is not one that the active device
lacks. -/
theorem shows_page_iff {p : Page} :
    Shows c (.page p) ↔ c.route.page = p ∧ ¬ (c.route.fullOnly = true ∧ mini c = true) := by
  constructor
  · intro shows
    have there : ¬ (c.route.fullOnly = true ∧ mini c = true) :=
      fun lacked => not_shows_both shows (shows_of_lacked lacked)
    have root := congrArg rootClasses ((shows_of_not_lacked there).symm.trans shows)
    rw [rootClasses_page, rootClasses_page] at root
    exact ⟨pageClass_inj (Option.some.inj root), there⟩
  · rintro ⟨rfl, there⟩
    exact shows_of_not_lacked there

/-- **The current route shows that a page is unavailable** if it is one that the active device
lacks. -/
theorem shows_unavailable_iff :
    (∃ name, Shows c (.unavailable name)) ↔ c.route.fullOnly = true ∧ mini c = true := by
  constructor
  · rintro ⟨name, unavailable⟩
    exact Decidable.of_not_not fun there =>
      not_shows_both (shows_of_not_lacked there) unavailable
  · intro lacked
    exact ⟨c.route.name, shows_of_lacked lacked⟩

end View

end MixerPanel
