import MixerPanel.Icon
import MixerPanel.Log
import MixerPanel.Text.Blank

/-!
# Markup

What a component shows is first laid out with the names of its icons. An application then draws it
with the icons that it has: an icon that is not available is left out, and the log says so.

## Main Definitions

* `Markup` — a layout with named icons
* `Html` — what is shown
* `Markup.draw` — what a layout shows with a set of icons
* `Markup.missing` — the names that the set does not have, in the order of the layout
-/

namespace MixerPanel

/-- A layout with named icons. -/
inductive Markup where
  | text (s : String)
  | element (tag : String) (attributes : List (String × String)) (children : List Markup)
  /-- An icon by its name, with further style classes. -/
  | icon (name : String) (classes : String)
deriving Repr

/-- What is shown. -/
inductive Html where
  | text (s : String)
  | element (tag : String) (attributes : List (String × String)) (children : List Html)
deriving Repr

namespace Html

/-- How an icon is drawn, with further style classes. -/
def ofIcon (icon : Icon) (classes : String) : Html :=
  element "i"
    [("class", " ".intercalate (Text.words (icon.cssClass ++ " " ++ classes))),
      ("aria-hidden", "true")] []

end Html

namespace Markup

/-- An element without attributes. -/
def plain (tag : String) (children : List Markup) : Markup := element tag [] children

/-- An element with style classes. -/
def styled (tag : String) (classes : String) (children : List Markup) : Markup :=
  element tag [("class", classes)] children

/-- A fixed text; an empty one is not there. -/
def label (s : String) : List Markup := if s = "" then [] else [text s]

/-- A text that follows the state; in place of an empty one stands a blank, so that there is
something to be changed later. -/
def computed (s : String) : Markup := text (if s = "" then " " else s)

mutual

/-- What a layout shows with a set of icons. -/
def draw (icons : IconSet) : Markup → List Html
  | text s => [.text s]
  | element tag attributes children => [.element tag attributes (drawAll icons children)]
  | icon name classes =>
    match icons.lookup? name with
    | some found => [Html.ofIcon found classes]
    | none => []

/-- What layouts show one after the other. -/
def drawAll (icons : IconSet) : List Markup → List Html
  | [] => []
  | m :: rest => draw icons m ++ drawAll icons rest

end

mutual

/-- The names of icons in a layout that a set does not have. -/
def missing (icons : IconSet) : Markup → List String
  | text _ => []
  | element _ _ children => missingAll icons children
  | icon name _ => if (icons.lookup? name).isSome then [] else [name]

/-- The names of icons in layouts that a set does not have. -/
def missingAll (icons : IconSet) : List Markup → List String
  | [] => []
  | m :: rest => missing icons m ++ missingAll icons rest

end

/-- What is logged when layouts are drawn. -/
def drawLog (icons : IconSet) (layouts : List Markup) : List Log.Line :=
  (missingAll icons layouts).map fun name => Log.warn ("Icon '" ++ name ++ "' is not registered")

end Markup

end MixerPanel
