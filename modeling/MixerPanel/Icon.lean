/-!
# Icons

## Main Definitions

* `Icon` — the symbols that are used
* `Icon.ofName?` — the icon with a name, with or without `fa-`, or with an older name
* `IconSet` — the icons that are available to an application
-/

namespace MixerPanel

/-- The symbols that are used. -/
inductive Icon where
  | angleDown
  | handPointer
  | clock
  | palette
  | gear
  | volumeXmark
deriving DecidableEq, Repr

namespace Icon

/-- All icons, in their order. -/
def all : List Icon := [angleDown, handPointer, clock, palette, gear, volumeXmark]

/-- The name of an icon. -/
def name : Icon → String
  | angleDown => "angle-down"
  | handPointer => "hand-pointer"
  | clock => "clock"
  | palette => "palette"
  | gear => "gear"
  | volumeXmark => "volume-xmark"

/-- The style classes that draw an icon. -/
def cssClass (icon : Icon) : String := "fa-solid fa-" ++ icon.name

/-- A name without the `fa-` that it may start with. -/
def bareName (name : String) : String :=
  match name.toList with
  | 'f' :: 'a' :: '-' :: rest => String.ofList rest
  | _ => name

/-- Older names of icons. -/
def aliases : List (String × Icon) :=
  [("volume-mute", volumeXmark), ("volume-muted", volumeXmark), ("cog", gear)]

/-- The icon with a bare name. -/
def ofBareName? (name : String) : Option Icon :=
  match aliases.find? fun entry => entry.1 == name with
  | some (_, icon) => some icon
  | none => all.find? fun icon => icon.name == name

/-- The icon with a name. -/
def ofName? (name : String) : Option Icon := ofBareName? (bareName name)

end Icon

/-- The icons that are available, in the order of all icons and each once. -/
structure IconSet where
  icons : List Icon
deriving DecidableEq, Repr

namespace IconSet

/-- The set without an icon. -/
def empty : IconSet := ⟨[]⟩

/-- Whether an icon is available. -/
def contains (s : IconSet) (icon : Icon) : Bool := s.icons.contains icon

/-- The set with more icons. -/
def add (s : IconSet) (icons : List Icon) : IconSet :=
  ⟨Icon.all.filter fun icon => s.contains icon || icons.contains icon⟩

/-- The set of given icons. -/
def ofList (icons : List Icon) : IconSet := empty.add icons

/-- The available icon with a name. -/
def lookup? (s : IconSet) (name : String) : Option Icon :=
  (Icon.ofName? name).filter s.contains

/-- The number of available icons. -/
def size (s : IconSet) : Nat := s.icons.length

end IconSet

end MixerPanel
