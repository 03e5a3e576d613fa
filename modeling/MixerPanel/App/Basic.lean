import MixerPanel.Icon
import MixerPanel.Keyed
import MixerPanel.Log
import MixerPanel.Route

/-!
# Applications

An application is configured with icons, components and routes, and is then mounted on an element of
a page.

## Main Definitions

* `StartupError` — why an application is not started
* `Setup` — what is done in place while an application is set up, and may fail
* `ComponentKind`, `Components` — components bound to names
* `Application` — what is configured, and where it is mounted
* `Host` — a page that an application is mounted on
* `Staging` — an application and the page that it is mounted on
* `Staging.mount` — mounts an application
* `bootstrap` — configures an application and mounts it

## Design Notes

An application, its components and its page are changed in place, and what a step has done before it
fails stays done: they are there whether it fails or not.
-/

namespace MixerPanel

/-- Why an application is not started. -/
inductive StartupError where
  | hostElementMissing (selector : String)
  | duplicateComponent (name : String)
  | routerAlreadyAttached
  | routerMissing
  | alreadyMounted
  | alreadyStarted
  | mountFailed (message : String)
deriving DecidableEq, Repr

/-- The wording of an error. -/
def StartupError.message : StartupError → String
  | hostElementMissing selector => "Host element '" ++ selector ++ "' not found in document"
  | duplicateComponent name => "Component '" ++ name ++ "' is already registered"
  | routerAlreadyAttached => "A router is already attached to this application"
  | routerMissing => "No router attached, cannot mount"
  | alreadyMounted => "Application is already mounted"
  | alreadyStarted => "Bootstrap has already run for this page"
  | mountFailed message => "Mount failed: " ++ message

/-- The components that can be bound to a name. -/
inductive ComponentKind where
  /-- Draws an icon of the application. -/
  | iconComponent
deriving DecidableEq, Repr

/-- What is done in place while something is set up, and may fail. There is no way back: what is
done before it fails stays done. -/
abbrev Setup (σ : Type) := ExceptT StartupError (StateM σ)

namespace Setup

variable {σ τ α β : Type}

/-- What a step answers, and what becomes of the thing that it is done to, whether it fails or
not. -/
def attempt (setup : Setup σ α) (s : σ) : Except StartupError α × σ := setup.run.run s

/-- What is done to a part of something. -/
def part (setup : Setup τ α) (get : σ → τ) (put : σ → τ → σ) : Setup σ α :=
  .mk fun s => ((setup.attempt (get s)).1, put s (setup.attempt (get s)).2)

section Attempt

variable (s : σ)

@[simp] theorem attempt_pure (a : α) : (pure a : Setup σ α).attempt s = (.ok a, s) := rfl

@[simp] theorem attempt_throw (e : StartupError) :
    (throw e : Setup σ α).attempt s = (.error e, s) := rfl

@[simp] theorem attempt_modify (change : σ → σ) :
    (modify change : Setup σ Unit).attempt s = (.ok (), change s) := rfl

@[simp] theorem attempt_get : (get : Setup σ σ).attempt s = (.ok s, s) := rfl

@[simp] theorem attempt_ite (c : Prop) [Decidable c] (yes no : Setup σ α) :
    (if c then yes else no).attempt s = if c then yes.attempt s else no.attempt s := by
  split <;> rfl

theorem attempt_bind (setup : Setup σ α) (next : α → Setup σ β) :
    (setup >>= next).attempt s
      = match setup.attempt s with
        | (.error e, after) => (.error e, after)
        | (.ok a, after) => (next a).attempt after := by
  rw [attempt, attempt, ExceptT.run_bind, StateT.run_bind]
  rcases setup.run.run s with ⟨_ | _, after⟩ <;> rfl

@[simp] theorem attempt_discard (setup : Setup σ α) :
    (discard setup).attempt s = ((setup.attempt s).1.map fun _ => (), (setup.attempt s).2) := by
  show (setup >>= fun _ => pure ()).attempt s = _
  rw [attempt_bind]
  rcases setup.attempt s with ⟨_ | _, after⟩ <;> rfl

end Attempt

end Setup

/-- Components bound to names, in ascending order of the names. -/
structure Components where
  bound : List (String × ComponentKind)
deriving DecidableEq, Repr

namespace Components

/-- No component. -/
def empty : Components := ⟨[]⟩

/-- The component bound to a name. -/
def get? (c : Components) (name : String) : Option ComponentKind := Keyed.lookup name c.bound

/-- Binds a component to a name that is free, in place. -/
def binding (name : String) (kind : ComponentKind) : Setup Components Unit := do
  if ((← get).get? name).isSome then
    throw (.duplicateComponent name)
  else
    modify fun c => ⟨Keyed.insert name kind c.bound⟩

/-- The components with one more, or why it cannot be bound. -/
def bind (c : Components) (name : String) (kind : ComponentKind) :
    Except StartupError Components :=
  ((binding name kind).attempt c).1.map fun _ => ((binding name kind).attempt c).2

/-- The names, in ascending order. -/
def names (c : Components) : List String := c.bound.map Prod.fst

/-- The number of bound components. -/
def size (c : Components) : Nat := c.bound.length

end Components

/-- What is configured, and where it is mounted. -/
structure Application where
  icons : IconSet
  components : Components
  router : Option RouteTable
  /-- The selector of the element that it is mounted on. -/
  mountedOn : Option String
deriving DecidableEq, Repr

namespace Application

/-- The application before it is configured. -/
def empty : Application := ⟨.empty, .empty, none, none⟩

/-- Whether an application is mounted. -/
def isMounted (a : Application) : Bool := a.mountedOn.isSome

/-- Makes icons available. -/
def registerIcons (a : Application) (icons : List Icon) : Application :=
  { a with icons := a.icons.add icons }

/-- Binds a component to a name. -/
def component (name : String) (kind : ComponentKind) : Setup Application Unit :=
  (Components.binding name kind).part components fun a components =>
    { a with components := components }

/-- Attaches the routes; there is one router at most. -/
def useRouter (routes : RouteTable) : Setup Application Unit := do
  if (← get).router.isSome then
    throw .routerAlreadyAttached
  else
    modify fun a => { a with router := some routes }

end Application

/-- A page that an application is mounted on. -/
class Host (σ : Type) where
  /-- Whether an element matches a selector. -/
  hasElement : σ → String → Bool
  /-- Shows an application in the element that matches a selector, or tells why it does not. Either
  way the page may be another one then. -/
  mountRoot : σ → String → Application → Except StartupError Unit × σ
  /-- Takes a log line. -/
  note : σ → Log.Line → σ

/-- An application and the page that it is mounted on. -/
structure Staging (σ : Type) where
  app : Application
  page : σ
deriving DecidableEq, Repr

namespace Staging

variable {σ : Type}

/-- An application before it is configured, and a page. -/
def start (page : σ) : Staging σ := ⟨.empty, page⟩

/-- Makes icons available to the application. -/
def registerIcons (icons : List Icon) : Setup (Staging σ) Unit :=
  modify fun s => { s with app := s.app.registerIcons icons }

/-- Configures the application further. -/
def configure (setup : Setup Application Unit) : Setup (Staging σ) Unit :=
  setup.part app fun s app => { s with app := app }

variable [Host σ]

/-- Logs a line. -/
def note (line : Log.Line) : Setup (Staging σ) Unit :=
  modify fun s => { s with page := Host.note s.page line }

/-- Has the page show the application in the element that matches a selector. The page is as this
has left it, whether it fails or not. -/
def mountRoot (selector : String) : Setup (Staging σ) Unit :=
  .mk fun s =>
    let (answer, page) := Host.mountRoot s.page selector s.app
    (answer, { s with page := page })

/-- Mounts the application on the element that matches a selector, and tells the selector. -/
def mount (selector : String) : Setup (Staging σ) String := do
  if (← get).app.isMounted then
    throw .alreadyMounted
  else if (← get).app.router.isNone then
    throw .routerMissing
  else if !Host.hasElement (← get).page selector then
    throw (.hostElementMissing selector)
  else
    mountRoot selector
    modify fun s => { s with app := { s.app with mountedOn := some selector } }
    note (Log.info ("Application mounted on " ++ selector))
    return selector

end Staging

/-- The name of the component that draws icons. -/
def iconComponentName : String := "font-awesome-icon"

/-- Configures an application with all icons, the icon component and the standard routes, and mounts
it on the element that matches a selector. -/
def Staging.startup {σ : Type} [Host σ] (selector : String) : Setup (Staging σ) String := do
  registerIcons Icon.all
  note (Log.debug ("Registered " ++ toString (← get).app.icons.size ++ " icons"))
  configure (Application.component iconComponentName .iconComponent)
  configure (Application.useRouter .standard)
  mount selector

/-- A page after a startup, with the selector that the application is mounted on, or why it is
not. -/
structure Started (σ : Type) where
  page : σ
  result : Except StartupError String

/-- Starts an application on a page. -/
def bootstrap {σ : Type} [Host σ] (page : σ) (selector : String) : Started σ :=
  let (result, after) := (Staging.startup selector).attempt (Staging.start page)
  ⟨after.page, result⟩

end MixerPanel
