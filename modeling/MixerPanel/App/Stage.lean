import MixerPanel.App.Basic

/-!
# An application and its page, step by step

An application is configured and mounted by calls in any order, while its page changes by itself. A
page that is held in memory is such a page.

## Main Definitions

* `Root`, `RootedHost` — a page with the roots that were mounted on it
* `Staging.Call`, `Staging.attempt` — what is done to an application and its page
* `Staging.run` — the states that they go through
* `StillPage` — a page with elements, on which mounting may be made to fail
* `Stage`, `Stage.Operation` — an application on such a page, and what is done to them
-/

namespace MixerPanel

/-- An application as it was when it was mounted, and where. -/
structure Root where
  selector : String
  app : Application
deriving DecidableEq, Repr

/-! ## Any page -/

/-- A page with the roots that were mounted on it. -/
class RootedHost (σ : Type) extends Host σ where
  /-- What is mounted, in order. -/
  roots : σ → List Root
  /-- Mounting shows one root more. -/
  roots_mountRoot : ∀ {page : σ} {selector : String} {app : Application} {shown : σ},
    Host.mountRoot page selector app = (.ok (), shown) →
      roots shown = roots page ++ [⟨selector, app⟩]
  /-- Where mounting fails, the page is as it was. -/
  mountRoot_of_error : ∀ {page : σ} {selector : String} {app : Application} {e : StartupError}
    {after : σ}, Host.mountRoot page selector app = (.error e, after) → after = page
  /-- Log lines are no roots. -/
  roots_note : ∀ (page : σ) (line : Log.Line), roots (Host.note page line) = roots page

open RootedHost

/-- A change of the page by itself: anything that takes no root away and adds none. -/
structure PageChange (σ : Type) [RootedHost σ] where
  apply : σ → σ
  roots_apply : ∀ page, roots (apply page) = roots page

namespace Staging

variable {σ : Type} [RootedHost σ]

/-- What is done to an application, or to its page. -/
inductive Call (σ : Type) [RootedHost σ] where
  | registerIcons (icons : List Icon)
  | component (name : String) (kind : ComponentKind)
  | useRouter (routes : RouteTable)
  | mount (selector : String)
  | change (change : PageChange σ)

/-- What a call does. -/
def Call.setup : Call σ → Setup (Staging σ) Unit
  | registerIcons icons => Staging.registerIcons icons
  | component name kind => configure (Application.component name kind)
  | useRouter routes => configure (Application.useRouter routes)
  | mount selector => discard (Staging.mount selector)
  | change pageChange => modify fun s => { s with page := pageChange.apply s.page }

/-- What becomes of a call, and of the application and its page. -/
def attempt (s : Staging σ) (call : Call σ) : Except StartupError Unit × Staging σ :=
  call.setup.attempt s

/-- What a call answers. -/
def step (s : Staging σ) (call : Call σ) : Except StartupError Unit := (s.attempt call).1

/-- The state after a call, whether it fails or not. -/
def next (s : Staging σ) (call : Call σ) : Staging σ := (s.attempt call).2

/-- The state after a list of calls. -/
def run (s : Staging σ) (calls : List (Call σ)) : Staging σ := calls.foldl next s

end Staging

/-! ## A page in memory -/

/-- A page held in memory. -/
structure StillPage where
  /-- The selectors that match an element. -/
  elements : List String
  /-- Why mounting fails, if it does. -/
  failure : Option String
  /-- What is mounted, in order. -/
  roots : List Root
  log : List Log.Line
deriving DecidableEq, Repr

namespace StillPage

/-- A page on which nothing is mounted. -/
def blank (elements : List String) (failure : Option String) : StillPage :=
  ⟨elements, failure, [], []⟩

/-- Shows an application on a page, unless mounting is made to fail. -/
def mountRoot (page : StillPage) (selector : String) (app : Application) :
    Except StartupError Unit × StillPage :=
  match page.failure with
  | some message => (.error (.mountFailed message), page)
  | none => (.ok (), { page with roots := page.roots ++ [⟨selector, app⟩] })

instance : Host StillPage where
  hasElement page selector := page.elements.contains selector
  mountRoot := mountRoot
  note page line := { page with log := page.log ++ [line] }

instance : RootedHost StillPage where
  roots := roots
  roots_mountRoot := by
    intro page selector app shown mounted
    simp only [Host.mountRoot, mountRoot] at mounted
    split at mounted
    · cases mounted
    · cases mounted
      rfl
  mountRoot_of_error := by
    intro page selector app e after refused
    simp only [Host.mountRoot, mountRoot] at refused
    split at refused
    · cases refused
      rfl
    · cases refused
  roots_note _ _ := rfl

end StillPage

/-- An application on a page in memory. -/
abbrev Stage := Staging StillPage

namespace Stage

/-- What is done to an application or its page. -/
inductive Operation where
  | registerIcons (icons : List Icon)
  | component (name : String)
  | useRouter (routes : RouteTable)
  | mount (selector : String)
  /-- The page gets other elements. -/
  | setElements (elements : List String)
  /-- Mounting is made to fail, or to work again. -/
  | setFailure (failure : Option String)

/-- An operation as a call. -/
def Operation.call : Operation → Staging.Call StillPage
  | registerIcons icons => .registerIcons icons
  | component name => .component name .iconComponent
  | useRouter routes => .useRouter routes
  | mount selector => .mount selector
  | setElements elements => .change ⟨fun page => { page with elements := elements }, fun _ => rfl⟩
  | setFailure failure => .change ⟨fun page => { page with failure := failure }, fun _ => rfl⟩

/-- What an operation answers. -/
def step (s : Stage) (operation : Operation) : Except StartupError Unit :=
  Staging.step s operation.call

/-- The state after an operation, whether it fails or not. -/
def next (s : Stage) (operation : Operation) : Stage := Staging.next s operation.call

/-- The state after a list of operations. -/
def run (s : Stage) (operations : List Operation) : Stage :=
  Staging.run s (operations.map Operation.call)

end Stage

end MixerPanel
