import MixerPanel.Proofs.Overrides
import MixerPanel.Proofs.StartupMachine

/-!
# The startup sequence

A startup configures an application in a fixed order and then mounts it.  Nothing that could go
wrong in between does: the names are free, the router is the first one, and the application is
mounted for the first time.  So what becomes of a startup is up to the document that the application
is mounted on, of which nothing is known here.

* `Application.IsStandard`, `Application.standard` — the application that is mounted
* `bootstrap_eq` — what a startup does to any page
* `Document` — anything that an application can be mounted on
* `Document.Visit` — a document with the calls to mount something that were made on it
* `startup_sequence` — the startup on every document, with every configuration
-/

namespace MixerPanel

/-! ## The application that is mounted -/

/-- An application as a startup configures it. -/
structure Application.IsStandard (a : Application) : Prop where
  icons : a.icons.icons = Icon.all
  components : a.components.bound = [("font-awesome-icon", .iconComponent)]
  router : a.router = some .standard
  unmounted : a.mountedOn = none

/-- The page when the application is mounted on it. -/
def registered {σ : Type} [Host σ] (page : σ) : σ :=
  Host.note page (Log.debug ("Registered " ++ toString (IconSet.ofList Icon.all).size ++ " icons"))

/-- The application as every startup configures it. -/
def Application.standard : Application :=
  ⟨.ofList Icon.all, ⟨[(iconComponentName, .iconComponent)]⟩, some .standard, none⟩

theorem Application.isStandard_standard : standard.IsStandard := ⟨rfl, rfl, rfl, rfl⟩

section Mount

variable {σ : Type} [Host σ]

/-- **The steps before mounting do not fail.** -/
theorem Staging.attempt_startup (page : σ) (selector : String) :
    (startup selector).attempt (start page)
      = (mount selector).attempt ⟨.standard, registered page⟩ := rfl

/-- **What a startup does**: it asks for the element, and mounts the application on it. The page is
as this has left it. -/
theorem bootstrap_eq (page : σ) (selector : String) :
    bootstrap page selector
      = if Host.hasElement (registered page) selector then
          match Host.mountRoot (registered page) selector .standard with
          | (.ok (), shown) =>
            ⟨Host.note shown (Log.info ("Application mounted on " ++ selector)), .ok selector⟩
          | (.error e, after) => ⟨after, .error e⟩
        else ⟨registered page, .error (.hostElementMissing selector)⟩ := by
  rw [bootstrap, Staging.attempt_startup, Staging.attempt_mount]
  cases Host.hasElement (registered page) selector with
  | false => rfl
  | true =>
      rcases Host.mountRoot (registered page) selector .standard with ⟨_ | ⟨⟩, after⟩
      · rfl
      · rfl

end Mount

/-! ## Documents -/

/-- Anything that an application can be mounted on: which selectors match an element, and whether an
application can be shown there.  Either way the document may be another one then. -/
structure Document (δ : Type) where
  hasElement : δ → String → Bool
  mountRoot : δ → String → Application → Except StartupError Unit × δ

namespace Document

variable {δ : Type}

/-- A document while a startup visits it. -/
structure Visit (document : Document δ) where
  state : δ
  /-- What the document was called to mount, each time under which selector, and whether it then did
  or not. -/
  calls : List Root
  log : List Log.Line

/-- The visit before anything is done. -/
def visit (document : Document δ) (state : δ) : document.Visit := ⟨state, [], []⟩

instance (document : Document δ) : Host document.Visit where
  hasElement page selector := document.hasElement page.state selector
  mountRoot page selector app :=
    let (answer, after) := document.mountRoot page.state selector app
    (answer, ⟨after, page.calls ++ [⟨selector, app⟩], page.log⟩)
  note page line := { page with log := page.log ++ [line] }

/-- What comes of a startup: what it tells, what the document was called to mount, and the document
then. -/
def outcome (document : Document δ) (state : δ) (selector : String) (app : Application) :
    Except StartupError String × List Root × δ :=
  if document.hasElement state selector then
    let (answer, after) := document.mountRoot state selector app
    (answer.map fun _ => selector, [⟨selector, app⟩], after)
  else (.error (.hostElementMissing selector), [], state)

variable {document other : Document δ} {state : δ} {selector : String} {app : Application}

theorem bootstrap_visit (document : Document δ) (state : δ) (selector : String) :
    let started := bootstrap (document.visit state) selector
    (started.result, started.page.calls, started.page.state)
      = document.outcome state selector .standard := by
  intro started
  have asked : Host.hasElement (registered (document.visit state)) selector
      = document.hasElement state selector := rfl
  have shown : Host.mountRoot (registered (document.visit state)) selector .standard
      = ((document.mountRoot state selector .standard).1,
          ⟨(document.mountRoot state selector .standard).2, [⟨selector, .standard⟩],
            (registered (document.visit state)).log⟩) := rfl
  rw [show started = _ from bootstrap_eq _ _, asked, shown, outcome]
  cases document.hasElement state selector with
  | false => rfl
  | true =>
    rcases document.mountRoot state selector .standard with ⟨_ | _, after⟩
    · rfl
    · rfl

/-- Only the element and, if it is there, the one attempt to mount on it decide what comes of a
startup. -/
theorem outcome_congr (same : other.hasElement state selector = document.hasElement state selector)
    (agrees : document.hasElement state selector = true →
      other.mountRoot state selector app = document.mountRoot state selector app) :
    other.outcome state selector app = document.outcome state selector app := by
  rw [outcome, outcome, same]
  cases there : document.hasElement state selector with
  | false => rfl
  | true => rw [agrees there]

end Document

open Document

/-- **The startup sequence.**  Take any document, in any state, and any configuration.  The
application that is mounted has exactly the static icons, exactly the icon component under its
name, and the standard routes, and it is not mounted yet.

* A startup succeeds exactly if the document has an element for the configured selector and accepts
  the application there.  Then it tells the selector.
* With such an element the document is called once, to mount the application under the selector, and
  is what this has made of it, whether it accepts the application or not.
* Without such an element the startup fails for that reason; the document is not called, and is as
  it was.
* It fails for no other reason than the document does, and for that very reason.
* What the document would make of any other application, under any other selector or in another
  state makes no difference; nor does anything that it would make of one, without the element.

If the configuration comes from a list of overrides, the selector is the last one in it that is not
empty, or else the standard one. -/
theorem startup_sequence {δ : Type} (document : Document δ) (state : δ) (config : Config) :
    ∃ app : Application, app.IsStandard ∧
      let selector := config.hostSelector
      let found := document.hasElement state selector
      let attempt := document.mountRoot state selector app
      let started := bootstrap (document.visit state) selector
      ((∃ handle, started.result = .ok handle) ↔ found = true ∧ attempt.1 = .ok ()) ∧
      (∀ handle, started.result = .ok handle → handle = selector ∧
        started.page.calls = [⟨selector, app⟩] ∧ started.page.state = attempt.2) ∧
      (found = true → started.page.calls = [⟨selector, app⟩] ∧ started.page.state = attempt.2) ∧
      (found = false → started.result = .error (.hostElementMissing selector) ∧
        started.page.calls = [] ∧ started.page.state = state) ∧
      (∀ e, found = true → attempt.1 = .error e → started.result = .error e) ∧
      (∀ e, started.result = .error e →
        found = false ∧ e = .hostElementMissing selector ∨ found = true ∧ attempt.1 = .error e) ∧
      (∀ other : Document δ, other.hasElement state selector = found →
        (found = true → other.mountRoot state selector app = attempt) →
        let again := bootstrap (other.visit state) selector
        again.result = started.result ∧ again.page.calls = started.page.calls ∧
        again.page.state = started.page.state) ∧
      ∀ pairs, Config.ofPairs pairs = .ok config →
        selector = ((Config.given "host" pairs).filter (· ≠ "")).getLast?.getD "#app" := by
  refine ⟨.standard, Application.isStandard_standard, ?_⟩
  intro selector found attempt started
  have comes : (started.result, started.page.calls, started.page.state)
      = document.outcome state selector .standard := bootstrap_visit ..
  have independent : ∀ other : Document δ, other.hasElement state selector = found →
      (found = true → other.mountRoot state selector .standard = attempt) →
      let again := bootstrap (other.visit state) selector
      again.result = started.result ∧ again.page.calls = started.page.calls ∧
      again.page.state = started.page.state := by
    intro other same agrees again
    have comesAgain : (again.result, again.page.calls, again.page.state)
        = other.outcome state selector .standard := bootstrap_visit ..
    simpa using comesAgain.trans ((outcome_congr same agrees).trans comes.symm)
  have chosen : ∀ pairs, Config.ofPairs pairs = .ok config →
      selector = ((Config.given "host" pairs).filter (· ≠ "")).getLast?.getD "#app" :=
    fun _ ok => Config.hostSelector_of_ofPairs ok
  rw [outcome, show document.hasElement state selector = found from rfl,
    show document.mountRoot state selector .standard = attempt from rfl] at comes
  generalize started.result = result, started.page.calls = calls,
    started.page.state = reached at comes independent ⊢
  rcases found with _ | _
  · -- no element: the document is not called
    cases comes
    refine ⟨?_, ?_, ?_, ?_, ?_, ?_, independent, chosen⟩ <;> simp
  rcases attempt with ⟨reason | _, after⟩
  · -- the document refuses, and its reason is passed on
    cases comes
    refine ⟨?_, ?_, ?_, ?_, ?_, ?_, independent, chosen⟩ <;> simp [Except.map]
  · -- the document accepts
    cases comes
    refine ⟨?_, ?_, ?_, ?_, ?_, ?_, independent, chosen⟩ <;> simp [Except.map]

/-- A document that counts how often it is called, and the last selector that is not empty among
three. -/
theorem started_once_on_last_selector :
    let counter : Document Nat :=
      ⟨fun _ selector => selector == "#panel", fun calls _ _ => (.ok (), calls + 1)⟩
    let pairs := [("host", "#root"), ("host", "#panel"), ("host", "")]
    ∃ config, Config.ofPairs pairs = .ok config ∧
      let started := bootstrap (counter.visit 0) config.hostSelector
      started.result = .ok "#panel" ∧ started.page.calls.length = 1 ∧
        started.page.state = 1 := by
  intro counter pairs
  let config : Config := { Config.standard with hostSelector := "#panel" }
  have read : Config.ofPairs pairs = .ok config := by decide
  obtain ⟨app, -, succeeds, reached, -, -, -, -, -, chosen⟩ := startup_sequence counter 0 config
  have selected : config.hostSelector = "#panel" := by
    rw [chosen pairs read]
    decide
  obtain ⟨handle, told⟩ := succeeds.mpr ⟨by rw [selected]; decide, rfl⟩
  obtain ⟨same, called, after⟩ := reached handle told
  exact ⟨config, read, by rw [told, same, selected], congrArg List.length called, after⟩

end MixerPanel
