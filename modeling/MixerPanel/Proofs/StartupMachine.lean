import Mathlib.Tactic.SplitIfs
import MixerPanel.App.Stage
import MixerPanel.Proofs.Reading

/-!
# An application while it is started

An application is configured and mounted by calls in any order, some of which fail and may be made
again, while the page that it is mounted on changes by itself.  What is known of the page is only
that it shows a root where one is mounted, that it is as it was where mounting fails, and that it
loses no root.

* `Components.attempt_binding`, `Application.attempt_useRouter`, `Staging.attempt_mount` — what
  comes of each step, whether it fails or not
* `Staging.Outcome`, `Staging.attempt_outcome` — what a call can come to, and when
* `Staging.next_of_error` — a call that fails has done nothing
* `Staging.Configured` — an application as a list of calls configures it: with every icon, and with
  the first router and the first component of each name
* `Staging.shown_run` — there is a root exactly while the application is mounted, and it shows the
  application as it was then
* `startup_machine` — all of it, for every list of calls

A step works in place, so what it did before it failed would stay done.  Everything is derived from
`attempt_outcome`, the one lemma that looks into the calls.
-/

namespace MixerPanel

/-! ## What comes of a step -/

theorem Components.attempt_binding (c : Components) (name : String) (kind : ComponentKind) :
    (binding name kind).attempt c
      = if (c.get? name).isSome then (.error (.duplicateComponent name), c)
        else (.ok (), ⟨Keyed.insert name kind c.bound⟩) := by
  simp [binding, Setup.attempt_bind]

theorem Application.attempt_useRouter (a : Application) (routes : RouteTable) :
    (useRouter routes).attempt a
      = if a.router.isSome then (.error .routerAlreadyAttached, a)
        else (.ok (), { a with router := some routes }) := by
  simp [useRouter, Setup.attempt_bind]

theorem Staging.attempt_configure {σ : Type} (s : Staging σ) (setup : Setup Application Unit) :
    (configure setup).attempt s
      = ((setup.attempt s.app).1, { s with app := (setup.attempt s.app).2 }) := rfl

theorem Staging.attempt_mountRoot {σ : Type} [Host σ] (s : Staging σ) (selector : String) :
    (mountRoot selector).attempt s
      = ((Host.mountRoot s.page selector s.app).1,
          { s with page := (Host.mountRoot s.page selector s.app).2 }) := rfl

/-- **Mounting**: three questions, the page's own answer, and only then the application is marked
as mounted. -/
theorem Staging.attempt_mount {σ : Type} [Host σ] (s : Staging σ) (selector : String) :
    (mount selector).attempt s
      = if s.app.isMounted then (.error .alreadyMounted, s)
        else if s.app.router.isNone then (.error .routerMissing, s)
        else if !Host.hasElement s.page selector then (.error (.hostElementMissing selector), s)
        else match Host.mountRoot s.page selector s.app with
          | (.error e, page) => (.error e, { s with page := page })
          | (.ok (), shown) => (.ok selector, ⟨{ s.app with mountedOn := some selector },
              Host.note shown (Log.info ("Application mounted on " ++ selector))⟩) := by
  simp only [mount, Setup.attempt_get, Setup.attempt_ite, Setup.attempt_throw,
    Setup.attempt_bind, attempt_mountRoot]
  rcases Host.mountRoot s.page selector s.app with ⟨_ | ⟨⟩, page⟩
  · rfl
  · rfl

open RootedHost

variable {σ : Type} [RootedHost σ]

/-! ## Calls -/

namespace Staging

namespace Call

/-- The icons that a call registers. -/
def icons : Call σ → List Icon
  | registerIcons icons => icons
  | _ => []

/-- The routes that a call would attach. -/
def routes? : Call σ → Option RouteTable
  | useRouter routes => some routes
  | _ => none

/-- The component that a call would bind to a name. -/
def kind? (name : String) : Call σ → Option ComponentKind
  | component bound kind => if bound = name then some kind else none
  | _ => none

end Call

/-! ## What a call comes to -/

/-- What a call can come to, and when: the reasons against mounting are in the order in which they
count, each with the ones before it ruled out. -/
inductive Outcome (s : Staging σ) : Call σ → Except StartupError Unit × Staging σ → Prop
  | registered (icons : List Icon) :
      Outcome s (.registerIcons icons) (.ok (), ⟨s.app.registerIcons icons, s.page⟩)
  | nameTaken {name : String} (kind : ComponentKind)
      (taken : (s.app.components.get? name).isSome) :
      Outcome s (.component name kind) (.error (.duplicateComponent name), s)
  | bound {name : String} (kind : ComponentKind) (free : s.app.components.get? name = none) :
      Outcome s (.component name kind) (.ok (),
        ⟨{ s.app with components := ⟨Keyed.insert name kind s.app.components.bound⟩ }, s.page⟩)
  | routerTaken (routes : RouteTable) (taken : s.app.router.isSome) :
      Outcome s (.useRouter routes) (.error .routerAlreadyAttached, s)
  | attached (routes : RouteTable) (free : s.app.router = none) :
      Outcome s (.useRouter routes) (.ok (), ⟨{ s.app with router := some routes }, s.page⟩)
  | alreadyMounted (selector : String) (mounted : s.app.isMounted = true) :
      Outcome s (.mount selector) (.error .alreadyMounted, s)
  | routerMissing (selector : String) (unmounted : s.app.mountedOn = none)
      (missing : s.app.router = none) : Outcome s (.mount selector) (.error .routerMissing, s)
  | elementMissing {selector : String} (unmounted : s.app.mountedOn = none)
      (routed : s.app.router.isSome) (missing : Host.hasElement s.page selector = false) :
      Outcome s (.mount selector) (.error (.hostElementMissing selector), s)
  | failed {selector : String} {e : StartupError} (unmounted : s.app.mountedOn = none)
      (routed : s.app.router.isSome) (there : Host.hasElement s.page selector = true)
      (refused : (Host.mountRoot s.page selector s.app).1 = .error e) :
      Outcome s (.mount selector) (.error e, s)
  | mounted {selector : String} {shown : σ} (unmounted : s.app.mountedOn = none)
      (routed : s.app.router.isSome) (there : Host.hasElement s.page selector = true)
      (accepted : Host.mountRoot s.page selector s.app = (.ok (), shown)) :
      Outcome s (.mount selector) (.ok (), ⟨{ s.app with mountedOn := some selector },
        Host.note shown (Log.info ("Application mounted on " ++ selector))⟩)
  | changed (change : PageChange σ) :
      Outcome s (.change change) (.ok (), ⟨s.app, change.apply s.page⟩)

theorem component_outcome (s : Staging σ) (name : String) (kind : ComponentKind) :
    Outcome s (.component name kind) (s.attempt (.component name kind)) := by
  have comes : s.attempt (.component name kind)
      = (((Components.binding name kind).attempt s.app.components).1,
          ⟨{ s.app with
            components := ((Components.binding name kind).attempt s.app.components).2 }, s.page⟩) :=
    rfl
  rw [comes, Components.attempt_binding]
  split_ifs with taken
  · exact .nameTaken kind taken
  · exact .bound kind (Option.not_isSome_iff_eq_none.mp taken)

theorem useRouter_outcome (s : Staging σ) (routes : RouteTable) :
    Outcome s (.useRouter routes) (s.attempt (.useRouter routes)) := by
  rw [attempt, Call.setup, attempt_configure, Application.attempt_useRouter]
  split_ifs with taken
  · exact .routerTaken routes taken
  · exact .attached routes (Option.not_isSome_iff_eq_none.mp taken)

theorem mount_outcome (s : Staging σ) (selector : String) :
    Outcome s (.mount selector) (s.attempt (.mount selector)) := by
  rw [attempt, Call.setup, Setup.attempt_discard, attempt_mount]
  split_ifs with mounted missing absent
  · exact .alreadyMounted selector mounted
  · have unmounted : s.app.mountedOn = none := Option.not_isSome_iff_eq_none.mp mounted
    exact .routerMissing selector unmounted (Option.isNone_iff_eq_none.mp missing)
  · have unmounted : s.app.mountedOn = none := Option.not_isSome_iff_eq_none.mp mounted
    have routed : s.app.router.isSome := by simpa [Option.isSome_iff_ne_none] using missing
    exact .elementMissing unmounted routed (by simpa using absent)
  · have unmounted : s.app.mountedOn = none := Option.not_isSome_iff_eq_none.mp mounted
    have routed : s.app.router.isSome := by simpa [Option.isSome_iff_ne_none] using missing
    have there : Host.hasElement s.page selector = true := by simpa using absent
    rcases answer : Host.mountRoot s.page selector s.app with ⟨e | ⟨⟩, page⟩
    · -- the page may do something before it refuses, but by assumption it does not
      obtain rfl : page = s.page := mountRoot_of_error answer
      exact .failed unmounted routed there (by rw [answer])
    · exact .mounted unmounted routed there answer

/-- **Every call comes to one of the outcomes.** -/
theorem attempt_outcome (s : Staging σ) (call : Call σ) : Outcome s call (s.attempt call) := by
  cases call with
  | registerIcons icons => exact .registered icons
  | component name kind => exact s.component_outcome name kind
  | useRouter routes => exact s.useRouter_outcome routes
  | mount selector => exact s.mount_outcome selector
  | change change => exact .changed change

theorem run_concat (s : Staging σ) (calls : List (Call σ)) (call : Call σ) :
    s.run (calls ++ [call]) = (s.run calls).next call :=
  List.foldl_concat ..

theorem run_append (s : Staging σ) (calls more : List (Call σ)) :
    s.run (calls ++ more) = (s.run calls).run more :=
  List.foldl_append ..

/-! ## What is shown -/

/-- A call that is not a successful mounting leaves the mounting and the roots as they are. -/
theorem next_shown (s : Staging σ) (call : Call σ) :
    ((s.next call).app.mountedOn = s.app.mountedOn ∧ roots (s.next call).page = roots s.page) ∨
    ∃ selector, call = .mount selector ∧ s.app.mountedOn = none ∧
      (s.next call).app.mountedOn = some selector ∧
      roots (s.next call).page = roots s.page ++ [⟨selector, s.app⟩] := by
  have outcome := s.attempt_outcome call
  unfold next
  generalize s.attempt call = result at outcome ⊢
  cases outcome with
  | @mounted selector shown unmounted _ _ accepted =>
      refine .inr ⟨selector, rfl, unmounted, rfl, ?_⟩
      rw [roots_note, roots_mountRoot accepted]
  | changed change => exact .inl ⟨rfl, change.roots_apply s.page⟩
  | _ => exact .inl ⟨rfl, rfl⟩

/-- **There is a root exactly while the application is mounted**, and it shows the application as it
was just before. -/
theorem shown_run {page : σ} (blank : roots page = []) (calls : List (Call σ)) :
    (((start page).run calls).app.mountedOn = none ∧ roots ((start page).run calls).page = []) ∨
    ∃ before selector after, calls = before ++ .mount selector :: after ∧
      ((start page).run before).app.mountedOn = none ∧
      ((start page).run calls).app.mountedOn = some selector ∧
      roots ((start page).run calls).page = [⟨selector, ((start page).run before).app⟩] := by
  induction calls using List.reverseRecOn with
  | nil => exact .inl ⟨rfl, blank⟩
  | append_singleton calls call ih =>
      rw [run_concat]
      rcases ((start page).run calls).next_shown call with
        ⟨sameMount, sameRoots⟩ | ⟨selector, rfl, unmounted, mounted, shown⟩
      · rw [sameMount, sameRoots]
        rcases ih with ih | ⟨before, selector, after, rfl, ih⟩
        · exact .inl ih
        · exact .inr ⟨before, selector, after ++ [call], by simp, ih⟩
      · -- nothing was mounted before, so this root is the only one
        rcases ih with ⟨-, none⟩ | ⟨_, other, _, _, _, already, _⟩
        · exact .inr ⟨calls, selector, [], rfl, unmounted, mounted, by rw [shown, none]; rfl⟩
        · rw [unmounted] at already
          cases already

end Staging

/-! ## What is configured -/

theorem Icon.mem_all (icon : Icon) : icon ∈ Icon.all := by
  cases icon <;> decide

theorem IconSet.contains_ofList (icons : List Icon) (icon : Icon) :
    (IconSet.ofList icons).contains icon = icons.contains icon := by
  simp [ofList, add, empty, contains, Icon.mem_all]

theorem IconSet.add_ofList (icons more : List Icon) :
    (IconSet.ofList icons).add more = IconSet.ofList (icons ++ more) := by
  have same (icon : Icon) : ((IconSet.ofList icons).contains icon || more.contains icon)
      = (empty.contains icon || (icons ++ more).contains icon) := by
    rw [contains_ofList]
    simp [empty, contains]
  exact congrArg (fun registered => IconSet.mk (Icon.all.filter registered)) (funext same)

namespace Staging

/-- An application as a list of calls configures it: with every icon that was registered, and, for
the router and for every name, with what came first. -/
structure Configured (calls : List (Call σ)) (app : Application) : Prop where
  icons : app.icons = IconSet.ofList (calls.flatMap Call.icons)
  router : app.router = calls.findSome? Call.routes?
  components : ∀ name, app.components.get? name = calls.findSome? (Call.kind? name)

namespace Configured

variable {calls : List (Call σ)} {app after : Application} {call : Call σ}

theorem empty : Configured ([] : List (Call σ)) .empty := ⟨rfl, rfl, fun _ => rfl⟩

theorem concat (configured : Configured calls app) (icons : after.icons = app.icons.add call.icons)
    (router : after.router = app.router.or call.routes?)
    (components : ∀ name,
      after.components.get? name = (app.components.get? name).or (call.kind? name)) :
    Configured (calls ++ [call]) after where
  icons := by
    rw [icons, configured.icons, IconSet.add_ofList]
    simp
  router := by
    rw [router, configured.router]
    simp [List.findSome?_append]
  components name := by
    rw [components, configured.components]
    simp [List.findSome?_append]

theorem add_nil (configured : Configured calls app) : app.icons.add [] = app.icons := by
  rw [configured.icons, IconSet.add_ofList, List.append_nil]

/-- **The first router stays**, whatever is called later. -/
theorem router_append {more : List (Call σ)} (configured : Configured calls app)
    (configured' : Configured (calls ++ more) after) {routes : RouteTable}
    (attached : app.router = some routes) : after.router = some routes := by
  rw [configured'.router, List.findSome?_append, ← configured.router, attached]
  rfl

/-- **The first component of a name stays**, whatever is called later. -/
theorem component_append {more : List (Call σ)} (configured : Configured calls app)
    (configured' : Configured (calls ++ more) after) {name : String} {kind : ComponentKind}
    (bound : app.components.get? name = some kind) : after.components.get? name = some kind := by
  rw [configured'.components, List.findSome?_append, ← configured.components, bound]
  rfl

end Configured

theorem next_configured {calls : List (Call σ)} {s : Staging σ}
    (configured : Configured calls s.app) (call : Call σ) :
    Configured (calls ++ [call]) (s.next call).app := by
  have outcome := s.attempt_outcome call
  have noIcons := configured.add_nil.symm
  have noRouter : s.app.router = s.app.router.or none := (Option.or_none ..).symm
  have noComponent (name : String) :
      s.app.components.get? name = (s.app.components.get? name).or none := (Option.or_none ..).symm
  unfold next
  generalize s.attempt call = result at outcome ⊢
  cases outcome with
  | registered icons => exact configured.concat rfl noRouter noComponent
  | @nameTaken name kind taken =>
      refine configured.concat noIcons noRouter fun other => ?_
      by_cases same : name = other
      · rw [← same, Option.or_of_isSome taken]
      · simp [Call.kind?, same]
  | @bound name kind free =>
      refine configured.concat noIcons noRouter fun other => ?_
      show Keyed.lookup other (Keyed.insert name kind s.app.components.bound) = _
      rw [Keyed.lookup_insert]
      split_ifs with same
      · simp [← same, free, Call.kind?]
      · simp [Call.kind?, same, Components.get?]
  | routerTaken routes taken =>
      exact configured.concat noIcons (Option.or_of_isSome taken).symm noComponent
  | attached routes free => exact configured.concat noIcons (by rw [free]; rfl) noComponent
  | changed | alreadyMounted | routerMissing | elementMissing | failed | mounted =>
      exact configured.concat noIcons noRouter noComponent

/-- **Every list of calls configures the application** as it says. -/
theorem run_configured (page : σ) (calls : List (Call σ)) :
    Configured calls ((start page).run calls).app := by
  induction calls using List.reverseRecOn with
  | nil => exact .empty
  | append_singleton calls call ih =>
      rw [run_concat]
      exact next_configured ih call

theorem step_mount_eq_ok_iff (s : Staging σ) (selector : String) :
    s.step (.mount selector) = .ok () ↔
      s.app.isMounted = false ∧ s.app.router.isSome ∧ Host.hasElement s.page selector = true ∧
        (Host.mountRoot s.page selector s.app).1 = .ok () := by
  have outcome := s.attempt_outcome (.mount selector)
  unfold step
  generalize s.attempt (.mount selector) = result at outcome ⊢
  cases outcome with
  | alreadyMounted _ mounted => simp [mounted]
  | routerMissing _ unmounted missing => simp [missing]
  | elementMissing unmounted routed missing => simp [missing]
  | failed unmounted routed there refused => simp [refused]
  | mounted unmounted routed there accepted =>
      simp [Application.isMounted, unmounted, routed, there, accepted]

/-- **A call that fails** has done nothing. -/
theorem next_of_error {s : Staging σ} {call : Call σ} {e : StartupError}
    (failed : s.step call = .error e) : s.next call = s := by
  have outcome := s.attempt_outcome call
  unfold step at failed
  unfold next
  generalize s.attempt call = result at outcome failed ⊢
  cases outcome with
  | nameTaken | routerTaken | alreadyMounted | routerMissing | elementMissing | failed => rfl
  | registered | bound | attached | mounted | changed => cases failed

end Staging

/-! ## The whole startup -/

/-- **However an application is configured and mounted**, and however its page changes meanwhile:
there is one root while it is mounted and none before; the root shows the application as it was
configured up to the call that mounted it, and not yet mounted; mounting succeeds under the four
conditions and fails for the first that does not hold; a call that fails changes nothing; and what
is attached or bound stays. -/
theorem startup_machine {page : σ} (blank : roots page = []) (calls : List (Staging.Call σ)) :
    let s := (Staging.start page).run calls
    (roots s.page).length = (if s.app.isMounted then 1 else 0) ∧
    (∀ root ∈ roots s.page, ∃ before after, calls = before ++ .mount root.selector :: after ∧
      root.app = ((Staging.start page).run before).app ∧ root.app.mountedOn = none ∧
      Staging.Configured before root.app) ∧
    Staging.Configured calls s.app ∧
    (∀ selector, s.step (.mount selector) = .ok () ↔
      s.app.isMounted = false ∧ s.app.router.isSome ∧ Host.hasElement s.page selector = true ∧
        (Host.mountRoot s.page selector s.app).1 = .ok ()) ∧
    (∀ call, Staging.Outcome s call (s.attempt call)) ∧
    (∀ call e, s.step call = .error e → s.next call = s) ∧
    ∀ more,
      (∀ routes, s.app.router = some routes → (s.run more).app.router = some routes) ∧
      ∀ name kind, s.app.components.get? name = some kind →
        (s.run more).app.components.get? name = some kind := by
  intro s
  have configured := Staging.run_configured page calls
  refine ⟨?_, ?_, configured, s.step_mount_eq_ok_iff, s.attempt_outcome,
    fun _ _ => Staging.next_of_error, fun more => ?_⟩
  · rcases Staging.shown_run blank calls with
      ⟨unmounted, none⟩ | ⟨_, selector, _, _, _, mounted, shown⟩
    · simp [s, none, Application.isMounted, unmounted]
    · simp [s, shown, Application.isMounted, mounted]
  · intro root mem
    rcases Staging.shown_run blank calls with
      ⟨-, none⟩ | ⟨before, selector, after, split, unmounted, -, shown⟩
    · simp [s, none] at mem
    · obtain rfl : root = _ := by simpa [s, shown] using mem
      exact ⟨before, after, split, rfl, unmounted, Staging.run_configured page before⟩
  · have configured' : Staging.Configured (calls ++ more) (s.run more).app := by
      have ran := Staging.run_configured page (calls ++ more)
      rwa [Staging.run_append] at ran
    exact ⟨fun routes => configured.router_append configured',
      fun name kind => configured.component_append configured'⟩

namespace Stage

/-- Mounting fails for each of the reasons before it succeeds, and then once more. -/
def patience : List Operation :=
  [.mount "#app", .useRouter .standard, .mount "#panel", .mount "#app", .registerIcons [.clock],
    .setFailure none, .component "icon", .component "icon", .mount "#app", .mount "#app"]

theorem one_root_after_patience :
    (Stage.run (.start (.blank ["#app"] (some "busy"))) patience).page.roots.length = 1 := by
  have blank : roots (StillPage.blank ["#app"] (some "busy")) = [] := rfl
  have counted := (startup_machine blank (patience.map Operation.call)).1
  have mounted : (Stage.run (.start (.blank ["#app"] (some "busy"))) patience).app.isMounted
      = true := by rfl
  exact counted.trans (if_pos mounted)

end Stage

end MixerPanel
