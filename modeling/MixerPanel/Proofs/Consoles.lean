import MixerPanel.Console
import MixerPanel.Proofs.MiniQuery

/-!
# Consoles at any time

A console does to its session and its store what a desk does, and besides moves between routes.  So
whatever holds of the store of a desk after every run holds of that of a console, and the current
route is always the one of some location.

* `Console.Operation.onDesk` — what an operation asks of session and store
* `Console.desk_run` — the run of a console is, on session and store, a run of the desk
* `Context.Reached`, `Console.reached_run` — what holds of the context after every run
-/

namespace MixerPanel

namespace Console

/-- Session and store of a console. -/
def desk (c : Console) : Desk := ⟨c.session, c.context.store⟩

/-- What an operation asks of session and store. -/
def Operation.onDesk : Operation → List Desk.Operation
  | .request data => [.request data]
  | .message text => [.message text]
  | .document json => [.replaceDocument json]
  | .select serial => [.select serial]
  | .navigate _ => []
  | .connection _ => []

/-- Nobody hands a console a typed status. -/
theorem Operation.replaceStatus_not_mem_onDesk (operation : Operation) (status : Status) :
    .replaceStatus status ∉ operation.onDesk := by
  cases operation <;> simp [onDesk]

theorem run_cons (c : Console) (operation : Operation) (rest : List Operation) :
    c.run (operation :: rest) = (c.step operation).console.run rest := rfl

theorem desk_step (c : Console) (operation : Operation) :
    (c.step operation).console.desk = c.desk.run operation.onDesk := by
  cases operation <;> rfl

/-- **On session and store the run of a console is a run of the desk.** -/
theorem desk_run (c : Console) (operations : List Operation) :
    (c.run operations).desk = c.desk.run (operations.flatMap Operation.onDesk) := by
  induction operations generalizing c with
  | nil => rfl
  | cons operation rest ih => rw [run_cons, ih, desk_step, List.flatMap_cons, Desk.run_append]

/-! ## The current route -/

/-- An operation leaves the routes alone, and changes the current one only by going somewhere. -/
theorem routes_step (c : Console) (operation : Operation) :
    (c.step operation).console.context.routes = c.context.routes ∧
      ((c.step operation).console.context.route = c.context.route ∨
        ∃ location, (c.step operation).console.context.route
          = c.context.routes.resolve location) := by
  cases operation with
  | navigate location => exact ⟨rfl, .inr ⟨location, rfl⟩⟩
  | _ => exact ⟨rfl, .inl rfl⟩

/-- The routes stay what they are, and the current one is that of some location. -/
theorem routes_run {c : Console}
    (routed : ∃ location, c.context.route = c.context.routes.resolve location)
    (operations : List Operation) :
    (c.run operations).context.routes = c.context.routes ∧
      ∃ location, (c.run operations).context.route = c.context.routes.resolve location := by
  induction operations generalizing c with
  | nil => exact ⟨rfl, routed⟩
  | cons operation rest ih =>
      obtain ⟨routes, moved⟩ := c.routes_step operation
      have still : ∃ location, (c.step operation).console.context.route
          = (c.step operation).console.context.routes.resolve location := by
        rw [routes]
        rcases moved with stays | goes
        · rwa [stays]
        · exact goes
      have after := ih still
      rwa [routes] at after

end Console

/-! ## After every run -/

/-- What holds of the context of an application after every run. -/
structure Context.Reached (routes : RouteTable) (c : Context) : Prop where
  settled : c.store.Settled
  routes_eq : c.routes = routes
  routed : ∃ location, c.route = routes.resolve location

/-- **What holds of the context of an application after every run**: its store is settled, and its
current route is the one of some location. -/
theorem Console.reached_run (app : Application) (operations : List Operation) :
    ((ofApplication app).run operations).context.Reached (app.router.getD .standard) := by
  have onDesk := desk_run (ofApplication app) operations
  -- the context listens to its store from the beginning
  have start : (ofApplication app).desk = Desk.run .empty [.subscribe] := rfl
  rw [start, ← Desk.run_append] at onDesk
  have sameStore : ((ofApplication app).run operations).context.store
      = (Desk.run .empty ([.subscribe] ++ operations.flatMap Operation.onDesk)).store :=
    congrArg Desk.store onDesk
  obtain ⟨routes, routed⟩ := routes_run (c := ofApplication app) ⟨"/", rfl⟩ operations
  refine ⟨?_, routes, routed⟩
  rw [sameStore]
  refine Desk.settled_run ?_
  intro status mem
  rcases List.mem_append.mp mem with first | later
  · cases List.mem_singleton.mp first
  · obtain ⟨operation, -, asked⟩ := List.mem_flatMap.mp later
    exact absurd asked (operation.replaceStatus_not_mem_onDesk status)

namespace Store.Settled

variable {s : Store}

/-- The device that questions are about is listed, and its serial is the active one. -/
theorem listed_of_active (settled : s.Settled) {device : Device}
    (active : activeDevice s = some device) :
    device ∈ s.devices ∧ s.activeSerial = some device.serial := by
  cases isSerial : s.activeSerial with
  | none => simp [Store.active, isSerial] at active
  | some serial =>
      obtain ⟨before, listed, after, split, same, -, -, isActive⟩ :=
        (active_of_marked settled.marked).2 serial isSerial
      obtain rfl := Option.some.inj (isActive.symm.trans active)
      refine ⟨?_, by rw [same]⟩
      rw [split]
      exact List.mem_append_right _ List.mem_cons_self

end Store.Settled

end MixerPanel
