import Mathlib.Data.List.Basic
import MixerPanel.Browser.Operation

/-!
# The machinery of a page

Much of what happens to a page is only seen: lines are logged, routes and devices are chosen,
components are shown.  Behind it there is a machinery, which goes on whatever is seen of it: the
links with their sessions and sockets, the timers, who listens to what, and what was mounted.

* `Lead`, `Machinery` — a link and a page without what is seen of them
* `Browser.machinery_modifyLink` — a change of a link that is only seen
* `Browser.Operation.quiet`, `Browser.machinery_step_of_quiet` — the operations that leave the
  machinery alone
* `Browser.exists_mountPanel_eq` — the steps in which the panel is mounted
-/

namespace MixerPanel

/-- A link without its store and its route. -/
structure Lead where
  url : String
  delay : UInt32
  session : Session
  connection : ConnectionState
  socket : Option Nat

/-- A link without what is seen of it. -/
def DaemonLink.lead (link : DaemonLink) : Lead :=
  ⟨link.url, link.delay, link.session, link.context.connection, link.socket⟩

/-- A page without what is seen of it. -/
structure Machinery where
  started : Bool
  leads : List Lead
  sockets : List WebSocket
  timers : List Timer
  hashListeners : List Nat
  roots : List MountedRoot

/-- A change of an item is one of what is asked for of it. -/
theorem map_modify {α β : Type} {items : List α} {i : Nat} {f : α → β} {change : α → α}
    {g : β → β} (changes : ∀ item, f (change item) = g (f item)) :
    (items.modify i change).map f = (items.map f).modify i g := by
  refine List.ext_getElem? fun k => ?_
  rw [List.getElem?_map, List.getElem?_modify, List.getElem?_modify, List.getElem?_map]
  cases items[k]? with
  | none => rfl
  | some item =>
      by_cases here : i = k
      · simp [here, changes]
      · simp [here]

/-- An item that is changed in none of what is asked for may as well have been left alone. -/
theorem map_modify_of_same {α β : Type} {items : List α} {i : Nat} {item : α} {f : α → β}
    {change : α → α} (there : items[i]? = some item) (same : f (change item) = f item) :
    (items.modify i change).map f = items.map f := by
  refine List.ext_getElem? fun k => ?_
  rw [List.getElem?_map, List.getElem?_map, List.getElem?_modify]
  by_cases here : i = k
  · subst here
    simp [there, same]
  · simp [here]

/-- To put an item where it is changes nothing. -/
theorem set_of_there {α : Type} {items : List α} {i : Nat} {item : α}
    (there : items[i]? = some item) : items.set i item = items := by
  obtain ⟨inside, rfl⟩ := List.getElem?_eq_some_iff.mp there
  exact List.set_getElem_self inside

/-- Items count as having a certain value where they are not there; then one more with that value
makes no difference. -/
theorem getD_concat {α : Type} (items : List α) (value : α) (i : Nat) :
    (items ++ [value])[i]?.getD value = items[i]?.getD value := by
  rcases Nat.lt_trichotomy i items.length with before | rfl | after
  · rw [List.getElem?_append_left before]
  · rw [List.getElem?_concat_length, List.getElem?_eq_none (Nat.le_refl _)]
    rfl
  · have outside : (items ++ [value]).length ≤ i := by
      rw [List.length_append]
      exact after
    rw [List.getElem?_eq_none outside, List.getElem?_eq_none (Nat.le_of_lt after)]

namespace Browser

/-- The machinery of a page. -/
def machinery (b : Browser) : Machinery :=
  ⟨b.started, b.links.map DaemonLink.lead, b.sockets, b.timers, b.hashListeners, b.roots⟩

/-- Whether an operation changes only what is seen, or what can be found on the page. -/
def Operation.quiet : Operation → Bool
  | .setElements _ | .setRefused _ | .setHash _ | .choose _ | .render _ => true
  | .start | .addLink _ _ | .connect _ | .send _ _ | .socketEvent _ _ | .fireTimer _ => false

section Quiet

variable {b : Browser} {i : Nat}

@[simp] theorem machinery_noteAll (lines : List Log.Line) :
    (b.noteAll lines).machinery = b.machinery := rfl

@[simp] theorem machinery_note (line : Log.Line) : (b.note line).machinery = b.machinery := rfl

/-- A change of a link that is only seen. -/
theorem machinery_modifyLink {link : DaemonLink} (there : b.links[i]? = some link)
    {change : DaemonLink → DaemonLink} (same : (change link).lead = link.lead) :
    (b.modifyLink i change).machinery = b.machinery := by
  have leads : (b.links.modify i change).map DaemonLink.lead = b.links.map DaemonLink.lead :=
    map_modify_of_same there same
  show Machinery.mk b.started ((b.links.modify i change).map DaemonLink.lead) b.sockets b.timers
    b.hashListeners b.roots = b.machinery
  rw [leads]
  rfl

theorem machinery_syncRoute : (b.syncRoute i).machinery = b.machinery := by
  unfold syncRoute
  cases there : b.links[i]? with
  | none => rfl
  | some link => exact machinery_modifyLink (b := b.note _) there rfl

theorem machinery_setHash (hash : String) : (b.setHash hash).machinery = b.machinery := by
  have followed : ∀ (followers : List Nat) (page : Browser),
      (followers.foldl syncRoute page).machinery = page.machinery := by
    intro followers
    induction followers with
    | nil => exact fun _ => rfl
    | cons follower rest ih =>
        intro page
        rw [List.foldl_cons, ih, machinery_syncRoute]
  exact followed b.hashListeners { b with hash := hash }

theorem machinery_choose (serial : String) : (b.choose serial).1.machinery = b.machinery := by
  unfold choose
  cases b.selector with
  | none => rfl
  | some i =>
      cases there : b.links[i]? with
      | none => simp only [there]
      | some link =>
          simp only [there]
          refine machinery_modifyLink there ?_
          -- a selection changes the store of the context only
          have kept :
              (link.context.selectDevice serial).1.connection = link.context.connection := rfl
          simp only [DaemonLink.lead, kept]

theorem machinery_render (component : View.Component) :
    (b.render component).1.machinery = b.machinery := by
  unfold render
  cases b.context? with
  | none => rfl
  | some context =>
      dsimp only
      split_ifs <;> rfl

/-- **What is only seen leaves the machinery alone.** -/
theorem machinery_step_of_quiet {operation : Operation} (quiet : operation.quiet = true) :
    (b.step operation).browser.machinery = b.machinery := by
  cases operation with
  | setElements elements => rfl
  | setRefused urls => rfl
  | setHash hash => exact machinery_setHash hash
  | choose serial => exact machinery_choose serial
  | render component => exact machinery_render component
  | start => cases quiet
  | addLink url delay => cases quiet
  | connect link => cases quiet
  | send link data => cases quiet
  | socketEvent place event => cases quiet
  | fireTimer place => cases quiet

end Quiet

/-! ## Mounting the panel -/

/-- The link at a place follows the fragment from now on, and the panel is shown for it. -/
def followAndShow (b : Browser) (i : Nat) (selector : String) : Browser :=
  { b.syncRoute i with hashListeners := (b.syncRoute i).hashListeners ++ [i] }.showPanel i selector

/-- **The panel is mounted** in three steps: there is a new link, a first attempt is made to open
it, and whatever came of the attempt, apart from the log, the panel is shown for the link. -/
theorem exists_mountPanel_eq (b : Browser) (config : Config) (selector : String)
    (app : Application) :
    let link := DaemonLink.ofApplication (config.socketUrl b.protocol b.host)
      config.reconnectDelay app
    ∃ lines, b.mountPanel config selector app
      = (((b.addLink link).1.connect b.links.length).1.noteAll lines).followAndShow
          b.links.length selector := by
  intro link
  rcases attempt : (b.addLink link).1.connect b.links.length with ⟨after, _ | _⟩
  · simp only [mountPanel, addLink, link] at attempt ⊢
    rw [attempt]
    exact ⟨[_], rfl⟩
  · have unlogged : after.noteAll [] = after := by
      rw [noteAll, List.filter_nil, List.append_nil]
    refine ⟨[], ?_⟩
    rw [unlogged]
    simp only [mountPanel, addLink, link] at attempt ⊢
    rw [attempt]
    rfl

end Browser

end MixerPanel
