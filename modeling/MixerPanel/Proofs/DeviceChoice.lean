import MixerPanel.Proofs.Consoles
import MixerPanel.Proofs.Drawn

/-!
# Choosing a device

The device selector is drawn from three separate looks at the store: the list of devices, whether it
is empty, and the active serial.  They agree because the store is settled after every run: the
active serial is that of a listed device, and no other device has it.  So one option is marked, and
to choose an option moves the mark to it.

* `Store.Settled.isActive_iff` — the place of the active device is the only one with its serial
* `View.options`, `View.options_eq` — the options as they are drawn
* `View.MarksOnly` — the one option that is marked
* `Console.step_select_of_listed`, `Console.step_select_of_unlisted` — what a choice does
* `selector_marks_active_device` — all of it, after every run
-/

namespace MixerPanel

/-! ## The active device and its place -/

namespace Store

variable {s : Store} {i : Nat} {device : Device}

theorem Settled.eq_of_serial (settled : s.Settled) {other : Device} (mem : device ∈ s.devices)
    (otherMem : other ∈ s.devices) (same : device.serial = other.serial) : device = other :=
  List.inj_on_of_nodup_map settled.distinct mem otherMem same

/-- A listed device with the active serial is the active device. -/
theorem Settled.active_of_serial (settled : s.Settled) (mem : device ∈ s.devices)
    (isSerial : s.activeSerial = some device.serial) : activeDevice s = some device := by
  obtain ⟨before, active, after, split, same, -, -, isActive⟩ :=
    (active_of_marked settled.marked).2 _ isSerial
  have activeMem : active ∈ s.devices := split ▸ List.mem_append_right _ List.mem_cons_self
  rw [isActive, settled.eq_of_serial activeMem mem same]

/-- **No other place has the active serial.** -/
theorem Settled.isActive_iff (settled : s.Settled) (there : s.devices[i]? = some device)
    (isSerial : s.activeSerial = some device.serial) {j : Nat} {other : Device}
    (otherThere : s.devices[j]? = some other) :
    (s.activeSerial == some other.serial) = true ↔ j = i := by
  rw [isSerial, beq_iff_eq, Option.some.injEq]
  constructor
  · intro same
    have serials : (s.devices.map Device.serial)[i]? = (s.devices.map Device.serial)[j]? := by
      rw [List.getElem?_map, List.getElem?_map, there, otherThere, Option.map_some,
        Option.map_some, same]
    have inRange : i < (s.devices.map Device.serial).length := by
      rw [List.length_map]
      exact (List.getElem?_eq_some_iff.mp there).1
    exact ((List.getElem?_inj inRange settled.distinct).mp serials).symm
  · rintro rfl
    rw [Option.some.inj (there.symm.trans otherThere)]

theorem select_of_listed {serial : String} (listed : ∃ d ∈ s.devices, d.serial = serial) :
    ∃ log events, s.select serial = .ok ⟨{ s with activeSerial := some serial }, log, events⟩ := by
  have served : Served s (.select serial) (s.select serial) := s.served (.select serial)
  generalize s.select serial = result at served ⊢
  cases served with
  | installed writes => cases writes
  | refused writes => cases writes
  | selected log asked isListed =>
      cases asked
      exact ⟨log, _, rfl⟩
  | unlisted asked unknown =>
      cases asked
      have found : (s.status.device? serial).isSome := Status.device?_isSome_iff.mpr listed
      rw [unknown] at found
      cases found
  | listening asked => rcases asked with asked | ⟨_, asked⟩ <;> cases asked

theorem select_of_unlisted {serial : String} (unlisted : ∀ d ∈ s.devices, d.serial ≠ serial) :
    s.select serial = .error (.unknownDevice serial) := by
  have unknown : ¬ (s.status.device? serial).isSome := by
    rw [Status.device?_isSome_iff]
    rintro ⟨d, mem, same⟩
    exact unlisted d mem same
  rw [select_eq, if_pos (by simpa using unknown)]

end Store

namespace View

open Html

/-! ## The options that are drawn -/

section Drawn

variable {c : Context}

/-- The options that the device selector shows. -/
def options (c : Context) : List Html :=
  matching (hasTag "option") (Component.deviceSelector.draw c)

/-- How an option is drawn. -/
def Choice.drawn (choice : Choice) : Html :=
  .element "option" (("value", choice.value) :: flag "selected" choice.selected)
    [.text choice.label]

theorem draw_choice (choice : Choice) (icons : IconSet) :
    choice.markup.draw icons = [choice.drawn] := by
  rw [Choice.markup, Markup.draw, Markup.drawAll, Markup.draw, Markup.drawAll]
  rfl

/-- What is found in the device selector of a tag other than that of its frame and its arrow. -/
theorem matching_deviceSelector {tag : String} (notFrame : tag ≠ "div") (notArrow : tag ≠ "i") :
    matching (hasTag tag) (Component.deviceSelector.draw c)
      = matching (hasTag tag)
        ((Markup.element "select" (flag "disabled" c.store.devices.isEmpty)
          ((choices c).map Choice.markup)).draw c.icons) := by
  have icon : ∀ icon, (Html.ofIcon icon "select-arrow").hasTag tag = false := by
    intro icon
    rw [Html.ofIcon, hasTag_element]
    exact beq_eq_false_iff_ne.mpr notArrow.symm
  show matching _ ((deviceSelector c).draw c.icons) = _
  rw [deviceSelector, Markup.styled, Markup.matching_draw_element, hasTag_element,
    beq_eq_false_iff_ne.mpr notFrame.symm, if_neg Bool.false_ne_true, List.nil_append,
    Markup.matching_drawAll_cons, Markup.matching_drawAll_cons,
    Markup.matching_draw_icon c.icons icon, Markup.matching_drawAll_nil, List.append_nil,
    List.append_nil]

theorem matching_choice (tag : String) (choice : Choice) (icons : IconSet) :
    matching (hasTag tag) (choice.markup.draw icons)
      = if "option" == tag then [choice.drawn] else [] := by
  rw [draw_choice, Choice.drawn, matching_element, hasTag_element, matching_text, List.append_nil]

theorem options_eq : options c = (choices c).map Choice.drawn := by
  rw [options, matching_deviceSelector (by decide) (by decide), Markup.matching_draw_element,
    Markup.matching_drawAll_map]
  simp only [matching_choice, List.map_eq_flatMap]
  rfl

/-- The list of the options, and when it is there to be used. -/
theorem select_eq :
    ∃ children, matching (hasTag "select") (Component.deviceSelector.draw c)
      = [.element "select" (flag "disabled" c.store.devices.isEmpty) children] := by
  refine ⟨Markup.drawAll c.icons ((choices c).map Choice.markup), ?_⟩
  have inOptions : (choices c).flatMap (fun choice =>
      matching (hasTag "select") (choice.markup.draw c.icons)) = [] :=
    List.flatMap_eq_nil_iff.mpr fun choice _ => matching_choice "select" choice c.icons
  rw [matching_deviceSelector (by decide) (by decide), Markup.matching_draw_element,
    Markup.matching_drawAll_map, inOptions]
  rfl

/-! ## Values and marks -/

/-- Whether an option is marked. -/
def isMarked (option : Html) : Bool := (option.attribute? "selected").isSome

/-- Of the options exactly the one at a place is marked. -/
def MarksOnly (shown : List Html) (place : Nat) : Prop :=
  place < shown.length ∧
    ∀ j option, shown[j]? = some option → (isMarked option = true ↔ j = place)

theorem Choice.value_drawn (choice : Choice) :
    choice.drawn.attribute? "value" = some choice.value := by
  rw [Choice.drawn, attribute?, Keyed.lookup_cons, if_pos rfl]

theorem Choice.isMarked_drawn (choice : Choice) : isMarked choice.drawn = choice.selected := by
  rw [isMarked, Choice.drawn, attribute?, Keyed.lookup_cons, if_neg (by decide)]
  cases choice.selected <;> rfl

theorem values_options :
    (options c).map (attribute? "value") = c.store.devices.map fun d => some d.serial := by
  rw [options_eq, choices, List.map_map, List.map_map]
  refine List.map_congr_left fun d _ => ?_
  exact Choice.value_drawn _

theorem getElem?_options_eq_some_iff {i : Nat} {option : Html} :
    (options c)[i]? = some option ↔ ∃ d, c.store.devices[i]? = some d ∧
      Choice.drawn ⟨d.serial, d.label, c.store.activeSerial == some d.serial⟩ = option := by
  rw [options_eq, choices, List.map_map, List.getElem?_map, Option.map_eq_some_iff]
  rfl

/-- **The option of the active device is the one that is marked.** -/
theorem marksOnly_of_active (settled : c.store.Settled) {i : Nat} {device : Device}
    (there : c.store.devices[i]? = some device)
    (isSerial : c.store.activeSerial = some device.serial) : MarksOnly (options c) i := by
  refine ⟨?_, fun j option shown => ?_⟩
  · rw [options_eq, choices, List.length_map, List.length_map]
    exact (List.getElem?_eq_some_iff.mp there).1
  · obtain ⟨other, otherThere, rfl⟩ := getElem?_options_eq_some_iff.mp shown
    rw [Choice.isMarked_drawn]
    exact settled.isActive_iff there isSerial otherThere

theorem isSome_disabled_iff {children : List Html} :
    ((Html.element "select" (flag "disabled" c.store.devices.isEmpty) children).attribute?
      "disabled").isSome = true ↔ c.store.devices = [] := by
  rw [← List.isEmpty_iff, attribute?]
  cases c.store.devices.isEmpty <;> simp [flag, Keyed.lookup_cons]

end Drawn

end View

/-! ## What a choice does -/

namespace Console

variable {c : Console} {serial : String}

theorem step_select_of_listed (listed : ∃ d ∈ c.context.store.devices, d.serial = serial) :
    (c.step (.select serial)).console.context.store
      = { c.context.store with activeSerial := some serial } := by
  obtain ⟨log, events, selected⟩ := Store.select_of_listed listed
  simp only [step, Context.selectDevice, Store.written_of_success selected, Context.update]

theorem run_concat (c : Console) (operations : List Operation) (operation : Operation) :
    c.run (operations ++ [operation]) = ((c.run operations).step operation).console :=
  List.foldl_concat ..

theorem step_select_of_unlisted (unlisted : ∀ d ∈ c.context.store.devices, d.serial ≠ serial) :
    (c.step (.select serial)).console = c := by
  have refused := (Store.allOrNothing_select serial).written_of_failure
    (Store.select_of_unlisted unlisted)
  simp only [step, Context.selectDevice, refused, Context.update]
  rfl

end Console

open View Html

/-- **The device selector follows the store.**  Take any application and any run of messages,
documents and selections.

* The selector has one option for each device, in the order of the devices, and the value of an
  option is the serial of the device.
* It is disabled exactly if there is no device.
* If there is one, exactly one option is marked.  Its device is the active one, about which it can
  be asked whether it is small and what it can do.
* To choose the value of an option makes its device the active one, leaves the options as they are,
  and marks that option and no other.
* To choose anything else changes nothing. -/
theorem selector_marks_active_device (app : Application) (operations : List Console.Operation) :
    let console := (Console.ofApplication app).run operations
    let c := console.context
    (options c).map (attribute? "value") = (c.store.devices.map fun d => some d.serial) ∧
    (∃ list, matching (hasTag "select") (Component.deviceSelector.draw c) = [list] ∧
      ((list.attribute? "disabled").isSome = true ↔ c.store.devices = [])) ∧
    (c.store.devices ≠ [] → ∃ i option device, (options c)[i]? = some option ∧
      MarksOnly (options c) i ∧ option.attribute? "value" = some device.serial ∧
      c.store.devices[i]? = some device ∧ activeDevice c = some device ∧
      isMini c = .ok device.model.isMini ∧
      capabilities c = .ok (Capabilities.of device.hardware)) ∧
    (∀ i option, (options c)[i]? = some option → ∃ value device,
      option.attribute? "value" = some value ∧ c.store.devices[i]? = some device ∧
      let chosen := (console.step (.select value)).console.context
      activeDevice chosen = some device ∧ chosen.store.devices = c.store.devices ∧
      (options chosen).map (attribute? "value") = (options c).map (attribute? "value") ∧
      MarksOnly (options chosen) i) ∧
    ∀ value, (∀ option ∈ options c, option.attribute? "value" ≠ some value) →
      (console.step (.select value)).console = console := by
  intro console c
  have settled : c.store.Settled := (Console.reached_run app operations).settled
  refine ⟨values_options, ?_, fun listed => ?_, fun i option shown => ?_, fun value unknown => ?_⟩
  · obtain ⟨children, isSelect⟩ := select_eq (c := c)
    exact ⟨_, isSelect, isSome_disabled_iff⟩
  · have marked : c.store.activeSerial ≠ none :=
      mt (Store.active_of_marked settled.marked).1.mp listed
    obtain ⟨serial, isSerial⟩ := Option.ne_none_iff_exists'.mp marked
    obtain ⟨before, device, after, split, rfl, -, -, active⟩ :=
      (Store.active_of_marked settled.marked).2 serial isSerial
    have there : c.store.devices[before.length]? = some device := by
      rw [split, List.getElem?_append_right le_rfl, Nat.sub_self]
      rfl
    exact ⟨before.length, _, device, getElem?_options_eq_some_iff.mpr ⟨device, there, rfl⟩,
      marksOnly_of_active settled there isSerial, Choice.value_drawn _, there, active,
      isMini_of_active active, capabilities_of_active active⟩
  · obtain ⟨device, there, rfl⟩ := getElem?_options_eq_some_iff.mp shown
    have mem : device ∈ c.store.devices := List.mem_of_getElem? there
    refine ⟨device.serial, device, Choice.value_drawn _, there, ?_⟩
    intro chosen
    have store : chosen.store = { c.store with activeSerial := some device.serial } :=
      Console.step_select_of_listed ⟨device, mem, rfl⟩
    have devices : chosen.store.devices = c.store.devices := by
      rw [store]
      rfl
    have isSerial : chosen.store.activeSerial = some device.serial := by rw [store]
    -- what is chosen is one operation more of the run
    have settledThen : chosen.store.Settled := by
      have reached := Console.reached_run app (operations ++ [.select device.serial])
      rw [Console.run_concat] at reached
      exact reached.settled
    refine ⟨settledThen.active_of_serial (devices ▸ mem) isSerial, devices, ?_,
      marksOnly_of_active settledThen (devices ▸ there) isSerial⟩
    rw [values_options, values_options, devices]
  · refine Console.step_select_of_unlisted fun device mem same => ?_
    obtain ⟨i, there⟩ := List.mem_iff_getElem?.mp mem
    have shown := getElem?_options_eq_some_iff.mpr ⟨device, there, rfl⟩
    refine unknown _ (List.mem_of_getElem? shown) ?_
    rw [Choice.value_drawn, ← same]

/-- The second of two devices is chosen, and then one that is not there. -/
theorem second_option_chosen :
    let console := (Console.ofApplication .empty).run [.document (besideFull .mini).toValue]
    let chosen := (console.step (.select "B")).console.context
    activeDevice console.context = (besideFull .mini).devices[0]? ∧
      activeDevice chosen = (besideFull .mini).devices[1]? ∧ MarksOnly (options chosen) 1 ∧
      (console.step (.select "C")).console = console := by
  have whole := selector_marks_active_device .empty [.document (besideFull .mini).toValue]
  have devices : ((Console.ofApplication .empty).run
      [.document (besideFull .mini).toValue]).context.store.devices
        = (besideFull .mini).devices := by decide
  have first : activeDevice ((Console.ofApplication .empty).run
      [.document (besideFull .mini).toValue]).context = (besideFull .mini).devices[0]? := by decide
  -- of the console nothing else is needed, so that it is not run again
  generalize (Console.ofApplication .empty).run [.document (besideFull .mini).toValue] = console
    at whole devices first
  intro chosen
  obtain ⟨values, -, -, choosing, other⟩ := whole
  have second : console.context.store.devices[1]?
      = some ⟨"B", ⟨"", "", .mini, .zero, [.subMix]⟩⟩ := by
    rw [devices]
    rfl
  obtain ⟨value, device, isValue, there, active, -, -, marks⟩ :=
    choosing 1 _ (getElem?_options_eq_some_iff.mpr ⟨_, second, rfl⟩)
  obtain rfl := Option.some.inj (there.symm.trans second)
  obtain rfl := Option.some.inj (isValue.symm.trans (Choice.value_drawn _))
  refine ⟨first, active, marks, other "C" ?_⟩
  intro option mem isOther
  have listed : some "C" ∈ (options console.context).map (attribute? "value") :=
    List.mem_map.mpr ⟨option, mem, isOther⟩
  rw [values, devices] at listed
  revert listed
  decide

end MixerPanel
