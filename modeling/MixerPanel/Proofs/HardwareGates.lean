import MixerPanel.Proofs.Consoles
import MixerPanel.Proofs.Drawn
import MixerPanel.Proofs.Locations

/-!
# What the hardware allows

Two gates decide what is shown of a device.  A route may say that the small device lacks its page;
inside a page, the parts that depend on the hardware follow the capabilities of the active device.
The two are asked separately, and agree because in the standard routes exactly the pages of effects
and of the sampler are lacking on the small device (`RouteTable.fullOnly_of_standard`).

* `View.fader_strips_of_mixer`, `View.mic_sections_of_microphone`,
  `View.lighting_sections_of_lighting` — what the pages show of a device
* `View.placeholder_of_no_device` — what they show without one
* `hardware_gates_pages` — the gates together, after every run
-/

namespace MixerPanel

/-! ## Routes -/

/-- In the standard routes the small device lacks the effects and the sampler, and nothing else. -/
theorem RouteTable.fullOnly_of_standard (location : String) :
    (standard.resolve location).fullOnly = true
      ↔ (standard.resolve location).page = .effects
        ∨ (standard.resolve location).page = .sampler := by
  have routes : ∀ r ∈ standard.routes,
      r.fullOnly = true ↔ r.page = .effects ∨ r.page = .sampler := by decide
  rcases resolve_mem_or_eq_notFound standard location with listed | missing
  · exact routes _ listed
  · rw [missing]
    decide

theorem Capabilities.effects_of {h : Hardware} :
    (of h).effects = true ↔ h.model.isMini = false := by
  rw [← Bool.not_eq_true']
  rfl

theorem Capabilities.sampler_of {h : Hardware} :
    (of h).sampler = true ↔ h.model.isMini = false := effects_of

namespace View

open Html

variable {c : Context} {caps : Capabilities}

/-! ## The pages of a device -/

theorem matching_faderStrip (icons : IconSet) (fader : String) :
    matching (hasClass "fader-strip") ((faderStrip caps fader).draw icons)
      = (faderStrip caps fader).draw icons := by
  have other : ∀ icon ∈ Icon.all, "fader-strip" ∉ ["fa-solid", "fa-" ++ icon.name] := by decide
  refine Markup.matching_drawn_styled icons (by decide) ?_ "div"
  cases scribbles : caps.scribbles <;>
    simp +decide [scribble, Markup.matching_draw_styled,
      Markup.matching_draw_bare_icon _ other]

theorem scribbles_of_faderStrip (icons : IconSet) (fader : String) :
    matching (hasClass "scribble") ((faderStrip caps fader).draw icons) ≠ []
      ↔ caps.scribbles = true := by
  have other : ∀ icon ∈ Icon.all, "scribble" ∉ ["fa-solid", "fa-" ++ icon.name] := by decide
  cases scribbles : caps.scribbles <;>
    simp +decide [faderStrip, scribble, scribbles, Markup.matching_draw_styled,
      Markup.matching_draw_bare_icon _ other]

/-- **The mixer page has a strip for each fader.** -/
theorem fader_strips_of_mixer (active : capabilities c = .ok caps) :
    matching (hasClass "fader-strip") ((Component.page .mixer).draw c)
      = faders.flatMap fun fader => (faderStrip caps fader).draw c.icons := by
  show matching _ ((mixer c).draw c.icons) = _
  rw [mixer, matching_draw_page (by decide), withDevice, active, Markup.matching_drawAll_map]
  simp only [matching_faderStrip, Markup.matching_drawAll_cons, Markup.matching_draw_text,
    Markup.matching_drawAll_nil, List.nil_append]

/-- Each strip has a display exactly if the device has displays. -/
theorem scribbles_of_strip (active : capabilities c = .ok caps) {strip : Html}
    (isStrip : strip ∈ matching (hasClass "fader-strip") ((Component.page .mixer).draw c)) :
    matching (hasClass "scribble") [strip] ≠ [] ↔ caps.scribbles = true := by
  rw [fader_strips_of_mixer active] at isStrip
  obtain ⟨fader, -, drawn⟩ := List.mem_flatMap.mp isStrip
  have alone : [strip] = (faderStrip caps fader).draw c.icons := by
    rw [List.mem_singleton.mp drawn]
    rfl
  rw [alone, scribbles_of_faderStrip]

theorem mic_sections_of_microphone (active : capabilities c = .ok caps) :
    (matching (hasClass "mic-section") ((Component.page .microphone).draw c)).map content
      = ["Noise Gate", "Compressor", "Equaliser (" ++ toString caps.eqBands ++ " bands)"] := by
  show (matching _ ((microphone c).draw c.icons)).map content = _
  rw [microphone, matching_draw_page (by decide), withDevice, active]
  simp +decide [micSection, Markup.matching_draw_styled, content]

theorem lighting_sections_of_lighting (active : capabilities c = .ok caps) :
    (matching (hasClass "lighting-section") ((Component.page .lighting).draw c)).map content
      = ["Global", "Faders", "Buttons"] ++ if caps.animation then ["Animation"] else [] := by
  have other : ∀ icon ∈ Icon.all, "lighting-section" ∉ ["fa-solid", "fa-" ++ icon.name] := by decide
  show (matching _ ((lighting c).draw c.icons)).map content = _
  rw [lighting, matching_draw_page (by decide), withDevice, active]
  cases animation : caps.animation <;>
    simp +decide [lightingSection, animation, Markup.matching_draw_styled, content,
      Markup.matching_draw_bare_icon _ other]

/-! ## Without a device -/

theorem withDevice_of_none (none : activeDevice c = none) (layout : Capabilities → List Markup) :
    withDevice c layout = [noDevice] := by
  rw [withDevice, capabilities_eq_error_iff.mpr none]

/-- Without a device these pages hold its place and nothing else. -/
theorem placeholder_of_no_device (none : activeDevice c = none) {p : Page}
    (dependent : p ∈ [Page.mixer, .microphone, .lighting]) :
    matching (hasClass "no-device") ((Component.page p).draw c) = noDevice.draw c.icons := by
  have other : ∀ icon ∈ Icon.all, "no-device" ∉ ["fa-solid", "fa-" ++ icon.name] := by decide
  have held : matching (hasClass "no-device") (noDevice.draw c.icons) = noDevice.draw c.icons :=
    Markup.matching_drawn_styled c.icons (by decide) (by
      simp only [Markup.matching_drawAll_cons, Markup.matching_draw_plain,
        Markup.matching_draw_text, Markup.matching_drawAll_nil, List.append_nil]) "div"
  simp only [List.mem_cons, List.not_mem_nil, or_false] at dependent
  rcases dependent with rfl | rfl | rfl
  · show matching _ ((mixer c).draw c.icons) = _
    rw [mixer, matching_draw_page (by decide), withDevice_of_none none]
    simp [held]
  · show matching _ ((microphone c).draw c.icons) = _
    rw [microphone, matching_draw_page (by decide), withDevice_of_none none]
    simp [held]
  · show matching _ ((lighting c).draw c.icons) = _
    rw [lighting, matching_draw_page (by decide), withDevice_of_none none]
    simp [held, Markup.matching_draw_bare_icon _ other]

end View

open View Html

theorem mini_of_active {c : Context} {device : Device} (active : activeDevice c = some device) :
    mini c = device.model.isMini := by
  rw [mini, isMiniOr, isMini_of_active active]

theorem mini_of_none {c : Context} (none : activeDevice c = none) : mini c = false := by
  rw [mini, isMiniOr, isMini_eq_error_iff.mpr none]

/-- **What is shown of the hardware.**  Take an application with the standard routes, and any run of
messages, documents, selections and moves to any locations.  While a device is active, it is a
listed one with the active serial, and by its capabilities

* the current route shows the effects only if there are effects, and the sampler only if there is
  one; it shows that a page is unavailable exactly if the route is not for the small device and the
  device is small;
* each of the four strips of the mixer page has a display exactly if there are displays;
* the microphone page tells the number of bands of the equaliser;
* the lighting page has a part for animation exactly if there is animation.

Without an active device these three pages hold its place, and no page is unavailable. -/
theorem hardware_gates_pages (app : Application)
    (standard : app.router.getD .standard = .standard) (operations : List Console.Operation) :
    let c := ((Console.ofApplication app).run operations).context
    (∀ device, activeDevice c = some device →
      device ∈ c.store.devices ∧ c.store.activeSerial = some device.serial ∧
      ∃ caps, capabilities c = .ok caps ∧ caps = Capabilities.of device.hardware ∧
        (Shows c (.page .effects) → caps.effects = true) ∧
        (Shows c (.page .sampler) → caps.sampler = true) ∧
        ((∃ name, Shows c (.unavailable name))
          ↔ c.route.fullOnly = true ∧ device.model = .mini) ∧
        (let strips := matching (hasClass "fader-strip") ((Component.page .mixer).draw c)
         strips.length = 4 ∧
         ∀ strip ∈ strips, matching (hasClass "scribble") [strip] ≠ [] ↔ caps.scribbles = true) ∧
        (matching (hasClass "mic-section") ((Component.page .microphone).draw c)).map content
          = ["Noise Gate", "Compressor", "Equaliser (" ++ toString caps.eqBands ++ " bands)"] ∧
        (matching (hasClass "lighting-section") ((Component.page .lighting).draw c)).map content
          = ["Global", "Faders", "Buttons"] ++ if caps.animation then ["Animation"] else []) ∧
    (activeDevice c = none →
      (∀ p ∈ [Page.mixer, .microphone, .lighting],
        matching (hasClass "no-device") ((Component.page p).draw c) = noDevice.draw c.icons) ∧
      ∀ name, ¬ Shows c (.unavailable name)) := by
  intro c
  have reached : c.Reached .standard := standard ▸ Console.reached_run app operations
  obtain ⟨location, routed⟩ := reached.routed
  have lacking : c.route.fullOnly = true ↔ c.route.page = .effects ∨ c.route.page = .sampler := by
    rw [routed]
    exact RouteTable.fullOnly_of_standard location
  constructor
  · intro device active
    obtain ⟨listed, serial⟩ := reached.settled.listed_of_active active
    have offered : capabilities c = .ok (Capabilities.of device.hardware) :=
      capabilities_of_active active
    have small : mini c = device.model.isMini := mini_of_active active
    -- a page that the small device lacks is shown only for another device
    have notSmall : ∀ p, p = .effects ∨ p = .sampler → Shows c (.page p) →
        device.model.isMini = false := by
      intro p isLacking shows
      obtain ⟨isPage, there⟩ := shows_page_iff.mp shows
      have fullOnly : c.route.fullOnly = true := lacking.mpr (isPage ▸ isLacking)
      rw [← small, ← Bool.not_eq_true]
      exact fun isMini => there ⟨fullOnly, isMini⟩
    refine ⟨listed, serial, _, offered, rfl, ?_, ?_, ?_, ⟨?_, ?_⟩, ?_, ?_⟩
    · intro shows
      exact Capabilities.effects_of.mpr (notSmall _ (.inl rfl) shows)
    · intro shows
      exact Capabilities.sampler_of.mpr (notSmall _ (.inr rfl) shows)
    · rw [shows_unavailable_iff, small, Model.isMini_eq_true_iff]
    · rw [fader_strips_of_mixer offered]
      rfl
    · intro strip isStrip
      exact scribbles_of_strip offered isStrip
    · exact mic_sections_of_microphone offered
    · exact lighting_sections_of_lighting offered
  · intro none
    refine ⟨?_, ?_⟩
    · intro p dependent
      exact placeholder_of_no_device none dependent
    · intro name unavailable
      have small := (shows_unavailable_iff.mp ⟨name, unavailable⟩).2
      rw [mini_of_none none] at small
      cases small

/-- The effects are asked for while the small one of two devices is selected. -/
theorem effects_unavailable_on_small_device :
    let operations : List Console.Operation :=
      [.document (besideFull .mini).toValue, .navigate "#/effects", .select "B"]
    Application.empty.router.getD .standard = .standard ∧
      (∃ name, Shows ((Console.ofApplication .empty).run operations).context
        (.unavailable name)) ∧
      ¬ Shows ((Console.ofApplication .empty).run operations).context (.page .effects) := by
  intro operations
  obtain ⟨gates, -⟩ := hardware_gates_pages .empty rfl operations
  have active : activeDevice ((Console.ofApplication .empty).run operations).context
      = some ⟨"B", ⟨"", "", .mini, .zero, [.subMix]⟩⟩ := by decide
  have fullOnly :
      ((Console.ofApplication .empty).run operations).context.route.fullOnly = true := by decide
  obtain ⟨-, -, caps, -, isCaps, effects, -, unavailable, -⟩ := gates _ active
  refine ⟨rfl, unavailable.mpr ⟨fullOnly, rfl⟩, ?_⟩
  intro shows
  have offered := effects shows
  rw [isCaps] at offered
  cases offered

end MixerPanel
