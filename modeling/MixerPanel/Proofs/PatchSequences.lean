import MixerPanel.Proofs.ActiveDevice

/-!
# Patches one after the other

Two patches that the store takes one after the other can be sent as one patch.  The two ways differ
in the document between them: sent apart, the patches make the store read that document, check it,
and choose the active device among what it lists; sent as one, they never show it to the store.

None of this reaches the document in the end, which is all that the status is read from.  Only the
mark remembers: an active device that is missing in between loses it for good, even if it is back in
the end.

* `Json.Patch.applyFrom_append` — the operations of a joined patch are those of the one, then those
  of the other, and the first that fails is the same
* `patches_compose` — two patches that are taken are taken as one
* `mark_lost_between_patches` — where the mark is lost if the patches are sent apart, and is kept if
  they are sent as one
-/

namespace MixerPanel

namespace Json.Patch

/-- **A joined patch** is one patch after the other.  The operations keep their places. -/
theorem applyFrom_append (place : Nat) (doc : Json) (p q : Patch) :
    applyFrom place doc (p ++ q)
      = applyFrom place doc p >>= fun middle => applyFrom (place + p.length) middle q := by
  induction p generalizing place doc with
  | nil => rfl
  | cons operation rest ih =>
      simp only [List.cons_append, applyFrom]
      cases operation.apply doc with
      | error cause => rfl
      | ok next =>
          have onward : place + (operation :: rest).length = place + 1 + rest.length := by
            rw [List.length_cons]
            omega
          rw [onward]
          exact ih (place + 1) next

/-- The places of the operations appear in errors only. -/
theorem applyFrom_eq_ok_iff {place : Nat} {doc last : Json} {p : Patch} :
    applyFrom place doc p = .ok last ↔ apply doc p = .ok last := by
  suffices moved : ∀ (p : Patch) (place other : Nat) (doc : Json),
      applyFrom place doc p = .ok last → applyFrom other doc p = .ok last from
    ⟨moved p _ _ doc, moved p _ _ doc⟩
  intro p
  induction p with
  | nil => exact fun _ _ _ applied => applied
  | cons operation rest ih =>
      intro place other doc applied
      simp only [applyFrom] at applied ⊢
      cases outcome : operation.apply doc with
      | error cause => simp [outcome] at applied
      | ok next =>
          rw [outcome] at applied
          exact ih (place + 1) (other + 1) next applied

theorem apply_append_eq_ok_iff {doc last : Json} {p q : Patch} :
    apply doc (p ++ q) = .ok last ↔
      ∃ middle, apply doc p = .ok middle ∧ apply middle q = .ok last := by
  rw [apply, applyFrom_append, bind_eq_ok_iff]
  exact exists_congr fun middle => and_congr_right fun _ => applyFrom_eq_ok_iff

end Json.Patch

namespace Store

/-- After a patch the mark is chosen among what is listed then. -/
theorem activeSerial_of_applyPatch {s : Store} {patch : Json.Patch} {update : Update}
    (taken : s.applyPatch patch = .ok update) :
    update.store.activeSerial = reselect update.store.status s.activeSerial := by
  obtain ⟨document, status, -, -, rfl⟩ := applyPatch_eq_ok_iff.mp taken
  rfl

/-- **Two patches that are taken are taken as one.**  All that the store keeps of the document in
between is the mark. -/
theorem applyPatch_append {s : Store} {p q : Json.Patch} {first second : Update}
    (taken : s.applyPatch p = .ok first) (takenThen : first.store.applyPatch q = .ok second) :
    ∃ both, s.applyPatch (p ++ q) = .ok both ∧
      both.store = { second.store with
        activeSerial := reselect second.store.status s.activeSerial } := by
  obtain ⟨middle, between, applied, -, rfl⟩ := applyPatch_eq_ok_iff.mp taken
  obtain ⟨last, status, appliedThen, read, rfl⟩ := applyPatch_eq_ok_iff.mp takenThen
  have joined : (p ++ q).apply s.document = .ok last :=
    Json.Patch.apply_append_eq_ok_iff.mpr ⟨middle, applied, appliedThen⟩
  exact ⟨_, applyPatch_eq_ok_iff.mpr ⟨last, status, joined, read, rfl⟩, rfl⟩

end Store

section

variable {s : Store} {p q : Json.Patch} {first second : Store.Update}

/-- **Patches compose.**  If a store takes a patch and then another, it takes the two as one patch,
and has the same status and the same document for later patches in the end.  If the device that was
active at first is still listed after the first patch, nothing tells the two stores apart, so that
the same device is active. -/
theorem patches_compose (taken : s.applyPatch p = .ok first)
    (takenThen : first.store.applyPatch q = .ok second) :
    ∃ both, s.applyPatch (p ++ q) = .ok both ∧
      both.store.status = second.store.status ∧
      both.store.document = second.store.document ∧
      ∀ serial, s.activeSerial = some serial →
        (∃ d ∈ first.store.devices, d.serial = serial) →
        both.store.activeSerial = second.store.activeSerial ∧ both.store = second.store := by
  obtain ⟨both, joined, same⟩ := Store.applyPatch_append taken takenThen
  refine ⟨both, joined, by rw [same], by rw [same]; rfl, fun serial active listed => ?_⟩
  have kept : first.store.activeSerial = s.activeSerial := by
    rw [Store.activeSerial_of_applyPatch taken, active, Store.reselect_of_listed listed]
  have mark : second.store.activeSerial = Store.reselect second.store.status s.activeSerial := by
    rw [Store.activeSerial_of_applyPatch takenThen, kept]
  rw [← mark] at same
  exact ⟨by rw [same], same⟩

/-- **The mark is lost between two patches** that are sent apart, if the active device is not listed
in between and the device that takes its place is there to stay.  Sent as one patch, they leave the
mark where it is as long as the device is listed in the end. -/
theorem mark_lost_between_patches (taken : s.applyPatch p = .ok first)
    (takenThen : first.store.applyPatch q = .ok second) {serial heir : String}
    (active : s.activeSerial = some serial)
    (missing : ∀ d ∈ first.store.devices, d.serial ≠ serial)
    (isHeir : first.store.devices.head?.map Device.serial = some heir)
    (stays : ∃ d ∈ second.store.devices, d.serial = heir)
    (back : ∃ d ∈ second.store.devices, d.serial = serial) :
    second.store.activeSerial = some heir ∧ heir ≠ serial ∧
      ∃ both, s.applyPatch (p ++ q) = .ok both ∧ both.store.activeSerial = some serial := by
  obtain ⟨both, joined, same⟩ := Store.applyPatch_append taken takenThen
  have moved : first.store.activeSerial = some heir := by
    rw [Store.activeSerial_of_applyPatch taken, Store.reselect_of_unlisted, ← isHeir]
    · rfl
    · rintro marked isMarked
      obtain rfl := Option.some.inj (active.symm.trans isMarked)
      exact missing
  refine ⟨?_, ?_, both, joined, ?_⟩
  · rw [Store.activeSerial_of_applyPatch takenThen, moved, Store.reselect_of_listed stays]
  · obtain ⟨other, mem, rfl⟩ := Option.map_eq_some_iff.mp isHeir
    exact missing other (List.mem_of_head? mem)
  · rw [same, active]
    exact Store.reselect_of_listed back

end

/-- Devices that differ in their serials only. -/
def pluggedIn (serials : List String) : Status :=
  ⟨serials.map fun serial => ⟨serial, ⟨"", "", .full, .zero, []⟩⟩⟩

/-- A device is taken out, and put back in front of the active one. -/
theorem device_taken_out_and_put_back :
    let s := (Store.empty.replaceStatus (pluggedIn ["A", "B"])).store
    let out : Json.Patch := [.test "/devices/1/serial" (.string "B"), .remove "/devices/1"]
    let back : Json.Patch := [.copy "/devices/0" "/devices/0",
      .replace "/devices/0/serial" (.string "B")]
    ∃ both, s.applyPatch (out ++ back) = .ok both ∧
      both.store.status = pluggedIn ["B", "A"] ∧ both.store.activeSerial = some "A" := by
  intro s out back
  let first := s.install (pluggedIn ["A"]) (some (pluggedIn ["A"]).toValue)
  let second := first.store.install (pluggedIn ["B", "A"]) (some (pluggedIn ["B", "A"]).toValue)
  have document : s.document = (pluggedIn ["A", "B"]).toValue := rfl
  have found : (pluggedIn ["A", "B"]).toValue.valueAt? "/devices/1/serial"
      = some (.string "B") := by rfl
  have same : (Json.string "B").same (.string "B") = true := by decide
  have removed : Json.Patch.apply s.document out = .ok (pluggedIn ["A"]).toValue := by
    rw [document, Json.Patch.apply, Json.Patch.applyFrom, Json.Operation.apply, found,
      Json.Operation.orFault, ok_bind, if_pos same]
    rfl
  have taken : s.applyPatch out = .ok first :=
    Store.applyPatch_eq_ok_iff.mpr ⟨_, pluggedIn ["A"], removed, by decide, rfl⟩
  have takenThen : first.store.applyPatch back = .ok second :=
    Store.applyPatch_eq_ok_iff.mpr
      ⟨(pluggedIn ["B", "A"]).toValue, pluggedIn ["B", "A"], by rfl, by decide, rfl⟩
  obtain ⟨both, joined, status, -, mark⟩ := patches_compose taken takenThen
  have active : second.store.activeSerial = some "A" := by decide
  obtain ⟨sameMark, -⟩ := mark "A" rfl ⟨_, List.mem_cons_self, rfl⟩
  exact ⟨both, joined, status, sameMark.trans active⟩

end MixerPanel
