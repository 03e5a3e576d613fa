import MixerPanel.Proofs.Calls

/-!
# What listeners are told

Two kinds of operations are heard of.  A status update is announced as such, and then as a change of
the active device if the active serial or the model of the active device is another one.  A
selection is announced if it moves the mark.  Everything that fails, and everything else, is silent.

A listener is known by its place among the listeners, not by the number of its subscription: numbers
are words, and a run that subscribes often enough hands one out again.  The place of a listener
moves to the front when one before it leaves.

* `Store.toldAt` — what one of the listeners is told by deliveries
* `Desk.told`, `Desk.heard` — what a listener is told by an operation, and by a run for as long as
  it is a listener
* `StoreEvent.Leads` — the changes among events form a chain from one active serial to another
* `Desk.step_announces` — what an operation announces, and that it leads from the active serial
  before it to the one after it
* `notifications_faithful` — both for every listener of every run
-/

namespace MixerPanel

/-! ## Chains of changes -/

namespace StoreEvent

/-- The changes among the events form a chain: the first begins at one active serial, each of the
others begins where the one before it ends, and the last ends at the other active serial. -/
def Leads : List StoreEvent → Option String → Option String → Prop
  | [], first, last => first = last
  | .statusReplaced :: rest, first, last => Leads rest first last
  | .activeDeviceChanged previous current :: rest, first, last =>
    previous = first ∧ Leads rest current last

@[simp] theorem leads_nil {first last : Option String} : Leads [] first last ↔ first = last :=
  Iff.rfl

@[simp] theorem leads_statusReplaced {rest : List StoreEvent} {first last : Option String} :
    Leads (.statusReplaced :: rest) first last ↔ Leads rest first last := Iff.rfl

@[simp] theorem leads_activeDeviceChanged {rest : List StoreEvent}
    {previous current first last : Option String} :
    Leads (.activeDeviceChanged previous current :: rest) first last ↔
      previous = first ∧ Leads rest current last := Iff.rfl

theorem Leads.append {before after : List StoreEvent} {first middle last : Option String}
    (toMiddle : Leads before first middle) (toLast : Leads after middle last) :
    Leads (before ++ after) first last := by
  induction before generalizing first with
  | nil =>
      obtain rfl := toMiddle
      exact toLast
  | cons event rest ih =>
      cases event with
      | statusReplaced => exact ih toMiddle
      | activeDeviceChanged previous current =>
          obtain ⟨begins, continues⟩ := toMiddle
          exact ⟨begins, ih continues⟩

end StoreEvent

open StoreEvent (Leads)

/-! ## Rounds of deliveries -/

namespace Store

/-- What the listener at a place is told by deliveries, which go through all listeners in rounds. -/
def toldAt (listeners place : Nat) (deliveries : List (SubscriptionId × StoreEvent)) :
    List StoreEvent :=
  (List.range (deliveries.length / listeners)).filterMap fun round =>
    deliveries[round * listeners + place]?.map Prod.snd

theorem deliveries_cons (s : Store) (event : StoreEvent) (rest : List StoreEvent) :
    s.deliveries (event :: rest)
      = s.listeners.map (fun id => (id, event)) ++ s.deliveries rest := rfl

theorem length_deliveries (s : Store) (events : List StoreEvent) :
    (s.deliveries events).length = events.length * s.listeners.length := by
  induction events with
  | nil => simp [deliveries]
  | cons event rest ih =>
      rw [deliveries_cons, List.length_append, ih, List.length_map, List.length_cons,
        Nat.succ_mul, Nat.add_comm]

theorem getElem?_deliveries {s : Store} {place : Nat} (there : place < s.listeners.length)
    (events : List StoreEvent) (round : Nat) :
    (s.deliveries events)[round * s.listeners.length + place]?.map Prod.snd = events[round]? := by
  induction events generalizing round with
  | nil => simp [deliveries]
  | cons event rest ih =>
      rw [deliveries_cons]
      cases round with
      | zero => simp [List.getElem?_append, there]
      | succ round =>
          -- the first round is behind us
          have behind : (round + 1) * s.listeners.length + place
              = (s.listeners.map fun id => (id, event)).length
                + (round * s.listeners.length + place) := by
            rw [List.length_map, Nat.succ_mul]
            omega
          rw [behind, List.getElem?_append_right (Nat.le_add_right _ _), Nat.add_sub_cancel_left]
          exact ih round

theorem filterMap_getElem?_range (events : List StoreEvent) :
    (List.range events.length).filterMap (fun round => events[round]?) = events := by
  induction events with
  | nil => rfl
  | cons event rest ih =>
      rw [List.length_cons, List.range_succ_eq_map, List.filterMap_cons, List.filterMap_map]
      exact congrArg (event :: ·) ih

/-- **Every listener is told all events**, each once and in their order. -/
theorem toldAt_deliveries {s : Store} {place : Nat} (there : place < s.listeners.length)
    (events : List StoreEvent) :
    toldAt s.listeners.length place (s.deliveries events) = events := by
  have rounds : (s.deliveries events).length / s.listeners.length = events.length := by
    rw [length_deliveries, Nat.mul_div_cancel _ (Nat.zero_lt_of_lt there)]
  rw [toldAt, rounds]
  simp only [getElem?_deliveries there]
  exact filterMap_getElem?_range events

/-! ## What a call announces -/

/-- **Every call that is served leads** from the active serial before it to the one after it. -/
theorem leads_of_served {s : Store} {call : Call} {update : Update}
    (served : s.serve call = .ok update) :
    Leads update.events s.activeSerial update.store.activeSerial := by
  have ended := s.served call
  rw [served] at ended
  cases ended with
  | installed writes document reads checked =>
      rw [install]
      dsimp only
      split_ifs with changed
      · simp
      · -- nothing is said of the mark, so it must not have moved
        rw [not_or, not_not] at changed
        simpa using changed.1
  | selected log isSelect listed =>
      dsimp only
      split_ifs with already
      · exact already
      · simp
  | listening isListening => rfl

/-- **What a call announces that is served**: another status, with a change of the active device if
it has another serial or is of another model, or a selection that moves the mark. -/
theorem events_of_served {s : Store} {call : Call} {update : Update}
    (served : s.serve call = .ok update) :
    (call.writes = true →
      update.events = .statusReplaced ::
        if (s.activeSerial, s.activeModel)
            ≠ (update.store.activeSerial, update.store.activeModel) then
          [.activeDeviceChanged s.activeSerial update.store.activeSerial]
        else []) ∧
    (∀ serial, call = .select serial →
      update.events = if s.activeSerial ≠ some serial then
        [.activeDeviceChanged s.activeSerial (some serial)] else []) ∧
    (call.writes = false → (∀ serial, call ≠ .select serial) → update.events = []) := by
  have ended := s.served call
  rw [served] at ended
  cases ended with
  | installed writes document reads checked =>
      refine ⟨fun _ => ?_, ?_, ?_⟩
      · simp only [install, ne_eq, Prod.mk.injEq, not_and_or]
      · rintro serial rfl
        cases writes
      · intro quiet
        rw [writes] at quiet
        cases quiet
  | selected log isSelect listed =>
      subst isSelect
      refine ⟨?_, ?_, fun _ other => absurd rfl (other _)⟩
      · intro writes
        cases writes
      · rintro serial ⟨⟩
        simp only [ne_eq, ite_not]
  | listening isListening =>
      refine ⟨fun writes => ?_, ?_, fun _ _ => rfl⟩
      · rcases isListening with rfl | ⟨id, rfl⟩ <;> cases writes
      · rintro serial rfl
        rcases isListening with isSubscribe | ⟨id, isUnsubscribe⟩
        · cases isSubscribe
        · cases isUnsubscribe

end Store

namespace Desk

/-- **What an operation announces**, and that it leads from the active serial before the operation
to the one after it. -/
theorem step_announces (d : Desk) (operation : Operation) :
    let o := d.step operation
    ∃ events, o.deliveries = d.store.deliveries events ∧
      Leads events d.store.activeSerial o.desk.store.activeSerial ∧
      (operation.installs o.reply = true →
        events = .statusReplaced ::
          if (d.store.activeSerial, d.store.activeModel)
              ≠ (o.desk.store.activeSerial, o.desk.store.activeModel) then
            [.activeDeviceChanged d.store.activeSerial o.desk.store.activeSerial]
          else []) ∧
      (∀ serial, operation = .select serial →
        events = if o.reply.isOk ∧ d.store.activeSerial ≠ some serial then
          [.activeDeviceChanged d.store.activeSerial (some serial)] else []) ∧
      (operation.installs o.reply = false → (∀ serial, operation ≠ .select serial) →
        events = []) ∧
      (∀ e, o.reply = .error e → events = []) := by
  intro o
  cases asked : d.session.call? operation with
  | none =>
      obtain ⟨store, deliveries, installs⟩ := step_of_no_call asked
      refine ⟨[], deliveries, ?_, ?_, ?_, fun _ _ => rfl, fun _ _ => rfl⟩
      · simp [o, store]
      · simp [o, installs]
      · rintro serial rfl
        cases asked
  | some call =>
      cases outcome : d.store.serve call with
      | error e =>
          obtain ⟨store, deliveries, reply⟩ := step_of_refused asked outcome
          refine ⟨[], deliveries, ?_, ?_, ?_, fun _ _ => rfl, fun _ _ => rfl⟩
          · simp [o, store]
          · simp [o, reply]
          · simp [o, reply, Except.isOk, Except.toBool]
      | ok update =>
          obtain ⟨store, deliveries, answer, reply, installs⟩ := step_of_call asked outcome
          obtain ⟨updated, selected, otherwise⟩ := Store.events_of_served outcome
          refine ⟨update.events, deliveries, ?_, ?_, ?_, ?_, by simp [o, reply]⟩
          · rw [store]
            exact Store.leads_of_served outcome
          · rw [reply, installs, store]
            exact updated
          · rintro serial rfl
            obtain rfl := Option.some.inj asked
            rw [selected serial rfl, reply]
            simp [Except.isOk, Except.toBool]
          · rw [reply, installs]
            intro quiet unselected
            refine otherwise quiet fun serial isSelect => ?_
            exact unselected serial (Session.call?_eq_select (isSelect ▸ asked))

/-! ## What one listener is told -/

/-- What the listener at a place is told by an operation. -/
def told (d : Desk) (place : Nat) (operation : Operation) : List StoreEvent :=
  Store.toldAt d.store.listeners.length place (d.step operation).deliveries

/-- Whether an operation leaves the listeners with a subscription alone. -/
def Operation.keeps : Operation → SubscriptionId → Bool
  | .unsubscribe id, other => other ≠ id
  | _, _ => true

/-- The place of a listener after an operation, unless the operation removes it: all listeners that
are before it and stay are before it then. -/
def placeAfter? (d : Desk) (place : Nat) (operation : Operation) : Option Nat :=
  match d.store.listeners[place]? with
  | some id =>
    if operation.keeps id then some ((d.store.listeners.take place).countP operation.keeps)
    else none
  | none => none

/-- What the listener at a place is told by a run, until it is removed. -/
def heard (d : Desk) (place : Nat) : List Operation → List StoreEvent
  | [] => []
  | operation :: rest =>
    d.told place operation ++
      match d.placeAfter? place operation with
      | some next => (d.step operation).desk.heard next rest
      | none => []

theorem getElem?_filter_countP {ids : List SubscriptionId} {place : Nat} {id : SubscriptionId}
    {keep : SubscriptionId → Bool} (there : ids[place]? = some id) (kept : keep id = true) :
    (ids.filter keep)[(ids.take place).countP keep]? = some id := by
  induction ids generalizing place with
  | nil => simp at there
  | cons first rest ih =>
      cases place with
      | zero =>
          obtain rfl : first = id := by simpa using there
          simp [kept]
      | succ place =>
          have later := ih (show rest[place]? = some id by simpa using there)
          by_cases stays : keep first = true
          · simpa [stays] using later
          · simpa [stays] using later

theorem eq_unsubscribe_of_not_keeps {operation : Operation} {id : SubscriptionId}
    (removed : ¬ operation.keeps id = true) : operation = .unsubscribe id := by
  cases operation with
  | unsubscribe other =>
      obtain rfl : id = other := by simpa [Operation.keeps] using removed
      rfl
  | _ => exact absurd rfl removed

/-- An operation that is served as a call on listeners is that call. -/
theorem operation_of_listening {d : Desk} {operation : Operation} {call : Store.Call}
    (asked : d.session.call? operation = some call)
    (isListening : call = .subscribe ∨ ∃ id, call = .unsubscribe id) :
    operation = .subscribe ∨ ∃ id, operation = .unsubscribe id := by
  cases operation with
  | message text =>
      obtain ⟨frame, -, content⟩ := Session.call?_message_eq_some_iff.mp asked
      obtain ⟨event, -, writes, -⟩ := Session.applyResponse_of_call content
      rcases isListening with rfl | ⟨id, rfl⟩ <;> cases writes
  | subscribe => exact Or.inl rfl
  | unsubscribe id => exact Or.inr ⟨id, rfl⟩
  | request _ | reset => cases asked
  | _ =>
      obtain rfl := Option.some.inj asked
      rcases isListening with same | ⟨id, same⟩ <;> cases same

/-- Whether an operation is a subscription. -/
def Operation.subscribes : Operation → Bool
  | .subscribe => true
  | _ => false

/-- The subscription that an operation hands out. -/
def Outcome.subscription? (o : Outcome) : Option SubscriptionId :=
  match o.reply with
  | .ok (.subscribed id) => some id
  | _ => none

/-- Subscriptions are numbered in their order, and nothing else hands one out. -/
theorem subscription?_step (d : Desk) (operation : Operation) :
    (d.step operation).subscription?
      = if operation.subscribes then some ⟨d.store.nextSubscription⟩ else none := by
  cases operation with
  | message text =>
      simp only [step, handled, updated, Outcome.subscription?]
      cases (d.session.handle d.store text).outcome.1 <;> rfl
  | replaceDocument _ | applyPatch _ | select _ =>
      simp only [step, attempted, updated, Outcome.subscription?]
      generalize (d.store.written _).1 = done
      cases done <;> rfl
  | _ => rfl

/-- **What becomes of the listeners**: a subscription adds one at the end, its removal takes it out,
and nothing else touches them or the number of the next subscription. -/
theorem listeners_step (d : Desk) (operation : Operation) :
    (d.step operation).desk.store.listeners
        = d.store.listeners.filter operation.keeps ++ (d.step operation).subscription?.toList ∧
      (d.step operation).desk.store.nextSubscription
        = d.store.nextSubscription + if operation.subscribes then 1 else 0 := by
  rw [subscription?_step]
  by_cases isListening : operation = .subscribe ∨ ∃ id, operation = .unsubscribe id
  · rcases isListening with rfl | ⟨id, rfl⟩
    · refine ⟨?_, rfl⟩
      rw [List.filter_eq_self.mpr (by simp [Operation.keeps])]
      rfl
    · exact ⟨(List.append_nil _).symm, (UInt64.add_zero _).symm⟩
  · have quiet : operation.subscribes = false := by
      cases operation with
      | subscribe => exact absurd (Or.inl rfl) isListening
      | _ => rfl
    have all : d.store.listeners.filter operation.keeps = d.store.listeners := by
      refine List.filter_eq_self.mpr fun id _ => ?_
      cases operation with
      | unsubscribe other => exact absurd (Or.inr ⟨other, rfl⟩) isListening
      | _ => rfl
    simp only [all, quiet, Bool.false_eq_true, if_false, Option.toList_none, List.append_nil,
      UInt64.add_zero]
    cases asked : d.session.call? operation with
    | none => rw [(step_of_no_call asked).1]; exact ⟨rfl, rfl⟩
    | some call =>
        have ended := d.store.served call
        cases outcome : d.store.serve call with
        | error e => rw [(step_of_refused asked outcome).1]; exact ⟨rfl, rfl⟩
        | ok update =>
            rw [(step_of_call asked outcome).1]
            rw [outcome] at ended
            cases ended with
            | installed writes document reads checked => exact ⟨rfl, rfl⟩
            | selected log isSelect listed => exact ⟨rfl, rfl⟩
            | listening listens => exact absurd (operation_of_listening asked listens) isListening

/-- A listener that an operation keeps is at its new place then. -/
theorem getElem?_placeAfter {d : Desk} {place : Nat} {id : SubscriptionId} {operation : Operation}
    (there : d.store.listeners[place]? = some id) (kept : operation.keeps id = true) :
    ∃ next, d.placeAfter? place operation = some next ∧
      (d.step operation).desk.store.listeners[next]? = some id := by
  refine ⟨(d.store.listeners.take place).countP operation.keeps, ?_, ?_⟩
  · simp only [placeAfter?, there, kept, ↓reduceIte]
  have found := getElem?_filter_countP there kept
  rw [(d.listeners_step operation).1,
    List.getElem?_append_left (List.getElem?_eq_some_iff.mp found).1]
  exact found

/-- **What a listener is told forms a chain**, from the active serial at the beginning to the one at
the moment at which the listener is removed, or at the end of the run. -/
theorem leads_heard {d : Desk} {place : Nat} {id : SubscriptionId}
    (there : d.store.listeners[place]? = some id) (operations : List Operation) :
    Leads (d.heard place operations) d.store.activeSerial
      (d.run (operations.takeWhile (·.keeps id))).store.activeSerial := by
  induction operations generalizing d place with
  | nil => rfl
  | cons operation rest ih =>
      obtain ⟨events, deliveries, leads, -, -, otherwise, -⟩ := d.step_announces operation
      have told : d.told place operation = events := by
        rw [Desk.told, deliveries]
        exact Store.toldAt_deliveries (List.getElem?_eq_some_iff.mp there).1 events
      by_cases kept : operation.keeps id = true
      · obtain ⟨next, after, thereStill⟩ := getElem?_placeAfter there kept
        simp only [heard, told, after, List.takeWhile_cons, kept, ↓reduceIte, run_cons]
        exact leads.append (ih thereStill)
      · -- the listener is removed, and a removal announces nothing
        obtain rfl : operation = .unsubscribe id := eq_unsubscribe_of_not_keeps kept
        have silent : events = [] := otherwise rfl (fun _ same => nomatch same)
        simp [heard, told, silent, placeAfter?, there, kept]

end Desk

/-- **Listeners are told the truth.**  After any run of operations on the empty store, and for the
listener at any place, the next operation tells that listener, as it tells all others,

* if another status is installed, exactly that, followed by one change of the active device exactly
  if the active serial or the model of the active device is not what it was;
* if a device is selected, one change exactly if the selection succeeds and the device was not the
  active one;
* nothing if the operation fails, nor if it is any other.

And a listener that subscribes then is told, by any operations that follow and until it is removed,
changes that form a chain from the serial that is active when it subscribes to the one that is
active in the end. -/
theorem notifications_faithful (session : Session) (earlier : List Desk.Operation) :
    let d := Desk.run ⟨session, .empty⟩ earlier
    (∀ operation place, place < d.store.listeners.length →
      let o := d.step operation
      let told := d.told place operation
      o.deliveries = d.store.deliveries told ∧
      (operation.installs o.reply = true →
        told = .statusReplaced ::
          if (d.store.activeSerial, d.store.activeModel)
              ≠ (o.desk.store.activeSerial, o.desk.store.activeModel) then
            [.activeDeviceChanged d.store.activeSerial o.desk.store.activeSerial]
          else []) ∧
      (∀ serial, operation = .select serial →
        told = if o.reply.isOk ∧ d.store.activeSerial ≠ some serial then
          [.activeDeviceChanged d.store.activeSerial (some serial)] else []) ∧
      (operation.installs o.reply = false → (∀ serial, operation ≠ .select serial) →
        told = []) ∧
      (∀ e, o.reply = .error e → told = [])) ∧
    ∀ later, ∃ id, (d.step .subscribe).reply = .ok (.subscribed id) ∧
      let subscribed := (d.step .subscribe).desk
      let place := d.store.listeners.length
      subscribed.store.listeners[place]? = some id ∧
      Leads (subscribed.heard place later) d.store.activeSerial
        (subscribed.run (later.takeWhile (·.keeps id))).store.activeSerial := by
  intro d
  refine ⟨?_, ?_⟩
  · intro operation place there o told
    obtain ⟨events, deliveries, -, announces⟩ := d.step_announces operation
    have same : told = events := by
      show Store.toldAt d.store.listeners.length place (d.step operation).deliveries = events
      rw [deliveries]
      exact Store.toldAt_deliveries there events
    rw [same]
    exact ⟨deliveries, announces⟩
  · intro later
    refine ⟨⟨d.store.nextSubscription⟩, rfl, ?_⟩
    intro subscribed place
    have there : subscribed.store.listeners[place]? = some ⟨d.store.nextSubscription⟩ := by
      show (d.store.listeners ++ [_])[d.store.listeners.length]? = _
      rw [List.getElem?_concat_length]
    exact ⟨there, Desk.leads_heard there later⟩

/-- Two listeners wait, and two devices are listed. -/
def heardByTwo : List Desk.Operation :=
  let hardware : Hardware := ⟨"", "", .mini, .zero, []⟩
  [.subscribe, .subscribe, .replaceStatus ⟨[⟨"A", hardware⟩, ⟨"B", hardware⟩]⟩]

/-- Both listeners hear of a choice, and neither of one that fails. -/
theorem choice_heard_by_two :
    let d := Desk.run ⟨.empty, .empty⟩ heardByTwo
    1 < d.store.listeners.length ∧
      (d.step (.select "B")).deliveries
        = [(⟨0⟩, .activeDeviceChanged (some "A") (some "B")),
          (⟨1⟩, .activeDeviceChanged (some "A") (some "B"))] ∧
      (d.step (.select "C")).reply = .error (.status (.unknownDevice "C")) ∧
      (d.step (.select "C")).deliveries = [] := by
  have listening : (Desk.run ⟨.empty, .empty⟩ heardByTwo).store.listeners = [⟨0⟩, ⟨1⟩] := by decide
  have active : (Desk.run ⟨.empty, .empty⟩ heardByTwo).store.activeSerial = some "A" := by decide
  have succeeds :
      ((Desk.run ⟨.empty, .empty⟩ heardByTwo).step (.select "B")).reply.isOk = true := by
    decide
  have fails : ((Desk.run ⟨.empty, .empty⟩ heardByTwo).step (.select "C")).reply
      = .error (.status (.unknownDevice "C")) := rfl
  have announced := (notifications_faithful .empty heardByTwo).1
  generalize Desk.run ⟨.empty, .empty⟩ heardByTwo = d at *
  have second : 1 < d.store.listeners.length := by
    rw [listening]
    exact Nat.one_lt_two
  obtain ⟨delivered, -, chosen, -⟩ := announced (.select "B") 1 second
  obtain ⟨deliveredToo, -, -, -, silent⟩ := announced (.select "C") 1 second
  refine ⟨second, ?_, fails, ?_⟩
  · rw [delivered, chosen "B" rfl, if_pos ⟨succeeds, by rw [active]; decide⟩, Store.deliveries,
      listening, active]
    rfl
  · rw [deliveredToo, silent _ fails]
    rfl

end MixerPanel
