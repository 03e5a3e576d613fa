import MixerPanel.Proofs.Notifications

/-!
# Subscriptions

A listener is known here by the number of its subscription, which is possible for as long as no
number has been handed out twice.  It is told what the store emits from the moment at which it
subscribes to the moment at which it is removed, and nothing else; and all listeners are told an
event, in the order of their subscription, before any of them is told the next.

The order is that of the numbers handed out: the listeners are a sublist of the subscriptions
(`Desk.listeners_run_sublist`), and it is from there that a removal in the middle of the listeners,
or one that is repeated, has no effect on the others.

* `Desk.emitted`, `Desk.emissions` — the events that the store emits, in an operation and in a run
* `Desk.delivered`, `Store.toldTo` — which listener is told what in a run, and what one of them is
* `Desk.subscriptions` — the subscriptions that a run hands out, and `Desk.nodup_subscriptions`,
  that they are distinct
* `Desk.Registered` — a subscription was handed out and has not been removed since
* `delivered_while_subscribed` — what all of them can rely on
-/

namespace MixerPanel

namespace Store

/-! ## What one subscription is told -/

/-- What a listener is told by deliveries. -/
def toldTo (id : SubscriptionId) (deliveries : List (SubscriptionId × StoreEvent)) :
    List StoreEvent :=
  (deliveries.filter (·.1 = id)).map Prod.snd

@[simp] theorem toldTo_append (id : SubscriptionId)
    (before after : List (SubscriptionId × StoreEvent)) :
    toldTo id (before ++ after) = toldTo id before ++ toldTo id after := by
  simp only [toldTo, List.filter_append, List.map_append]

/-- A round tells a listener of its event as often as the listener is listed. -/
theorem toldTo_round (id : SubscriptionId) (listeners : List SubscriptionId) (event : StoreEvent) :
    toldTo id (listeners.map fun listener => (listener, event))
      = List.replicate (listeners.count id) event := by
  induction listeners with
  | nil => rfl
  | cons first rest ih =>
      have split : toldTo id ((first :: rest).map fun listener => (listener, event))
          = toldTo id [(first, event)]
            ++ toldTo id (rest.map fun listener => (listener, event)) :=
        toldTo_append id [(first, event)] _
      rw [split, ih]
      by_cases same : first = id
      · simp [toldTo, same, List.replicate_succ]
      · simp [toldTo, same]

theorem toldTo_deliveries (id : SubscriptionId) (s : Store) (events : List StoreEvent) :
    toldTo id (s.deliveries events)
      = events.flatMap (List.replicate (s.listeners.count id)) := by
  induction events with
  | nil => rfl
  | cons event rest ih =>
      rw [deliveries_cons, toldTo_append, toldTo_round, ih, List.flatMap_cons]

/-- A listener is told all events, if it is listed once. -/
theorem toldTo_deliveries_of_mem {id : SubscriptionId} {s : Store} (there : id ∈ s.listeners)
    (once : s.listeners.Nodup) (events : List StoreEvent) :
    toldTo id (s.deliveries events) = events := by
  rw [toldTo_deliveries, List.count_eq_one_of_mem once there]
  exact List.flatMap_singleton' events

/-- Nobody else is told any. -/
theorem toldTo_deliveries_of_not_mem {id : SubscriptionId} {s : Store}
    (absent : id ∉ s.listeners) (events : List StoreEvent) :
    toldTo id (s.deliveries events) = [] := by
  rw [toldTo_deliveries, List.count_eq_zero.mpr absent]
  exact List.flatMap_eq_nil_iff.mpr fun _ _ => rfl

end Store

namespace Desk

open Store (toldTo)

/-! ## What a run emits, hands out and delivers -/

/-- The events that the store emits in an operation. -/
def emitted (d : Desk) (operation : Operation) : List StoreEvent :=
  match d.session.call? operation with
  | some call => ((d.store.serve call).toOption.map Store.Update.events).getD []
  | none => []

/-- The events that the store emits in a run, in their order. -/
def emissions (d : Desk) (operations : List Operation) : List StoreEvent :=
  noted emitted d operations

/-- Which listener is told what in a run, in that order. -/
def delivered (d : Desk) (operations : List Operation) : List (SubscriptionId × StoreEvent) :=
  noted (fun d operation => (d.step operation).deliveries) d operations

/-- The subscriptions that a run hands out, in their order. -/
def subscriptions (d : Desk) (operations : List Operation) : List SubscriptionId :=
  noted (fun d operation => (d.step operation).subscription?.toList) d operations

/-- A subscription is registered after a run: the run has handed it out, and has not been asked to
remove it since. -/
def Registered (d : Desk) (operations : List Operation) (id : SubscriptionId) : Prop :=
  ∃ before after, operations = before ++ .subscribe :: after ∧
    ((d.run before).step .subscribe).reply = .ok (.subscribed id) ∧ .unsubscribe id ∉ after

section Runs

variable (d : Desk) (operation : Operation) (rest : List Operation)

@[simp] theorem emissions_cons :
    d.emissions (operation :: rest)
      = d.emitted operation ++ (d.step operation).desk.emissions rest := rfl

@[simp] theorem delivered_cons :
    d.delivered (operation :: rest)
      = (d.step operation).deliveries ++ (d.step operation).desk.delivered rest := rfl

@[simp] theorem subscriptions_cons :
    d.subscriptions (operation :: rest)
      = (d.step operation).subscription?.toList ++ (d.step operation).desk.subscriptions rest := rfl

theorem delivered_append (before after : List Operation) :
    d.delivered (before ++ after) = d.delivered before ++ (d.run before).delivered after :=
  noted_append _ d before after

theorem subscriptions_append (before after : List Operation) :
    d.subscriptions (before ++ after)
      = d.subscriptions before ++ (d.run before).subscriptions after :=
  noted_append _ d before after

/-- **An operation delivers what the store emits**, in rounds through the listeners before it. -/
theorem deliveries_step :
    (d.step operation).deliveries = d.store.deliveries (d.emitted operation) := by
  cases asked : d.session.call? operation with
  | none =>
      rw [(step_of_no_call asked).2.1]
      simp [emitted, asked, Store.deliveries]
  | some call =>
      cases outcome : d.store.serve call with
      | error e =>
          rw [(step_of_refused asked outcome).2.1]
          simp [emitted, asked, outcome, Except.toOption, Store.deliveries]
      | ok update =>
          rw [(step_of_call asked outcome).2.1]
          simp [emitted, asked, outcome, Except.toOption]

end Runs

/-! ## Numbers are handed out once -/

/-- The numbers that a run hands out follow each other. -/
theorem numbers_subscriptions {d : Desk} {operations : List Operation}
    (few : d.store.nextSubscription.toNat + operations.countP Operation.subscribes < UInt64.size) :
    (d.subscriptions operations).map (fun id => id.number.toNat)
      = List.range' d.store.nextSubscription.toNat (operations.countP Operation.subscribes) := by
  induction operations generalizing d with
  | nil => rfl
  | cons operation rest ih =>
      have next := (d.listeners_step operation).2
      rw [subscriptions_cons, subscription?_step, List.map_append]
      by_cases subscribes : operation.subscribes = true
      · rw [List.countP_cons_of_pos subscribes] at few ⊢
        have following : (d.step operation).desk.store.nextSubscription.toNat
            = d.store.nextSubscription.toNat + 1 := by
          rw [next, if_pos subscribes, UInt64.toNat_add]
          exact Nat.mod_eq_of_lt (by rw [UInt64.size] at few; simp only [UInt64.toNat_one]; omega)
        rw [ih (by omega), following, if_pos subscribes, List.range'_succ]
        rfl
      · rw [List.countP_cons_of_neg subscribes] at few ⊢
        have same : (d.step operation).desk.store.nextSubscription = d.store.nextSubscription := by
          rw [next, if_neg subscribes, UInt64.add_zero]
        rw [ih (by rw [same]; exact few), same, if_neg subscribes]
        rfl

/-- **No subscription is handed out twice.** -/
theorem nodup_subscriptions {session : Session} {operations : List Operation}
    (few : operations.countP Operation.subscribes < UInt64.size) :
    (subscriptions ⟨session, .empty⟩ operations).Nodup := by
  refine List.Nodup.of_map (fun id : SubscriptionId => id.number.toNat) ?_
  rw [numbers_subscriptions (by simpa [Store.empty] using few)]
  exact List.nodup_range'

/-! ## Who listens -/

/-- The listeners after an operation, and those who subscribe later, stand in the order in which
those before it and those who subscribe from then on do. -/
theorem listeners_step_sublist (d : Desk) (operation : Operation) (rest : List Operation) :
    ((d.step operation).desk.store.listeners
        ++ (d.step operation).desk.subscriptions rest).Sublist
      (d.store.listeners ++ d.subscriptions (operation :: rest)) := by
  rw [(d.listeners_step operation).1, subscriptions_cons, ← List.append_assoc]
  exact (List.filter_sublist.append_right _).append_right _

/-- **Listeners stand in the order of their subscription**: those after a run are among those before
it and those who have subscribed in it. -/
theorem listeners_run_sublist (d : Desk) (operations : List Operation) :
    (d.run operations).store.listeners.Sublist
      (d.store.listeners ++ d.subscriptions operations) := by
  induction operations generalizing d with
  | nil => exact List.sublist_append_left _ _
  | cons operation rest ih =>
      exact (ih (d.step operation).desk).trans (d.listeners_step_sublist operation rest)

theorem Operation.keeps_eq_true_iff {operation : Operation} {id : SubscriptionId} :
    operation.keeps id = true ↔ operation ≠ .unsubscribe id := by
  refine ⟨?_, fun other => Decidable.byContradiction fun removed => ?_⟩
  · rintro kept rfl
    simp [Operation.keeps] at kept
  · exact other (eq_unsubscribe_of_not_keeps removed)

/-- A subscription is in the reply to the operation that hands it out, and only there. -/
theorem subscription?_eq_some_iff {d : Desk} {operation : Operation} {id : SubscriptionId} :
    (d.step operation).subscription? = some id ↔
      operation = .subscribe ∧ (d.step .subscribe).reply = .ok (.subscribed id) := by
  have handedOut : (d.step .subscribe).reply = .ok (.subscribed ⟨d.store.nextSubscription⟩) := rfl
  rw [subscription?_step, handedOut]
  cases operation <;> simp [Operation.subscribes]

/-- One operation more keeps what is registered unless it removes it, and may hand out another. -/
theorem registered_concat_iff {d : Desk} {operations : List Operation} {operation : Operation}
    {id : SubscriptionId} :
    d.Registered (operations ++ [operation]) id ↔
      d.Registered operations id ∧ operation.keeps id = true ∨
        ((d.run operations).step operation).subscription? = some id := by
  rw [subscription?_eq_some_iff, Operation.keeps_eq_true_iff]
  constructor
  · rintro ⟨before, after, split, handedOut, stays⟩
    rcases List.eq_nil_or_concat after with rfl | ⟨after, last, rfl⟩
    · obtain ⟨rfl, same⟩ := List.append_inj' split rfl
      exact Or.inr ⟨List.head_eq_of_cons_eq same, handedOut⟩
    · rw [List.concat_eq_append, ← List.cons_append, ← List.append_assoc] at split
      obtain ⟨rfl, same⟩ := List.append_inj' split rfl
      obtain rfl := List.head_eq_of_cons_eq same
      rw [List.concat_eq_append, List.mem_append, List.mem_singleton, not_or] at stays
      exact Or.inl ⟨⟨before, after, rfl, handedOut, stays.1⟩, Ne.symm stays.2⟩
  · rintro (⟨⟨before, after, rfl, handedOut, stays⟩, kept⟩ | ⟨rfl, handedOut⟩)
    · refine ⟨before, after ++ [operation], by simp, handedOut, ?_⟩
      rw [List.mem_append, List.mem_singleton, not_or]
      exact ⟨stays, Ne.symm kept⟩
    · exact ⟨operations, [], rfl, handedOut, List.not_mem_nil⟩

/-- **To listen is to be registered.** -/
theorem mem_listeners_run_iff {session : Session} {operations : List Operation}
    {id : SubscriptionId} :
    id ∈ (run ⟨session, .empty⟩ operations).store.listeners ↔
      Registered ⟨session, .empty⟩ operations id := by
  induction operations using List.reverseRecOn with
  | nil => simp [Registered, Store.empty]
  | append_singleton operations operation ih =>
      rw [registered_concat_iff, ← ih, run_append]
      show id ∈ ((run _ operations).step operation).desk.store.listeners ↔ _
      rw [(listeners_step _ operation).1, List.mem_append, List.mem_filter, Option.mem_toList]

/-- A removal takes out one listener. -/
theorem listeners_unsubscribe {d : Desk} (once : d.store.listeners.Nodup) (id : SubscriptionId) :
    (d.step (.unsubscribe id)).desk.store.listeners = d.store.listeners.erase id := by
  rw [once.erase_eq_filter id]
  refine List.filter_congr fun other _ => ?_
  rw [decide_not, bne, beq_eq_decide]

/-! ## From subscription to removal -/

/-- Who neither listens nor subscribes is told nothing. -/
theorem toldTo_delivered_of_absent {d : Desk} {id : SubscriptionId} {operations : List Operation}
    (absent : id ∉ d.store.listeners ++ d.subscriptions operations) :
    toldTo id (d.delivered operations) = [] := by
  induction operations generalizing d with
  | nil => rfl
  | cons operation rest ih =>
      have before : id ∉ d.store.listeners := fun there => absent (List.mem_append_left _ there)
      have after : id ∉ (d.step operation).desk.store.listeners
          ++ (d.step operation).desk.subscriptions rest :=
        fun there => absent ((d.listeners_step_sublist operation rest).mem there)
      rw [delivered_cons, Store.toldTo_append, deliveries_step,
        Store.toldTo_deliveries_of_not_mem before, ih after, List.append_nil]

/-- **Who listens is told what is emitted** until it is removed, and nothing afterwards.  The
induction carries that no number is listed or handed out twice, which keeps a listener from being
told anything twice and one that was removed from being told anything again. -/
theorem toldTo_delivered {d : Desk} {id : SubscriptionId} {operations : List Operation}
    (there : id ∈ d.store.listeners)
    (once : (d.store.listeners ++ d.subscriptions operations).Nodup) :
    toldTo id (d.delivered operations) = d.emissions (operations.takeWhile (·.keeps id)) := by
  induction operations generalizing d with
  | nil => rfl
  | cons operation rest ih =>
      have onceLater := once.sublist (d.listeners_step_sublist operation rest)
      rw [delivered_cons, Store.toldTo_append, deliveries_step,
        Store.toldTo_deliveries_of_mem there once.of_append_left]
      by_cases kept : operation.keeps id = true
      · have stays : id ∈ (d.step operation).desk.store.listeners := by
          rw [(d.listeners_step operation).1]
          exact List.mem_append_left _ (List.mem_filter.mpr ⟨there, kept⟩)
        rw [ih stays onceLater, List.takeWhile_cons, if_pos kept, emissions_cons]
      · obtain rfl : operation = .unsubscribe id := eq_unsubscribe_of_not_keeps kept
        have gone : id ∉ (d.step (.unsubscribe id)).desk.store.listeners
            ++ (d.step (.unsubscribe id)).desk.subscriptions rest := by
          have filtered : id ∉ d.store.listeners.filter (Operation.unsubscribe id).keeps :=
            fun stays => kept (List.mem_filter.mp stays).2
          -- to come back, its number would have to be handed out a second time
          have never : id ∉ d.subscriptions (.unsubscribe id :: rest) :=
            fun again => List.disjoint_of_nodup_append once there again
          rw [(d.listeners_step (.unsubscribe id)).1, List.append_assoc, List.mem_append, not_or]
          exact ⟨filtered, never⟩
        rw [toldTo_delivered_of_absent gone, List.takeWhile_cons, if_neg kept]
        rfl

/-- A listener is told nothing by a run before it subscribes in it, and then what is emitted until
it is removed. -/
theorem toldTo_delivered_of_subscribe {session : Session} {before after : List Operation}
    (once : (subscriptions ⟨session, .empty⟩ (before ++ .subscribe :: after)).Nodup) :
    ∃ id, ((run ⟨session, .empty⟩ before).step .subscribe).reply = .ok (.subscribed id) ∧
      toldTo id (delivered ⟨session, .empty⟩ (before ++ .subscribe :: after))
        = ((run ⟨session, .empty⟩ before).step .subscribe).desk.emissions
            (after.takeWhile (·.keeps id)) := by
  set start : Desk := ⟨session, .empty⟩
  set d := start.run before
  let id : SubscriptionId := ⟨d.store.nextSubscription⟩
  refine ⟨id, rfl, ?_⟩
  rw [subscriptions_append] at once
  have absent : id ∉ start.store.listeners ++ start.subscriptions before := by
    intro there
    exact List.disjoint_of_nodup_append once there (List.mem_cons_self ..)
  have there : id ∈ (d.step .subscribe).desk.store.listeners :=
    List.mem_append_right _ (List.mem_singleton_self id)
  have onceLater : ((d.step .subscribe).desk.store.listeners
      ++ (d.step .subscribe).desk.subscriptions after).Nodup :=
    once.sublist ((d.listeners_step_sublist .subscribe after).trans
      ((start.listeners_run_sublist before).append_right _))
  rw [delivered_append, Store.toldTo_append, toldTo_delivered_of_absent absent, delivered_cons,
    Store.toldTo_append, ← toldTo_delivered there onceLater]
  rfl

end Desk

/-- **Listeners are told what is emitted while they are subscribed.**  In a run on the empty store
that subscribes less than 2⁶⁴ times, and removes any subscriptions, known or not, at any moment,

* no subscription is handed out twice;
* whoever subscribes is told what the store emits from then on until the subscription is removed, or
  to the end of the run: every event, once, and in the order in which they are emitted;
* those who listen in the end are those whose subscriptions have been handed out and not removed, in
  the order in which they subscribed;
* what the store emits next goes to all who listen, in their order, event by event;
* to remove a subscription next is answered by whether it is registered, and takes out no other;
* neither to subscribe nor to remove a subscription touches the status, the document or which device
  is active. -/
theorem delivered_while_subscribed (session : Session) (operations : List Desk.Operation)
    (few : operations.countP Desk.Operation.subscribes < UInt64.size) :
    let start : Desk := ⟨session, .empty⟩
    let d := start.run operations
    (start.subscriptions operations).Nodup ∧
    (∀ before after, operations = before ++ .subscribe :: after →
      ∃ id, ((start.run before).step .subscribe).reply = .ok (.subscribed id) ∧
        Store.toldTo id (start.delivered operations)
          = ((start.run before).step .subscribe).desk.emissions
              (after.takeWhile (·.keeps id))) ∧
    d.store.listeners.Sublist (start.subscriptions operations) ∧
    (∀ id, id ∈ d.store.listeners ↔ start.Registered operations id) ∧
    (∀ operation, (d.step operation).deliveries
      = (d.emitted operation).flatMap fun event => d.store.listeners.map fun id => (id, event)) ∧
    (∀ id, ∃ wasThere, (d.step (.unsubscribe id)).reply = .ok (.unsubscribed wasThere) ∧
      (wasThere = true ↔ start.Registered operations id) ∧
      (d.step (.unsubscribe id)).desk.store.listeners = d.store.listeners.erase id) ∧
    ∀ operation, (operation = .subscribe ∨ ∃ id, operation = .unsubscribe id) →
      let next := (d.step operation).desk.store
      next.status = d.store.status ∧ next.document = d.store.document ∧
        next.activeSerial = d.store.activeSerial ∧ next.active = d.store.active := by
  intro start d
  have once : (start.subscriptions operations).Nodup := Desk.nodup_subscriptions few
  have inOrder : d.store.listeners.Sublist (start.subscriptions operations) :=
    start.listeners_run_sublist operations
  have registered : ∀ id, id ∈ d.store.listeners ↔ start.Registered operations id :=
    fun _ => Desk.mem_listeners_run_iff
  refine ⟨once, ?_, inOrder, registered, fun operation => d.deliveries_step operation, ?_, ?_⟩
  · rintro before after rfl
    exact Desk.toldTo_delivered_of_subscribe once
  · intro id
    refine ⟨d.store.listeners.contains id, rfl, ?_, ?_⟩
    · rw [List.contains_iff_mem, registered]
    · exact Desk.listeners_unsubscribe (once.sublist inOrder) id
  · rintro operation (rfl | ⟨id, rfl⟩) <;> exact ⟨rfl, rfl, rfl, rfl⟩

/-- Of two listeners the first is removed, and then removed again, before another device is
selected. -/
theorem removed_before_selection :
    let hardware : Hardware := ⟨"", "", .mini, .zero, []⟩
    let operations : List Desk.Operation :=
      [.subscribe, .subscribe, .replaceStatus ⟨[⟨"A", hardware⟩, ⟨"B", hardware⟩]⟩,
        .unsubscribe ⟨0⟩, .unsubscribe ⟨0⟩, .select "B"]
    let installed : List StoreEvent := [.statusReplaced, .activeDeviceChanged none (some "A")]
    operations.countP Desk.Operation.subscribes < UInt64.size ∧
      Store.toldTo ⟨0⟩ (Desk.empty.delivered operations) = installed ∧
      Store.toldTo ⟨1⟩ (Desk.empty.delivered operations)
        = installed ++ [.activeDeviceChanged (some "A") (some "B")] := by
  intro hardware operations installed
  have few : operations.countP Desk.Operation.subscribes < UInt64.size := by decide
  obtain ⟨-, told, -⟩ := delivered_while_subscribed .empty operations few
  obtain ⟨first, isFirst, toFirst⟩ := told [] _ rfl
  obtain ⟨second, isSecond, toSecond⟩ := told [.subscribe] _ rfl
  obtain rfl := Desk.Reply.subscribed.inj (Except.ok.inj isFirst)
  obtain rfl := Desk.Reply.subscribed.inj (Except.ok.inj isSecond)
  exact ⟨few, toFirst.trans rfl, toSecond.trans rfl⟩

end MixerPanel
