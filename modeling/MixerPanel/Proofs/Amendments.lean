import MixerPanel.Proofs.Overrides

/-!
# Settings in use

Settings that are in use are overridden in place, by calls in any order, some of which are refused.
What a call has changed before it is refused would stay changed; that nothing is left behind holds
because every value is read before a field is assigned.

* `Config.attempt_eq` — in place, an override does what it does to settings as a value, and one that
  is refused does nothing
* `Config.Applied.frame` — an override changes the field of its key and no other
* `Config.amended` — the settings after a history of calls
* `Config.Usable`, `Config.usable_amended` — what holds of the settings throughout
* `Config.daemonUrl_amended` — the address that a history leaves
* `settings_usable_throughout` — all of it, at every moment of every history
-/

namespace MixerPanel

namespace Config

variable {c after : Config} {key value : String} {e : ConfigError}

/-! ## One call -/

/-- **In place or not**, an override does the same. -/
theorem attempt_eq (c : Config) (key value : String) :
    c.attempt key value
      = match c.apply key value with
        | .ok next => (.ok (), next)
        | .error e => (.error e, c) := by
  unfold attempt amend apply
  split_ifs with isHost empty isDaemon empty isLog isReconnect
  · rfl
  · rfl
  · rfl
  · rfl
  · cases Log.Filter.ofName? value <;> rfl
  · cases reconnectDelay? value <;> rfl
  · rfl

theorem attempt_eq_ok_iff :
    c.attempt key value = (.ok (), after) ↔ c.apply key value = .ok after := by
  rw [attempt_eq]
  cases c.apply key value <;> simp

/-- **A call that is refused** leaves the settings as they were. -/
theorem attempt_eq_error_iff :
    c.attempt key value = (.error e, after) ↔ Refused key value e ∧ after = c := by
  rw [attempt_eq, ← apply_eq_error_iff]
  cases c.apply key value <;> simp [eq_comm]

/-- A call overrides the settings, or it is refused. -/
theorem attempt_cases (c : Config) (key value : String) :
    (∃ after, Applied c key value (.ok after) ∧ c.attempt key value = (.ok (), after)) ∨
      ∃ e, Refused key value e ∧ c.attempt key value = (.error e, c) := by
  have applied := c.apply_applied key value
  cases outcome : c.apply key value with
  | ok after => exact .inl ⟨after, outcome ▸ applied, attempt_eq_ok_iff.mpr outcome⟩
  | error e =>
      have refused := apply_eq_error_iff.mp outcome
      exact .inr ⟨e, refused, attempt_eq_error_iff.mpr ⟨refused, rfl⟩⟩

/-- The settings agree in every field but that of a key. -/
structure SameBut (key : String) (c after : Config) : Prop where
  hostSelector : key ≠ "host" → after.hostSelector = c.hostSelector
  daemonUrl : key ≠ "daemon" → after.daemonUrl = c.daemonUrl
  logFilter : key ≠ "log" → after.logFilter = c.logFilter
  reconnectDelay : key ≠ "reconnect" → after.reconnectDelay = c.reconnectDelay

theorem SameBut.refl (key : String) (c : Config) : SameBut key c c :=
  ⟨fun _ => rfl, fun _ => rfl, fun _ => rfl, fun _ => rfl⟩

/-- **An override changes the field of its key** and no other. -/
theorem Applied.frame (applied : Applied c key value (.ok after)) : SameBut key c after := by
  cases applied with
  | host => exact ⟨fun other => absurd rfl other, fun _ => rfl, fun _ => rfl, fun _ => rfl⟩
  | daemon => exact ⟨fun _ => rfl, fun other => absurd rfl other, fun _ => rfl, fun _ => rfl⟩
  | log => exact ⟨fun _ => rfl, fun _ => rfl, fun other => absurd rfl other, fun _ => rfl⟩
  | reconnect => exact ⟨fun _ => rfl, fun _ => rfl, fun _ => rfl, fun other => absurd rfl other⟩
  | blank | unread => exact .refl _ _

/-! ## Histories -/

/-- The settings after a history of calls, whether they are refused or not. -/
def amended (c : Config) (calls : List (String × String)) : Config :=
  calls.foldl (fun c call => (c.attempt call.1 call.2).2) c

@[simp] theorem amended_nil (c : Config) : c.amended [] = c := rfl

@[simp] theorem amended_concat (c : Config) (calls : List (String × String))
    (call : String × String) :
    c.amended (calls ++ [call]) = ((c.amended calls).attempt call.1 call.2).2 :=
  List.foldl_append

/-- Settings that a panel can run with. -/
structure Usable (c : Config) : Prop where
  hostSelector : c.hostSelector ≠ ""
  daemonUrl : c.daemonUrl ≠ some ""
  longEnough : minReconnectDelay ≤ c.reconnectDelay.toNat
  fits : c.reconnectDelay.toNat < UInt32.size

theorem usable_standard : standard.Usable := by
  constructor <;> decide

/-- What a call leaves can be used if the settings before it can. -/
theorem Usable.attempt (usable : c.Usable) (key value : String) :
    (c.attempt key value).2.Usable := by
  obtain ⟨hostSelector, daemonUrl, longEnough, fits⟩ := usable
  rcases c.attempt_cases key value with ⟨after, applied, done⟩ | ⟨e, -, refused⟩
  · rw [done]
    cases applied with
    | host nonempty => exact ⟨nonempty, daemonUrl, longEnough, fits⟩
    | daemon nonempty => exact ⟨hostSelector, mt Option.some.inj nonempty, longEnough, fits⟩
    | log => exact ⟨hostSelector, daemonUrl, longEnough, fits⟩
    | reconnect isDelay =>
        obtain ⟨_, _, _, longEnough, fits⟩ := reconnectDelay?_eq_some_iff.mp isDelay
        exact ⟨hostSelector, daemonUrl, longEnough, fits⟩
    | blank | unread => exact ⟨hostSelector, daemonUrl, longEnough, fits⟩
  · rw [refused]
    exact ⟨hostSelector, daemonUrl, longEnough, fits⟩

/-- **Settings stay usable** throughout a history. -/
theorem usable_amended (usable : c.Usable) (calls : List (String × String)) :
    (c.amended calls).Usable := by
  induction calls using List.reverseRecOn with
  | nil => exact usable
  | append_singleton front call ih =>
      rw [amended_concat]
      exact ih.attempt call.1 call.2

/-! ## The address of the daemon -/

/-- A call sets the address if it gives one that is not empty. -/
theorem daemonUrl_attempt (c : Config) (key value : String) :
    (c.attempt key value).2.daemonUrl
      = if key = "daemon" ∧ value ≠ "" then some value else c.daemonUrl := by
  rcases c.attempt_cases key value with ⟨after, applied, done⟩ | ⟨e, refused, kept⟩
  · rw [done]
    cases applied with
    | host | log | reconnect | blank => simp
    | daemon nonempty => simp [nonempty]
    | unread value other =>
        have notDaemon : key ≠ "daemon" := by
          rintro rfl
          exact other (by decide)
        simp [notDaemon]
  · rw [kept]
    cases refused with
    | logLevel | delay => simp

/-- **The address that a history leaves** is the last one that was given and is not empty. -/
theorem daemonUrl_amended (c : Config) (calls : List (String × String)) :
    (c.amended calls).daemonUrl
      = ((given "daemon" calls).filter (· ≠ "")).getLast?.or c.daemonUrl := by
  induction calls using List.reverseRecOn with
  | nil => rfl
  | append_singleton front call ih =>
      obtain ⟨key, value⟩ := call
      rw [amended_concat, daemonUrl_attempt, given_concat, ih]
      by_cases isDaemon : key = "daemon"
      · by_cases empty : value = ""
        · simp [isDaemon, empty]
        · simp [isDaemon, empty]
      · simp [isDaemon]

theorem socketUrl_eq (c : Config) (protocol host : String) :
    c.socketUrl protocol host
      = c.daemonUrl.getD
          ((if protocol = "https:" then "wss" else "ws") ++ "://" ++ host ++ "/api/websocket") := by
  unfold socketUrl
  cases c.daemonUrl with
  | some url => rfl
  | none => rfl

end Config

open Config

/-- **Settings stay usable, whatever is tried on them.**  At every moment of every history of calls
on the standard settings, calls that are refused included,

* the selector is not empty, nor is the address, and the delay is neither too short nor too long;
* a call that is refused leaves the settings as they are, and one that is not changes at most the
  field that its key names;
* the daemon is looked for, whatever page the panel is on, at the last address that was given and is
  not empty, and without one at the host of the page. -/
theorem settings_usable_throughout (calls : List (String × String)) :
    (standard.amended calls).Usable ∧
    (∀ key value e after,
      (standard.amended calls).attempt key value = (.error e, after) →
        after = standard.amended calls) ∧
    (∀ key value after,
      (standard.amended calls).attempt key value = (.ok (), after) →
        SameBut key (standard.amended calls) after) ∧
    ∀ protocol host, (standard.amended calls).socketUrl protocol host =
      match ((given "daemon" calls).filter (· ≠ "")).getLast? with
      | some url => url
      | none =>
        (if protocol = "https:" then "wss" else "ws") ++ "://" ++ host ++ "/api/websocket" := by
  refine ⟨usable_amended usable_standard calls, ?_, ?_, ?_⟩
  · intro key value e after refused
    exact (attempt_eq_error_iff.mp refused).2
  · intro key value after done
    have applied := (standard.amended calls).apply_applied key value
    rw [attempt_eq_ok_iff.mp done] at applied
    exact applied.frame
  · intro protocol host
    have address : (standard.amended calls).daemonUrl
        = ((given "daemon" calls).filter (· ≠ "")).getLast? :=
      (standard.daemonUrl_amended calls).trans Option.or_none
    rw [socketUrl_eq, address]
    cases ((given "daemon" calls).filter (· ≠ "")).getLast? with
    | some url => rfl
    | none => rfl

/-- Two refusals, an empty address after another one, and a delay that is too short by one. -/
theorem refused_between_two_addresses :
    let calls := [("daemon", "ws://a"), ("log", "loud"), ("reconnect", "+0100"), ("daemon", ""),
      ("host", "#root"), ("host", "")]
    let c : Config := ⟨"#root", some "ws://a", .upTo .info, 100⟩
    standard.amended calls = c ∧ c.Usable ∧
      (∀ e after, c.attempt "reconnect" "99" = (.error e, after) → after = c) ∧
      c.attempt "reconnect" "99" = (.error (.invalidNumber "reconnect" "99"), c) ∧
      c.socketUrl "https:" "panel.local" = "ws://a" := by
  intro calls c
  have ran : standard.amended calls = c := by rfl
  obtain ⟨usable, refused, -, address⟩ := settings_usable_throughout calls
  rw [ran] at usable refused address
  exact ⟨ran, usable, refused "reconnect" "99", by rfl, address "https:" "panel.local"⟩

end MixerPanel
