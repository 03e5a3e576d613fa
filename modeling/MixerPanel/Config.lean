import MixerPanel.Log

/-!
# Configuration

The panel runs with fixed settings, some of which can be overridden by pairs of a key and a value.

## Main Definitions

* `Config` — the settings
* `Config.apply` — the settings after one override
* `Config.amend` — the same override, of settings that are in use
* `Config.attempt` — what becomes of such an override, and of the settings
* `Config.ofPairs` — the settings after a list of overrides
* `Config.ofQuery` — the settings of a page with a query
* `Config.socketUrl` — the address of the daemon
-/

namespace MixerPanel

/-- Why an override is refused. -/
inductive ConfigError where
  | invalidLogLevel (value : String)
  | invalidNumber (key value : String)
deriving DecidableEq, Repr

/-- The wording of an error. -/
def ConfigError.message : ConfigError → String
  | invalidLogLevel value => "Invalid log level: " ++ value
  | invalidNumber key value => "Invalid value for '" ++ key ++ "': " ++ value

/-- The settings. -/
structure Config where
  /-- The selector of the element that the panel is mounted on. -/
  hostSelector : String
  /-- The address of the daemon; without one it follows from the address of the page. -/
  daemonUrl : Option String
  /-- Which log lines are wanted. -/
  logFilter : Log.Filter
  /-- The delay in milliseconds before a lost link is opened again. -/
  reconnectDelay : UInt32
deriving DecidableEq, Repr

namespace Config

/-- The shortest delay that is accepted. -/
def minReconnectDelay : Nat := 100

/-- The settings without overrides. -/
def standard : Config := ⟨"#app", none, .upTo .info, 2000⟩

/-- The keys that are understood. -/
def keys : List String := ["host", "daemon", "log", "reconnect"]

/-- The path of the daemon's socket. -/
def websocketPath : String := "/api/websocket"

/-- Whether a character is a decimal digit. -/
def isDigit (c : Char) : Bool := '0' ≤ c && c ≤ '9'

/-- The natural number with the given decimal digits. -/
def ofDigits (digits : List Char) : Nat :=
  digits.foldl (fun n c => n * 10 + (c.toNat - '0'.toNat)) 0

/-- A text without the plus sign that it may start with. -/
def withoutPlus : List Char → List Char
  | '+' :: rest => rest
  | cs => cs

/-- The natural number below 2³² that a text stands for: decimal digits after an optional plus. -/
def word32? (text : String) : Option Nat :=
  let digits := withoutPlus text.toList
  if digits.isEmpty ∨ !digits.all isDigit then none
  else if ofDigits digits < UInt32.size then some (ofDigits digits)
  else none

/-- The delay that a text stands for, if it is long enough. -/
def reconnectDelay? (text : String) : Option UInt32 :=
  ((word32? text).filter fun delay => minReconnectDelay ≤ delay).map UInt32.ofNat

/-- The settings after one override. An empty selector or address is passed over, and so is a key
that is not understood. -/
def apply (c : Config) (key value : String) : Except ConfigError Config :=
  if key = "host" then
    .ok (if value = "" then c else { c with hostSelector := value })
  else if key = "daemon" then
    .ok (if value = "" then c else { c with daemonUrl := some value })
  else if key = "log" then
    match Log.Filter.ofName? value with
    | some filter => .ok { c with logFilter := filter }
    | none => .error (.invalidLogLevel value)
  else if key = "reconnect" then
    match reconnectDelay? value with
    | some delay => .ok { c with reconnectDelay := delay }
    | none => .error (.invalidNumber key value)
  else
    .ok c

/-- One override of settings that are in use. There is no way back: what is changed before an
override is refused stays changed. -/
def amend (key value : String) : ExceptT ConfigError (StateM Config) Unit := do
  if key = "host" then
    unless value = "" do modify fun c => { c with hostSelector := value }
  else if key = "daemon" then
    unless value = "" do modify fun c => { c with daemonUrl := some value }
  else if key = "log" then
    let filter ← (Log.Filter.ofName? value).getDM (throw (.invalidLogLevel value))
    modify fun c => { c with logFilter := filter }
  else if key = "reconnect" then
    let delay ← (reconnectDelay? value).getDM (throw (.invalidNumber key value))
    modify fun c => { c with reconnectDelay := delay }

/-- What becomes of an override of settings that are in use, and of the settings. -/
def attempt (c : Config) (key value : String) : Except ConfigError Unit × Config :=
  (amend key value).run.run c

/-- The settings after a list of overrides, or the error of the first that is refused. -/
def applyAll (c : Config) : List (String × String) → Except ConfigError Config
  | [] => .ok c
  | (key, value) :: rest =>
    match c.apply key value with
    | .ok next => next.applyAll rest
    | .error e => .error e

/-- The standard settings after a list of overrides. -/
def ofPairs (pairs : List (String × String)) : Except ConfigError Config := standard.applyAll pairs

/-- The overrides in a query: the first value of each key that is understood. -/
def overrides (query : List (String × String)) : List (String × String) :=
  keys.filterMap fun key => query.find? fun pair => pair.1 == key

/-- The settings of a page with a query: the standard ones as soon as an override is refused, and
then also why it is. -/
def ofQuery (query : List (String × String)) : Config × Option ConfigError :=
  match ofPairs (overrides query) with
  | .ok c => (c, none)
  | .error e => (standard, some e)

/-- The address of the daemon for a page with a protocol and a host. -/
def socketUrl (c : Config) (protocol host : String) : String :=
  match c.daemonUrl with
  | some url => url
  | none => (if protocol = "https:" then "wss" else "ws") ++ "://" ++ host ++ websocketPath

end Config

end MixerPanel
