/-!
# Log lines

What is logged is part of the result of an operation; where the lines go is decided elsewhere.

## Main Definitions

* `Log.Level` — the severity of a line
* `Log.Line` — a severity and a text
* `Log.Filter` — which severities are wanted
-/

namespace MixerPanel.Log

/-- The severity of a line. -/
inductive Level where
  | error
  | warn
  | info
  | debug
  | trace
deriving DecidableEq, Repr

/-- The place of a level among the levels: a wanted level brings all before it. -/
def Level.rank : Level → Nat
  | error => 1
  | warn => 2
  | info => 3
  | debug => 4
  | trace => 5

/-- The name of a level in capitals. -/
def Level.name : Level → String
  | error => "ERROR"
  | warn => "WARN"
  | info => "INFO"
  | debug => "DEBUG"
  | trace => "TRACE"

/-- A line of a log. -/
structure Line where
  level : Level
  text : String
deriving DecidableEq, Repr

/-- A line as it is shown: its level, a blank, and its text. -/
def Line.show (line : Line) : String := line.level.name ++ " " ++ line.text

/-- A line on an error. -/
def error (text : String) : Line := ⟨.error, text⟩

/-- A line of warning. -/
def warn (text : String) : Line := ⟨.warn, text⟩

/-- A line of information. -/
def info (text : String) : Line := ⟨.info, text⟩

/-- A line for diagnosis. -/
def debug (text : String) : Line := ⟨.debug, text⟩

/-- Which lines are wanted. -/
inductive Filter where
  /-- None. -/
  | off
  /-- Those up to a level. -/
  | upTo (level : Level)
deriving DecidableEq, Repr

namespace Filter

/-- All filters, from the one that wants least. -/
def all : List Filter :=
  [off, upTo .error, upTo .warn, upTo .info, upTo .debug, upTo .trace]

/-- The name of a filter in capitals. -/
def name : Filter → String
  | off => "OFF"
  | upTo level => level.name

/-- Whether a line is wanted. -/
def wants : Filter → Line → Bool
  | off, _ => false
  | upTo level, line => line.level.rank ≤ level.rank

/-- An ASCII letter in capitals; any other character as it is. -/
def capital (c : Char) : Char :=
  if 'a' ≤ c ∧ c ≤ 'z' then Char.ofNat (c.toNat - 32) else c

/-- The filter with a name, in any ASCII letter case. -/
def ofName? (name : String) : Option Filter :=
  all.find? fun filter => filter.name.toList == name.toList.map capital

end Filter

end MixerPanel.Log
