import ArticleMarkup.Text.Numeral

/-!
# Log levels

## Main definitions

- `LogLevel` — how much is logged
- `LogLevel.ofText?` — the level that a text names
-/

namespace ArticleMarkup

/-- **How much is logged**, from nothing to everything. -/
inductive LogLevel where
  /-- Nothing. -/
  | off
  /-- Errors. -/
  | error
  /-- Warnings, and all of the above. -/
  | warn
  /-- What users may want to know. -/
  | info
  /-- What developers may want to know. -/
  | debug
  /-- Everything. -/
  | trace
deriving DecidableEq, Repr, Inhabited

namespace LogLevel

/-- All levels, from nothing to everything. -/
def all : List LogLevel := [.off, .error, .warn, .info, .debug, .trace]

/-- The name of a level. -/
def name : LogLevel → String
  | .off => "off"
  | .error => "error"
  | .warn => "warn"
  | .info => "info"
  | .debug => "debug"
  | .trace => "trace"

/-- **The level that a text names**: by its number from 0 to 5, or by its name in any case. The
empty text means errors. -/
def ofText? (text : String) : Option LogLevel :=
  match Text.unsigned? (Nat.pow 2 64) text with
  | some n => all[n]?
  | none =>
    if text = "" then some .error else all.find? (fun l => Text.sameIgnoringCase l.name text)

end LogLevel

end ArticleMarkup
