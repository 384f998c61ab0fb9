/-!
# Heading levels

The range of heading levels that is listed in a table of contents.
-/

namespace ArticleMarkup

/-- An inclusive range of heading levels. -/
structure Levels where
  /-- The shallowest level. -/
  min : Nat
  /-- The deepest level. -/
  max : Nat
  /-- Levels start at one. -/
  one_le_min : 1 ≤ min := by omega
  /-- The range is not empty. -/
  min_le_max : min ≤ max := by omega
  /-- Levels end at six. -/
  max_le_six : max ≤ 6 := by omega
deriving DecidableEq, Repr

namespace Levels

/-- The range from `min` to `max`, if it is one. -/
def of? (min max : Nat) : Option Levels :=
  if h : 1 ≤ min ∧ min ≤ max ∧ max ≤ 6 then some ⟨min, max, h.1, h.2.1, h.2.2⟩ else none

/-- The level lies in the range. -/
def contains (levels : Levels) (level : Nat) : Bool :=
  levels.min ≤ level && level ≤ levels.max

/-- Levels two to four are listed unless something else is asked for. -/
def standard : Levels := { min := 2, max := 4 }

instance : Inhabited Levels := ⟨standard⟩

end Levels

end ArticleMarkup
