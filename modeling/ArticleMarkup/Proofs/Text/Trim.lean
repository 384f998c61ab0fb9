import ArticleMarkup.Text.Blank
import Mathlib.Data.List.DropRight

/-!
# Trimmed texts

A trimmed text is not blank and has no blank ends. Trimming gives such a text, unless there is
nothing to keep, and leaves it alone afterwards.

## Main definitions

- `Text.IsTrimmed` — not blank, and without blank ends

## Main statements

- `Text.isTrimmed_trim` — what trimming gives
- `Text.isTrimmed_of_forall` — a text without any blank character
-/

namespace ArticleMarkup.Text

/-- **A trimmed text**: it is not blank, and trimming leaves it alone. -/
def IsTrimmed (s : String) : Prop :=
  isBlank s = false ∧ trim s = s

/-- Dropping at the end stops at a character that does not go. -/
theorem rdropWhile_cons_of_neg {p : Char → Bool} {c : Char} (hc : ¬p c = true) (rest : List Char) :
    ∃ front, (c :: rest).rdropWhile p = c :: front := by
  have hprefix := List.rdropWhile_prefix p (l := c :: rest)
  cases hr : (c :: rest).rdropWhile p with
  | nil => exact absurd (List.rdropWhile_eq_nil_iff.mp hr c List.mem_cons_self) hc
  | cons d front =>
    rw [hr] at hprefix
    exact ⟨front, by rw [(List.cons_prefix_cons.mp hprefix).1]⟩

theorem trimEndChars_eq (cs : List Char) : trimEndChars cs = cs.rdropWhile isBlankChar := rfl

/-- Text that starts with a character that is not blank still does after its end is trimmed. -/
theorem trimStartChars_trimEndChars (cs : List Char) :
    trimStartChars (trimEndChars (trimStartChars cs)) = trimEndChars (trimStartChars cs) := by
  unfold trimStartChars
  rw [trimEndChars_eq]
  cases hcs : cs.dropWhile isBlankChar with
  | nil => rfl
  | cons c rest =>
    have hc : ¬isBlankChar c = true := by
      have h := List.dropWhile_eq_self_iff.mp (List.dropWhile_idempotent isBlankChar cs)
      simpa [hcs] using h
    obtain ⟨front, hfront⟩ := rdropWhile_cons_of_neg hc rest
    rw [hfront, List.dropWhile_cons_of_neg hc]

/-- Trimming twice is trimming once. -/
theorem trim_trim (s : String) : trim (trim s) = trim s := by
  simp only [trim, trimChars, String.toList_ofList, trimStartChars_trimEndChars]
  rw [trimEndChars_eq, trimEndChars_eq, List.rdropWhile_idempotent]

/-- What is left of a text that is not blank is trimmed. -/
theorem isTrimmed_trim {s : String} (h : isBlank s = false) : IsTrimmed (trim s) := by
  refine ⟨?_, trim_trim s⟩
  rw [Bool.eq_false_iff] at h ⊢
  intro hb
  apply h
  simp only [isBlank, trim, String.toList_ofList, List.all_eq_true] at hb ⊢
  have hend : trimChars s.toList = [] := by
    have h1 : trimEndChars (trimChars s.toList) = [] := by
      rw [trimEndChars_eq]
      exact List.rdropWhile_eq_nil_iff.mpr hb
    rwa [trimChars, trimEndChars_eq, trimEndChars_eq, List.rdropWhile_idempotent,
      ← trimEndChars_eq] at h1
  have hstart : ∀ c ∈ trimStartChars s.toList, isBlankChar c = true :=
    List.rdropWhile_eq_nil_iff.mp hend
  -- so nothing was left after the front was trimmed
  have hnil : trimStartChars s.toList = [] := by
    have h1 : trimStartChars (trimStartChars s.toList) = [] := List.dropWhile_eq_nil_iff.mpr hstart
    rwa [trimStartChars, trimStartChars, List.dropWhile_idempotent] at h1
  exact List.dropWhile_eq_nil_iff.mp hnil

/-- Nothing is left of a text exactly when it is blank. -/
theorem trim_eq_empty_iff (s : String) : trim s = "" ↔ isBlank s = true := by
  constructor
  · intro h
    by_contra hb
    have hkept := (isTrimmed_trim (by simpa using hb)).1
    rw [h] at hkept
    cases hkept
  · intro h
    have hstart : trimStartChars s.toList = [] :=
      List.dropWhile_eq_nil_iff.mpr (by simpa [isBlank] using h)
    rw [trim, trimChars, hstart]
    rfl

/-- A text without blank characters is trimmed unless it is empty. -/
theorem isTrimmed_of_forall {s : String} (hne : s ≠ "")
    (h : ∀ c ∈ s.toList, isBlankChar c = false) : IsTrimmed s := by
  have hlist : s.toList ≠ [] := by simpa using hne
  constructor
  · rw [Bool.eq_false_iff]
    intro hb
    obtain ⟨c, hc⟩ := List.exists_mem_of_ne_nil _ hlist
    exact absurd (List.all_eq_true.mp hb c hc) (by simp [h c hc])
  · have hstart : trimStartChars s.toList = s.toList :=
      List.dropWhile_eq_self_iff.mpr fun hl => by simp [h _ (List.getElem_mem hl)]
    have hend : trimEndChars s.toList = s.toList :=
      List.rdropWhile_eq_self_iff.mpr fun hl => by simp [h _ (List.getLast_mem hl)]
    rw [trim, trimChars, hstart, hend, String.ofList_toList]

end ArticleMarkup.Text
