import ArticleMarkup.Text.Alphanumeric
import ArticleMarkup.Text.Lowercase
import Mathlib.Order.Basic
import Mathlib.Tactic.Tauto

/-!
# Lowercase letters and numbers

The table of capitals against the table of letters and numbers. Every capital is a letter, and its small
letter is one as well and stays as it is when it is lowered again. The capital I with a dot above is the
only exception: it becomes an `i` and a dot, and the dot is neither a letter nor a number.

## Main definitions

- `Text.letterSpans` — the spans of all letters and numbers
- `Text.lowered` — a text in lowercase

## Main statements

- `Text.lowercase_of_not_isAlphanumeric` — only letters and numbers change
- `Text.exists_lowercase` — they change to letters and numbers, which stay
- `Text.cases_of_mem_lowercase` — the dot is the only other image
-/

namespace ArticleMarkup.Text

-- ════════════════════════════════════════════════════════════════════════
-- Spans of letters and numbers
-- ════════════════════════════════════════════════════════════════════════

/-- The spans of all letters and numbers, in ASCII and above. -/
def letterSpans : List (Nat × Nat) :=
  (0x30, 0x39) :: (0x41, 0x5a) :: (0x61, 0x7a) :: alphanumericRanges

/-- All code points from `lo` to `hi` lie in one of the spans. -/
def spanned (lo hi : Nat) : Bool :=
  letterSpans.any fun span => Nat.ble span.1 lo && Nat.ble hi span.2

theorem inRanges_of_mem {n : Nat} {spans : List (Nat × Nat)} {span : Nat × Nat} (h : span ∈ spans)
    (hlo : span.1 ≤ n) (hhi : n ≤ span.2) : inRanges n spans = true := by
  induction spans with
  | nil => cases h
  | cons first rest ih =>
    rw [inRanges]
    rcases List.mem_cons.mp h with rfl | h
    · simp [hlo, hhi]
    · rw [ih h, Bool.or_true]

/-- The spans of the table lie above ASCII. -/
theorem alphanumericRanges_above : ∀ span ∈ alphanumericRanges, 0x80 ≤ span.1 := by
  decide +kernel

theorem isAsciiAlnum_of_toNat {c : Char} (h : (0x30 ≤ c.toNat ∧ c.toNat ≤ 0x39) ∨
    (0x41 ≤ c.toNat ∧ c.toNat ≤ 0x5a) ∨ (0x61 ≤ c.toNat ∧ c.toNat ≤ 0x7a)) :
    isAsciiAlnum c = true := by
  have hchars : ('0' ≤ c ∧ c ≤ '9') ∨ ('A' ≤ c ∧ c ≤ 'Z') ∨ ('a' ≤ c ∧ c ≤ 'z') := h
  simp only [isAsciiAlnum, isAsciiLetter, isAsciiDigit, Bool.or_eq_true, Bool.and_eq_true,
    decide_eq_true_eq]
  tauto

/-- The characters of a span are letters and numbers. -/
theorem isAlphanumeric_of_spanned {c : Char} {lo hi : Nat} (h : spanned lo hi = true)
    (hlo : lo ≤ c.toNat) (hhi : c.toNat ≤ hi) : isAlphanumeric c = true := by
  obtain ⟨span, hspan, hin⟩ := List.any_eq_true.mp h
  simp only [Bool.and_eq_true, Nat.ble_eq] at hin
  have hfirst : span.1 ≤ c.toNat := by omega
  have hlast : c.toNat ≤ span.2 := by omega
  rw [letterSpans, List.mem_cons, List.mem_cons, List.mem_cons] at hspan
  rw [isAlphanumeric]
  rcases hspan with rfl | rfl | rfl | hspan
  · rw [if_pos (by omega)]
    exact isAsciiAlnum_of_toNat (.inl ⟨hfirst, hlast⟩)
  · rw [if_pos (by omega)]
    exact isAsciiAlnum_of_toNat (.inr (.inl ⟨hfirst, hlast⟩))
  · rw [if_pos (by omega)]
    exact isAsciiAlnum_of_toNat (.inr (.inr ⟨hfirst, hlast⟩))
  · have habove := alphanumericRanges_above span hspan
    rw [if_neg (by omega)]
    exact inRanges_of_mem hspan hfirst hlast

-- ════════════════════════════════════════════════════════════════════════
-- Capitals and small letters
-- ════════════════════════════════════════════════════════════════════════

namespace CaseRun

/-- The code point of the small letter. -/
def small (run : CaseRun) (n : Nat) : Nat :=
  (n + run.shift).toNat

/-- The capitals of a run. -/
def points (run : CaseRun) : List Nat :=
  (List.range ((run.last - run.first) / run.step + 1)).map fun k => run.first + run.step * k

theorem mem_points {run : CaseRun} {n : Nat} (h : run.holds n = true) : n ∈ run.points := by
  simp only [holds, Bool.and_eq_true, decide_eq_true_eq, beq_iff_eq] at h
  have hdivides := Nat.div_add_mod (n - run.first) run.step
  refine List.mem_map.mpr ⟨(n - run.first) / run.step, ?_, by omega⟩
  rw [List.mem_range, Nat.lt_add_one_iff]
  exact Nat.div_le_div_right (by omega)

/-- The small letters of the run lie outside the other run, before it, behind it or between its
capitals. -/
def isApart (run other : CaseRun) : Bool :=
  Nat.blt (run.small run.last) other.first || Nat.blt other.last (run.small run.first) ||
    ((run.step == 2 || run.first == run.last) && other.step == 2 &&
      (run.small run.first - other.first) % 2 == 1)

/-- **A run as the table has it.** -/
structure Sound (run : CaseRun) : Prop where
  /-- Every capital is a letter. -/
  letters : (spanned run.first run.last || run.points.all fun n => spanned n n) = true
  /-- So is every small letter. -/
  small_letters : spanned (run.small run.first) (run.small run.last) = true
  /-- No small letter is a capital. -/
  apart : lowercaseRuns.all run.isApart = true
  /-- None is the capital I with a dot above. -/
  not_dotted : run.small run.last < 0x130 ∨ 0x130 < run.small run.first
  /-- The small letters are characters. -/
  valid : run.small run.last < 0xd800 ∨ 0xdfff < run.small run.first ∧ run.small run.last < 0x110000

end CaseRun

/-- The table holds nothing else. -/
theorem sound_of_mem_lowercaseRuns {run : CaseRun} (h : run ∈ lowercaseRuns) : run.Sound := by
  have hall : ∀ run ∈ lowercaseRuns,
      (spanned run.first run.last || run.points.all fun n => spanned n n) = true ∧
      spanned (run.small run.first) (run.small run.last) = true ∧
      lowercaseRuns.all run.isApart = true ∧
      (run.small run.last < 0x130 ∨ 0x130 < run.small run.first) ∧
      (run.small run.last < 0xd800 ∨
        0xdfff < run.small run.first ∧ run.small run.last < 0x110000) := by
    decide +kernel
  obtain ⟨hletters, hsmall, hapart, hdotted, hvalid⟩ := hall run h
  exact ⟨hletters, hsmall, hapart, hdotted, hvalid⟩

namespace CaseRun

variable {run : CaseRun} {n : Nat}

theorem le_of_holds (h : run.holds n = true) : run.first ≤ n ∧ n ≤ run.last := by
  simp only [holds, Bool.and_eq_true, decide_eq_true_eq] at h
  exact h.1

theorem small_le (h : run.holds n = true) :
    run.small run.first ≤ run.small n ∧ run.small n ≤ run.small run.last := by
  have hn := le_of_holds h
  unfold small
  omega

theorem isAlphanumeric_of_holds {c : Char} (hrun : run ∈ lowercaseRuns)
    (h : run.holds c.toNat = true) : isAlphanumeric c = true := by
  rcases Bool.or_eq_true_iff.mp (sound_of_mem_lowercaseRuns hrun).letters with hspan | hpoints
  · exact isAlphanumeric_of_spanned hspan (le_of_holds h).1 (le_of_holds h).2
  · have hpoint := List.all_eq_true.mp hpoints _ (mem_points h)
    exact isAlphanumeric_of_spanned hpoint (Nat.le_refl _) (Nat.le_refl _)

/-- A run that lies apart from the small letters of another one does not hold any of them. -/
theorem holds_small {other : CaseRun} (hapart : run.isApart other = true)
    (h : run.holds n = true) : other.holds (run.small n) = false := by
  have hsmall := small_le h
  have hn := le_of_holds h
  simp only [isApart, Bool.or_eq_true, Bool.and_eq_true, Nat.blt_eq, beq_iff_eq] at hapart
  simp only [holds, Bool.and_eq_true, decide_eq_true_eq, beq_iff_eq] at h
  rw [Bool.eq_false_iff]
  intro hother
  simp only [holds, Bool.and_eq_true, decide_eq_true_eq, beq_iff_eq] at hother
  rcases hapart with (hbefore | hbehind) | ⟨⟨hstep, hother2⟩, hodd⟩
  · omega
  · omega
  · -- the small letters are an even distance from the first of them, and the capitals of the other
    -- run an odd one
    have heven : (n - run.first) % 2 = 0 := by
      rcases hstep with hstep | hone
      · rw [hstep] at h
        exact h.2
      · omega
    rw [hother2] at hother
    unfold small at hodd hother
    omega

/-- A small letter is the character with its code point. -/
theorem toNat_small (hrun : run ∈ lowercaseRuns) (h : run.holds n = true) :
    (Char.ofNat (run.small n)).toNat = run.small n := by
  have hsmall := small_le h
  have hvalid := (sound_of_mem_lowercaseRuns hrun).valid
  have hchar : (run.small n).isValidChar := by
    rcases hvalid with hbelow | habove
    · exact .inl (by omega)
    · exact .inr ⟨by omega, by omega⟩
  rw [Char.ofNat, dif_pos hchar]
  rfl

end CaseRun

-- ════════════════════════════════════════════════════════════════════════
-- Lowercase
-- ════════════════════════════════════════════════════════════════════════

/-- A text with all its characters in lowercase. -/
def lowered (text : String) : String :=
  String.ofList (text.toList.flatMap lowercase)

@[simp] theorem toList_lowered (text : String) :
    (lowered text).toList = text.toList.flatMap lowercase := by
  rw [lowered, String.toList_ofList]

/-- What is neither a letter nor a number stays as it is. -/
theorem lowercase_of_not_isAlphanumeric {c : Char} (h : isAlphanumeric c = false) :
    lowercase c = [c] := by
  unfold lowercase
  split
  · next heq =>
    rw [heq] at h
    exact absurd h (by decide)
  · split
    · next run hfind =>
      have hholds := List.find?_some hfind
      have hletter := CaseRun.isAlphanumeric_of_holds (List.mem_of_find?_eq_some hfind) hholds
      rw [h] at hletter
      cases hletter
    · rfl

/-- **The lowercase of a letter or a number** is one again and stays as it is, unless the letter is the
capital I with a dot above. -/
theorem exists_lowercase {c : Char} (h : isAlphanumeric c = true) (hne : c ≠ 'İ') :
    ∃ d, lowercase c = [d] ∧ isAlphanumeric d = true ∧ lowercase d = [d] := by
  cases hfind : lowercaseRuns.find? (·.holds c.toNat) with
  | none =>
    have hself : lowercase c = [c] := by
      rw [lowercase, if_neg hne, hfind]
    exact ⟨c, hself, h, hself⟩
  | some run =>
    have hrun := List.mem_of_find?_eq_some hfind
    have hholds := List.find?_some hfind
    have hsmall := CaseRun.small_le hholds
    have hsound := sound_of_mem_lowercaseRuns hrun
    have hdotless := hsound.not_dotted
    have hpoint := CaseRun.toNat_small hrun hholds
    refine ⟨Char.ofNat (run.small c.toNat), ?_, ?_, ?_⟩
    · rw [lowercase, if_neg hne, hfind]
      rfl
    · apply isAlphanumeric_of_spanned hsound.small_letters
      · rw [hpoint]
        exact hsmall.1
      · rw [hpoint]
        exact hsmall.2
    · have hnone : lowercaseRuns.find? (·.holds (run.small c.toNat)) = none := by
        rw [List.find?_eq_none]
        intro other hother
        have hapart := List.all_eq_true.mp hsound.apart other hother
        rw [CaseRun.holds_small hapart hholds]
        exact Bool.false_ne_true
      have hdot : Char.ofNat (run.small c.toNat) ≠ 'İ' := by
        intro heq
        rw [heq] at hpoint
        have : run.small c.toNat = 0x130 := hpoint.symm
        omega
      rw [lowercase, if_neg hdot, hpoint, hnone]

/-- The letter i is the small letter of I. -/
theorem lowercase_i : isAlphanumeric 'i' = true ∧ lowercase 'i' = ['i'] := by
  obtain ⟨d, hd, halnum, hself⟩ := exists_lowercase (c := 'I') (by decide) (by decide)
  have himage : lowercase 'I' = ['i'] := by decide
  rw [himage, List.singleton_inj] at hd
  rw [hd]
  exact ⟨halnum, hself⟩

theorem lowercase_dottedCapital : lowercase 'İ' = ['i', '\u0307'] := by
  rw [lowercase, if_pos rfl]

/-- What a letter or a number becomes: letters and numbers that stay, and one dot. -/
theorem cases_of_mem_lowercase {c d : Char} (h : isAlphanumeric c = true) (hd : d ∈ lowercase c) :
    isAlphanumeric d = true ∧ lowercase d = [d] ∨ d = '\u0307' ∧ c = 'İ' := by
  by_cases hdot : c = 'İ'
  · rw [hdot, lowercase_dottedCapital, List.mem_cons, List.mem_singleton] at hd
    rcases hd with rfl | rfl
    · exact .inl lowercase_i
    · exact .inr ⟨rfl, hdot⟩
  · obtain ⟨e, he, halnum, hlow⟩ := exists_lowercase h hdot
    rw [he, List.mem_singleton] at hd
    rw [hd]
    exact .inl ⟨halnum, hlow⟩

end ArticleMarkup.Text
