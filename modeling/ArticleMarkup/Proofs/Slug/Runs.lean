import ArticleMarkup.Proofs.Slug
import Mathlib.Data.List.Chain

/-!
# Runs of letters and numbers

The one scan that derives a slug against splitting and joining: the text is split at every character
that is neither a letter nor a number, the empty pieces are dropped, and what is left is put in
lowercase and joined by hyphens.

## Main definitions

- `Text.runs` — the longest stretches of letters and numbers of a text
- `HyphensInside` — every hyphen stands between two other characters

## Main statements

- `slugChars_eq_joined` — the scan joins the runs
- `slug_joins_runs` — slugs as joined runs, and where their hyphens stand
-/

namespace ArticleMarkup

namespace Text

/-- What lies between the characters that are neither letters nor numbers. -/
def pieces (cs : List Char) : List (List Char) :=
  cs.splitOnP (!isAlphanumeric ·)

/-- The pieces that hold something. -/
def runsOf (cs : List Char) : List (List Char) :=
  (pieces cs).filter (!·.isEmpty)

/-- The longest stretches of letters and numbers of a text, in order. -/
def runs (text : String) : List String :=
  (runsOf text.toList).map String.ofList

theorem pieces_ne_nil (cs : List Char) : pieces cs ≠ [] :=
  List.splitOnP_ne_nil _ cs

theorem pieces_cons_of_isAlphanumeric {c : Char} {cs : List Char} {p : List Char}
    {ps : List (List Char)} (h : isAlphanumeric c = true) (hcs : pieces cs = p :: ps) :
    pieces (c :: cs) = (c :: p) :: ps := by
  unfold pieces at hcs ⊢
  rw [List.splitOnP_cons_eq_if_modifyHead, if_neg (by simp [h]), hcs]
  rfl

theorem pieces_cons_of_not_isAlphanumeric {c : Char} (cs : List Char)
    (h : isAlphanumeric c = false) : pieces (c :: cs) = [] :: pieces cs := by
  unfold pieces
  rw [List.splitOnP_cons_eq_if_modifyHead, if_pos (by simp [h])]

theorem runsOf_cons_of_not_isAlphanumeric {c : Char} (cs : List Char)
    (h : isAlphanumeric c = false) : runsOf (c :: cs) = runsOf cs := by
  rw [runsOf, pieces_cons_of_not_isAlphanumeric cs h]
  rfl

/-- A piece holds letters and numbers only. -/
theorem isAlphanumeric_of_mem_pieces {cs p : List Char} (hp : p ∈ pieces cs) :
    ∀ c ∈ p, isAlphanumeric c = true := by
  induction cs generalizing p with
  | nil =>
    rw [List.mem_singleton.mp hp]
    simp
  | cons c cs ih =>
    cases h : isAlphanumeric c with
    | false =>
      rw [pieces_cons_of_not_isAlphanumeric cs h] at hp
      rcases List.mem_cons.mp hp with rfl | hp
      · simp
      · exact ih hp
    | true =>
      obtain ⟨q, qs, hq⟩ := List.exists_cons_of_ne_nil (pieces_ne_nil cs)
      rw [pieces_cons_of_isAlphanumeric h hq] at hp
      rcases List.mem_cons.mp hp with rfl | hp
      · exact List.forall_mem_cons.mpr ⟨h, ih (hq ▸ List.mem_cons_self)⟩
      · exact ih (hq ▸ List.mem_cons_of_mem q hp)

theorem ne_nil_of_mem_runsOf {cs r : List Char} (hr : r ∈ runsOf cs) : r ≠ [] := by
  simpa using (List.mem_filter.mp hr).2

theorem isAlphanumeric_of_mem_runsOf {cs r : List Char} (hr : r ∈ runsOf cs) :
    ∀ c ∈ r, isAlphanumeric c = true :=
  isAlphanumeric_of_mem_pieces (List.mem_filter.mp hr).1

theorem lowercase_ne_nil (c : Char) : lowercase c ≠ [] := by
  unfold lowercase
  split
  · simp
  · split <;> simp

theorem flatMap_lowercase_ne_nil {r : List Char} (h : r ≠ []) : r.flatMap lowercase ≠ [] := by
  obtain ⟨c, r, rfl⟩ := List.exists_cons_of_ne_nil h
  simp [lowercase_ne_nil]

/-- No letter or number becomes a hyphen. -/
theorem hyphen_not_mem_lowercase {c : Char} (h : isAlphanumeric c = true) : '-' ∉ lowercase c := by
  intro hmem
  rcases cases_of_mem_lowercase h hmem with ⟨halnum, -⟩ | ⟨hdot, -⟩
  · exact absurd halnum (by decide)
  · exact absurd hdot (by decide)

end Text

-- ════════════════════════════════════════════════════════════════════════
-- The scan
-- ════════════════════════════════════════════════════════════════════════

/-- Runs in lowercase, joined by hyphens. -/
def joined (rs : List (List Char)) : List Char :=
  ['-'].intercalate (rs.map (·.flatMap Text.lowercase))

theorem joined_singleton (r : List Char) : joined [r] = r.flatMap Text.lowercase := by
  simp [joined]

theorem joined_cons_cons (r q : List Char) (rs : List (List Char)) :
    joined (r :: q :: rs) = r.flatMap Text.lowercase ++ '-' :: joined (q :: rs) := by
  simp [joined]

theorem joined_cons (r : List Char) (rs : List (List Char)) :
    joined (r :: rs) = r.flatMap Text.lowercase ++ rs.flatMap ('-' :: ·.flatMap Text.lowercase) := by
  induction rs generalizing r with
  | nil => simp [joined_singleton]
  | cons q rs ih => rw [joined_cons_cons, ih, List.flatMap_cons, List.cons_append]

/-- The scan inside a run and behind one: it finishes the first piece, and every run that follows gets
a hyphen in front. -/
theorem slugChars_started {cs p : List Char} {ps : List (List Char)}
    (hcs : Text.pieces cs = p :: ps) :
    slugChars true false cs = p.flatMap Text.lowercase ++
      (ps.filter (!·.isEmpty)).flatMap ('-' :: ·.flatMap Text.lowercase) ∧
    slugChars true true cs = (Text.runsOf cs).flatMap ('-' :: ·.flatMap Text.lowercase) := by
  induction cs generalizing p ps with
  | nil =>
    cases hcs
    exact ⟨rfl, rfl⟩
  | cons c cs ih =>
    obtain ⟨q, qs, hq⟩ := List.exists_cons_of_ne_nil (Text.pieces_ne_nil cs)
    obtain ⟨hinside, hbehind⟩ := ih hq
    cases h : Text.isAlphanumeric c with
    | true =>
      have hpieces := Text.pieces_cons_of_isAlphanumeric h hq
      rw [hpieces] at hcs
      cases hcs
      rw [Text.runsOf, hpieces]
      simp [slugChars, h, hinside]
    | false =>
      have hskip (gap : Bool) : slugChars true gap (c :: cs) = slugChars true true cs := by
        simp [slugChars, h]
      rw [Text.pieces_cons_of_not_isAlphanumeric cs h] at hcs
      cases hcs
      rw [hskip, hskip, Text.runsOf_cons_of_not_isAlphanumeric cs h]
      exact ⟨hbehind, hbehind⟩

/-- **The scan joins the runs.** -/
theorem slugChars_eq_joined (gap : Bool) (cs : List Char) :
    slugChars false gap cs = joined (Text.runsOf cs) := by
  induction cs generalizing gap with
  | nil => rfl
  | cons c cs ih =>
    cases h : Text.isAlphanumeric c with
    | true =>
      obtain ⟨q, qs, hq⟩ := List.exists_cons_of_ne_nil (Text.pieces_ne_nil cs)
      rw [Text.runsOf, Text.pieces_cons_of_isAlphanumeric h hq, List.filter_cons_of_pos rfl,
        joined_cons]
      simp [slugChars, h, (slugChars_started hq).1]
    | false =>
      rw [Text.runsOf_cons_of_not_isAlphanumeric cs h, ← ih true]
      simp [slugChars, h]

theorem joined_cons_ne_nil {r : List Char} (h : r ≠ []) (rs : List (List Char)) :
    joined (r :: rs) ≠ [] := by
  rw [joined_cons]
  exact List.append_ne_nil_of_left_ne_nil (Text.flatMap_lowercase_ne_nil h) _

theorem slug_of_no_runs {text : String} (h : Text.runsOf text.toList = []) :
    slug text = "section" := by
  rw [slug, slugChars_eq_joined, h]
  rfl

theorem toList_slug {text : String} (h : Text.runsOf text.toList ≠ []) :
    (slug text).toList = joined (Text.runsOf text.toList) := by
  obtain ⟨r, rs, hruns⟩ := List.exists_cons_of_ne_nil h
  have hr : r ≠ [] := Text.ne_nil_of_mem_runsOf (hruns ▸ List.mem_cons_self)
  have hne : joined (Text.runsOf text.toList) ≠ [] := hruns ▸ joined_cons_ne_nil hr rs
  rw [slug, slugChars_eq_joined]
  split
  · next heq => exact absurd heq hne
  · rw [String.toList_ofList]

-- ════════════════════════════════════════════════════════════════════════
-- Hyphens
-- ════════════════════════════════════════════════════════════════════════

/-- Every hyphen stands between two other characters. -/
structure HyphensInside (cs : List Char) : Prop where
  head : cs.head? ≠ some '-'
  last : cs.getLast? ≠ some '-'
  apart : cs.IsChain fun a b => ¬(a = '-' ∧ b = '-')

theorem hyphensInside_of_not_mem {cs : List Char} (h : '-' ∉ cs) : HyphensInside cs where
  head := fun hhead => h (List.mem_of_head? hhead)
  last := fun hlast => h (List.mem_of_getLast? hlast)
  apart := by
    apply List.Pairwise.isChain
    refine List.pairwise_of_forall_mem_list fun a ha b _ hab => ?_
    exact h (hab.1 ▸ ha)

theorem HyphensInside.append_hyphen {front back : List Char} (hfront : HyphensInside front)
    (hback : HyphensInside back) (hne : front ≠ []) (hne' : back ≠ []) :
    HyphensInside (front ++ '-' :: back) where
  head := by
    rw [List.head?_append_of_ne_nil _ hne]
    exact hfront.head
  last := by
    rw [List.getLast?_append_cons, List.getLast?_cons_of_ne_nil hne']
    exact hback.last
  apart := by
    refine List.isChain_append.mpr ⟨hfront.apart, ?_, ?_⟩
    · refine List.isChain_cons.mpr ⟨?_, hback.apart⟩
      rintro b hb ⟨-, rfl⟩
      exact hback.head hb
    · rintro a ha b - ⟨rfl, -⟩
      exact hfront.last ha

/-- Two hyphens never stand side by side. -/
theorem HyphensInside.not_infix {cs : List Char} (h : HyphensInside cs) : ¬['-', '-'] <:+: cs := by
  intro hinfix
  have hpair := h.apart.infix hinfix
  simp at hpair

/-- The letters and numbers of a run hold no hyphen, so the only ones are those between two runs. -/
theorem hyphensInside_joined {rs : List (List Char)}
    (h : ∀ r ∈ rs, r ≠ [] ∧ ∀ c ∈ r, Text.isAlphanumeric c = true) : HyphensInside (joined rs) := by
  induction rs with
  | nil => exact hyphensInside_of_not_mem List.not_mem_nil
  | cons r rs ih =>
    obtain ⟨⟨hr, halnum⟩, hrs⟩ := List.forall_mem_cons.mp h
    have hrun : HyphensInside (r.flatMap Text.lowercase) := by
      apply hyphensInside_of_not_mem
      intro hmem
      obtain ⟨c, hc, hhyphen⟩ := List.mem_flatMap.mp hmem
      exact Text.hyphen_not_mem_lowercase (halnum c hc) hhyphen
    cases rs with
    | nil =>
      rw [joined_singleton]
      exact hrun
    | cons q rs =>
      rw [joined_cons_cons]
      exact hrun.append_hyphen (ih hrs) (Text.flatMap_lowercase_ne_nil hr)
        (joined_cons_ne_nil (hrs q List.mem_cons_self).1 rs)

theorem hyphensInside_slug (text : String) : HyphensInside (slug text).toList := by
  by_cases h : Text.runsOf text.toList = []
  · rw [slug_of_no_runs h]
    exact hyphensInside_of_not_mem (by decide)
  · rw [toList_slug h]
    apply hyphensInside_joined
    intro r hr
    exact ⟨Text.ne_nil_of_mem_runsOf hr, Text.isAlphanumeric_of_mem_runsOf hr⟩

-- ════════════════════════════════════════════════════════════════════════
-- Slugs
-- ════════════════════════════════════════════════════════════════════════

/-- The lowercase runs of a text, joined as strings. -/
theorem toList_joinWith_runs (text : String) :
    (Text.joinWith "-" ((Text.runs text).map Text.lowered)).toList =
      joined (Text.runsOf text.toList) := by
  have hlow : (String.toList ∘ Text.lowered) ∘ String.ofList = (·.flatMap Text.lowercase) := by
    funext r
    simp
  rw [Text.joinWith, String.toList_intercalate, Text.runs, List.map_map, List.map_map, hlow]
  rfl

/-- **A slug joins the runs of its text**: the longest stretches of letters and numbers, in lowercase
and in order, with one hyphen between two of them, or `section` where there are none. So it is not
empty, no hyphen stands at an end, and no two stand side by side. -/
theorem slug_joins_runs (text : String) :
    slug text = (if Text.runs text = [] then "section"
      else Text.joinWith "-" ((Text.runs text).map Text.lowered)) ∧
    slug text ≠ "" ∧ (slug text).toList.head? ≠ some '-' ∧
    (slug text).toList.getLast? ≠ some '-' ∧ ¬['-', '-'] <:+: (slug text).toList := by
  have hhyphens := hyphensInside_slug text
  refine ⟨?_, slug_ne_empty text, hhyphens.head, hhyphens.last, hhyphens.not_infix⟩
  by_cases h : Text.runsOf text.toList = []
  · rw [slug_of_no_runs h, if_pos (by rw [Text.runs, h]; rfl)]
  · rw [if_neg (by simpa [Text.runs] using h)]
    apply String.toList_inj.mp
    rw [toList_slug h, toList_joinWith_runs]

end ArticleMarkup
