import ArticleMarkup.Proofs.Slug.Runs

/-!
# Slugs of slugs

A slug is made of hyphens, letters and numbers and is its own slug, unless the text holds the capital I
with a dot above. Its small letter is an `i` with a dot behind it, and this dot, which is neither a
letter nor a number, stands in the slug and falls out of the slug of the slug.

## Main statements

- `slug_slug` — the slug of a slug is the slug of the text in lowercase
- `slug_stable_iff` — the texts with a stable slug
-/

namespace ArticleMarkup

namespace Text

-- ════════════════════════════════════════════════════════════════════════
-- Runs of lowercase texts
-- ════════════════════════════════════════════════════════════════════════

theorem runsOf_append_cons (front : List Char) {c : Char} (h : isAlphanumeric c = false)
    (back : List Char) : runsOf (front ++ c :: back) = runsOf front ++ runsOf back := by
  unfold runsOf pieces
  rw [List.splitOnP_append_cons front back (by simp [h]), List.filter_append]

theorem runsOf_of_forall {cs : List Char} (hne : cs ≠ [])
    (h : ∀ c ∈ cs, isAlphanumeric c = true) : runsOf cs = [cs] := by
  unfold runsOf pieces
  rw [List.splitOnP_eq_singleton (fun c hc => by simp [h c hc])]
  simp [hne]

/-- The runs hold the letters and numbers of the text. -/
theorem flatten_runsOf (cs : List Char) : (runsOf cs).flatten = cs.filter isAlphanumeric := by
  induction cs with
  | nil => rfl
  | cons c cs ih =>
    cases h : isAlphanumeric c with
    | false =>
      rw [runsOf_cons_of_not_isAlphanumeric cs h, ih, List.filter_cons_of_neg (by simp [h])]
    | true =>
      obtain ⟨q, qs, hq⟩ := List.exists_cons_of_ne_nil (pieces_ne_nil cs)
      rw [runsOf, hq] at ih
      rw [runsOf, pieces_cons_of_isAlphanumeric h hq, List.filter_cons_of_pos h, ← ih]
      cases q <;> simp

/-- Runs of letters and numbers in lowercase, split again where a letter has left them. -/
def resplit (rs : List (List Char)) : List (List Char) :=
  rs.flatMap fun r => runsOf (r.flatMap lowercase)

theorem resplit_cons (r : List Char) (rs : List (List Char)) :
    resplit (r :: rs) = runsOf (r.flatMap lowercase) ++ resplit rs :=
  List.flatMap_cons

theorem resplit_singleton (r : List Char) : resplit [r] = runsOf (r.flatMap lowercase) := by
  rw [resplit, List.flatMap_singleton]

theorem resplit_append (rs qs : List (List Char)) :
    resplit (rs ++ qs) = resplit rs ++ resplit qs :=
  List.flatMap_append

theorem runsOf_joined (rs : List (List Char)) : runsOf (joined rs) = resplit rs := by
  have hhyphen : isAlphanumeric '-' = false := by decide
  induction rs with
  | nil => rfl
  | cons r rs ih =>
    cases rs with
    | nil => rw [joined_singleton, resplit_singleton]
    | cons q rs => rw [joined_cons_cons, runsOf_append_cons _ hhyphen, ih, ← resplit_cons]

theorem runsOf_lowercase_run {r : List Char} (h : ∀ c ∈ r, isAlphanumeric c = true) :
    runsOf (r.flatMap lowercase) = resplit (runsOf r) := by
  by_cases hne : r = []
  · rw [hne]
    rfl
  · rw [runsOf_of_forall hne h, resplit_singleton]

/-- Lowercase changes a text run by run. The run in `front` may go on in the rest of the text. -/
theorem runsOf_lowercase_append (front cs : List Char)
    (h : ∀ c ∈ front, isAlphanumeric c = true) :
    runsOf ((front ++ cs).flatMap lowercase) = resplit (runsOf (front ++ cs)) := by
  induction cs generalizing front with
  | nil =>
    rw [List.append_nil]
    exact runsOf_lowercase_run h
  | cons c cs ih =>
    cases hc : isAlphanumeric c with
    | true =>
      rw [List.append_cons]
      apply ih
      intro d hd
      rcases List.mem_append.mp hd with hd | hd
      · exact h d hd
      · rw [List.mem_singleton.mp hd]
        exact hc
    | false =>
      have hrest := ih [] (List.forall_mem_nil _)
      rw [List.nil_append] at hrest
      rw [List.flatMap_append, List.flatMap_cons, lowercase_of_not_isAlphanumeric hc,
        List.singleton_append, runsOf_append_cons _ hc, runsOf_append_cons _ hc,
        runsOf_lowercase_run h, hrest, ← resplit_append]

theorem runsOf_lowercase (cs : List Char) :
    runsOf (cs.flatMap lowercase) = resplit (runsOf cs) :=
  runsOf_lowercase_append [] cs (List.forall_mem_nil _)

/-- Without a capital I with a dot above, a run in lowercase is one run and stays as it is. -/
theorem lowercase_run {r : List Char} (h : ∀ c ∈ r, isAlphanumeric c = true) (hdot : 'İ' ∉ r) :
    (∀ d ∈ r.flatMap lowercase, isAlphanumeric d = true) ∧
    (r.flatMap lowercase).flatMap lowercase = r.flatMap lowercase := by
  induction r with
  | nil => exact ⟨List.forall_mem_nil _, rfl⟩
  | cons c r ih =>
    obtain ⟨hc, hr⟩ := List.forall_mem_cons.mp h
    rw [List.mem_cons, not_or] at hdot
    obtain ⟨halnum, hlow⟩ := ih hr hdot.2
    obtain ⟨d, hd, hdalnum, hdlow⟩ := exists_lowercase hc (Ne.symm hdot.1)
    rw [List.flatMap_cons, hd, List.singleton_append]
    refine ⟨List.forall_mem_cons.mpr ⟨hdalnum, halnum⟩, ?_⟩
    rw [List.flatMap_cons, hdlow, hlow, List.singleton_append]

end Text

/-- Without a capital I with a dot above, runs in lowercase are not split again, and lowercase changes
them once only. -/
theorem joined_resplit {cs : List Char} (hdot : 'İ' ∉ cs) :
    joined (Text.resplit (Text.runsOf cs)) = joined (Text.runsOf cs) := by
  have hrun : ∀ r ∈ Text.runsOf cs, (∀ d ∈ r.flatMap Text.lowercase, Text.isAlphanumeric d = true) ∧
      (r.flatMap Text.lowercase).flatMap Text.lowercase = r.flatMap Text.lowercase := by
    intro r hr
    apply Text.lowercase_run (Text.isAlphanumeric_of_mem_runsOf hr)
    intro hmem
    have hflat : 'İ' ∈ (Text.runsOf cs).flatten := List.mem_flatten.mpr ⟨r, hr, hmem⟩
    rw [Text.flatten_runsOf] at hflat
    exact hdot (List.mem_filter.mp hflat).1
  have hsplit : Text.resplit (Text.runsOf cs) =
      (Text.runsOf cs).map (·.flatMap Text.lowercase) := by
    rw [List.map_eq_flatMap]
    apply List.flatMap_congr
    intro r hr
    have hne := Text.flatMap_lowercase_ne_nil (Text.ne_nil_of_mem_runsOf hr)
    exact Text.runsOf_of_forall hne (hrun r hr).1
  rw [hsplit, joined, joined, List.map_map]
  congr 1
  apply List.map_congr_left
  intro r hr
  exact (hrun r hr).2

theorem slug_congr {text other : String}
    (h : joined (Text.runsOf text.toList) = joined (Text.runsOf other.toList)) :
    slug text = slug other := by
  rw [slug, slug, slugChars_eq_joined, slugChars_eq_joined, h]

theorem slug_section : slug "section" = "section" := by
  decide +kernel

/-- **The slug of a slug** is the slug of the text in lowercase. -/
theorem slug_slug (text : String) : slug (slug text) = slug (Text.lowered text) := by
  by_cases h : Text.runsOf text.toList = []
  · have hlow : Text.runsOf (Text.lowered text).toList = [] := by
      rw [Text.toList_lowered, Text.runsOf_lowercase, h]
      rfl
    rw [slug_of_no_runs h, slug_of_no_runs hlow, slug_section]
  · apply slug_congr
    rw [toList_slug h, Text.runsOf_joined, Text.toList_lowered, Text.runsOf_lowercase]

theorem slug_lowered {text : String} (hdot : 'İ' ∉ text.toList) :
    slug (Text.lowered text) = slug text := by
  apply slug_congr
  rw [Text.toList_lowered, Text.runsOf_lowercase, joined_resplit hdot]

-- ════════════════════════════════════════════════════════════════════════
-- Characters
-- ════════════════════════════════════════════════════════════════════════

theorem mem_joined_of_mem {rs : List (List Char)} {c d : Char} (hc : c ∈ rs.flatten)
    (hd : d ∈ Text.lowercase c) : d ∈ joined rs := by
  cases rs with
  | nil => cases hc
  | cons r rs =>
    rw [joined_cons]
    simp only [List.flatten_cons, List.mem_append, List.mem_flatten] at hc
    simp only [List.mem_append, List.mem_flatMap, List.mem_cons]
    rcases hc with hc | ⟨q, hq, hc⟩
    · exact .inl ⟨c, hc, hd⟩
    · exact .inr ⟨q, hq, .inr ⟨c, hc, hd⟩⟩

theorem cases_of_mem_joined {rs : List (List Char)} {d : Char} (h : d ∈ joined rs) :
    d = '-' ∨ ∃ c ∈ rs.flatten, d ∈ Text.lowercase c := by
  cases rs with
  | nil => cases h
  | cons r rs =>
    rw [joined_cons] at h
    simp only [List.mem_append, List.mem_flatMap, List.mem_cons] at h
    simp only [List.flatten_cons, List.mem_append, List.mem_flatten]
    rcases h with ⟨c, hc, hd⟩ | ⟨q, hq, rfl | ⟨c, hc, hd⟩⟩
    · exact .inr ⟨c, .inl hc, hd⟩
    · exact .inl rfl
    · exact .inr ⟨c, .inr ⟨q, hq, hc⟩, hd⟩

/-- A slug holds hyphens, letters and numbers, and a dot above where its text has a capital I with
one. -/
theorem cases_of_mem_slug {text : String} {d : Char} (h : d ∈ (slug text).toList) :
    d ≠ 'İ' ∧ (d = '-' ∨ Text.isAlphanumeric d = true ∨ d = '\u0307' ∧ 'İ' ∈ text.toList) := by
  by_cases hruns : Text.runsOf text.toList = []
  · rw [slug_of_no_runs hruns] at h
    have hsection : "section".toList.all (fun d => d != 'İ' && Text.isAlphanumeric d) = true := by
      decide
    have hd := List.all_eq_true.mp hsection d h
    simp only [Bool.and_eq_true, bne_iff_ne] at hd
    exact ⟨hd.1, .inr (.inl hd.2)⟩
  · rw [toList_slug hruns] at h
    rcases cases_of_mem_joined h with rfl | ⟨c, hc, hd⟩
    · exact ⟨by decide, .inl rfl⟩
    rw [Text.flatten_runsOf, List.mem_filter] at hc
    rcases Text.cases_of_mem_lowercase hc.2 hd with ⟨halnum, hlow⟩ | ⟨rfl, rfl⟩
    · refine ⟨?_, .inr (.inl halnum)⟩
      rintro rfl
      rw [Text.lowercase_dottedCapital] at hlow
      cases hlow
    · exact ⟨by decide, .inr (.inr ⟨rfl, hc.1⟩)⟩

/-- The dot of a capital I with a dot above stands in the slug. -/
theorem dot_mem_slug {text : String} (h : 'İ' ∈ text.toList) : '\u0307' ∈ (slug text).toList := by
  have hletter : Text.isAlphanumeric 'İ' = true := by decide
  have hflat : 'İ' ∈ (Text.runsOf text.toList).flatten := by
    rw [Text.flatten_runsOf]
    exact List.mem_filter.mpr ⟨h, hletter⟩
  have hruns : Text.runsOf text.toList ≠ [] := by
    intro hnil
    rw [hnil] at hflat
    cases hflat
  rw [toList_slug hruns]
  apply mem_joined_of_mem hflat
  rw [Text.lowercase_dottedCapital]
  decide

theorem dot_not_isAlphanumeric : Text.isAlphanumeric '\u0307' = false := by
  decide +kernel

/-- The dot stands in a slug for nothing else. -/
theorem dot_mem_slug_iff (text : String) : '\u0307' ∈ (slug text).toList ↔ 'İ' ∈ text.toList := by
  refine ⟨fun hdot => ?_, dot_mem_slug⟩
  rcases (cases_of_mem_slug hdot).2 with hhyphen | halnum | ⟨-, hmem⟩
  · exact absurd hhyphen (by decide)
  · rw [dot_not_isAlphanumeric] at halnum
    cases halnum
  · exact hmem

theorem dottedCapital_not_mem_slug (text : String) : 'İ' ∉ (slug text).toList :=
  fun h => (cases_of_mem_slug h).1 rfl

/-- The dot is no hyphen, no letter and no number. -/
theorem exists_mem_slug_of_dottedCapital {text : String} (h : 'İ' ∈ text.toList) :
    ¬∀ d ∈ (slug text).toList, d = '-' ∨ Text.isAlphanumeric d = true := by
  intro hchars
  rcases hchars _ (dot_mem_slug h) with hhyphen | halnum
  · exact absurd hhyphen (by decide)
  · rw [dot_not_isAlphanumeric] at halnum
    cases halnum

/-- The slug of a slug holds no dot. -/
theorem slug_slug_ne_of_dottedCapital {text : String} (h : 'İ' ∈ text.toList) :
    slug (slug text) ≠ slug text := by
  intro heq
  have hdot := dot_mem_slug h
  rw [← heq, dot_mem_slug_iff] at hdot
  exact dottedCapital_not_mem_slug text hdot

/-- **Stable slugs.** The slug of a text is made of hyphens, letters and numbers, and is its own slug,
exactly when the text holds no capital I with a dot above. Otherwise the dot is the only other
character, and the slug of the slug, which has lost it, is stable. -/
theorem slug_stable_iff (text : String) :
    ((∀ d ∈ (slug text).toList, d = '-' ∨ Text.isAlphanumeric d = true) ↔ 'İ' ∉ text.toList) ∧
    (slug (slug text) = slug text ↔ 'İ' ∉ text.toList) ∧
    (∀ d ∈ (slug text).toList, d = '-' ∨ Text.isAlphanumeric d = true ∨ d = '\u0307') ∧
    slug (slug text) = slug (Text.lowered text) ∧
    slug (slug (slug text)) = slug (slug text) := by
  have hstable {other : String} (h : 'İ' ∉ other.toList) : slug (slug other) = slug other := by
    rw [slug_slug, slug_lowered h]
  refine ⟨⟨fun hchars hdot => exists_mem_slug_of_dottedCapital hdot hchars, ?_⟩,
    ⟨fun heq hdot => slug_slug_ne_of_dottedCapital hdot heq, hstable⟩, ?_, slug_slug text,
    hstable (dottedCapital_not_mem_slug text)⟩
  · intro hdot d hd
    rcases (cases_of_mem_slug hd).2 with hhyphen | halnum | ⟨-, hmem⟩
    · exact .inl hhyphen
    · exact .inr halnum
    · exact absurd hmem hdot
  · intro d hd
    exact (cases_of_mem_slug hd).2.imp_right (.imp_right And.left)

/-- The slug of a single capital I with a dot above is an `i` and a dot, and the slug of that is an
`i`. -/
theorem slug_dottedCapital :
    ¬(∀ d ∈ (slug "İ").toList, d = '-' ∨ Text.isAlphanumeric d = true) ∧
    slug (slug "İ") ≠ slug "İ" := by
  have hdot : 'İ' ∈ "İ".toList := by decide
  exact ⟨exists_mem_slug_of_dottedCapital hdot, slug_slug_ne_of_dottedCapital hdot⟩

end ArticleMarkup
