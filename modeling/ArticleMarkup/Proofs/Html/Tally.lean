import ArticleMarkup.Html.Budget
import Mathlib.Algebra.GroupWithZero.Nat
import Mathlib.Data.List.GetD
import Mathlib.Data.List.Nodup

/-!
# The counters of the budget check

The check of the element budget counts the formatting elements that are open, for each name and
altogether, and stops at the first estimate above the limit. The counters are those of the account, in
which the open elements stand by name. So the check has a threshold, and the threshold is a sum over
the tags of the whole text.

## Main definitions

- `TagAt` — a tag begins at the front of a text
- `Tally.Balanced` — the common counter is the sum of the others
- `Tally.Tracks` — the counters are those of an account
- `unreleased` — the formatting elements that no end tag has released
- `prices` — what each tag adds to the estimate

## Main statements

- `exists_places` — the scanner finds the tags of a text, wherever one begins
- `Tally.Balanced.foldl` — the counters stay balanced
- `Tally.Tracks.foldl` — the counters stay those of the account
- `checkBudget_eq_none_iff` — a text passes exactly the limits that its estimate does not exceed
- `Tally.counters_foldl` — what the counters count
- `elementEstimate_eq` — the estimate is the sum of the prices
-/

namespace ArticleMarkup.Html

-- ════════════════════════════════════════════════════════════════════════
-- The tags of a text
-- ════════════════════════════════════════════════════════════════════════

/-- The name of a tag stands at the front of a text: a letter, and the letters and digits that follow
it. It is told in lowercase. -/
def NameAt (cs : List Char) (name : String) : Prop :=
  ∃ c run rest, cs = c :: (run ++ rest) ∧ Text.isAsciiLetter c = true ∧
    (∀ d ∈ run, Text.isAsciiAlnum d = true) ∧ (∀ d ∈ rest.head?, Text.isAsciiAlnum d = false) ∧
    name = String.ofList ((c :: run).map Char.toLower)

/-- **A tag begins at the front of a text**: a `<`, a `/` if it is an end tag, and its name. -/
def TagAt (cs : List Char) (tag : TagMark) : Prop :=
  ∃ rest, cs = '<' :: ((if tag.closing then ['/'] else []) ++ rest) ∧ NameAt rest tag.name

theorem nameAt_cons_iff {c : Char} {cs : List Char} {name : String} :
    NameAt (c :: cs) name ↔ Text.isAsciiLetter c = true ∧
      String.ofList (((c :: cs).takeWhile Text.isAsciiAlnum).map Char.toLower) = name := by
  have hfirst : Text.isAsciiLetter c = true →
      (c :: cs).takeWhile Text.isAsciiAlnum = c :: cs.takeWhile Text.isAsciiAlnum := by
    intro hc
    exact List.takeWhile_cons_of_pos (by simp [Text.isAsciiAlnum, hc])
  constructor
  · rintro ⟨d, run, rest, heq, hc, hrun, hrest, rfl⟩
    cases heq
    have hname : (run ++ rest).takeWhile Text.isAsciiAlnum = run := by
      rw [List.takeWhile_append_of_pos hrun]
      cases rest with
      | nil => simp
      | cons d rest =>
        have hd : Text.isAsciiAlnum d = false := hrest d rfl
        rw [List.takeWhile_cons_of_neg (by simp [hd]), List.append_nil]
    exact ⟨hc, by rw [hfirst hc, hname]⟩
  · rintro ⟨hc, rfl⟩
    refine ⟨c, cs.takeWhile Text.isAsciiAlnum, cs.dropWhile Text.isAsciiAlnum, ?_, hc,
      fun d hd => List.all_eq_true.mp List.all_takeWhile d hd, ?_, by rw [hfirst hc]⟩
    · rw [List.takeWhile_append_dropWhile]
    · intro d hd
      have hstop := List.head?_dropWhile_not Text.isAsciiAlnum cs
      rw [Option.mem_def.mp hd] at hstop
      exact hstop

theorem tagMark?_slash_iff {cs : List Char} {tag : TagMark} :
    tagMark? ('/' :: cs) = some tag ↔ tag.closing = true ∧ NameAt cs tag.name := by
  obtain ⟨closing, name⟩ := tag
  cases cs with
  | nil => simp [tagMark?, NameAt]
  | cons c cs =>
    rw [nameAt_cons_iff]
    by_cases hc : Text.isAsciiLetter c = true <;> cases closing <;> simp [tagMark?, hc]

theorem tagMark?_iff_of_ne {cs : List Char} {tag : TagMark} (h : ∀ rest, cs ≠ '/' :: rest) :
    tagMark? cs = some tag ↔ tag.closing = false ∧ NameAt cs tag.name := by
  obtain ⟨closing, name⟩ := tag
  cases cs with
  | nil => simp [tagMark?, NameAt]
  | cons c cs =>
    rw [nameAt_cons_iff]
    by_cases hc : Text.isAsciiLetter c = true <;> cases closing <;> simp [tagMark?, hc]

/-- **The scanner finds the tags**: what it makes of the text behind a `<`. -/
theorem tagMark?_eq_some_iff {cs : List Char} {tag : TagMark} :
    tagMark? cs = some tag ↔ TagAt ('<' :: cs) tag := by
  -- a name does not begin with a slash
  have hname : ∀ rest name, ¬ NameAt ('/' :: rest) name := by
    intro rest name h
    cases (nameAt_cons_iff.mp h).1
  obtain ⟨closing, name⟩ := tag
  by_cases hslash : ∃ rest, cs = '/' :: rest
  · obtain ⟨rest, rfl⟩ := hslash
    rw [tagMark?_slash_iff]
    cases closing <;> simp [TagAt, hname]
  · rw [tagMark?_iff_of_ne (by simpa using hslash)]
    cases closing with
    | true => simpa [TagAt] using fun rest heq => absurd ⟨rest, heq⟩ hslash
    | false => simp [TagAt]

/-- **The tags of a text, with their places.** They are found in order, one wherever a tag begins. -/
theorem exists_places (cs : List Char) :
    ∃ places : List (Nat × TagMark), places.Pairwise (·.1 < ·.1) ∧
      (∀ i tag, (i, tag) ∈ places ↔ TagAt (cs.drop i) tag) ∧ places.map Prod.snd = tagsOf cs := by
  induction cs with
  | nil => exact ⟨[], .nil, by simp [TagAt], rfl⟩
  | cons c cs ih =>
    obtain ⟨places, hsorted, hmem, htags⟩ := ih
    let first := if c = '<' then tagMark? cs else none
    have hfirst : ∀ tag, first = some tag ↔ TagAt (c :: cs) tag := by
      intro tag
      by_cases hc : c = '<'
      · subst hc
        exact tagMark?_eq_some_iff
      · simp [first, hc, TagAt]
    have hcons : tagsOf (c :: cs) = first.toList ++ tagsOf cs := by
      by_cases hc : c = '<' <;> simp [tagsOf, first, hc]
    refine ⟨first.toList.map (0, ·) ++ places.map fun p => (p.1 + 1, p.2), ?_, ?_, ?_⟩
    · rw [List.pairwise_append, List.pairwise_map, List.pairwise_map]
      refine ⟨?_, hsorted.imp fun h => Nat.add_lt_add_right h 1, ?_⟩
      · cases first <;> simp
      · intro p hp q hq
        obtain ⟨tag, -, rfl⟩ := List.mem_map.mp hp
        obtain ⟨place, -, rfl⟩ := List.mem_map.mp hq
        exact Nat.succ_pos _
    · intro i tag
      cases i with
      | zero => simp [← hfirst]
      | succ i => simp [← hmem]
    · rw [hcons, ← htags]
      simp [Function.comp_def]
-- ════════════════════════════════════════════════════════════════════════
-- Slots
-- ════════════════════════════════════════════════════════════════════════

theorem nodup_formattingTags : formattingTags.Nodup := by
  decide

theorem slot?_eq_some {name : String} {slot : Nat} (h : slot? name = some slot) :
    ∃ hlt : slot < formattingTags.length, formattingTags[slot] = name := by
  obtain ⟨hlt, hname, -⟩ := List.idxOf?_eq_some_iff.mp h
  exact ⟨hlt, hname⟩

theorem mem_of_slot? {name : String} {slot : Nat} (h : slot? name = some slot) :
    name ∈ formattingTags := by
  obtain ⟨hlt, rfl⟩ := slot?_eq_some h
  exact List.getElem_mem hlt

theorem not_mem_of_slot? {name : String} (h : slot? name = none) : name ∉ formattingTags :=
  List.idxOf?_eq_none_iff.mp h

/-- A change at the place of a name changes what is counted for that name. -/
theorem modify_map_formattingTags {name : String} {slot : Nat} (h : slot? name = some slot)
    (count : String → Nat) (f : Nat → Nat) :
    (formattingTags.map count).modify slot f =
      formattingTags.map fun n => if n = name then f (count n) else count n := by
  obtain ⟨hlt, rfl⟩ := slot?_eq_some h
  apply List.ext_getElem
  · simp
  · intro j hj _
    have hj' : j < formattingTags.length := by simpa using hj
    have hsame : formattingTags[j] = formattingTags[slot] ↔ slot = j :=
      nodup_formattingTags.getElem_inj_iff.trans eq_comm
    simp only [List.getElem_modify, List.getElem_map, hsame]

theorem sum_modify {counters : List Nat} {slot : Nat} (h : slot < counters.length) (f : Nat → Nat) :
    (counters.modify slot f).sum + counters[slot] = counters.sum + f counters[slot] := by
  induction counters generalizing slot with
  | nil => exact absurd h (Nat.not_lt_zero _)
  | cons n counters ih =>
    cases slot with
    | zero =>
      simp only [List.modify_zero_cons, List.sum_cons, List.getElem_cons_zero]
      omega
    | succ slot =>
      have hrest := ih (Nat.lt_of_succ_lt_succ h)
      simp only [List.modify_succ_cons, List.sum_cons, List.getElem_cons_succ]
      omega

namespace Tally

variable {tally : Tally} {name : String} {slot : Nat}

-- ════════════════════════════════════════════════════════════════════════
-- The common counter
-- ════════════════════════════════════════════════════════════════════════

/-- **Balanced counters**: one for each formatting element, and the common counter is their sum. -/
structure Balanced (tally : Tally) : Prop where
  /-- Each formatting element has a counter. -/
  length : tally.unclosed.length = formattingTags.length
  /-- The common counter is the sum. -/
  sum : tally.openFormatting = tally.unclosed.sum

theorem balanced_start : ({} : Tally).Balanced := by
  constructor <;> rfl

/-- **No underflow**: where one counter can be decreased, so can the common counter. -/
theorem Balanced.openFormatting_pos (h : tally.Balanced) (hpos : 0 < tally.unclosed.getD slot 0) :
    0 < tally.openFormatting := by
  have hlt : slot < tally.unclosed.length := by
    by_contra hge
    rw [List.getD_eq_default _ _ (Nat.not_lt.mp hge)] at hpos
    exact Nat.lt_irrefl 0 hpos
  rw [List.getD_eq_getElem _ _ hlt] at hpos
  have hcleared := sum_modify hlt fun _ => 0
  have hopen := h.sum
  omega

theorem Balanced.charge (h : tally.Balanced) (elements : Nat) : (tally.charge elements).Balanced :=
  ⟨h.length, h.sum⟩

theorem Balanced.hold (h : tally.Balanced) (hslot : slot? name = some slot) :
    (tally.hold slot).Balanced := by
  obtain ⟨hlt, -⟩ := slot?_eq_some hslot
  rw [← h.length] at hlt
  have hsum := sum_modify hlt (· + 1)
  have hopen := h.sum
  refine ⟨(List.length_modify _ _ _).trans h.length, ?_⟩
  dsimp only [Tally.hold]
  omega

theorem Balanced.release (h : tally.Balanced) (hslot : slot? name = some slot) :
    (tally.release slot).Balanced := by
  obtain ⟨hlt, -⟩ := slot?_eq_some hslot
  rw [← h.length] at hlt
  unfold Tally.release
  split
  · next hpos =>
    rw [List.getD_eq_getElem _ _ hlt] at hpos
    have hsum := sum_modify hlt (· - 1)
    have hopen := h.sum
    refine ⟨(List.length_modify _ _ _).trans h.length, ?_⟩
    dsimp only
    omega
  · exact h

theorem Balanced.enter (h : tally.Balanced) (tag : TagMark) : (tally.enter tag).Balanced := by
  unfold Tally.enter
  cases hslot : slot? tag.name with
  | none => split <;> exact h.charge _
  | some slot =>
    split
    · exact (h.release hslot).charge _
    · exact (h.charge _).hold hslot

/-- **The counters stay balanced** over any tags. -/
theorem Balanced.foldl (h : tally.Balanced) (tags : List TagMark) :
    (tags.foldl Tally.enter tally).Balanced := by
  induction tags generalizing tally with
  | nil => exact h
  | cons tag tags ih => exact ih (h.enter tag)

-- ════════════════════════════════════════════════════════════════════════
-- The account
-- ════════════════════════════════════════════════════════════════════════

/-- **The counters are those of the account.** -/
structure Tracks (tally : Tally) (account : Account) : Prop where
  /-- Each counter counts the open elements of its name. -/
  unclosed : tally.unclosed = formattingTags.map (account.unclosed.count ·)
  /-- The common counter counts them all. -/
  openFormatting : tally.openFormatting = account.unclosed.length
  /-- The estimates are the same. -/
  estimate : tally.estimate = account.estimate
  /-- Only formatting elements are open. -/
  formatting : ∀ name ∈ account.unclosed, name ∈ formattingTags

variable {account : Account}

theorem tracks_start : ({} : Tally).Tracks {} :=
  ⟨rfl, rfl, rfl, fun _ h => absurd h List.not_mem_nil⟩

theorem Tracks.charge (h : tally.Tracks account) (elements : Nat) : (tally.charge elements).Tracks
    { account with estimate := min (account.estimate + elements) estimateCap } :=
  ⟨h.unclosed, h.openFormatting, by rw [← h.estimate]; rfl, h.formatting⟩

theorem Tracks.hold (h : tally.Tracks account) (hslot : slot? name = some slot) :
    (tally.hold slot).Tracks { account with unclosed := name :: account.unclosed } where
  unclosed := by
    simp only [Tally.hold, h.unclosed, modify_map_formattingTags hslot]
    refine List.map_congr_left fun n _ => ?_
    by_cases hn : n = name
    · rw [if_pos hn, hn, List.count_cons_self]
    · rw [if_neg hn, List.count_cons_of_ne (Ne.symm hn)]
  openFormatting := congrArg (· + 1) h.openFormatting
  estimate := h.estimate
  formatting := List.forall_mem_cons.mpr ⟨mem_of_slot? hslot, h.formatting⟩

theorem Tracks.getD_unclosed (h : tally.Tracks account) (hslot : slot? name = some slot) :
    tally.unclosed.getD slot 0 = account.unclosed.count name := by
  obtain ⟨hlt, rfl⟩ := slot?_eq_some hslot
  rw [h.unclosed, List.getD_eq_getElem _ _ (by simpa using hlt), List.getElem_map]

theorem Tracks.release (h : tally.Tracks account) (hslot : slot? name = some slot) :
    (tally.release slot).Tracks { account with unclosed := account.unclosed.erase name } := by
  unfold Tally.release
  rw [h.getD_unclosed hslot]
  split
  · next hpos =>
    have hmem : name ∈ account.unclosed := List.count_pos_iff.mp hpos
    refine ⟨?_, ?_, h.estimate, fun n hn => h.formatting n (List.mem_of_mem_erase hn)⟩
    · simp only [h.unclosed, modify_map_formattingTags hslot]
      refine List.map_congr_left fun n _ => ?_
      by_cases hn : n = name
      · rw [if_pos hn, hn, List.count_erase_self]
      · rw [if_neg hn, List.count_erase_of_ne hn]
    · simp only [h.openFormatting, List.length_erase_of_mem hmem]
  · next hnone =>
    have hmem : name ∉ account.unclosed := fun hmem => hnone (List.count_pos_iff.mpr hmem)
    rw [List.erase_of_not_mem hmem]
    exact h

theorem Tracks.enter (h : tally.Tracks account) (tag : TagMark) :
    (tally.enter tag).Tracks (account.enter tag) := by
  obtain ⟨closing, name⟩ := tag
  unfold Tally.enter Account.enter
  cases hslot : slot? name with
  | none =>
    -- the account erases names without a slot as well, but it never holds one
    have hname := not_mem_of_slot? hslot
    have hopen : name ∉ account.unclosed := fun hmem => hname (h.formatting name hmem)
    cases closing with
    | true =>
      have hcharge := h.charge account.unclosed.length
      simpa [h.openFormatting, List.erase_of_not_mem hopen] using hcharge
    | false =>
      have hcharge := h.charge (account.unclosed.length + 1)
      simpa [h.openFormatting, hname, Nat.add_assoc] using hcharge
  | some slot =>
    have hname : name ∈ formattingTags := mem_of_slot? hslot
    cases closing with
    | true =>
      have hrelease := h.release hslot
      have hcharge := hrelease.charge (account.unclosed.erase name).length
      simpa [hrelease.openFormatting] using hcharge
    | false =>
      have hhold := (h.charge (account.unclosed.length + 1)).hold hslot
      simpa [h.openFormatting, hname, Nat.add_assoc] using hhold

/-- **The counters stay those of the account** over any tags. -/
theorem Tracks.foldl (h : tally.Tracks account) (tags : List TagMark) :
    (tags.foldl Tally.enter tally).Tracks (tags.foldl Account.enter account) := by
  induction tags generalizing tally account with
  | nil => exact h
  | cons tag tags ih => exact ih (h.enter tag)

-- ════════════════════════════════════════════════════════════════════════
-- The threshold
-- ════════════════════════════════════════════════════════════════════════

theorem estimate_release (tally : Tally) (slot : Nat) :
    (tally.release slot).estimate = tally.estimate := by
  unfold release
  split <;> rfl

theorem exists_estimate_enter (tally : Tally) (tag : TagMark) :
    ∃ elements, (tally.enter tag).estimate = min (tally.estimate + elements) estimateCap := by
  unfold enter
  cases slot? tag.name with
  | none => split <;> exact ⟨_, rfl⟩
  | some slot =>
    split
    · exact ⟨_, by rw [← tally.estimate_release slot]; rfl⟩
    · exact ⟨_, rfl⟩

theorem estimate_le_foldl (h : tally.estimate ≤ estimateCap) (tags : List TagMark) :
    tally.estimate ≤ (tags.foldl enter tally).estimate := by
  induction tags generalizing tally with
  | nil => exact Nat.le_refl _
  | cons tag tags ih =>
    obtain ⟨elements, heq⟩ := tally.exists_estimate_enter tag
    have hrest := @ih (tally.enter tag) (heq ▸ Nat.min_le_right _ _)
    have hone : tally.estimate ≤ (tally.enter tag).estimate := by omega
    exact Nat.le_trans hone hrest

/-- **Where the check stops**: it goes to the end exactly if the last estimate is within the limit, and
what it stops at lies between the limit and the last estimate. -/
theorem firstExcess?_spec {limit : Nat} (hcap : tally.estimate ≤ estimateCap)
    (hlimit : tally.estimate ≤ limit) (tags : List TagMark) :
    (firstExcess? limit tally tags = none ↔ (tags.foldl enter tally).estimate ≤ limit) ∧
      ∀ n, firstExcess? limit tally tags = some n →
        limit < n ∧ n ≤ (tags.foldl enter tally).estimate := by
  induction tags generalizing tally with
  | nil =>
    constructor
    · exact iff_of_true rfl hlimit
    · intro n h
      cases h
  | cons tag tags ih =>
    have hcap' : (tally.enter tag).estimate ≤ estimateCap := by
      obtain ⟨elements, heq⟩ := tally.exists_estimate_enter tag
      exact heq ▸ Nat.min_le_right _ _
    rw [firstExcess?, List.foldl_cons]
    split
    · next hexcess =>
      -- the estimate never falls, so the last one is above the limit as well
      have hrest := estimate_le_foldl hcap' tags
      have hlast := Nat.lt_of_lt_of_le hexcess hrest
      constructor
      · exact iff_of_false (Option.some_ne_none _) (Nat.not_le.mpr hlast)
      · intro n h
        cases h
        exact ⟨hexcess, hrest⟩
    · next hwithin => exact ih hcap' (Nat.not_lt.mp hwithin)

end Tally

theorem estimate_foldl_tally (html : String) :
    ((tagsOf html.toList).foldl Tally.enter {}).estimate = elementEstimate html :=
  (Tally.tracks_start.foldl _).estimate

/-- **A text passes exactly the limits** that its estimate does not exceed. -/
theorem checkBudget_eq_none_iff {html : String} {limit : Nat} :
    checkBudget html limit = none ↔ elementEstimate html ≤ limit := by
  rw [← estimate_foldl_tally]
  exact (Tally.firstExcess?_spec (Nat.zero_le _) (Nat.zero_le _) _).1

/-- The estimate that is reported lies above the limit and within the estimate for the text. -/
theorem lt_of_checkBudget {html : String} {limit n : Nat} (h : checkBudget html limit = some n) :
    limit < n ∧ n ≤ elementEstimate html := by
  rw [← estimate_foldl_tally]
  exact (Tally.firstExcess?_spec (Nat.zero_le _) (Nat.zero_le _) _).2 n h

-- ════════════════════════════════════════════════════════════════════════
-- The estimate as a sum
-- ════════════════════════════════════════════════════════════════════════

/-- What a tag makes of the formatting elements that are open: a start tag of a formatting element opens
it, and an end tag releases one of its name. -/
def release (opened : List String) (tag : TagMark) : List String :=
  if tag.closing then opened.erase tag.name
  else if formattingTags.contains tag.name then tag.name :: opened
  else opened

/-- **The formatting elements that are open** after some tags: their start tags, except those that an
end tag of the same name has released. -/
def unreleased (tags : List TagMark) : List String :=
  tags.foldl release []

/-- **What a tag costs**, behind the tags `before`: an end tag the formatting elements that are open
after it, a start tag those that are open in front of it, and one. -/
def price (before : List TagMark) (tag : TagMark) : Nat :=
  if tag.closing then (unreleased (before ++ [tag])).length else (unreleased before).length + 1

/-- What each of the tags costs. -/
def prices (before : List TagMark) : List TagMark → List Nat
  | [] => []
  | tag :: tags => price before tag :: prices (before ++ [tag]) tags

namespace Account

variable {account : Account} {before : List TagMark}

theorem unclosed_enter (account : Account) (tag : TagMark) :
    (account.enter tag).unclosed = release account.unclosed tag := by
  unfold enter release
  split <;> rfl

theorem unclosed_foldl (account : Account) (tags : List TagMark) :
    (tags.foldl enter account).unclosed = tags.foldl release account.unclosed := by
  induction tags generalizing account with
  | nil => rfl
  | cons tag tags ih => rw [List.foldl_cons, ih, unclosed_enter, List.foldl_cons]

theorem estimate_enter_eq (h : account.unclosed = unreleased before) (tag : TagMark) :
    (account.enter tag).estimate = min (account.estimate + price before tag) estimateCap := by
  unfold enter price unreleased
  rw [List.foldl_concat, ← unreleased, ← h, release]
  split <;> rfl

theorem estimate_foldl_eq (h : account.unclosed = unreleased before)
    (hcap : account.estimate ≤ estimateCap) (tags : List TagMark) :
    (tags.foldl enter account).estimate =
      min (account.estimate + (prices before tags).sum) estimateCap := by
  induction tags generalizing account before with
  | nil => exact (Nat.min_eq_left hcap).symm
  | cons tag tags ih =>
    have hone := estimate_enter_eq h tag
    have hopen : (account.enter tag).unclosed = unreleased (before ++ [tag]) := by
      rw [unclosed_enter, h, unreleased, unreleased, List.foldl_concat]
    have hrest := ih hopen (hone ▸ Nat.min_le_right _ _)
    rw [List.foldl_cons, hrest, hone, prices, List.sum_cons]
    omega

end Account

/-- **The counters after some tags**: how many of each formatting element no end tag has released, and
how many of all. -/
theorem Tally.counters_foldl (tags : List TagMark) :
    (tags.foldl enter {}).unclosed = formattingTags.map ((unreleased tags).count ·) ∧
      (tags.foldl enter {}).openFormatting = (unreleased tags).length := by
  have htracks := tracks_start.foldl tags
  have hopen : (tags.foldl Account.enter {}).unclosed = unreleased tags :=
    Account.unclosed_foldl {} tags
  rw [← hopen]
  exact ⟨htracks.unclosed, htracks.openFormatting⟩

/-- **The estimate is a sum**: that of the prices of all tags, up to the cap. -/
theorem elementEstimate_eq (html : String) :
    elementEstimate html = min (prices [] (tagsOf html.toList)).sum estimateCap := by
  have hsum := @Account.estimate_foldl_eq {} [] rfl (Nat.zero_le _) (tagsOf html.toList)
  rw [elementEstimate, hsum, Nat.zero_add]

end ArticleMarkup.Html
