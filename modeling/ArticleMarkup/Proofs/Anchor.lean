import ArticleMarkup.Anchor
import ArticleMarkup.Proofs.Slug
import Mathlib.Data.List.Nodup
import Mathlib.Data.List.Range

/-!
# Fresh anchors

An anchor is never one that is taken, and taking it takes nothing else. The search for a free number
always ends: fewer numbered ids are taken than there are entries, because the id without a number is
taken as well.

## Main statements

- `Anchors.taken_firstFree` — the number that is found gives a free id
- `Anchors.anchorFor_spec` — the anchor of a text is fresh, and taken afterwards
- `Anchors.reserve_spec` — an id that is reserved is taken afterwards
-/

namespace ArticleMarkup

namespace Table

variable {α : Type}

theorem has_insert (key other : String) (value : α) (t : Table α) :
    (insert key value t).has other = (decide (key = other) || t.has other) := by
  unfold has
  rw [find?_insert]
  by_cases h : key = other <;> simp [h]

theorem mem_keys_of_has {key : String} {t : Table α} (h : t.has key = true) :
    key ∈ t.map Prod.fst := by
  induction t with
  | nil => cases h
  | cons e rest ih =>
    obtain ⟨k, v⟩ := e
    unfold has find? at h
    split at h
    · next hk => exact hk ▸ List.mem_cons_self
    · exact List.mem_cons_of_mem _ (ih h)

end Table

namespace Anchors

variable {a : Anchors} {base : String}

-- ════════════════════════════════════════════════════════════════════════
-- Numbered ids
-- ════════════════════════════════════════════════════════════════════════

theorem toList_numbered (base : String) (n : Nat) :
    (numbered base n).toList = base.toList ++ '-' :: Nat.toDigits 10 n := by
  simp [numbered, Nat.toString_eq_repr, Nat.toList_repr]

theorem numbered_injective (base : String) : Function.Injective (numbered base) := by
  intro m n h
  have hlist := congrArg String.toList h
  rw [toList_numbered, toList_numbered] at hlist
  have hdigits := List.tail_eq_of_cons_eq (List.append_cancel_left hlist)
  have hread := congrArg (fun ds => Nat.ofDigitChars 10 ds 0) hdigits
  simpa using hread

theorem numbered_ne (base : String) (n : Nat) : numbered base n ≠ base := by
  intro h
  have hlength := congrArg (fun s => s.toList.length) h
  simp only [toList_numbered, List.length_append, List.length_cons] at hlength
  omega

/-- A numbered slug is trimmed as the slug is. -/
theorem isTrimmed_numbered_slug (text : String) (n : Nat) :
    Text.IsTrimmed (numbered (slug text) n) := by
  refine Text.isTrimmed_of_forall ?_ ?_
  · intro h
    have := congrArg String.toList h
    simp [toList_numbered] at this
  · intro c hc
    rw [toList_numbered] at hc
    rcases List.mem_append.mp hc with hc | hc
    · exact isBlankChar_of_mem_slug hc
    · rcases List.mem_cons.mp hc with rfl | hc
      · decide
      · exact Text.isBlankChar_of_isDigit (Nat.isDigit_of_mem_toDigits (by decide) (by decide) hc)

-- ════════════════════════════════════════════════════════════════════════
-- The search for a free number
-- ════════════════════════════════════════════════════════════════════════

/-- The search stops at a free number, unless it runs out of fuel. -/
theorem firstFree_cases (a : Anchors) (base : String) (n fuel : Nat) :
    a.taken (numbered base (firstFree a base n fuel)) = false ∨
      ∀ i < fuel, a.taken (numbered base (n + i)) = true := by
  induction fuel generalizing n with
  | zero => exact .inr (by simp)
  | succ fuel ih =>
    unfold firstFree
    split
    · next ht =>
      refine (ih (n + 1)).imp_right fun hall i hi => ?_
      cases i with
      | zero => exact ht
      | succ i =>
        have h := hall i (by omega)
        rwa [Nat.add_right_comm] at h
    · next ht => exact .inl (by simpa using ht)

/-- Among as many numbers as there are entries one is free, if the id without a number is taken. -/
theorem exists_free (h : a.taken base = true) (n : Nat) :
    ∃ i < a.tried.length, a.taken (numbered base (n + i)) = false := by
  by_contra hno
  push Not at hno
  simp only [ne_eq, Bool.not_eq_false] at hno
  -- the id and that many numbered ones would be more keys than there are entries
  let ids := base :: (List.range a.tried.length).map fun i => numbered base (n + i)
  have hnodup : ids.Nodup := by
    refine List.nodup_cons.mpr ⟨?_, ?_⟩
    · intro hmem
      obtain ⟨i, -, hi⟩ := List.mem_map.mp hmem
      exact numbered_ne base _ hi
    · refine List.nodup_range.map fun i j hij => ?_
      have := numbered_injective base hij
      omega
  have hkeys : ids ⊆ a.tried.map Prod.fst := by
    intro id hid
    rcases List.mem_cons.mp hid with rfl | hid
    · exact Table.mem_keys_of_has h
    · obtain ⟨i, hi, rfl⟩ := List.mem_map.mp hid
      exact Table.mem_keys_of_has (hno i (List.mem_range.mp hi))
  have hlength := hnodup.length_le_of_subset hkeys
  simp only [ids, List.length_cons, List.length_map, List.length_range] at hlength
  omega

/-- **The number that is found gives a free id.** -/
theorem taken_firstFree (h : a.taken base = true) (n : Nat) :
    a.taken (numbered base (firstFree a base n a.tried.length)) = false := by
  rcases firstFree_cases a base n a.tried.length with hfree | hall
  · exact hfree
  · obtain ⟨i, hi, hfree⟩ := exists_free h n
    rw [hall i hi] at hfree
    cases hfree

-- ════════════════════════════════════════════════════════════════════════
-- Taking ids
-- ════════════════════════════════════════════════════════════════════════

/-- **The anchor of a text is fresh**: it was not taken, it is the only id that is taken on top, and
it has no blank ends. -/
theorem anchorFor_spec (a : Anchors) (text : String) :
    a.taken (a.anchorFor text).1 = false ∧ Text.IsTrimmed (a.anchorFor text).1 ∧
      ∀ id, (a.anchorFor text).2.taken id = true ↔
        id = (a.anchorFor text).1 ∨ a.taken id = true := by
  unfold anchorFor
  simp only
  split
  · next hfind =>
    refine ⟨by simp [taken, Table.has, hfind], isTrimmed_slug text, fun id => ?_⟩
    simp only [taken, Table.has_insert, Bool.or_eq_true, decide_eq_true_eq, eq_comm (a := id)]
  · next last hfind =>
    have hbase : a.taken (slug text) = true := by simp [taken, Table.has, hfind]
    refine ⟨taken_firstFree hbase (last + 1), isTrimmed_numbered_slug text _, fun id => ?_⟩
    simp only [taken, Table.has_insert, Bool.or_eq_true, decide_eq_true_eq]
    constructor
    · rintro (rfl | rfl | h)
      · exact .inl rfl
      · exact .inr hbase
      · exact .inr h
    · rintro (rfl | h)
      · exact .inl rfl
      · exact .inr (.inr h)

/-- **Reserving takes the id** and says whether it was free. -/
theorem reserve_spec (a : Anchors) (id : String) :
    (a.reserve id).1 = !a.taken id ∧
      ∀ other, (a.reserve id).2.taken other = true ↔ other = id ∨ a.taken other = true := by
  unfold reserve
  split
  · next ht =>
    refine ⟨by simp [ht], fun other => ⟨.inr, ?_⟩⟩
    rintro (rfl | h)
    · exact ht
    · exact h
  · next ht =>
    refine ⟨by simpa using ht, fun other => ?_⟩
    simp only [taken, Table.has_insert, Bool.or_eq_true, decide_eq_true_eq, eq_comm (a := other)]

end Anchors

end ArticleMarkup
