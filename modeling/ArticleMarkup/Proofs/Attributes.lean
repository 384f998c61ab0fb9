import ArticleMarkup.Tag
import Mathlib.Data.List.Nodup

/-!
# Attributes of a tag

How setting an attribute changes the attribute list: the other attributes keep their places and
values, and no name comes up twice that did not before.

## Main definitions

- `Tag.Distinct` — no two attributes have the same name
-/

namespace ArticleMarkup

/-- No two attributes of the tag have the same name. -/
def Tag.Distinct (tag : Tag) : Prop :=
  (tag.attrs.map Attribute.name).Nodup

instance (tag : Tag) : Decidable tag.Distinct :=
  inferInstanceAs (Decidable (tag.attrs.map Attribute.name).Nodup)

-- ════════════════════════════════════════════════════════════════════════
-- Attribute lists
-- ════════════════════════════════════════════════════════════════════════

variable {name value : String}

theorem setAttribute_nil (name value : String) : setAttribute name value [] = [⟨name, value⟩] := rfl

theorem setAttribute_cons_of_eq {b : Attribute} (hb : b.name = name) (rest : List Attribute) :
    setAttribute name value (b :: rest) = ⟨b.name, value⟩ :: rest :=
  if_pos hb

theorem setAttribute_cons_of_ne {b : Attribute} (hb : b.name ≠ name) (rest : List Attribute) :
    setAttribute name value (b :: rest) = b :: setAttribute name value rest :=
  if_neg hb

theorem mem_setAttribute {a : Attribute} {attrs : List Attribute}
    (h : a ∈ setAttribute name value attrs) : a = ⟨name, value⟩ ∨ a ∈ attrs := by
  induction attrs with
  | nil => exact .inl (List.mem_singleton.mp h)
  | cons b rest ih =>
    by_cases hb : b.name = name
    · rw [setAttribute_cons_of_eq hb] at h
      rcases List.mem_cons.mp h with h | h
      · exact .inl (hb ▸ h)
      · exact .inr (List.mem_cons_of_mem _ h)
    · rw [setAttribute_cons_of_ne hb] at h
      rcases List.mem_cons.mp h with h | h
      · exact .inr (h ▸ List.mem_cons_self)
      · exact (ih h).imp_right (List.mem_cons_of_mem _)

/-- The attribute that is set is there afterwards. -/
theorem mem_setAttribute_self (name value : String) (attrs : List Attribute) :
    (⟨name, value⟩ : Attribute) ∈ setAttribute name value attrs := by
  induction attrs with
  | nil => exact List.mem_singleton_self _
  | cons b rest ih =>
    by_cases hb : b.name = name
    · rw [setAttribute_cons_of_eq hb, hb]
      exact List.mem_cons_self
    · rw [setAttribute_cons_of_ne hb]
      exact List.mem_cons_of_mem _ ih

/-- An attribute with another name stays. -/
theorem mem_setAttribute_of_ne {a : Attribute} {attrs : List Attribute}
    (h : a ∈ attrs) (hne : a.name ≠ name) : a ∈ setAttribute name value attrs := by
  induction attrs with
  | nil => cases h
  | cons b rest ih =>
    by_cases hb : b.name = name
    · rw [setAttribute_cons_of_eq hb]
      rcases List.mem_cons.mp h with h | h
      · exact absurd (h ▸ hb) hne
      · exact List.mem_cons_of_mem _ h
    · rw [setAttribute_cons_of_ne hb]
      rcases List.mem_cons.mp h with h | h
      · exact h ▸ List.mem_cons_self
      · exact List.mem_cons_of_mem _ (ih h)

theorem names_setAttribute (name value : String) (attrs : List Attribute) :
    (setAttribute name value attrs).map Attribute.name =
      if name ∈ attrs.map Attribute.name then attrs.map Attribute.name
      else attrs.map Attribute.name ++ [name] := by
  induction attrs with
  | nil => rfl
  | cons b rest ih =>
    by_cases hb : b.name = name
    · simp [setAttribute_cons_of_eq hb, hb]
    · have hb' : ¬name = b.name := fun h => hb h.symm
      simp only [setAttribute_cons_of_ne hb, List.map_cons, ih, List.mem_cons, hb', false_or]
      split <;> rfl

/-- Among the attributes whose names are not touched nothing changes. -/
theorem filter_setAttribute (p : String → Bool) (h : p name = false)
    (value : String) (attrs : List Attribute) :
    (setAttribute name value attrs).filter (fun a => p a.name) = attrs.filter (fun a => p a.name) := by
  induction attrs with
  | nil => simp [setAttribute_nil, h]
  | cons b rest ih =>
    by_cases hb : b.name = name
    · simp [setAttribute_cons_of_eq hb, hb, h]
    · rw [setAttribute_cons_of_ne hb, List.filter_cons, List.filter_cons, ih]

namespace Tag

variable {tag : Tag}

@[simp] theorem name_setAttr (tag : Tag) (name value : String) :
    (tag.setAttr name value).name = tag.name := rfl

@[simp] theorem headingLevel?_setAttr (tag : Tag) (name value : String) :
    (tag.setAttr name value).headingLevel? = tag.headingLevel? := rfl

@[simp] theorem isHeading_setAttr (tag : Tag) (name value : String) :
    (tag.setAttr name value).isHeading = tag.isHeading := rfl

theorem attr?_setAttr (tag : Tag) (name value other : String) :
    (tag.setAttr name value).attr? other = if name = other then some value else tag.attr? other := by
  simp only [setAttr, attr?]
  induction tag.attrs with
  | nil =>
    by_cases h : name = other <;> simp [setAttribute_nil, h]
  | cons b rest ih =>
    by_cases hb : b.name = name
    · rw [setAttribute_cons_of_eq hb]
      by_cases h : name = other <;> simp [hb, h]
    · rw [setAttribute_cons_of_ne hb]
      by_cases ho : b.name = other
      · have hn : ¬name = other := fun h => hb (ho.trans h.symm)
        simp [ho, hn]
      · simpa [ho] using ih

/-- Setting an attribute does not make two of one name. -/
theorem Distinct.setAttr (h : tag.Distinct) (name value : String) :
    (tag.setAttr name value).Distinct := by
  unfold Distinct Tag.setAttr
  rw [names_setAttribute]
  split
  · exact h
  · next hn =>
    refine List.nodup_append.mpr ⟨h, List.nodup_singleton _, ?_⟩
    intro x hx y hy hxy
    rw [List.mem_singleton] at hy
    exact hn (hy ▸ hxy ▸ hx)

/-- Of two attributes of one name a tag with distinct names has only one. -/
theorem Distinct.eq_of_name_eq (h : tag.Distinct) {a b : Attribute} (ha : a ∈ tag.attrs)
    (hb : b ∈ tag.attrs) (hn : a.name = b.name) : a = b :=
  List.inj_on_of_nodup_map h ha hb hn

end Tag

end ArticleMarkup
