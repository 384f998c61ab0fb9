import ArticleMarkup.Schema.Override
import Mathlib.Data.String.Basic

/-!
# Rules of a schema

What each way of changing a schema does to the rules that it holds, and what merging overrides
leaves as it was.

## Main definitions

- `Schema.ownRule?` — the pattern that a tag has for an attribute, the wildcard aside

## Main statements

- `sortedDistinct_spec` — sorting keeps what is listed, in ascending order
- `foldlM_ok_of_step` — what every step keeps, a successful run of steps keeps
- `Schema.required_withOverrides` — overrides force no attribute
-/

namespace ArticleMarkup

/-- **Runs of steps**: a property that each successful step keeps holds after a successful run. -/
theorem foldlM_ok_of_step {σ ε α : Type} {P : σ → Prop} {f : σ → α → Except ε σ}
    {entries : List α} {start final : σ} (h0 : P start)
    (hstep : ∀ s e s', e ∈ entries → P s → f s e = .ok s' → P s')
    (h : entries.foldlM f start = .ok final) : P final := by
  induction entries generalizing start with
  | nil =>
    cases h
    exact h0
  | cons e rest ih =>
    rw [List.foldlM_cons] at h
    cases hs : f start e with
    | error err => rw [hs] at h; cases h
    | ok s =>
      rw [hs] at h
      exact ih (hstep _ _ _ List.mem_cons_self h0 hs)
        (fun s e s' he => hstep s e s' (List.mem_cons_of_mem _ he)) h

namespace Table

variable {α : Type}

theorem find?_alter (key other : String) (fallback : α) (f : α → α) (t : Table α) :
    (t.alter key fallback f).find? other =
      if key = other then some (f ((t.find? key).getD fallback)) else t.find? other :=
  find?_insert _ _ _ _

theorem has_alter (key other : String) (fallback : α) (f : α → α) (t : Table α) :
    (t.alter key fallback f).has other = (decide (key = other) || t.has other) := by
  unfold has
  rw [find?_alter]
  by_cases h : key = other <;> simp [h]

theorem mem_keys_insert {key k : String} {value : α} {t : Table α} :
    k ∈ (t.insert key value).map Prod.fst ↔ k = key ∨ k ∈ t.map Prod.fst := by
  induction t with
  | nil => simp [insert]
  | cons e rest ih =>
    obtain ⟨first, v⟩ := e
    unfold insert
    split
    · next h => simp [h]
    · split
      · simp
      · rw [List.map_cons, List.mem_cons, ih, List.map_cons, List.mem_cons, or_left_comm]

/-- **The keys stay in order** when one is inserted, and each stays single. -/
theorem pairwise_keys_insert {key : String} {value : α} {t : Table α}
    (h : (t.map Prod.fst).Pairwise (· < ·)) :
    ((t.insert key value).map Prod.fst).Pairwise (· < ·) := by
  induction t with
  | nil => exact List.pairwise_singleton _ _
  | cons e rest ih =>
    obtain ⟨first, v⟩ := e
    rw [List.map_cons, List.pairwise_cons] at h
    obtain ⟨hfirst, hrest⟩ := h
    unfold insert
    split
    · next hsame => exact List.pairwise_cons.mpr ⟨hsame ▸ hfirst, hrest⟩
    · next hne =>
      split
      · next hlt =>
        refine List.pairwise_cons.mpr ⟨?_, List.pairwise_cons.mpr ⟨hfirst, hrest⟩⟩
        intro k hk
        rcases List.mem_cons.mp hk with rfl | hk
        · exact hlt
        · exact hlt.trans (hfirst k hk)
      · next hge =>
        refine List.pairwise_cons.mpr ⟨?_, ih hrest⟩
        intro k hk
        rcases mem_keys_insert.mp hk with rfl | hk
        · exact lt_of_le_of_ne (not_lt.mp hge) hne
        · exact hfirst k hk

end Table

/-- **Sorting**: the same texts, in ascending order and each once. -/
theorem sortedDistinct_spec (texts : List String) :
    (sortedDistinct texts).Pairwise (· < ·) ∧ ∀ s, s ∈ sortedDistinct texts ↔ s ∈ texts := by
  have key : ∀ t : Table Unit, (t.map Prod.fst).Pairwise (· < ·) →
      (((texts.map fun x => (x, ())).foldl (fun t e => t.insert e.1 e.2) t).map Prod.fst).Pairwise
          (· < ·) ∧
        ∀ s, s ∈ ((texts.map fun x => (x, ())).foldl (fun t e => t.insert e.1 e.2) t).map Prod.fst ↔
          s ∈ t.map Prod.fst ∨ s ∈ texts := by
    induction texts with
    | nil => exact fun t ht => ⟨ht, by simp⟩
    | cons x rest ih =>
      intro t ht
      obtain ⟨hsorted, hmem⟩ := ih (t.insert x ()) (Table.pairwise_keys_insert ht)
      refine ⟨hsorted, fun s => ?_⟩
      refine (hmem s).trans ?_
      rw [Table.mem_keys_insert, List.mem_cons, or_assoc, or_left_comm]
  obtain ⟨hsorted, hmem⟩ := key [] List.Pairwise.nil
  exact ⟨hsorted, fun s => (hmem s).trans (by simp)⟩

namespace Schema

/-- The pattern that a tag itself has for an attribute. -/
def ownRule? (schema : Schema) (tag attr : String) : Option Pattern :=
  (schema.tagRule tag).attributes.find? attr

section

variable {schema : Schema} {tag attr : String} {pattern : Pattern}

theorem rule?_eq (schema : Schema) (tag attr : String) : schema.rule? tag attr =
    (schema.ownRule? tag attr).or (schema.ownRule? wildcard attr) := by
  unfold rule? ownRule?
  cases (schema.tagRule tag).attributes.find? attr <;> rfl

/-- A pattern in force is the tag's own or the wildcard's. -/
theorem ownRule?_of_rule? (h : schema.rule? tag attr = some pattern) :
    ∃ owner, schema.ownRule? owner attr = some pattern := by
  rw [rule?_eq, Option.or_eq_some_iff] at h
  rcases h with h | ⟨-, h⟩
  · exact ⟨tag, h⟩
  · exact ⟨wildcard, h⟩

theorem isSome_rule?_of_ownRule? (h : (schema.ownRule? tag attr).isSome) :
    (schema.rule? tag attr).isSome := by
  rw [rule?_eq]
  simp [h]

end

-- ════════════════════════════════════════════════════════════════════════
-- Single changes
-- ════════════════════════════════════════════════════════════════════════

section

variable (schema : Schema) (tag other attr name value : String) (pattern : Pattern)

theorem tagRule_alter (f : TagRule → TagRule) :
    (⟨schema.tags.alter tag {} f⟩ : Schema).tagRule other =
      if tag = other then f (schema.tagRule tag) else schema.tagRule other := by
  unfold tagRule
  rw [Table.find?_alter]
  split <;> rfl

theorem allowsTag_alter (f : TagRule → TagRule) :
    (⟨schema.tags.alter tag {} f⟩ : Schema).allowsTag other =
      (other != wildcard && (decide (tag = other) || schema.tags.has other)) := by
  unfold allowsTag
  rw [Table.has_alter]

theorem allowsTag_alter_iff (f : TagRule → TagRule) :
    (⟨schema.tags.alter tag {} f⟩ : Schema).allowsTag other = true ↔
      schema.allowsTag other = true ∨ other ≠ wildcard ∧ tag = other := by
  rw [allowsTag_alter, allowsTag]
  by_cases hwild : other = wildcard <;> by_cases hsame : tag = other <;> simp [hwild, hsame]

@[simp] theorem tagRule_allowTag : (schema.allowTag tag).tagRule other = schema.tagRule other := by
  unfold allowTag
  rw [tagRule_alter]
  split
  · next h => rw [h]; rfl
  · rfl

@[simp] theorem ownRule?_allowTag :
    (schema.allowTag tag).ownRule? other attr = schema.ownRule? other attr := by
  simp [ownRule?]

@[simp] theorem required_allowTag : (schema.allowTag tag).required other = schema.required other := by
  simp [required]

theorem ownRule?_allowAttribute :
    (schema.allowAttribute tag attr pattern).ownRule? other name =
      if tag = other ∧ attr = name then some pattern else schema.ownRule? other name := by
  unfold ownRule? allowAttribute
  rw [tagRule_alter]
  by_cases h : tag = other
  · subst h
    simp [Table.find?_insert]
  · simp [h]

@[simp] theorem required_allowAttribute :
    (schema.allowAttribute tag attr pattern).required other = schema.required other := by
  unfold required allowAttribute
  rw [tagRule_alter]
  split
  · next h => rw [h]
  · rfl

@[simp] theorem ownRule?_requireAttribute :
    (schema.requireAttribute tag attr value).ownRule? other name = schema.ownRule? other name := by
  unfold ownRule? requireAttribute
  rw [tagRule_alter]
  split
  · next h => rw [h]
  · rfl

theorem required_requireAttribute :
    (schema.requireAttribute tag attr value).required other =
      if tag = other then (schema.required tag).insert attr value else schema.required other := by
  unfold required requireAttribute
  rw [tagRule_alter]
  split <;> rfl

end

-- ════════════════════════════════════════════════════════════════════════
-- Overrides
-- ════════════════════════════════════════════════════════════════════════

variable {schema : Schema} {tag : String}

/-- A permission that is merged has passed the check of its name. -/
theorem addAttribute_eq_ok {entry : AttributeOverride} {merged : Schema}
    (h : addAttribute tag schema entry = .ok merged) :
    checkAttribute tag (normalizedName entry.written) = .ok () ∧
      merged = schema.allowAttribute tag (normalizedName entry.written) (overridePattern entry) := by
  unfold addAttribute at h
  cases hc : checkAttribute tag (normalizedName entry.written) with
  | error e => simp only [hc] at h; cases h
  | ok u => simp only [hc] at h; cases h; exact ⟨rfl, rfl⟩

/-- An override that is merged has passed the check of its tag, and its permissions are merged. -/
theorem addOverride_eq_ok {entry : Override} {merged : Schema}
    (h : addOverride schema entry = .ok merged) :
    checkTag (normalizedName entry.tag) = .ok () ∧
      entry.attributes.foldlM (addAttribute (normalizedName entry.tag))
        (schema.allowTag (normalizedName entry.tag)) = .ok merged := by
  unfold addOverride at h
  cases hc : checkTag (normalizedName entry.tag) with
  | error e => simp only [hc] at h; cases h
  | ok u => simp only [hc] at h; exact ⟨rfl, h⟩

/-- **Merging is made of two kinds of step**: what checked tags and checked attributes keep, merging
keeps. -/
theorem withOverrides_of_step {P : Schema → Prop} {entries : List Override} {merged : Schema}
    (h0 : P schema)
    (htag : ∀ s tag, P s → checkTag tag = .ok () → P (s.allowTag tag))
    (hattr : ∀ s tag entry, P s → checkTag tag = .ok () →
      checkAttribute tag (normalizedName entry.written) = .ok () →
      P (s.allowAttribute tag (normalizedName entry.written) (overridePattern entry)))
    (h : schema.withOverrides entries = .ok merged) : P merged := by
  refine foldlM_ok_of_step h0 ?_ h
  intro s entry s' _ hs he
  obtain ⟨hc, he⟩ := addOverride_eq_ok he
  refine foldlM_ok_of_step (htag _ _ hs hc) ?_ he
  intro s a s' _ hs ha
  obtain ⟨hca, rfl⟩ := addAttribute_eq_ok ha
  exact hattr _ _ _ hs hc hca

/-- Overrides take no tag away. -/
theorem allowsTag_withOverrides {entries : List Override} {merged : Schema}
    (h : schema.withOverrides entries = .ok merged) {other : String}
    (ha : schema.allowsTag other = true) : merged.allowsTag other = true := by
  have hkeep : ∀ (s : Schema) (key : String) (f : TagRule → TagRule), s.allowsTag other = true →
      (⟨s.tags.alter key {} f⟩ : Schema).allowsTag other = true := by
    intro s key f hs
    rw [allowsTag_alter]
    simp only [allowsTag, Bool.and_eq_true] at hs
    simp [hs.1, hs.2]
  refine withOverrides_of_step (P := fun s => s.allowsTag other = true) ha ?_ ?_ h
  · intro s tag hs _
    exact hkeep s tag _ hs
  · intro s tag entry hs _ _
    exact hkeep s tag _ hs

/-- Overrides force no attribute, and none that was forced is set free. -/
theorem required_withOverrides {entries : List Override} {merged : Schema}
    (h : schema.withOverrides entries = .ok merged) (other : String) :
    merged.required other = schema.required other := by
  refine withOverrides_of_step (P := fun s => s.required other = schema.required other) rfl ?_ ?_ h
  · intro s tag hs _
    simpa using hs
  · intro s tag entry hs _ _
    simpa using hs

end Schema

end ArticleMarkup
