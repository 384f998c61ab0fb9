import ArticleMarkup.Proofs.Schema.Rules

/-!
# What overrides cannot open

The base schema names no tag that is always removed, no attribute that runs scripts, and checks the
scheme of every address. No list of overrides that is accepted changes this.

## Main definitions

- `Pattern.checksLinks` — only addresses with the schemes of links pass
- `isGuardedRule` — an attribute that is harmless under its pattern
- `Schema.Guarded` — all tags and rules of a schema are harmless

## Main statements

- `Schema.guarded_base` — the base schema is guarded
- `Schema.Guarded.withOverrides` — overrides keep a schema guarded
-/

namespace ArticleMarkup

/-- Only relative references and addresses with the scheme of a link pass. -/
def Pattern.checksLinks : Pattern → Bool
  | .url schemes => schemes.all linkSchemes.contains
  | _ => false

/-- The attribute is well named, runs no script, and is checked if it holds an address. -/
def isGuardedRule (attr : String) (pattern : Pattern) : Bool :=
  isAttributeName attr && !isForbiddenAttribute attr &&
    (!urlAttributes.contains attr || pattern.checksLinks)

/-- **A guarded schema**: its tags are well named and none of them is always removed, its rules are
guarded, and what it forces is permitted, no address, and forced only once. -/
structure Schema.Guarded (schema : Schema) : Prop where
  /-- Allowed tags are well named and not always removed. -/
  tag : ∀ tag, schema.allowsTag tag = true → isTagName tag = true ∧ isDroppedTag tag = false
  /-- Every rule is guarded. -/
  rule : ∀ tag attr pattern, schema.ownRule? tag attr = some pattern →
    isGuardedRule attr pattern = true
  /-- What is forced on a tag is permitted on it, and is no address. -/
  required : ∀ tag, ∀ e ∈ schema.required tag,
    (schema.ownRule? tag e.1).isSome = true ∧ urlAttributes.contains e.1 = false
  /-- No attribute is forced twice. -/
  required_distinct : ∀ tag, ((schema.required tag).map Prod.fst).Nodup

-- ════════════════════════════════════════════════════════════════════════
-- Checked names
-- ════════════════════════════════════════════════════════════════════════

theorem Table.mem_insert {α : Type} {key : String} {value : α} {t : Table α} {e : String × α}
    (h : e ∈ t.insert key value) : e = (key, value) ∨ e ∈ t := by
  induction t with
  | nil => simpa [insert] using h
  | cons x rest ih =>
    obtain ⟨k, v⟩ := x
    unfold insert at h
    split at h
    · exact (List.mem_cons.mp h).imp_right (List.mem_cons_of_mem _)
    · split at h
      · exact List.mem_cons.mp h
      · rcases List.mem_cons.mp h with h | h
        · exact .inr (h ▸ List.mem_cons_self)
        · exact (ih h).imp_right (List.mem_cons_of_mem _)

/-- A key that is not there yet is added once. -/
theorem Table.keys_insert_perm {α : Type} {key : String} {value : α} {t : Table α}
    (h : key ∉ t.map Prod.fst) :
    ((t.insert key value).map Prod.fst).Perm (key :: t.map Prod.fst) := by
  induction t with
  | nil => exact List.Perm.refl _
  | cons x rest ih =>
    obtain ⟨k, v⟩ := x
    simp only [List.map_cons, List.mem_cons, not_or] at h
    unfold insert
    rw [if_neg (Ne.symm h.1)]
    split
    · exact List.Perm.refl _
    · exact ((ih h.2).cons k).trans (List.Perm.swap key k _)

theorem checksLinks_linkSchemes : (Pattern.ofSchemes linkSchemes).checksLinks = true := by
  simp only [Pattern.ofSchemes, Pattern.checksLinks, List.all_eq_true, List.contains_iff_mem]
  intro s hs
  exact ((sortedDistinct_spec linkSchemes).2 s).mp hs

/-- A pattern that checks links lets no other address through. -/
theorem Pattern.checksLinks.acceptsUrl {pattern : Pattern} {value : String}
    (h : pattern.checksLinks = true) (ha : pattern.accepts value = true) :
    acceptsUrl linkSchemes value = true := by
  cases pattern with
  | url schemes =>
    simp only [Pattern.checksLinks, List.all_eq_true, List.contains_iff_mem] at h
    simp only [Pattern.accepts, Pattern.acceptsUrl] at ha ⊢
    split at ha
    · next scheme _ => exact List.contains_iff_mem.mpr (h scheme (List.contains_iff_mem.mp ha))
    · rfl
    · cases ha
  | any => cases h
  | oneOf values => cases h
  | startingWith starts => cases h

theorem checkTag_eq_ok {tag : String} (h : checkTag tag = .ok ()) :
    tag = wildcard ∨ (isTagName tag = true ∧ isDroppedTag tag = false) := by
  unfold checkTag at h
  split at h
  · next hw => exact .inl hw
  · split at h
    · cases h
    · next hn =>
      split at h
      · cases h
      · next hd => exact .inr ⟨by simpa using hn, by simpa using hd⟩

theorem checkAttribute_eq_ok {tag attr : String} (h : checkAttribute tag attr = .ok ()) :
    isAttributeName attr = true ∧ isForbiddenAttribute attr = false := by
  unfold checkAttribute at h
  split at h
  · cases h
  · next hn =>
    split at h
    · cases h
    · next hf => exact ⟨by simpa using hn, by simpa using hf⟩

/-- Whatever an override asks for, the rule it gets is guarded. -/
theorem isGuardedRule_overridePattern {tag : String} {entry : AttributeOverride}
    (h : checkAttribute tag (normalizedName entry.written) = .ok ()) :
    isGuardedRule (normalizedName entry.written) (Schema.overridePattern entry) = true := by
  obtain ⟨hn, hf⟩ := checkAttribute_eq_ok h
  unfold isGuardedRule Schema.overridePattern
  rw [hn, hf]
  by_cases hu : urlAttributes.contains (normalizedName entry.written) = true
  · rw [if_pos hu, checksLinks_linkSchemes]
    simp
  · have hu' : urlAttributes.contains (normalizedName entry.written) = false :=
      Bool.eq_false_iff.mpr hu
    simp only [hu', Bool.not_false, Bool.true_or, Bool.and_self]

-- ════════════════════════════════════════════════════════════════════════
-- Keeping a schema guarded
-- ════════════════════════════════════════════════════════════════════════

namespace Schema

variable {schema : Schema} {tag attr value : String} {pattern : Pattern}

theorem guarded_empty : empty.Guarded where
  tag := fun tag h => by simp [allowsTag, empty, Table.has] at h
  rule := fun tag attr pattern h => by cases h
  required := fun tag e he => by cases he
  required_distinct := fun tag => List.nodup_nil

theorem Guarded.tag_alter (h : schema.Guarded) {f : TagRule → TagRule}
    (ht : tag = wildcard ∨ (isTagName tag = true ∧ isDroppedTag tag = false)) (other : String)
    (ha : (⟨schema.tags.alter tag {} f⟩ : Schema).allowsTag other = true) :
    isTagName other = true ∧ isDroppedTag other = false := by
  rw [allowsTag_alter] at ha
  simp only [Bool.and_eq_true, bne_iff_ne, ne_eq, Bool.or_eq_true, decide_eq_true_eq] at ha
  obtain ⟨hw, rfl | ho⟩ := ha
  · exact ht.resolve_left hw
  · exact h.tag other (by simp [allowsTag, hw, ho])

theorem Guarded.allowTag (h : schema.Guarded)
    (ht : tag = wildcard ∨ (isTagName tag = true ∧ isDroppedTag tag = false)) :
    (schema.allowTag tag).Guarded where
  tag := h.tag_alter ht
  rule := fun other attr pattern hr => h.rule other attr pattern (by simpa using hr)
  required := fun other e he => by simpa using h.required other e (by simpa using he)
  required_distinct := fun other => by simpa using h.required_distinct other

theorem Guarded.allowAttribute (h : schema.Guarded)
    (ht : tag = wildcard ∨ (isTagName tag = true ∧ isDroppedTag tag = false))
    (hr : isGuardedRule attr pattern = true) : (schema.allowAttribute tag attr pattern).Guarded where
  tag := h.tag_alter ht
  rule := fun other name p hp => by
    rw [ownRule?_allowAttribute] at hp
    split at hp
    · next heq =>
      cases hp
      exact heq.2 ▸ hr
    · exact h.rule other name p hp
  required := fun other e he => by
    obtain ⟨hs, hu⟩ := h.required other e (by simpa using he)
    refine ⟨?_, hu⟩
    rw [ownRule?_allowAttribute]
    split
    · rfl
    · exact hs
  required_distinct := fun other => by simpa using h.required_distinct other

theorem Guarded.requireAttribute (h : schema.Guarded)
    (ht : tag = wildcard ∨ (isTagName tag = true ∧ isDroppedTag tag = false))
    (hr : (schema.ownRule? tag attr).isSome = true) (hu : urlAttributes.contains attr = false)
    (hn : attr ∉ (schema.required tag).map Prod.fst) :
    (schema.requireAttribute tag attr value).Guarded where
  tag := h.tag_alter ht
  rule := fun other name p hp => h.rule other name p (by simpa using hp)
  required := fun other e he => by
    rw [required_requireAttribute] at he
    rw [ownRule?_requireAttribute]
    split at he
    · next heq =>
      subst heq
      rcases Table.mem_insert he with rfl | he
      · exact ⟨hr, hu⟩
      · exact h.required tag e he
    · exact h.required other e he
  required_distinct := fun other => by
    rw [required_requireAttribute]
    split
    · exact (Table.keys_insert_perm hn).nodup_iff.mpr
        (List.nodup_cons.mpr ⟨hn, h.required_distinct tag⟩)
    · exact h.required_distinct other

/-- **Accepted overrides keep a schema guarded.** -/
theorem Guarded.withOverrides {entries : List Override} {merged : Schema} (h0 : schema.Guarded)
    (h : schema.withOverrides entries = .ok merged) : merged.Guarded := by
  refine withOverrides_of_step h0 ?_ ?_ h
  · intro s tag hs hc
    exact hs.allowTag (checkTag_eq_ok hc)
  · intro s tag entry hs hc ha
    exact hs.allowAttribute (checkTag_eq_ok hc) (isGuardedRule_overridePattern ha)

-- ════════════════════════════════════════════════════════════════════════
-- The base schema
-- ════════════════════════════════════════════════════════════════════════

/-- The base schema before any attribute is forced. -/
def permitted : Schema :=
  baseAttributes.foldl (fun s e => s.allowAttribute e.1 e.2.1 e.2.2) (baseTags.foldl allowTag empty)

theorem baseTags_named : ∀ tag ∈ baseTags, isTagName tag = true ∧ isDroppedTag tag = false := by
  decide +kernel

theorem baseAttributes_guarded : ∀ e ∈ baseAttributes,
    (e.1 = wildcard ∨ (isTagName e.1 = true ∧ isDroppedTag e.1 = false)) ∧
      isGuardedRule e.2.1 e.2.2 = true := by
  decide +kernel

theorem allowsTag_foldl_allowTag (tags : List String) (schema : Schema) (tag : String) :
    (tags.foldl allowTag schema).allowsTag tag = true ↔
      schema.allowsTag tag = true ∨ tag ≠ wildcard ∧ tag ∈ tags := by
  induction tags generalizing schema with
  | nil => simp
  | cons first rest ih =>
    have hfirst : (schema.allowTag first).allowsTag tag = true ↔
        schema.allowsTag tag = true ∨ tag ≠ wildcard ∧ first = tag :=
      allowsTag_alter_iff schema first tag id
    rw [List.foldl_cons, ih, hfirst, or_assoc, ← and_or_left, List.mem_cons, eq_comm (b := tag)]

/-- **The base schema allows its tags.** -/
theorem allowsTag_base {tag : String} (h : tag ∈ baseTags) : base.allowsTag tag = true := by
  have htag : tag ≠ wildcard := by
    rintro rfl
    exact absurd h (by decide)
  have hallowed : permitted.allowsTag tag = true := by
    refine List.foldlRecOn baseAttributes _ (motive := fun s => allowsTag s tag = true) ?_ ?_
    · exact (allowsTag_foldl_allowTag baseTags empty tag).mpr (.inr ⟨htag, h⟩)
    · exact fun s hs e _ => (allowsTag_alter_iff s e.1 tag _).mpr (.inl hs)
  exact (allowsTag_alter_iff _ _ tag _).mpr (.inl ((allowsTag_alter_iff _ _ tag _).mpr (.inl hallowed)))

/-- **The last permission stands.** -/
theorem ownRule?_foldl_allowAttribute (entries : List (String × String × Pattern)) (schema : Schema)
    (tag attr : String) :
    (entries.foldl (fun s e => s.allowAttribute e.1 e.2.1 e.2.2) schema).ownRule? tag attr =
      ((entries.filter fun e => e.1 = tag ∧ e.2.1 = attr).getLast?.map (·.2.2)).or
        (schema.ownRule? tag attr) := by
  induction entries generalizing schema with
  | nil => rfl
  | cons e entries ih =>
    rw [List.foldl_cons, ih, ownRule?_allowAttribute, List.filter_cons]
    by_cases he : e.1 = tag ∧ e.2.1 = attr
    · rw [if_pos he, if_pos (decide_eq_true he), List.getLast?_cons]
      cases (entries.filter fun e => e.1 = tag ∧ e.2.1 = attr).getLast? <;> rfl
    · rw [if_neg he, if_neg (by simpa using he)]

theorem ownRule?_permitted (tag attr : String) : permitted.ownRule? tag attr =
    (baseAttributes.filter fun e => e.1 = tag ∧ e.2.1 = attr).getLast?.map (·.2.2) := by
  have hnone : (baseTags.foldl allowTag empty).ownRule? tag attr = none := by
    refine List.foldlRecOn baseTags _ (motive := fun s => ownRule? s tag attr = none) rfl ?_
    intro s hs other _
    rw [ownRule?_allowTag, hs]
  rw [permitted, ownRule?_foldl_allowAttribute, hnone, Option.or_none]

/-- **The rules of the base schema** are the ones that it lists. -/
theorem ownRule?_base (tag attr : String) : base.ownRule? tag attr =
    (baseAttributes.filter fun e => e.1 = tag ∧ e.2.1 = attr).getLast?.map (·.2.2) := by
  rw [← ownRule?_permitted]
  exact (ownRule?_requireAttribute _ _ _ _ _ _).trans (ownRule?_requireAttribute _ _ _ _ _ _)

theorem guarded_permitted : permitted.Guarded := by
  refine List.foldlRecOn baseAttributes _ (motive := Guarded) ?_ ?_
  · refine List.foldlRecOn baseTags _ (motive := Guarded) guarded_empty ?_
    intro s hs tag htag
    exact hs.allowTag (.inr (baseTags_named tag htag))
  · intro s hs e he
    obtain ⟨ht, hr⟩ := baseAttributes_guarded e he
    exact hs.allowAttribute ht hr

theorem required_permitted (tag : String) : permitted.required tag = [] := by
  refine List.foldlRecOn baseAttributes _ (motive := fun s => Schema.required s tag = []) ?_ ?_
  · refine List.foldlRecOn baseTags _ (motive := fun s => Schema.required s tag = []) rfl ?_
    intro s hs other _
    simpa using hs
  · intro s hs e _
    simpa using hs

/-- The base schema forces two attributes, on inputs. -/
theorem required_base (tag : String) :
    base.required tag = if tag = "input" then [("disabled", ""), ("type", "checkbox")] else [] := by
  change ((permitted.requireAttribute "input" "type" "checkbox").requireAttribute
    "input" "disabled" "").required tag = _
  simp only [required_requireAttribute, required_permitted]
  by_cases h : tag = "input"
  · subst h
    decide
  · simp [h, Ne.symm h]

/-- **The base schema is guarded.** -/
theorem guarded_base : base.Guarded := by
  have hinput : isTagName "input" = true ∧ isDroppedTag "input" = false := by decide
  have htype : (permitted.ownRule? "input" "type").isSome = true := by
    rw [ownRule?_permitted]
    decide
  have hdisabled : (permitted.ownRule? "input" "disabled").isSome = true := by
    rw [ownRule?_permitted]
    decide
  have hfirst : (permitted.requireAttribute "input" "type" "checkbox").Guarded :=
    guarded_permitted.requireAttribute (.inr hinput) htype (by decide)
      (by simp [required_permitted])
  refine hfirst.requireAttribute (.inr hinput) (by simpa using hdisabled) (by decide) ?_
  rw [required_requireAttribute, required_permitted]
  decide

/-- What overrides make of the base schema, or of the empty one, is guarded. -/
theorem guarded_of_withOverrides {start schema : Schema} {entries : List Override}
    (hs : start = base ∨ start = empty) (h : start.withOverrides entries = .ok schema) :
    schema.Guarded := by
  rcases hs with rfl | rfl
  · exact guarded_base.withOverrides h
  · exact guarded_empty.withOverrides h

end Schema

end ArticleMarkup
