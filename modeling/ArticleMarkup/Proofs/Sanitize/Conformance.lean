import ArticleMarkup.Proofs.Attributes
import ArticleMarkup.Proofs.Forest.Tags
import ArticleMarkup.Proofs.Schema.Guarded
import ArticleMarkup.Proofs.Text.Words
import ArticleMarkup.Sanitize

/-!
# Conformance of sanitized documents

Every element of a sanitized document conforms to the schema: its tag is allowed, each attribute has
a rule that its value meets or is forced, and what the schema forces is there.

## Main definitions

- `Pattern.Admits` — the value of an attribute meets a pattern
- `Schema.Conforms` — a tag conforms to a schema

## Main statements

- `Schema.tag_of_mem_tags_clean` — the elements that stay are elements of the document
- `Schema.conforms_cleanTag` — they conform once they are cleaned
-/

namespace ArticleMarkup

/-- The value of an attribute meets a pattern. A class list meets it word by word, and is the words
joined by single spaces. -/
def Pattern.Admits (pattern : Pattern) (attr : Attribute) : Prop :=
  if attr.name = "class" then
    ∃ words, words ≠ [] ∧ attr.value = Text.joinWith " " words ∧
      ∀ w ∈ words, Text.IsWord w ∧ pattern.accepts w = true
  else pattern.accepts attr.value = true

namespace Schema

/-- **A tag that conforms** to a schema. -/
structure Conforms (schema : Schema) (tag : Tag) : Prop where
  /-- The tag is allowed. -/
  allowed : schema.allowsTag tag.name = true
  /-- The tag is not one that takes its whole subtree with it. -/
  kept : isDroppedTag tag.name = false
  /-- Each attribute has a rule, and meets it or is forced. -/
  permitted : ∀ a ∈ tag.attrs, ∃ pattern, schema.rule? tag.name a.name = some pattern ∧
    (pattern.Admits a ∨ (a.name, a.value) ∈ schema.required tag.name)
  /-- What is forced is there. -/
  forced : ∀ e ∈ schema.required tag.name, (⟨e.1, e.2⟩ : Attribute) ∈ tag.attrs
  /-- What is forced has no other value. -/
  forced_value : ∀ e ∈ schema.required tag.name, ∀ a ∈ tag.attrs, a.name = e.1 → a.value = e.2

variable {schema : Schema}

-- ════════════════════════════════════════════════════════════════════════
-- Attributes that stay
-- ════════════════════════════════════════════════════════════════════════

theorem name_of_cleanAttribute {tag : String} {a b : Attribute}
    (h : schema.cleanAttribute tag a = some b) : b.name = a.name := by
  unfold cleanAttribute at h
  split at h
  · cases h
  · split at h
    · obtain ⟨v, -, rfl⟩ := Option.map_eq_some_iff.mp h
      rfl
    · split at h
      · cases h
        rfl
      · cases h

/-- The words of a class list that pass are words that pass. -/
theorem words_of_cleanClasses {pattern : Pattern} {value kept : String}
    (h : cleanClasses pattern value = some kept) :
    ∃ words, words ≠ [] ∧ kept = Text.joinWith " " words ∧
      ∀ w ∈ words, Text.IsWord w ∧ pattern.accepts w = true := by
  unfold cleanClasses at h
  split at h
  · cases h
  · next w ws hws =>
    cases h
    refine ⟨w :: ws, by simp, rfl, ?_⟩
    intro x hx
    rw [← hws] at hx
    obtain ⟨hmem, hacc⟩ := List.mem_filter.mp hx
    exact ⟨Text.isWord_of_mem_words hmem, hacc⟩

/-- An attribute stays only with a rule that it then meets. -/
theorem admits_of_cleanAttribute {tag : String} {a b : Attribute}
    (h : schema.cleanAttribute tag a = some b) :
    ∃ pattern, schema.rule? tag b.name = some pattern ∧ pattern.Admits b := by
  have hname := name_of_cleanAttribute h
  unfold cleanAttribute at h
  split at h
  · cases h
  · next pattern hrule =>
    refine ⟨pattern, hname ▸ hrule, ?_⟩
    unfold Pattern.Admits
    split at h
    · next hclass =>
      obtain ⟨v, hv, rfl⟩ := Option.map_eq_some_iff.mp h
      rw [if_pos hclass]
      exact words_of_cleanClasses hv
    · next hclass =>
      rw [if_neg (hname ▸ hclass)]
      split at h
      · next hacc =>
        cases h
        exact hacc
      · cases h

/-- Attributes that stay keep their names and their order. -/
theorem names_cleanAttributes_sublist (tag : String) (attrs : List Attribute) :
    ((schema.cleanAttributes tag attrs).map Attribute.name).Sublist (attrs.map Attribute.name) := by
  unfold cleanAttributes
  induction attrs with
  | nil => exact List.Sublist.slnil
  | cons a rest ih =>
    rw [List.filterMap_cons]
    cases hc : schema.cleanAttribute tag a with
    | none => exact ih.cons _
    | some b =>
      simp only [List.map_cons, name_of_cleanAttribute hc]
      exact ih.cons_cons _

-- ════════════════════════════════════════════════════════════════════════
-- Attributes that are forced
-- ════════════════════════════════════════════════════════════════════════

/-- Set attributes one after the other. -/
def forceAll (entries : Table String) (tag : Tag) : Tag :=
  entries.foldl (fun t e => t.setAttr e.1 e.2) tag

@[simp] theorem name_forceAll (entries : Table String) (tag : Tag) :
    (forceAll entries tag).name = tag.name := by
  induction entries generalizing tag with
  | nil => rfl
  | cons e rest ih => exact ih (tag.setAttr e.1 e.2)

theorem distinct_forceAll (entries : Table String) {tag : Tag} (h : tag.Distinct) :
    (forceAll entries tag).Distinct := by
  induction entries generalizing tag with
  | nil => exact h
  | cons e rest ih => exact ih (h.setAttr e.1 e.2)

/-- Every attribute was there before or is forced. -/
theorem mem_forceAll {entries : Table String} {tag : Tag} {a : Attribute}
    (h : a ∈ (forceAll entries tag).attrs) : a ∈ tag.attrs ∨ (a.name, a.value) ∈ entries := by
  induction entries generalizing tag with
  | nil => exact .inl h
  | cons e rest ih =>
    rcases ih h with h | h
    · rcases mem_setAttribute h with rfl | h
      · exact .inr List.mem_cons_self
      · exact .inl h
    · exact .inr (List.mem_cons_of_mem _ h)

/-- What is not forced anew stays. -/
theorem mem_forceAll_of_mem {entries : Table String} {tag : Tag} {a : Attribute}
    (h : a ∈ tag.attrs) (hn : a.name ∉ entries.map Prod.fst) : a ∈ (forceAll entries tag).attrs := by
  induction entries generalizing tag with
  | nil => exact h
  | cons e rest ih =>
    simp only [List.map_cons, List.mem_cons, not_or] at hn
    exact ih (mem_setAttribute_of_ne h hn.1) hn.2

theorem mem_forceAll_self {entries : Table String} {tag : Tag}
    (hn : (entries.map Prod.fst).Nodup) {e : String × String} (he : e ∈ entries) :
    (⟨e.1, e.2⟩ : Attribute) ∈ (forceAll entries tag).attrs := by
  induction entries generalizing tag with
  | nil => cases he
  | cons x rest ih =>
    obtain ⟨hx, hrest⟩ := List.nodup_cons.mp hn
    change _ ∈ (forceAll rest (tag.setAttr x.1 x.2)).attrs
    rcases List.mem_cons.mp he with rfl | he
    · exact mem_forceAll_of_mem (mem_setAttribute_self _ _ _) hx
    · exact ih hrest he

-- ════════════════════════════════════════════════════════════════════════
-- Elements
-- ════════════════════════════════════════════════════════════════════════

@[simp] theorem name_cleanTag (tag : Tag) : (schema.cleanTag tag).name = tag.name :=
  name_forceAll _ _

/-- Cleaning keeps the names of attributes distinct. -/
theorem distinct_cleanTag {tag : Tag} (h : tag.Distinct) : (schema.cleanTag tag).Distinct :=
  distinct_forceAll _ ((names_cleanAttributes_sublist tag.name tag.attrs).nodup h)

/-- What is left on a cleaned tag has a rule, and meets it or is forced. -/
theorem permitted_cleanTag (hs : schema.Guarded) {tag : Tag} {a : Attribute}
    (ha : a ∈ (schema.cleanTag tag).attrs) :
    ∃ pattern, schema.rule? tag.name a.name = some pattern ∧
      (pattern.Admits a ∨ (a.name, a.value) ∈ schema.required tag.name) := by
  rcases mem_forceAll ha with ha | ha
  · obtain ⟨b, -, hb⟩ := List.mem_filterMap.mp ha
    obtain ⟨pattern, hrule, hadmits⟩ := admits_of_cleanAttribute hb
    exact ⟨pattern, hrule, .inl hadmits⟩
  · have hown := (hs.required tag.name _ ha).1
    obtain ⟨pattern, hrule⟩ := Option.isSome_iff_exists.mp (isSome_rule?_of_ownRule? hown)
    exact ⟨pattern, hrule, .inr ha⟩

/-- **A cleaned tag conforms.** -/
theorem conforms_cleanTag (hs : schema.Guarded) {tag : Tag} (hd : tag.Distinct)
    (hallowed : schema.allowsTag tag.name = true) : schema.Conforms (schema.cleanTag tag) where
  allowed := by simpa using hallowed
  kept := by simpa using (hs.tag _ hallowed).2
  permitted := by
    intro a ha
    rw [name_cleanTag]
    exact permitted_cleanTag hs ha
  forced := by
    intro e he
    rw [name_cleanTag] at he
    exact mem_forceAll_self (hs.required_distinct tag.name) he
  forced_value := by
    intro e he a ha hn
    rw [name_cleanTag] at he
    have hmem : (⟨e.1, e.2⟩ : Attribute) ∈ (schema.cleanTag tag).attrs :=
      mem_forceAll_self (hs.required_distinct tag.name) he
    exact congrArg Attribute.value ((distinct_cleanTag hd).eq_of_name_eq ha hmem hn)

/-- **The elements that stay** are allowed elements of the document, cleaned. -/
theorem tag_of_mem_tags_clean {f : Forest} {tag : Tag} (h : tag ∈ (schema.clean f).tags) :
    ∃ t ∈ f.tags, isDroppedTag t.name = false ∧ schema.allowsTag t.name = true ∧
      tag = schema.cleanTag t := by
  induction f with
  | nil => cases h
  | text s rest ih =>
    simp only [clean, Forest.tags_consText] at h
    exact ih h
  | element t cs rest ihcs ihrest =>
    have hrest : tag ∈ (schema.clean rest).tags → ∃ u ∈ (Forest.element t cs rest).tags,
        isDroppedTag u.name = false ∧ schema.allowsTag u.name = true ∧ tag = schema.cleanTag u := by
      intro h
      obtain ⟨u, hu, hkept⟩ := ihrest h
      exact ⟨u, by simp [Forest.tags, hu], hkept⟩
    have hcs : tag ∈ (schema.clean cs).tags → ∃ u ∈ (Forest.element t cs rest).tags,
        isDroppedTag u.name = false ∧ schema.allowsTag u.name = true ∧ tag = schema.cleanTag u := by
      intro h
      obtain ⟨u, hu, hkept⟩ := ihcs h
      exact ⟨u, by simp [Forest.tags, hu], hkept⟩
    unfold clean at h
    split at h
    · exact hrest h
    · next hdropped =>
      split at h
      · next hallowed =>
        simp only [Forest.tags, List.mem_cons, List.mem_append] at h
        rcases h with rfl | h | h
        · exact ⟨t, List.mem_cons_self, by simpa using hdropped, hallowed, rfl⟩
        · exact hcs h
        · exact hrest h
      · simp only [Forest.tags_glue, List.mem_append] at h
        exact h.elim hcs hrest

end Schema

/-- **Sanitized documents conform**: every element, at any depth, of a sanitized document conforms to
the schema, whatever overrides the schema was made from. -/
theorem conforms_of_mem_tags_sanitize {start schema : Schema} {entries : List Override}
    (hstart : start = Schema.base ∨ start = Schema.empty)
    (h : start.withOverrides entries = .ok schema) {document : Forest}
    (hd : ∀ tag ∈ document.tags, tag.Distinct) {tag : Tag}
    (ht : tag ∈ (sanitize schema document).tags) : schema.Conforms tag := by
  rw [sanitize, Forest.tags_trimEdges] at ht
  obtain ⟨t, hmem, -, hallowed, rfl⟩ := Schema.tag_of_mem_tags_clean ht
  exact Schema.conforms_cleanTag (Schema.guarded_of_withOverrides hstart h) (hd t hmem) hallowed

/-- A form, which gives way to the input inside it. -/
def formDocument : Forest :=
  .single ⟨"form", []⟩
    (.element ⟨"input", [⟨"class", " a  b "⟩, ⟨"onclick", "x()"⟩, ⟨"type", "radio"⟩]⟩ .nil
      (.ofText "no"))

/-- The input was to be a radio button, and stays a disabled checkbox. -/
theorem conforms_formDocument :
    ((Schema.base.allowTag "input").allowAttribute "input" "type" (.ofValues ["radio"])).Conforms
      ⟨"input", [⟨"class", "a b"⟩, ⟨"type", "checkbox"⟩, ⟨"disabled", ""⟩]⟩ :=
  have hmerged : Schema.base.withOverrides [⟨" INPUT", [.rule "Type" ["radio"] []]⟩] =
      .ok ((Schema.base.allowTag "input").allowAttribute "input" "type" (.ofValues ["radio"])) := rfl
  have hdistinct : ∀ tag ∈ formDocument.tags, tag.Distinct := by decide
  conforms_of_mem_tags_sanitize (.inl rfl) hmerged hdistinct (by decide +kernel)

end ArticleMarkup
