import ArticleMarkup.Proofs.Forest.Retag
import ArticleMarkup.Proofs.Sanitize.Content

/-!
# Sanitizing again

What sanitizing does to a document that has been sanitized. No element goes, no text changes, and
the attributes are those that were there; only their order can change. An override may give an
attribute that the schema forces a rule which refuses the forced value. Such an attribute is taken
off again and set anew, and so it moves behind all others. From then on the document stays.

## Main definitions

- `Schema.refused` — what the schema forces on a tag against its own rules

## Main statements

- `Schema.attrs_cleanTag_of_conforms` — cleaning a tag that conforms
- `Schema.clean_eq_merged` — cleaning a document whose elements are all allowed
- `sanitize_again_iff` — when sanitizing again changes nothing
-/

namespace ArticleMarkup

namespace Schema

variable {schema : Schema}

/-- The attributes that the schema forces on a tag. -/
def forcedAttributes (schema : Schema) (tag : String) : List Attribute :=
  (schema.required tag).map fun e => ⟨e.1, e.2⟩

/-- **Forced against the rules**: the attributes that the schema forces on a tag, although its rule
for them refuses the forced value. -/
def refused (schema : Schema) (tag : String) : List Attribute :=
  (schema.forcedAttributes tag).filter fun a => schema.cleanAttribute tag a = none

-- ════════════════════════════════════════════════════════════════════════
-- Attributes that stay as they are
-- ════════════════════════════════════════════════════════════════════════

/-- A class list whose words all pass is kept, once it is written as cleaning writes it. -/
theorem cleanClasses_joinWith {pattern : Pattern} {ws : List String} (hne : ws ≠ [])
    (h : ∀ w ∈ ws, Text.IsWord w ∧ pattern.accepts w = true) :
    cleanClasses pattern (Text.joinWith " " ws) = some (Text.joinWith " " ws) := by
  have hwords : Text.words (Text.joinWith " " ws) = ws := Text.words_joinWith fun w hw => (h w hw).1
  have hall : ws.filter pattern.accepts = ws := List.filter_eq_self.mpr fun w hw => (h w hw).2
  unfold cleanClasses
  rw [hwords, hall]
  cases ws with
  | nil => exact absurd rfl hne
  | cons w ws => rfl

/-- An attribute that meets its rule stays as it is. -/
theorem cleanAttribute_of_admits {tag : String} {a : Attribute} {pattern : Pattern}
    (hrule : schema.rule? tag a.name = some pattern) (h : pattern.Admits a) :
    schema.cleanAttribute tag a = some a := by
  unfold cleanAttribute Pattern.Admits at *
  rw [hrule]
  by_cases hclass : a.name = "class"
  · simp only [if_pos hclass] at h ⊢
    obtain ⟨ws, hne, hvalue, hall⟩ := h
    rw [hvalue, cleanClasses_joinWith hne hall, ← hvalue]
    rfl
  · simp only [if_neg hclass] at h ⊢
    rw [if_pos h]

/-- Outside class lists an attribute stays as it is or goes. -/
theorem cleanAttribute_eq_none_or_self (schema : Schema) (tag : String) {a : Attribute} (hclass : a.name ≠ "class") :
    schema.cleanAttribute tag a = none ∨ schema.cleanAttribute tag a = some a := by
  unfold cleanAttribute
  cases schema.rule? tag a.name with
  | none => exact .inl rfl
  | some pattern =>
    simp only [if_neg hclass]
    split
    · exact .inr rfl
    · exact .inl rfl

/-- **On a tag that conforms** every attribute stays as it is, except those that are forced against
the rules. -/
theorem cleanAttribute_of_conforms {tag : Tag} (h : schema.Conforms tag)
    (hclass : ∀ e ∈ schema.required tag.name, e.1 ≠ "class") {a : Attribute} (ha : a ∈ tag.attrs) :
    schema.cleanAttribute tag.name a = if a ∈ schema.refused tag.name then none else some a := by
  unfold refused
  obtain ⟨pattern, hrule, hadmits | hforced⟩ := h.permitted a ha
  · rw [cleanAttribute_of_admits hrule hadmits, if_neg]
    intro hmem
    simp [cleanAttribute_of_admits hrule hadmits] at hmem
  · have hmem : a ∈ schema.forcedAttributes tag.name := List.mem_map.mpr ⟨_, hforced, rfl⟩
    rcases cleanAttribute_eq_none_or_self schema tag.name (hclass _ hforced) with hc | hc
    · simp [hmem, hc]
    · simp [hc]

theorem cleanAttributes_of_conforms {tag : Tag} (h : schema.Conforms tag)
    (hclass : ∀ e ∈ schema.required tag.name, e.1 ≠ "class") :
    schema.cleanAttributes tag.name tag.attrs =
      tag.attrs.filter (· ∉ schema.refused tag.name) := by
  rw [cleanAttributes, ← List.filterMap_eq_filter]
  refine List.filterMap_congr fun a ha => ?_
  rw [cleanAttribute_of_conforms h hclass ha]
  by_cases hr : a ∈ schema.refused tag.name <;> simp [hr, Option.guard]

-- ════════════════════════════════════════════════════════════════════════
-- Attributes that are set anew
-- ════════════════════════════════════════════════════════════════════════

/-- Setting an attribute to the value that it has changes nothing. -/
theorem setAttribute_eq_self {name value : String} {attrs : List Attribute}
    (hn : (attrs.map Attribute.name).Nodup) (h : (⟨name, value⟩ : Attribute) ∈ attrs) :
    setAttribute name value attrs = attrs := by
  induction attrs with
  | nil => cases h
  | cons b rest ih =>
    obtain ⟨hb, hrest⟩ := List.nodup_cons.mp hn
    unfold setAttribute
    rcases List.mem_cons.mp h with rfl | h
    · simp
    · have hne : b.name ≠ name := fun heq => hb (heq ▸ List.mem_map_of_mem h)
      rw [if_neg hne, ih hrest h]

/-- An attribute that is not there yet goes behind all others. -/
theorem setAttribute_eq_append {name value : String} {attrs : List Attribute}
    (h : name ∉ attrs.map Attribute.name) :
    setAttribute name value attrs = attrs ++ [⟨name, value⟩] := by
  induction attrs with
  | nil => rfl
  | cons b rest ih =>
    simp only [List.map_cons, List.mem_cons, not_or] at h
    rw [setAttribute, if_neg (Ne.symm h.1), ih h.2]
    rfl

/-- **Forcing** attributes that are there with their values, or not there at all, puts the latter
behind all others. -/
theorem attrs_forceAll {entries : Table String} {tag : Tag} (hd : tag.Distinct)
    (hn : (entries.map Prod.fst).Nodup)
    (h : ∀ e ∈ entries, (⟨e.1, e.2⟩ : Attribute) ∈ tag.attrs ∨ e.1 ∉ tag.attrs.map Attribute.name) :
    (forceAll entries tag).attrs =
      tag.attrs ++ (entries.map fun e => (⟨e.1, e.2⟩ : Attribute)).filter (· ∉ tag.attrs) := by
  induction entries generalizing tag with
  | nil => simp [forceAll]
  | cons e rest ih =>
    obtain ⟨he, hrest⟩ := List.nodup_cons.mp hn
    have hlater : ∀ x ∈ rest, (⟨x.1, x.2⟩ : Attribute) ∈ tag.attrs ∨
        x.1 ∉ tag.attrs.map Attribute.name := fun x hx => h x (List.mem_cons_of_mem _ hx)
    change (forceAll rest (tag.setAttr e.1 e.2)).attrs = _
    rcases h e List.mem_cons_self with hmem | habsent
    · have hsame : tag.setAttr e.1 e.2 = tag := by
        rw [Tag.setAttr, setAttribute_eq_self hd hmem]
      rw [hsame, ih hd hrest hlater]
      simp [hmem]
    · have hattrs : (tag.setAttr e.1 e.2).attrs = tag.attrs ++ [⟨e.1, e.2⟩] :=
        setAttribute_eq_append habsent
      have hnew : (⟨e.1, e.2⟩ : Attribute) ∉ tag.attrs := fun hmem =>
        habsent (List.mem_map_of_mem hmem)
      have hother : ∀ x ∈ rest, x.1 ≠ e.1 := fun x hx heq => he (heq ▸ List.mem_map_of_mem hx)
      rw [ih (hd.setAttr e.1 e.2) hrest, hattrs]
      · -- the attribute that is new has the name of no later entry
        have hfilter : (rest.map fun x => (⟨x.1, x.2⟩ : Attribute)).filter
              (· ∉ tag.attrs ++ [⟨e.1, e.2⟩]) =
            (rest.map fun x => (⟨x.1, x.2⟩ : Attribute)).filter (· ∉ tag.attrs) := by
          refine List.filter_congr fun a ha => ?_
          obtain ⟨x, hx, rfl⟩ := List.mem_map.mp ha
          simp [hother x hx]
        rw [hfilter]
        simp [hnew]
      · intro x hx
        rw [hattrs]
        simpa [hother x hx] using hlater x hx

/-- **Cleaning a tag that conforms** puts what is forced against the rules behind all others. -/
theorem attrs_cleanTag_of_conforms (hs : schema.Guarded) {tag : Tag} (h : schema.Conforms tag)
    (hd : tag.Distinct) (hclass : ∀ e ∈ schema.required tag.name, e.1 ≠ "class") :
    (schema.cleanTag tag).attrs =
      tag.attrs.filter (· ∉ schema.refused tag.name) ++ schema.refused tag.name := by
  have hkept := cleanAttributes_of_conforms h hclass
  have hdistinct : (⟨tag.name, schema.cleanAttributes tag.name tag.attrs⟩ : Tag).Distinct :=
    (names_cleanAttributes_sublist tag.name tag.attrs).nodup hd
  have hthere : ∀ e ∈ schema.required tag.name,
      (⟨e.1, e.2⟩ : Attribute) ∈ schema.cleanAttributes tag.name tag.attrs ∨
        e.1 ∉ (schema.cleanAttributes tag.name tag.attrs).map Attribute.name := by
    intro e he
    rw [hkept]
    by_cases hr : (⟨e.1, e.2⟩ : Attribute) ∈ schema.refused tag.name
    · refine .inr fun hname => ?_
      obtain ⟨a, ha, hn⟩ := List.mem_map.mp hname
      obtain ⟨hmem, hnr⟩ := List.mem_filter.mp ha
      have hsame : a = ⟨e.1, e.2⟩ := hd.eq_of_name_eq hmem (h.forced e he) hn
      exact (of_decide_eq_true hnr) (hsame ▸ hr)
    · exact .inl (List.mem_filter.mpr ⟨h.forced e he, decide_eq_true hr⟩)
  have hforce := attrs_forceAll hdistinct (hs.required_distinct tag.name) hthere
  have hrefused : (schema.forcedAttributes tag.name).filter
        (· ∉ schema.cleanAttributes tag.name tag.attrs) = schema.refused tag.name := by
    refine List.filter_congr fun a ha => ?_
    obtain ⟨e, he, rfl⟩ := List.mem_map.mp ha
    have hmem := h.forced e he
    rw [hkept, cleanAttribute_of_conforms h hclass hmem]
    by_cases hr : (⟨e.1, e.2⟩ : Attribute) ∈ schema.refused tag.name <;> simp [hmem, hr]
  calc (schema.cleanTag tag).attrs
      = schema.cleanAttributes tag.name tag.attrs ++ (schema.forcedAttributes tag.name).filter
          (· ∉ schema.cleanAttributes tag.name tag.attrs) := hforce
    _ = _ := by rw [hrefused, hkept]

/-- Moving entries to the end changes nothing exactly when they are there already. -/
theorem filter_append_eq_self_iff {l r : List Attribute} (hn : l.Nodup) :
    l.filter (· ∉ r) ++ r = l ↔ r <:+ l := by
  constructor
  · intro h
    exact ⟨_, h⟩
  · rintro ⟨front, rfl⟩
    have hfront : front.filter (· ∉ r) = front :=
      List.filter_eq_self.mpr fun a ha => decide_eq_true fun hr =>
        (List.nodup_append.mp hn).2.2 a ha a hr rfl
    have hback : r.filter (· ∉ r) = [] := by simp
    rw [List.filter_append, hfront, hback, List.append_nil]

/-- **A tag that conforms stays** exactly when what is forced against the rules comes last. -/
theorem cleanTag_eq_self_iff (hs : schema.Guarded) {tag : Tag} (h : schema.Conforms tag)
    (hd : tag.Distinct) (hclass : ∀ e ∈ schema.required tag.name, e.1 ≠ "class") :
    schema.cleanTag tag = tag ↔ schema.refused tag.name <:+ tag.attrs := by
  rw [← filter_append_eq_self_iff (List.Nodup.of_map _ hd),
    ← attrs_cleanTag_of_conforms hs h hd hclass]
  constructor
  · intro heq
    rw [heq]
  · intro heq
    have hname : (schema.cleanTag tag).name = tag.name := name_cleanTag tag
    cases hc : schema.cleanTag tag with
    | mk name attrs =>
      rw [hc] at heq hname
      cases tag
      simp_all

/-- **A tag that is cleaned twice** stays. -/
theorem cleanTag_cleanTag_cleanTag (hs : schema.Guarded) {tag : Tag} (hd : tag.Distinct)
    (hallowed : schema.allowsTag tag.name = true)
    (hclass : ∀ e ∈ schema.required tag.name, e.1 ≠ "class") :
    schema.cleanTag (schema.cleanTag (schema.cleanTag tag)) =
      schema.cleanTag (schema.cleanTag tag) := by
  have hconforms := conforms_cleanTag hs hd hallowed
  have hdistinct : (schema.cleanTag tag).Distinct := distinct_cleanTag hd
  have hlast := attrs_cleanTag_of_conforms hs hconforms hdistinct (by simpa using hclass)
  refine (cleanTag_eq_self_iff hs ?_ (distinct_cleanTag hdistinct) (by simpa using hclass)).mpr ?_
  · exact conforms_cleanTag hs hdistinct (by simpa using hallowed)
  · rw [hlast]
    simp

-- ════════════════════════════════════════════════════════════════════════
-- Documents
-- ════════════════════════════════════════════════════════════════════════

/-- **Cleaning a document whose elements are all allowed** cleans its tags and merges its texts. -/
theorem clean_eq_merged {f : Forest}
    (hkept : ∀ tag ∈ f.tags, isDroppedTag tag.name = false ∧ schema.allowsTag tag.name = true) :
    schema.clean f = f.merged.retag schema.cleanTag := by
  induction f with
  | nil => rfl
  | text s rest ih => rw [clean, ih hkept, Forest.merged_text, Forest.retag_consText]
  | element tag cs rest ihcs ihrest =>
    simp only [Forest.tags, List.forall_mem_cons, List.forall_mem_append] at hkept
    obtain ⟨⟨hdropped, hallowed⟩, hcs, hrest⟩ := hkept
    simp [clean, hdropped, hallowed, ihcs hcs, ihrest hrest]

/-- Where the texts stand apart only the tags change. -/
theorem clean_eq_retag {f : Forest} (hapart : f.textsApart = true)
    (hkept : ∀ tag ∈ f.tags, isDroppedTag tag.name = false ∧ schema.allowsTag tag.name = true) :
    schema.clean f = f.retag schema.cleanTag := by
  rw [clean_eq_merged hkept, Forest.merged_eq_self hapart]

/-- Sanitizing a document that has been sanitized only cleans its tags. -/
theorem sanitize_eq_retag {f : Forest} (hapart : f.textsApart = true) (htrim : f.trimEdges = f)
    (hkept : ∀ tag ∈ f.tags, isDroppedTag tag.name = false ∧ schema.allowsTag tag.name = true) :
    sanitize schema f = f.retag schema.cleanTag := by
  rw [sanitize, clean_eq_retag hapart hkept, Forest.trimEdges_retag, htrim]

/-- The elements of a sanitized document are allowed elements of the document, cleaned. -/
theorem tag_of_mem_tags_sanitize {f : Forest} {tag : Tag} (h : tag ∈ (sanitize schema f).tags) :
    ∃ t ∈ f.tags, isDroppedTag t.name = false ∧ schema.allowsTag t.name = true ∧
      tag = schema.cleanTag t :=
  tag_of_mem_tags_clean (by simpa [sanitize] using h)

/-- **Sanitizing again** only cleans the tags. -/
theorem sanitize_sanitize (f : Forest) :
    sanitize schema (sanitize schema f) = (sanitize schema f).retag schema.cleanTag := by
  refine sanitize_eq_retag (Forest.textsApart_trimEdges (schema.textsApart_clean f))
    (Forest.trimEdges_trimEdges _) ?_
  intro tag htag
  obtain ⟨t, -, hdropped, hallowed, rfl⟩ := tag_of_mem_tags_sanitize htag
  rw [name_cleanTag]
  exact ⟨hdropped, hallowed⟩

/-- No schema that is made from the base schema forces a class list. -/
theorem ne_class_of_mem_required {entries : List Override}
    (h : base.withOverrides entries = .ok schema) {tag : String} {e : String × String}
    (he : e ∈ schema.required tag) : e.1 ≠ "class" := by
  rw [required_withOverrides h, required_base] at he
  split at he
  · simp only [List.mem_cons, List.not_mem_nil, or_false] at he
    rcases he with rfl | rfl <;> decide
  · cases he

end Schema

/-- **When sanitizing again changes nothing.** A sanitized document is a fixed point of sanitizing
exactly when, on each of its elements, the attributes that the schema forces against its own rules
come last. One that has been sanitized twice always is. -/
theorem sanitize_again_iff {schema : Schema} {entries : List Override}
    (h : Schema.base.withOverrides entries = .ok schema) {document : Forest}
    (hd : ∀ tag ∈ document.tags, tag.Distinct) :
    (sanitize schema (sanitize schema document) = sanitize schema document ↔
        ∀ tag ∈ (sanitize schema document).tags, schema.refused tag.name <:+ tag.attrs) ∧
      sanitize schema (sanitize schema (sanitize schema document)) =
        sanitize schema (sanitize schema document) := by
  have hs := Schema.guarded_of_withOverrides (.inl rfl) h
  have hclass : ∀ tag, ∀ e ∈ schema.required tag, e.1 ≠ "class" := fun _ _ =>
    Schema.ne_class_of_mem_required h
  constructor
  · rw [Schema.sanitize_sanitize, Forest.retag_eq_self_iff]
    refine forall₂_congr fun tag htag => ?_
    obtain ⟨t, ht, -, hallowed, rfl⟩ := Schema.tag_of_mem_tags_sanitize htag
    exact Schema.cleanTag_eq_self_iff hs (Schema.conforms_cleanTag hs (hd t ht) hallowed)
      (Schema.distinct_cleanTag (hd t ht)) (hclass _)
  · rw [Schema.sanitize_sanitize (sanitize schema document), Forest.retag_eq_self_iff]
    intro tag htag
    rw [Schema.sanitize_sanitize, Forest.tags_retag] at htag
    obtain ⟨u, hu, rfl⟩ := List.mem_map.mp htag
    obtain ⟨t, ht, -, hallowed, rfl⟩ := Schema.tag_of_mem_tags_sanitize hu
    exact Schema.cleanTag_cleanTag_cleanTag hs (hd t ht) hallowed (hclass _)

/-- The base schema with radio buttons in place of checkboxes. -/
def radioSchema : Schema :=
  (Schema.base.allowTag "input").allowAttribute "input" "type" (.ofValues ["radio"])

/-- An input whose type the override allows, and the base schema forces to be another. -/
def radioInput : Forest :=
  .single ⟨"input", [⟨"type", "radio"⟩, ⟨"class", "a"⟩]⟩ .nil

theorem sanitize_again_radioInput :
    Schema.base.withOverrides [⟨"input", [.rule "type" ["radio"] []]⟩] = .ok radioSchema ∧
      (∀ tag ∈ radioInput.tags, tag.Distinct) ∧
      sanitize radioSchema (sanitize radioSchema (sanitize radioSchema radioInput)) =
        sanitize radioSchema (sanitize radioSchema radioInput) :=
  have hmerged : Schema.base.withOverrides [⟨"input", [.rule "type" ["radio"] []]⟩] =
      .ok radioSchema := rfl
  have hdistinct : ∀ tag ∈ radioInput.tags, tag.Distinct := by decide
  ⟨hmerged, hdistinct, (sanitize_again_iff hmerged hdistinct).2⟩

/-- The forced type stands in the place of the author's, and moves behind the class list when the
document is sanitized again. -/
theorem sanitize_again_moves_radioInput :
    ¬∀ (entries : List Override) (schema : Schema) (document : Forest),
      Schema.base.withOverrides entries = .ok schema →
      (∀ tag ∈ document.tags, tag.Distinct) →
      sanitize schema (sanitize schema document) = sanitize schema document := by
  intro hfixed
  have hsame := hfixed [⟨"input", [.rule "type" ["radio"] []]⟩] radioSchema radioInput rfl (by decide)
  have honce : sanitize radioSchema radioInput =
      .single ⟨"input", [⟨"type", "checkbox"⟩, ⟨"class", "a"⟩, ⟨"disabled", ""⟩]⟩ .nil := by
    decide +kernel
  have htwice : sanitize radioSchema (sanitize radioSchema radioInput) =
      .single ⟨"input", [⟨"class", "a"⟩, ⟨"disabled", ""⟩, ⟨"type", "checkbox"⟩]⟩ .nil := by
    decide +kernel
  rw [htwice, honce] at hsame
  exact absurd hsame (by decide)

end ArticleMarkup
