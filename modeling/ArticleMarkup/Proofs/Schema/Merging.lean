import ArticleMarkup.Proofs.Schema.Rules

/-!
# Merged overrides

A list of overrides is a list of demands: each entry asks for its tag, and then for its attributes in
order. Merging fails at the first demand that is refused. If none is, all of them are granted in order,
and of the demands for one attribute of one tag the last one stands.

## Main definitions

- `TagName`, `AttributeName`, `ForbiddenAttribute` — which names are well formed, and which are forbidden
- `Demand`, `demands` — what a list of overrides asks for, one thing after the other
- `Demand.Refused` — the reason why a demand is refused
- `AttributeOverride.Asks` — the pattern that an attribute asks for
- `Schema.grant` — what a granted demand changes
- `askedFor` — the permissions that a list asks for on one attribute of one tag
- `Schema.Merged` — what the merged schema permits and forces, against the schema before

## Main statements

- `Schema.withOverrides_eq` — merging overrides is serving their demands
- `Schema.ownRule?_foldl_grant` — the last demand for an attribute stands
- `Schema.withOverrides_iff` — **what merging makes of a list of overrides**
-/

namespace ArticleMarkup

-- ════════════════════════════════════════════════════════════════════════
-- Names and patterns
-- ════════════════════════════════════════════════════════════════════════

/-- The name of a tag: it begins with a letter and holds letters, digits and hyphens. -/
def TagName (name : String) : Prop :=
  (∃ c cs, name.toList = c :: cs ∧ Text.isAsciiLetter c = true) ∧
    ∀ c ∈ name.toList, Text.isAsciiAlnum c = true ∨ c = '-'

/-- The name of an attribute: underscores, colons and dots may stand in it too. -/
def AttributeName (name : String) : Prop :=
  (∃ c cs, name.toList = c :: cs ∧ Text.isAsciiLetter c = true) ∧
    ∀ c ∈ name.toList, Text.isAsciiAlnum c = true ∨ c ∈ ['-', '_', ':', '.']

/-- The handlers of events, and what carries styles, documents or further addresses. -/
def ForbiddenAttribute (name : String) : Prop :=
  ['o', 'n'] <+: name.toList ∨ name ∈ ["style", "srcdoc", "srcset"]

theorem isTagName_iff {name : String} : isTagName name = true ↔ TagName name := by
  unfold isTagName TagName
  cases name.toList with
  | nil => simp
  | cons c cs =>
    have hfirst : Text.isAsciiLetter c = true → Text.isAsciiAlnum c = true := by
      intro h
      simp [Text.isAsciiAlnum, h]
    simp only [Bool.and_eq_true, List.all_eq_true, Bool.or_eq_true, beq_iff_eq, List.mem_cons]
    grind

theorem isAttributeName_iff {name : String} : isAttributeName name = true ↔ AttributeName name := by
  unfold isAttributeName AttributeName
  cases name.toList with
  | nil => simp
  | cons c cs =>
    have hfirst : Text.isAsciiLetter c = true → Text.isAsciiAlnum c = true := by
      intro h
      simp [Text.isAsciiAlnum, h]
    simp only [Bool.and_eq_true, List.all_eq_true, Bool.or_eq_true, beq_iff_eq, List.mem_cons]
    grind

theorem isSome_dropStart?_iff {start cs : List Char} :
    (Text.dropStart? start cs).isSome = true ↔ start <+: cs := by
  fun_induction Text.dropStart? start cs with
  | case1 cs => simp
  | case2 c start => simp
  | case3 start c cs ih => rw [ih, List.prefix_cons_inj]
  | case4 c start d cs hne => simp [List.cons_prefix_cons, hne]

theorem isForbiddenAttribute_iff {name : String} :
    isForbiddenAttribute name = true ↔ ForbiddenAttribute name := by
  unfold isForbiddenAttribute ForbiddenAttribute Text.startsWith
  simp only [Bool.or_eq_true, isSome_dropStart?_iff, beq_iff_eq, List.mem_cons, or_assoc,
    List.not_mem_nil, or_false]
  rfl

namespace AttributeOverride

/-- **The pattern that an attribute asks for**: any value for a bare name; for a rule its values, in
ascending order and each once; without values, its beginnings; and without those, any value. -/
inductive Asks : AttributeOverride → Pattern → Prop where
  | name {n} : Asks (name n) .any
  | oneOf {n values starts kept} (hne : values ≠ []) (hsorted : kept.Pairwise (· < ·))
      (hmem : ∀ v, v ∈ kept ↔ v ∈ values) : Asks (rule n values starts) (.oneOf kept)
  | startingWith {n starts} (hne : starts ≠ []) : Asks (rule n [] starts) (.startingWith starts)
  | free {n} : Asks (rule n [] []) .any

theorem asks_pattern (asked : AttributeOverride) : asked.Asks asked.pattern :=
  match asked with
  | name _ => .name
  | rule _ (v :: vs) _ =>
    have ⟨hsorted, hmem⟩ := sortedDistinct_spec (v :: vs)
    .oneOf (List.cons_ne_nil v vs) hsorted hmem
  | rule _ [] (s :: ss) => .startingWith (List.cons_ne_nil s ss)
  | rule _ [] [] => .free

end AttributeOverride

-- ════════════════════════════════════════════════════════════════════════
-- Demands
-- ════════════════════════════════════════════════════════════════════════

/-- One thing that overrides ask for. Names are without blank ends and in lowercase. -/
inductive Demand where
  /-- To allow a tag. -/
  | allow (tag : String)
  /-- To permit an attribute on a tag. -/
  | permit (tag attr : String) (asked : AttributeOverride)
deriving DecidableEq, Repr

/-- What an attribute of an entry asks for. -/
def AttributeOverride.demand (tag : String) : AttributeOverride → Demand
  | name n => .permit tag (Text.lowerAscii (Text.trim n)) (name n)
  | rule n oneOf starts => .permit tag (Text.lowerAscii (Text.trim n)) (rule n oneOf starts)

/-- What an entry asks for: its tag, then its attributes. -/
def Override.demands (entry : Override) : List Demand :=
  .allow (Text.lowerAscii (Text.trim entry.tag)) ::
    entry.attributes.map (·.demand (Text.lowerAscii (Text.trim entry.tag)))

/-- **What a list of overrides asks for**, in order. -/
def demands (entries : List Override) : List Demand :=
  entries.flatMap Override.demands

theorem Override.demands_eq (entry : Override) :
    entry.demands = .allow (normalizedName entry.tag) :: entry.attributes.map fun asked =>
      .permit (normalizedName entry.tag) (normalizedName asked.written) asked := by
  have hdemand : ∀ (tag : String) (asked : AttributeOverride),
      asked.demand tag = .permit tag (normalizedName asked.written) asked := by
    intro tag asked
    cases asked <;> rfl
  unfold Override.demands
  rw [funext (hdemand _)]
  rfl

namespace Demand

/-- The tag that is asked for, or on which an attribute is asked for. -/
def tag : Demand → String
  | allow tag => tag
  | permit tag _ _ => tag

/-- The permission, if the demand asks for one for this attribute of this tag. -/
def permission? (tag attr : String) : Demand → Option AttributeOverride
  | allow _ => none
  | permit tag' attr' asked => if tag' = tag ∧ attr' = attr then some asked else none

/-- **A demand is refused** for a name that is not well formed, or for one that is and is forbidden.
The wildcard is never refused. -/
inductive Refused : Demand → SchemaError → Prop where
  | invalidTag {tag} (hwild : tag ≠ "*") (h : ¬ TagName tag) :
      Refused (allow tag) (.invalidTagName tag)
  | forbiddenTag {tag} (hname : TagName tag) (h : tag ∈ droppedTags) :
      Refused (allow tag) (.forbiddenTag tag)
  | invalidAttribute {tag attr asked} (h : ¬ AttributeName attr) :
      Refused (permit tag attr asked) (.invalidAttributeName attr)
  | forbiddenAttribute {tag attr asked} (hname : AttributeName attr)
      (h : ForbiddenAttribute attr) :
      Refused (permit tag attr asked) (.forbiddenAttribute tag attr)

/-- The check that a demand has to pass. -/
def check : Demand → Except SchemaError Unit
  | allow tag => checkTag tag
  | permit tag attr _ => checkAttribute tag attr

theorem checkTag_eq_error_iff {tag : String} {e : SchemaError} :
    checkTag tag = .error e ↔ (allow tag).Refused e := by
  constructor
  · intro h
    unfold checkTag at h
    split at h
    · cases h
    · next hwild =>
      split at h
      · next hname =>
        cases h
        exact .invalidTag hwild (by simpa [← isTagName_iff] using hname)
      · next hname =>
        split at h
        · next hdrop =>
          cases h
          exact .forbiddenTag (isTagName_iff.mp (by simpa using hname))
            (List.contains_iff_mem.mp hdrop)
        · cases h
  · intro h
    cases h with
    | invalidTag hwild hname =>
      rw [← isTagName_iff, Bool.not_eq_true] at hname
      simp [checkTag, wildcard, hwild, hname]
    | forbiddenTag hname hdrop =>
      have hdropped : isDroppedTag tag = true := List.contains_iff_mem.mpr hdrop
      have hwild : tag ≠ wildcard := by
        rintro rfl
        cases isTagName_iff.mpr hname
      simp [checkTag, hwild, isTagName_iff.mpr hname, hdropped]

theorem checkAttribute_eq_error_iff {tag attr : String} {asked : AttributeOverride}
    {e : SchemaError} :
    checkAttribute tag attr = .error e ↔ (permit tag attr asked).Refused e := by
  constructor
  · intro h
    unfold checkAttribute at h
    split at h
    · next hname =>
      cases h
      exact .invalidAttribute (by simpa [← isAttributeName_iff] using hname)
    · next hname =>
      split at h
      · next hforbidden =>
        cases h
        exact .forbiddenAttribute (isAttributeName_iff.mp (by simpa using hname))
          (isForbiddenAttribute_iff.mp hforbidden)
      · cases h
  · intro h
    cases h with
    | invalidAttribute hname =>
      rw [← isAttributeName_iff, Bool.not_eq_true] at hname
      simp [checkAttribute, hname]
    | forbiddenAttribute hname hforbidden =>
      simp [checkAttribute, isAttributeName_iff.mpr hname,
        isForbiddenAttribute_iff.mpr hforbidden]

/-- The reason why the check fails, if it does. -/
def fault? (d : Demand) : Option SchemaError :=
  match d.check with
  | .error e => some e
  | .ok () => none

/-- **The check fails** exactly for demands that are refused, and with the reason why they are. -/
theorem fault?_eq_some_iff {d : Demand} {e : SchemaError} : d.fault? = some e ↔ d.Refused e := by
  have hcheck : d.fault? = some e ↔ d.check = .error e := by
    unfold fault?
    cases d.check with
    | error e' => simp
    | ok u => simp
  rw [hcheck]
  cases d with
  | allow tag => exact checkTag_eq_error_iff
  | permit tag attr asked => exact checkAttribute_eq_error_iff

theorem fault?_eq_none_iff {d : Demand} : d.fault? = none ↔ ∀ e, ¬ d.Refused e := by
  simp only [Option.eq_none_iff_forall_ne_some, ne_eq, fault?_eq_some_iff]

end Demand

-- ════════════════════════════════════════════════════════════════════════
-- Serving demands
-- ════════════════════════════════════════════════════════════════════════

namespace Schema

/-- What a demand changes when it is granted. -/
def grant (schema : Schema) : Demand → Schema
  | .allow tag => schema.allowTag tag
  | .permit tag attr asked => schema.allowAttribute tag attr (overridePattern asked)

/-- Check a demand and grant it. -/
def serve (schema : Schema) (d : Demand) : Except SchemaError Schema := do
  d.check
  return schema.grant d

theorem addOverride_eq (schema : Schema) (entry : Override) :
    schema.addOverride entry = entry.demands.foldlM serve schema := by
  rw [addOverride, entry.demands_eq, List.foldlM_cons, serve, Demand.check]
  cases checkTag (normalizedName entry.tag) with
  | error e => rfl
  | ok u =>
    change _ = (entry.attributes.map _).foldlM serve (schema.allowTag (normalizedName entry.tag))
    rw [List.foldlM_map]
    rfl

/-- **Merging overrides is serving their demands** one after the other. -/
theorem withOverrides_eq (schema : Schema) (entries : List Override) :
    schema.withOverrides entries = (demands entries).foldlM serve schema := by
  unfold withOverrides demands
  induction entries generalizing schema with
  | nil => rfl
  | cons entry entries ih =>
    rw [List.foldlM_cons, List.flatMap_cons, List.foldlM_append, addOverride_eq]
    exact bind_congr fun schema => ih schema

/-- **The first demand that is refused** decides. Without one all demands are granted. -/
theorem foldlM_serve (schema : Schema) (ds : List Demand) :
    ds.foldlM serve schema =
      match ds.findSome? Demand.fault? with
      | some e => .error e
      | none => .ok (ds.foldl grant schema) := by
  induction ds generalizing schema with
  | nil => rfl
  | cons d ds ih =>
    rw [List.foldlM_cons, List.findSome?_cons, serve, Demand.fault?]
    cases d.check with
    | error e => rfl
    | ok u => exact ih (schema.grant d)

-- ════════════════════════════════════════════════════════════════════════
-- What has been granted
-- ════════════════════════════════════════════════════════════════════════

theorem allowsTag_grant (schema : Schema) (d : Demand) (tag : String) :
    (schema.grant d).allowsTag tag = true ↔
      schema.allowsTag tag = true ∨ tag ≠ wildcard ∧ d.tag = tag := by
  cases d with
  | allow key => exact allowsTag_alter_iff schema key tag _
  | permit key attr asked => exact allowsTag_alter_iff schema key tag _

theorem allowsTag_foldl_grant (schema : Schema) (ds : List Demand) (tag : String) :
    (ds.foldl grant schema).allowsTag tag = true ↔
      schema.allowsTag tag = true ∨ tag ≠ wildcard ∧ ∃ d ∈ ds, d.tag = tag := by
  induction ds generalizing schema with
  | nil => simp
  | cons d ds ih =>
    rw [List.foldl_cons, ih, allowsTag_grant]
    simp only [List.mem_cons, exists_eq_or_imp, and_or_left, or_assoc]

theorem ownRule?_grant (schema : Schema) (d : Demand) (tag attr : String) :
    (schema.grant d).ownRule? tag attr =
      ((d.permission? tag attr).map overridePattern).or (schema.ownRule? tag attr) := by
  cases d with
  | allow tag' => exact ownRule?_allowTag schema tag' tag attr
  | permit tag' attr' asked =>
    rw [grant, ownRule?_allowAttribute, Demand.permission?]
    split <;> rfl

/-- **The last demand for an attribute stands.** Without one, the rule is the one before. -/
theorem ownRule?_foldl_grant (schema : Schema) (ds : List Demand) (tag attr : String) :
    (ds.foldl grant schema).ownRule? tag attr =
      ((ds.filterMap (·.permission? tag attr)).getLast?.map overridePattern).or
        (schema.ownRule? tag attr) := by
  induction ds generalizing schema with
  | nil => rfl
  | cons d ds ih =>
    rw [List.foldl_cons, ih, ownRule?_grant]
    cases h : d.permission? tag attr with
    | none => rw [List.filterMap_cons_none h]; rfl
    | some asked =>
      rw [List.filterMap_cons_some h, List.getLast?_cons]
      cases (ds.filterMap (·.permission? tag attr)).getLast? <;> rfl

end Schema

-- ════════════════════════════════════════════════════════════════════════
-- What a list asks for
-- ════════════════════════════════════════════════════════════════════════

/-- **The permissions that a list asks for** on one attribute of one tag, in order. -/
def askedFor (entries : List Override) (tag attr : String) : List AttributeOverride :=
  (demands entries).filterMap (·.permission? tag attr)

theorem name_of_mem_askedFor {entries : List Override} {tag attr : String}
    {asked : AttributeOverride} (h : asked ∈ askedFor entries tag attr) :
    normalizedName asked.written = attr := by
  obtain ⟨d, hd, hasked⟩ := List.mem_filterMap.mp h
  obtain ⟨entry, -, hd⟩ := List.mem_flatMap.mp hd
  rw [entry.demands_eq] at hd
  rcases List.mem_cons.mp hd with rfl | hd
  · cases hasked
  · obtain ⟨given, -, rfl⟩ := List.mem_map.mp hd
    rw [Demand.permission?] at hasked
    split at hasked
    · next hsame =>
      cases hasked
      exact hsame.2
    · cases hasked

theorem exists_tag_iff {entries : List Override} {tag : String} :
    (∃ d ∈ demands entries, d.tag = tag) ↔
      ∃ entry ∈ entries, Text.lowerAscii (Text.trim entry.tag) = tag := by
  have hname : ∀ entry : Override, ∀ d ∈ entry.demands,
      d.tag = Text.lowerAscii (Text.trim entry.tag) := by
    intro entry
    rw [entry.demands_eq]
    simp [Demand.tag, normalizedName]
  constructor
  · rintro ⟨d, hd, rfl⟩
    obtain ⟨entry, hentry, hmem⟩ := List.mem_flatMap.mp hd
    exact ⟨entry, hentry, (hname entry d hmem).symm⟩
  · rintro ⟨entry, hentry, rfl⟩
    exact ⟨.allow _, List.mem_flatMap.mpr ⟨entry, hentry, List.mem_cons_self⟩, rfl⟩

namespace Schema

/-- **The merged schema**, against the schema before and the overrides. -/
structure Merged (schema : Schema) (entries : List Override) (merged : Schema) : Prop where
  /-- A tag is allowed if it was, or if an entry names it. The wildcard is not a tag. -/
  allowsTag : ∀ tag, merged.allowsTag tag = true ↔
    schema.allowsTag tag = true ∨
      tag ≠ "*" ∧ ∃ entry ∈ entries, Text.lowerAscii (Text.trim entry.tag) = tag
  /-- A tag has its own rule for an attribute from the last permission that the list asks for. An
  attribute that holds an address gets the link check, whatever was asked for. -/
  last : ∀ tag attr asked, (askedFor entries tag attr).getLast? = some asked →
    ∃ pattern, merged.ownRule? tag attr = some pattern ∧
      if attr ∈ urlAttributes then pattern = .url linkSchemes else asked.Asks pattern
  /-- Without one it keeps the rule that it had. -/
  kept : ∀ tag attr, askedFor entries tag attr = [] →
    merged.ownRule? tag attr = schema.ownRule? tag attr
  /-- A rule of the tag hides the rule of the wildcard. -/
  rule : ∀ tag attr, merged.rule? tag attr =
    (merged.ownRule? tag attr).or (merged.ownRule? "*" attr)
  /-- What is forced stays the same. -/
  required : ∀ tag, merged.required tag = schema.required tag

theorem merged_foldl_grant (schema : Schema) (entries : List Override)
    (h : schema.withOverrides entries = .ok ((demands entries).foldl grant schema)) :
    schema.Merged entries ((demands entries).foldl grant schema) := by
  have hown := ownRule?_foldl_grant schema (demands entries)
  refine ⟨?_, ?_, ?_, rule?_eq _, required_withOverrides h⟩
  · intro tag
    rw [allowsTag_foldl_grant, exists_tag_iff]
    rfl
  · intro tag attr asked hlast
    have hname := name_of_mem_askedFor (List.mem_of_getLast? hlast)
    rw [askedFor] at hlast
    refine ⟨overridePattern asked, ?_, ?_⟩
    · rw [hown, hlast, Option.map_some, Option.some_or]
    · rw [overridePattern, hname]
      by_cases hurl : attr ∈ urlAttributes
      · rw [if_pos hurl, if_pos (List.contains_iff_mem.mpr hurl)]
        rfl
      · rw [if_neg hurl, if_neg (by simpa using hurl)]
        exact asked.asks_pattern
  · intro tag attr hnone
    rw [askedFor] at hnone
    rw [hown, hnone]
    rfl

/-- **What merging makes of a list of overrides.** It fails exactly if a demand of some entry is
refused, and then for the reason of the first one that is. Otherwise the merged schema allows the tags
and has the rules of before, with what the list asks for in their place. -/
theorem withOverrides_iff (schema : Schema) (entries : List Override) :
    ((∃ e, schema.withOverrides entries = .error e) ↔
      ∃ entry ∈ entries, ∃ d ∈ entry.demands, ∃ e, d.Refused e) ∧
    (∀ e, schema.withOverrides entries = .error e ↔
      ∃ before d after, demands entries = before ++ d :: after ∧ d.Refused e ∧
        ∀ d' ∈ before, ∀ e', ¬ d'.Refused e') ∧
    ∀ merged, schema.withOverrides entries = .ok merged → schema.Merged entries merged := by
  have hserve := (schema.withOverrides_eq entries).trans (schema.foldlM_serve (demands entries))
  have hrefused : (∃ entry ∈ entries, ∃ d ∈ entry.demands, ∃ e, d.Refused e) ↔
      (demands entries).findSome? Demand.fault? ≠ none := by
    simp only [ne_eq, List.findSome?_eq_none_iff, Demand.fault?_eq_none_iff, demands,
      List.mem_flatMap]
    grind
  have hfirst : ∀ e, (demands entries).findSome? Demand.fault? = some e ↔
      ∃ before d after, demands entries = before ++ d :: after ∧ d.Refused e ∧
        ∀ d' ∈ before, ∀ e', ¬ d'.Refused e' := by
    intro e
    simp only [List.findSome?_eq_some_iff, Demand.fault?_eq_some_iff, Demand.fault?_eq_none_iff]
  rw [hrefused]
  simp only [← hfirst]
  -- everything is said of the first fault now, so its two cases are left
  cases hfault : (demands entries).findSome? Demand.fault? with
  | some e =>
    rw [hfault] at hserve
    simp [hserve]
  | none =>
    rw [hfault] at hserve
    refine ⟨by simp [hserve], by simp [hserve], fun merged h => ?_⟩
    cases hserve.symm.trans h
    exact schema.merged_foldl_grant entries hserve

end Schema

end ArticleMarkup
