import ArticleMarkup.Proofs.Attributes.Classes
import ArticleMarkup.Proofs.Sanitize.Again
import ArticleMarkup.Proofs.Text.JoinedWords
import ArticleMarkup.Proofs.Url

/-!
# Settled tags

A settled tag is one that sanitizing leaves as it is. The base schema settles every tag at the first
attempt, and what the later passes write on a tag keeps it settled: the ids of headings, the addresses
of self-links and the class of a highlighted block.

## Main definitions

- `Schema.Settled` — sanitizing leaves the tag as it is

## Main statements

- `Schema.settled_cleanTag_base` — the base schema settles tags
- `Schema.Settled.setAttr`, `Schema.Settled.addClass` — what keeps a tag settled
-/

namespace ArticleMarkup

namespace Schema

/-- **A settled tag**: it is allowed, each of its attributes stays as it is, and what the schema forces
is there. -/
structure Settled (schema : Schema) (tag : Tag) : Prop where
  /-- The tag is allowed. -/
  allowed : schema.allowsTag tag.name = true
  /-- The tag is not one that takes its whole subtree with it. -/
  kept : isDroppedTag tag.name = false
  /-- No two attributes have the same name. -/
  distinct : tag.Distinct
  /-- Each attribute stays as it is. -/
  stays : ∀ a ∈ tag.attrs, schema.cleanAttribute tag.name a = some a
  /-- What is forced is there. -/
  forced : ∀ e ∈ schema.required tag.name, (⟨e.1, e.2⟩ : Attribute) ∈ tag.attrs

namespace Settled

variable {schema : Schema} {tag : Tag}

/-- **Sanitizing leaves a settled tag as it is.** -/
theorem cleanTag_eq (h : schema.Settled tag) : schema.cleanTag tag = tag := by
  have hkeep : schema.cleanAttributes tag.name tag.attrs = tag.attrs := by
    rw [cleanAttributes, List.filterMap_congr (g := some) h.stays, List.filterMap_some]
  have hforce : ∀ entries : Table String, (∀ e ∈ entries, (⟨e.1, e.2⟩ : Attribute) ∈ tag.attrs) →
      forceAll entries tag = tag := by
    intro entries hentries
    induction entries with
    | nil => rfl
    | cons e rest ih =>
      have hsame : tag.setAttr e.1 e.2 = tag := by
        rw [Tag.setAttr, setAttribute_eq_self h.distinct (hentries e List.mem_cons_self)]
      change forceAll rest (tag.setAttr e.1 e.2) = tag
      rw [hsame, ih fun x hx => hentries x (List.mem_cons_of_mem _ hx)]
  rw [cleanTag, hkeep]
  exact hforce _ h.forced

/-- An attribute that stays, and is not forced, can be set. -/
theorem setAttr (h : schema.Settled tag) {name value : String}
    (hstays : schema.cleanAttribute tag.name ⟨name, value⟩ = some ⟨name, value⟩)
    (hfree : ∀ e ∈ schema.required tag.name, e.1 ≠ name) : schema.Settled (tag.setAttr name value) where
  allowed := h.allowed
  kept := h.kept
  distinct := h.distinct.setAttr name value
  stays := by
    intro a ha
    rcases mem_setAttribute ha with rfl | ha
    · exact hstays
    · exact h.stays a ha
  forced := fun e he => mem_setAttribute_of_ne (h.forced e he) (hfree e he)

/-- The class list of a settled tag is words joined by single spaces. -/
theorem exists_words (h : schema.Settled tag) {value : String} (hv : tag.attr? "class" = some value) :
    ∃ ws, ws ≠ [] ∧ value = Text.joinWith " " ws ∧ ∀ w ∈ ws, Text.IsWord w := by
  obtain ⟨a, ha, rfl⟩ := Option.map_eq_some_iff.mp hv
  obtain ⟨hmem, hname⟩ := And.intro (List.mem_of_find?_eq_some ha) (List.find?_some ha)
  obtain ⟨pattern, -, hadmits⟩ := admits_of_cleanAttribute (h.stays a hmem)
  unfold Pattern.Admits at hadmits
  rw [if_pos (of_decide_eq_true hname)] at hadmits
  obtain ⟨ws, hne, hvalue, hws⟩ := hadmits
  exact ⟨ws, hne, hvalue, fun w hw => (hws w hw).1⟩

/-- **Adding a class** keeps a tag settled where the schema permits every class. -/
theorem addClass (h : schema.Settled tag) {cls : String} (hcls : Text.IsWord cls)
    (hrule : schema.rule? tag.name "class" = some .any)
    (hfree : ∀ e ∈ schema.required tag.name, e.1 ≠ "class") : schema.Settled (tag.addClass cls) := by
  have hset : ∀ ws : List String, (∀ w ∈ ws, Text.IsWord w) → ws ≠ [] →
      schema.Settled (tag.setAttr "class" (Text.joinWith " " ws)) := by
    intro ws hws hne
    have hadmits : Pattern.any.Admits ⟨"class", Text.joinWith " " ws⟩ :=
      ⟨ws, hne, rfl, fun w hw => ⟨hws w hw, rfl⟩⟩
    exact h.setAttr (cleanAttribute_of_admits hrule hadmits) hfree
  have hone : schema.Settled (tag.setAttr "class" cls) := by
    simpa [Text.joinWith] using hset [cls] (by simpa using hcls) (by simp)
  unfold Tag.addClass
  cases hv : tag.attr? "class" with
  | none => exact hone
  | some value =>
    simp only
    split
    · exact h
    · split
      · exact hone
      · next hblank =>
        obtain ⟨ws, -, rfl, hws⟩ := h.exists_words hv
        obtain ⟨kept, hkept, htrim⟩ := Text.exists_words_trim hws
        have hne : kept ≠ [] := by
          rintro rfl
          exact hblank ((Text.trim_eq_empty_iff _).mp htrim)
        rw [htrim, Text.joinWith_concat hne]
        refine hset (kept ++ [cls]) ?_ (by simp)
        simp only [List.forall_mem_append, List.forall_mem_singleton]
        exact ⟨hkept, hcls⟩

end Settled

-- ════════════════════════════════════════════════════════════════════════
-- The base schema
-- ════════════════════════════════════════════════════════════════════════

/-- What the base schema says about the attributes that later passes write. -/
theorem rules_base :
    (∀ tag ∈ ["h1", "h2", "h3", "h4", "h5", "h6"], base.rule? tag "id" = some .any) ∧
      (∀ tag ∈ ["a", "pre"], base.rule? tag "class" = some .any) ∧
      base.rule? "a" "href" = some (.ofSchemes linkSchemes) ∧
      (∀ tag ∈ ["a", "span"], base.allowsTag tag = true) ∧
      base.rule? "input" "disabled" = some .any ∧
      base.rule? "input" "type" = some (.ofValues ["checkbox"]) := by
  have htags : ∀ tag ∈ ["a", "span"], tag ∈ baseTags := by decide
  simp only [rule?_eq, ownRule?_base]
  exact ⟨by decide, by decide, by decide, fun tag htag => allowsTag_base (htags tag htag), by decide,
    by decide⟩

/-- The base schema forces nothing against its own rules. -/
theorem refused_base (tag : String) : base.refused tag = [] := by
  by_cases h : tag = "input"
  · subst h
    obtain ⟨-, -, -, -, hdisabled, htype⟩ := rules_base
    have hforced : base.forcedAttributes "input" = [⟨"disabled", ""⟩, ⟨"type", "checkbox"⟩] := by
      rw [forcedAttributes, required_base]
      rfl
    have hfirst : base.cleanAttribute "input" ⟨"disabled", ""⟩ = some ⟨"disabled", ""⟩ :=
      cleanAttribute_of_admits hdisabled rfl
    have hlast : base.cleanAttribute "input" ⟨"type", "checkbox"⟩ = some ⟨"type", "checkbox"⟩ :=
      cleanAttribute_of_admits htype rfl
    rw [refused, hforced, List.filter_eq_nil_iff]
    simp only [List.forall_mem_cons, decide_eq_true_iff]
    exact ⟨by simp [hfirst], by simp [hlast], by simp⟩
  · unfold refused forcedAttributes
    rw [required_base, if_neg h]
    rfl

theorem ne_class_of_mem_required_base {tag : String} {e : String × String}
    (he : e ∈ base.required tag) : e.1 ≠ "class" := by
  have hnone : base.withOverrides [] = .ok base := rfl
  exact ne_class_of_mem_required hnone he

/-- **The base schema settles tags** at the first attempt. -/
theorem settled_cleanTag_base {tag : Tag} (hd : tag.Distinct)
    (hallowed : base.allowsTag tag.name = true) : base.Settled (base.cleanTag tag) := by
  have hconforms := conforms_cleanTag guarded_base hd hallowed
  refine ⟨hconforms.allowed, hconforms.kept, distinct_cleanTag hd, ?_, hconforms.forced⟩
  intro a ha
  rw [cleanAttribute_of_conforms hconforms
    (fun e he => ne_class_of_mem_required_base he) ha, refused_base]
  rfl

/-- Only inputs have forced attributes. -/
theorem Settled.setAttr_base {tag : Tag} (h : base.Settled tag) (hname : tag.name ≠ "input")
    {name value : String}
    (hstays : base.cleanAttribute tag.name ⟨name, value⟩ = some ⟨name, value⟩) :
    base.Settled (tag.setAttr name value) := by
  refine h.setAttr hstays fun e he => ?_
  rw [required_base, if_neg hname] at he
  cases he

/-- Headings may carry any id. -/
theorem Settled.setAttr_id {tag : Tag} (h : base.Settled tag) (hh : tag.isHeading = true)
    (id : String) : base.Settled (tag.setAttr "id" id) := by
  have hname : tag.name ∈ ["h1", "h2", "h3", "h4", "h5", "h6"] := by
    unfold Tag.isHeading Tag.headingLevel? at hh
    split at hh <;> simp_all
  have hinput : tag.name ≠ "input" := fun heq => absurd (heq ▸ hname) (by decide)
  exact h.setAttr_base hinput (cleanAttribute_of_admits (rules_base.1 _ hname) rfl)

theorem cleanAttribute_href_hash (id : String) :
    base.cleanAttribute "a" ⟨"href", "#" ++ id⟩ = some ⟨"href", "#" ++ id⟩ := by
  refine cleanAttribute_of_admits rules_base.2.2.1 ?_
  have hno : ¬"href" = "class" := by decide
  unfold Pattern.Admits
  rw [if_neg hno]
  exact Pattern.acceptsUrl_hash _ id

/-- Links may refer to any id. -/
theorem Settled.setAttr_href {tag : Tag} (h : base.Settled tag) (hname : tag.name = "a")
    (id : String) : base.Settled (tag.setAttr "href" ("#" ++ id)) := by
  refine h.setAttr_base (by rw [hname]; decide) ?_
  rw [hname]
  exact cleanAttribute_href_hash id

/-- A link with one class and the address of an id is settled. -/
theorem settled_link {cls : String} (hcls : Text.IsWord cls) (id : String) :
    base.Settled ⟨"a", [⟨"class", cls⟩, ⟨"href", "#" ++ id⟩]⟩ := by
  have hrule := rules_base.2.1 "a" (by decide)
  have hclass : base.cleanAttribute "a" ⟨"class", cls⟩ = some ⟨"class", cls⟩ :=
    cleanAttribute_of_admits hrule ⟨[cls], by simp, by simp [Text.joinWith], by simpa using ⟨hcls, rfl⟩⟩
  have hempty : base.Settled ⟨"a", []⟩ := by
    refine ⟨rules_base.2.2.2.1 _ (by decide), by decide, List.nodup_nil, by simp, ?_⟩
    rw [required_base]
    simp
  exact (hempty.setAttr_base (by decide) hclass).setAttr_href rfl id

/-- A `pre` element may have any class. -/
theorem Settled.addClass_pre {tag : Tag} (h : base.Settled tag) (hname : tag.name = "pre")
    {cls : String} (hcls : Text.IsWord cls) : base.Settled (tag.addClass cls) := by
  refine h.addClass hcls ?_ fun e he => ?_
  · rw [hname]
    exact rules_base.2.1 _ (by decide)
  · exact ne_class_of_mem_required_base he

end Schema

end ArticleMarkup
