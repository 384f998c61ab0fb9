import ArticleMarkup.Proofs.Sanitize.Again

/-!
# Clean reports

A report is clean when every element of the document stays and every attribute with it. The document is
then the same but for its spacing and for what the schema forces, with one exception: the words of a class
list are not counted, so that a refused word goes unreported as long as another word of its list passes.

## Main definitions

- `Schema.Spares` — a tag that stays with all its attributes
- `Schema.KeepsClasses` — a tag whose classes all pass
- `Schema.tidy` — a tag with its class lists spaced evenly, and with what the schema forces
- `Schema.purge` — the same without the classes that the schema refuses

## Main statements

- `Schema.isClean_removals_iff` — when a report is clean
- `sanitize_of_isClean` — what a clean report says about the sanitized document
-/

namespace ArticleMarkup

/-- The attribute with its class list written anew, out of the words with the property. -/
def Attribute.withWords (p : String → Bool) (a : Attribute) : Attribute :=
  if a.name = "class" then ⟨a.name, Text.joinWith " " ((Text.words a.value).filter p)⟩ else a

theorem Attribute.name_withWords (p : String → Bool) (a : Attribute) :
    (a.withWords p).name = a.name := by
  unfold withWords
  split <;> rfl

/-- **Words that are left out** are missing in the new list. -/
theorem Attribute.withWords_eq_iff {p : String → Bool} {a : Attribute} (hclass : a.name = "class") :
    a.withWords p = a.withWords (fun _ => true) ↔ ∀ w ∈ Text.words a.value, p w = true := by
  have hwords : ∀ w ∈ Text.words a.value, Text.IsWord w := fun w hw => Text.isWord_of_mem_words hw
  have hall : (Text.words a.value).filter (fun _ => true) = Text.words a.value := by simp
  unfold withWords
  rw [if_pos hclass, if_pos hclass, hall, ← List.filter_eq_self]
  constructor
  · -- both lists can be read off their values again
    intro heq
    have hjoined : Text.joinWith " " ((Text.words a.value).filter p) =
        Text.joinWith " " (Text.words a.value) := congrArg Attribute.value heq
    calc (Text.words a.value).filter p
        = Text.words (Text.joinWith " " ((Text.words a.value).filter p)) :=
          (Text.words_joinWith fun w hw => hwords w (List.mem_of_mem_filter hw)).symm
      _ = Text.words a.value := by rw [hjoined, Text.words_joinWith hwords]
  · intro heq
    rw [heq]

namespace Removals

theorem isClean_add (a b : Removals) : (a + b).isClean = true ↔ a.isClean = true ∧ b.isClean = true := by
  change (add a b).isClean = true ↔ _
  simp only [isClean, add, Bool.and_eq_true, beq_iff_eq]
  omega

end Removals

namespace Schema

variable {schema : Schema}

/-- **The tag stays** as an element, and all its attributes stay on it. -/
structure Spares (schema : Schema) (tag : Tag) : Prop where
  kept : isDroppedTag tag.name = false
  allowed : schema.allowsTag tag.name = true
  stays : ∀ a ∈ tag.attrs, (schema.cleanAttribute tag.name a).isSome = true

/-- The class passes the rule for class lists on the tag. -/
def acceptsClass (schema : Schema) (tag cls : String) : Bool :=
  (schema.rule? tag "class").any (·.accepts cls)

/-- **Every class passes.** -/
def KeepsClasses (schema : Schema) (tag : Tag) : Prop :=
  ∀ a ∈ tag.attrs, a.name = "class" → ∀ w ∈ Text.words a.value, schema.acceptsClass tag.name w = true

instance (schema : Schema) (tag : Tag) : Decidable (schema.KeepsClasses tag) :=
  inferInstanceAs (Decidable (∀ a ∈ tag.attrs, a.name = "class" → ∀ w ∈ Text.words a.value, _ = true))

/-- The tag with those classes that have the property, and with what the schema forces. -/
def withClasses (schema : Schema) (p : String → Bool) (tag : Tag) : Tag :=
  schema.force { tag with attrs := tag.attrs.map (Attribute.withWords p) }

/-- **Only the spacing** of class lists and the forced attributes differ. -/
def tidy (schema : Schema) (tag : Tag) : Tag :=
  schema.withClasses (fun _ => true) tag

/-- **The classes that are refused** are missing besides. -/
def purge (schema : Schema) (tag : Tag) : Tag :=
  schema.withClasses (schema.acceptsClass tag.name) tag

-- ════════════════════════════════════════════════════════════════════════
-- What the report counts
-- ════════════════════════════════════════════════════════════════════════

theorem length_cleanAttributes_iff (tag : Tag) :
    tag.attrs.length - (schema.cleanAttributes tag.name tag.attrs).length = 0 ↔
      ∀ a ∈ tag.attrs, (schema.cleanAttribute tag.name a).isSome = true := by
  have hle : (schema.cleanAttributes tag.name tag.attrs).length ≤ tag.attrs.length :=
    List.length_filterMap_le _ _
  rw [← List.filterMap_length_eq_length]
  unfold cleanAttributes at hle ⊢
  omega

/-- **When a report is clean**: every element stays with all its attributes. -/
theorem isClean_removals_iff (f : Forest) :
    (schema.removals f).isClean = true ↔ ∀ tag ∈ f.tags, schema.Spares tag := by
  induction f with
  | nil => simp [removals, Forest.tags, Removals.isClean]
  | text s rest ih => exact ih
  | element tag cs rest ihcs ihrest =>
    simp only [Forest.tags, List.forall_mem_cons, List.forall_mem_append, ← ihcs, ← ihrest]
    by_cases hdropped : isDroppedTag tag.name = true
    · have hno : ¬schema.Spares tag := fun hs => absurd (hs.kept.symm.trans hdropped) (by simp)
      have hcounted : (⟨0, 1, 0⟩ : Removals).isClean = false := rfl
      rw [removals, if_pos hdropped, Removals.isClean_add]
      simp [hno, hcounted]
    · by_cases hallowed : schema.allowsTag tag.name = true
      · have hspares : schema.Spares tag ↔
            ∀ a ∈ tag.attrs, (schema.cleanAttribute tag.name a).isSome = true :=
          ⟨fun hs => hs.stays, fun hs => ⟨by simpa using hdropped, hallowed, hs⟩⟩
        rw [removals, if_neg hdropped, if_pos hallowed, Removals.isClean_add, Removals.isClean_add,
          hspares, ← length_cleanAttributes_iff, and_assoc]
        simp [Removals.isClean]
      · have hno : ¬schema.Spares tag := fun hs => hallowed hs.allowed
        have hcounted : (⟨1, 0, 0⟩ : Removals).isClean = false := rfl
        rw [removals, if_neg hdropped, if_neg hallowed, Removals.isClean_add, Removals.isClean_add]
        simp [hno, hcounted]

-- ════════════════════════════════════════════════════════════════════════
-- What it does not count
-- ════════════════════════════════════════════════════════════════════════

/-- An attribute that stays loses at most the words that are refused. -/
theorem cleanAttribute_eq_withWords {tag : String} {a : Attribute}
    (h : (schema.cleanAttribute tag a).isSome = true) :
    schema.cleanAttribute tag a = some (a.withWords (schema.acceptsClass tag)) := by
  by_cases hclass : a.name = "class"
  · unfold cleanAttribute Attribute.withWords at *
    rw [hclass] at h ⊢
    cases hrule : schema.rule? tag "class" with
    | none => simp [hrule] at h
    | some pattern =>
      have haccepts : schema.acceptsClass tag = pattern.accepts := by
        funext w
        simp [acceptsClass, hrule]
      rw [haccepts]
      simp only [hrule, if_true, cleanClasses] at h ⊢
      cases hwords : (Text.words a.value).filter pattern.accepts with
      | nil => simp [hwords] at h
      | cons w ws => rfl
  · rw [Attribute.withWords, if_neg hclass]
    rcases cleanAttribute_eq_none_or_self schema tag hclass with hnone | hself
    · simp [hnone] at h
    · exact hself

/-- **A tag that is spared** loses at most the classes that are refused. -/
theorem cleanTag_of_spares {tag : Tag} (h : schema.Spares tag) :
    schema.cleanTag tag = schema.purge tag := by
  have hattrs : schema.cleanAttributes tag.name tag.attrs =
      tag.attrs.map (Attribute.withWords (schema.acceptsClass tag.name)) := by
    rw [cleanAttributes, ← List.filterMap_eq_map]
    exact List.filterMap_congr fun a ha => cleanAttribute_eq_withWords (h.stays a ha)
  rw [cleanTag, hattrs]
  rfl

theorem filter_forceAll {entries : Table String} (hfree : ∀ e ∈ entries, e.1 ≠ "class") (tag : Tag) :
    (forceAll entries tag).attrs.filter (fun a => a.name = "class") =
      tag.attrs.filter (fun a => a.name = "class") := by
  induction entries generalizing tag with
  | nil => rfl
  | cons e rest ih =>
    obtain ⟨he, hrest⟩ := List.forall_mem_cons.mp hfree
    calc (forceAll rest (tag.setAttr e.1 e.2)).attrs.filter (fun a => a.name = "class")
        = (tag.setAttr e.1 e.2).attrs.filter (fun a => a.name = "class") := ih hrest _
      _ = tag.attrs.filter (fun a => a.name = "class") :=
          filter_setAttribute (fun name => name = "class") (by simpa using he) e.2 tag.attrs

theorem filter_withClasses {tag : Tag} (hfree : ∀ e ∈ schema.required tag.name, e.1 ≠ "class")
    (p : String → Bool) :
    (schema.withClasses p tag).attrs.filter (fun a => a.name = "class") =
      (tag.attrs.filter (fun a => a.name = "class")).map (Attribute.withWords p) := by
  refine (filter_forceAll hfree _).trans ?_
  simp only [List.filter_map, Function.comp_def, Attribute.name_withWords]

theorem purge_eq_tidy {tag : Tag} (h : schema.KeepsClasses tag) :
    schema.purge tag = schema.tidy tag := by
  have hattrs : tag.attrs.map (Attribute.withWords (schema.acceptsClass tag.name)) =
      tag.attrs.map (Attribute.withWords fun _ => true) := by
    refine List.map_congr_left fun a ha => ?_
    by_cases hclass : a.name = "class"
    · exact (Attribute.withWords_eq_iff hclass).mpr (h a ha hclass)
    · simp [Attribute.withWords, hclass]
  rw [purge, tidy, withClasses, withClasses, hattrs]

/-- **A class that is refused** is missed. -/
theorem keepsClasses_of_purge_eq_tidy {tag : Tag}
    (hfree : ∀ e ∈ schema.required tag.name, e.1 ≠ "class") (heq : schema.purge tag = schema.tidy tag) :
    schema.KeepsClasses tag := by
  intro a ha hclass
  have hlists : (tag.attrs.filter (fun a => a.name = "class")).map
        (Attribute.withWords (schema.acceptsClass tag.name)) =
      (tag.attrs.filter (fun a => a.name = "class")).map (Attribute.withWords fun _ => true) := by
    rw [← filter_withClasses hfree, ← filter_withClasses hfree]
    exact congrArg (fun t : Tag => t.attrs.filter (fun a => a.name = "class")) heq
  have hmem : a ∈ tag.attrs.filter (fun a => a.name = "class") := by simp [ha, hclass]
  exact (Attribute.withWords_eq_iff hclass).mp (List.map_inj_left.mp hlists a hmem)

end Schema

-- ════════════════════════════════════════════════════════════════════════
-- Documents
-- ════════════════════════════════════════════════════════════════════════

/-- **What a clean report says.** Neighbouring texts are merged, the edges are trimmed, class lists are
spaced evenly, and what the schema forces is set. Besides this only the classes that the schema refuses are
missing. So nothing is missing where all classes pass; and where the schema forces no class list, only
there. -/
theorem sanitize_of_isClean {schema : Schema} {document : Forest}
    (h : (schema.removals document).isClean = true) :
    Forest.EdgesTrimmed (document.merged.retag schema.purge) (sanitize schema document) ∧
      ((∀ tag ∈ document.tags, schema.KeepsClasses tag) →
        Forest.EdgesTrimmed (document.merged.retag schema.tidy) (sanitize schema document)) ∧
      ((∀ tag ∈ document.tags, ∀ e ∈ schema.required tag.name, e.1 ≠ "class") →
        Forest.EdgesTrimmed (document.merged.retag schema.tidy) (sanitize schema document) →
        ∀ tag ∈ document.tags, schema.KeepsClasses tag) := by
  have hspares := (Schema.isClean_removals_iff document).mp h
  have hclean : schema.clean document = document.merged.retag schema.purge := by
    rw [Schema.clean_eq_merged fun tag htag => ⟨(hspares tag htag).kept, (hspares tag htag).allowed⟩]
    refine Forest.retag_congr fun tag htag => ?_
    rw [Forest.tags_merged] at htag
    exact Schema.cleanTag_of_spares (hspares tag htag)
  have hpurged : Forest.EdgesTrimmed (document.merged.retag schema.purge) (sanitize schema document) := by
    rw [sanitize, hclean]
    exact Forest.edgesTrimmed_trimEdges _
  refine ⟨hpurged, ?_, ?_⟩
  · intro hkeeps
    have hsame : document.merged.retag schema.purge = document.merged.retag schema.tidy := by
      refine Forest.retag_congr fun tag htag => ?_
      rw [Forest.tags_merged] at htag
      exact Schema.purge_eq_tidy (hkeeps tag htag)
    rwa [← hsame]
  · intro hfree htidy tag htag
    -- the two documents have the same tags, so each tag is the same in both
    have htags : document.tags.map schema.purge = document.tags.map schema.tidy := by
      simpa using hpurged.tags_eq.symm.trans htidy.tags_eq
    exact Schema.keepsClasses_of_purge_eq_tidy (hfree tag htag) (List.map_inj_left.mp htags tag htag)

/-- A paragraph with a widely spaced class list, and a checkbox that anybody may tick. -/
def looseDocument : Forest :=
  .text "\n" (.element ⟨"p", [⟨"class", " lead  wide "⟩]⟩ (.text "To " (.ofText "do"))
    (.single ⟨"input", [⟨"type", "checkbox"⟩]⟩ .nil))

/-- The same in order: nothing is missing. -/
def tidyDocument : Forest :=
  .element ⟨"p", [⟨"class", "lead wide"⟩]⟩ (.ofText "To do")
    (.single ⟨"input", [⟨"type", "checkbox"⟩, ⟨"disabled", ""⟩]⟩ .nil)

theorem sanitize_of_isClean_looseDocument :
    (Schema.base.removals looseDocument).isClean = true ∧
      (∀ tag ∈ looseDocument.tags, Schema.base.KeepsClasses tag) ∧
      sanitize Schema.base looseDocument = tidyDocument ∧
      Forest.EdgesTrimmed (looseDocument.merged.retag Schema.base.tidy) tidyDocument := by
  have hrun : (Schema.base.removals looseDocument).isClean = true ∧
      (∀ tag ∈ looseDocument.tags, Schema.base.KeepsClasses tag) ∧
      sanitize Schema.base looseDocument = tidyDocument := by
    decide +kernel
  obtain ⟨hclean, hkeeps, hresult⟩ := hrun
  refine ⟨hclean, hkeeps, hresult, ?_⟩
  rw [← hresult]
  exact (sanitize_of_isClean hclean).2.1 hkeeps

/-- Code in a known language, with a class that only other elements may have. -/
def evilCode : Forest :=
  .single ⟨"code", [⟨"class", "language-rust evil"⟩]⟩ (.ofText "fn")

/-- A class that is refused beside one that passes is removed, and the report is clean. -/
theorem isClean_hides_evilCode :
    ¬∀ (schema : Schema) (document : Forest), (schema.removals document).isClean = true →
      ∀ tag ∈ document.tags, ∀ cls ∈ tag.classes,
        ∃ kept ∈ (sanitize schema document).tags, cls ∈ kept.classes := by
  intro hall
  have hrun : (Schema.base.removals evilCode).isClean = true ∧
      sanitize Schema.base evilCode =
        .single ⟨"code", [⟨"class", "language-rust"⟩]⟩ (.ofText "fn") := by
    decide +kernel
  have hthere := hall Schema.base evilCode hrun.1 ⟨"code", [⟨"class", "language-rust evil"⟩]⟩
    (by decide) "evil" (by decide)
  rw [hrun.2] at hthere
  exact absurd hthere (by decide)

end ArticleMarkup
