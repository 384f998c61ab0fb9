import ArticleMarkup.Proofs.Heading.Ids
import ArticleMarkup.Proofs.Heading.SelfLinks
import ArticleMarkup.Proofs.Highlight.CodeBlocks
import ArticleMarkup.Proofs.Sanitize.Conformance
import ArticleMarkup.Proofs.Url
import ArticleMarkup.Proofs.Written.Markup
import ArticleMarkup.Render.Renderer

/-!
# Safety of the written document

Whatever an article holds, the HTML that is written for it has safe tags only: allowed elements, no
attribute that runs scripts or restyles the page, and no address with another scheme than those of
links. The passes behind the sanitizer add ids, links, classes and spans, and none of them is a risk.

## Main definitions

- `Tag.Safe` — a tag that can be written
- `Markup.Safe` — a start tag or an end tag that is safe to read

## Main statements

- `Schema.safe_cleanTag` — what the sanitizer keeps is safe
- `Renderer.safe_of_mem_tags_finish` — the later passes keep it so
- `Renderer.safe_of_written` — every tag of the HTML text is safe
-/

namespace ArticleMarkup

/-- The attribute runs no script, and its value is checked if it holds an address. -/
def Attribute.Harmless (a : Attribute) : Prop :=
  isForbiddenAttribute a.name = false ∧
    (urlAttributes.contains a.name = true → Pattern.acceptsUrl linkSchemes a.value = true)

/-- **A safe tag**: the element is allowed and not always removed, its attributes are harmless, and
all names are well formed. -/
structure Tag.Safe (schema : Schema) (tag : Tag) : Prop where
  /-- The element is allowed. -/
  allowed : schema.allowsTag tag.name = true
  /-- The element is not always removed. -/
  kept : isDroppedTag tag.name = false
  /-- The attributes are harmless. -/
  harmless : ∀ a ∈ tag.attrs, a.Harmless
  /-- The names are well formed. -/
  named : tag.WellNamed

/-- **Safe markup**: the tag of an allowed element, with harmless attributes. -/
def Markup.Safe (schema : Schema) : Markup → Prop
  | .start tag => schema.allowsTag tag.name = true ∧ isDroppedTag tag.name = false ∧
      ∀ a ∈ tag.attrs, a.Harmless
  | .close name => schema.allowsTag name = true ∧ isDroppedTag name = false

-- ════════════════════════════════════════════════════════════════════════
-- Names
-- ════════════════════════════════════════════════════════════════════════

theorem isName_of_isTagName {name : String} (h : isTagName name = true) :
    name ≠ "" ∧ isName name = true := by
  unfold isTagName at h
  split at h
  · cases h
  · next c cs hcs =>
    simp only [Bool.and_eq_true, List.all_eq_true, Bool.or_eq_true] at h
    refine ⟨?_, ?_⟩
    · rintro rfl
      cases hcs
    · unfold isName
      rw [hcs]
      simp only [List.all_cons, Bool.and_eq_true, List.all_eq_true]
      refine ⟨by simp [isNameChar, Text.isAsciiAlnum, h.1], fun d hd => ?_⟩
      simp only [isNameChar, Bool.or_eq_true]
      exact .inl (.inl (.inl (h.2 d hd)))

theorem isName_of_isAttributeName {name : String} (h : isAttributeName name = true) :
    isName name = true := by
  unfold isAttributeName at h
  split at h
  · cases h
  · next c cs hcs =>
    simp only [Bool.and_eq_true] at h
    unfold isName
    rw [hcs]
    simp only [List.all_cons, Bool.and_eq_true]
    exact ⟨by simp [isNameChar, Text.isAsciiAlnum, h.1], h.2⟩

-- ════════════════════════════════════════════════════════════════════════
-- Attributes that are added
-- ════════════════════════════════════════════════════════════════════════

/-- An attribute that holds no address is harmless under any value. -/
theorem harmless_of_name {name : String} (value : String) (hf : isForbiddenAttribute name = false)
    (hu : urlAttributes.contains name = false) : Attribute.Harmless ⟨name, value⟩ :=
  ⟨hf, fun h => absurd (hu.symm.trans h) (by decide)⟩

theorem harmless_class (value : String) : Attribute.Harmless ⟨"class", value⟩ :=
  harmless_of_name value (by decide) (by decide)

theorem harmless_id (value : String) : Attribute.Harmless ⟨"id", value⟩ :=
  harmless_of_name value (by decide) (by decide)

theorem harmless_href_hash (id : String) : Attribute.Harmless ⟨"href", "#" ++ id⟩ := by
  have hf : isForbiddenAttribute "href" = false := by decide
  exact ⟨hf, fun _ => Pattern.acceptsUrl_hash linkSchemes id⟩

namespace Tag.Safe

variable {schema : Schema} {tag : Tag} {name value : String}

/-- A harmless attribute can be set on a safe tag. -/
theorem setAttr (h : tag.Safe schema) (hname : isName name = true)
    (ha : Attribute.Harmless ⟨name, value⟩) : (tag.setAttr name value).Safe schema where
  allowed := h.allowed
  kept := h.kept
  harmless := fun a hmem => by
    rcases mem_setAttribute hmem with rfl | hmem
    · exact ha
    · exact h.harmless a hmem
  named := by
    refine ⟨h.named.1, h.named.2.1, fun a hmem => ?_⟩
    rcases mem_setAttribute hmem with rfl | hmem
    · exact hname
    · exact h.named.2.2 a hmem

/-- Adding a class keeps a tag safe. -/
theorem addClass (h : tag.Safe schema) (cls : String) : (tag.addClass cls).Safe schema := by
  apply Tag.addClass_of_setAttr cls h
  intro value
  exact h.setAttr rfl (harmless_class value)

/-- What stands between `<` and `>` for a safe tag reads back as safe markup. -/
theorem markup (h : tag.Safe schema) :
    (∃ m, Markup.read? tag.inside = some m ∧ m.Safe schema) ∧
      ∃ m, Markup.read? ('/' :: tag.name.toList) = some m ∧ m.Safe schema :=
  ⟨⟨.start tag, Markup.read?_inside h.named, h.allowed, h.kept, h.harmless⟩,
    ⟨.close tag.name, Markup.read?_close tag.name, h.allowed, h.kept⟩⟩

end Tag.Safe

-- ════════════════════════════════════════════════════════════════════════
-- Sanitized tags
-- ════════════════════════════════════════════════════════════════════════

/-- A guarded rule names a harmless attribute, if the value meets it. -/
theorem harmless_of_isGuardedRule {a : Attribute} {pattern : Pattern}
    (h : isGuardedRule a.name pattern = true) (ha : pattern.Admits a) : a.Harmless := by
  simp only [isGuardedRule, Bool.and_eq_true, Bool.or_eq_true, Bool.not_eq_true'] at h
  obtain ⟨⟨-, hforbidden⟩, hurl⟩ := h
  refine ⟨hforbidden, fun hu => ?_⟩
  have hlinks : pattern.checksLinks = true := by
    rcases hurl with hno | hlinks
    · rw [hu] at hno
      cases hno
    · exact hlinks
  unfold Pattern.Admits at ha
  split at ha
  · next hclass =>
    -- a class list is no address
    rw [hclass] at hu
    exact absurd hu (by decide)
  · exact Pattern.checksLinks.acceptsUrl hlinks ha

/-- **What the sanitizer keeps is safe.** -/
theorem Schema.safe_cleanTag {schema : Schema} (hs : schema.Guarded) {tag : Tag}
    (hallowed : schema.allowsTag tag.name = true) : (schema.cleanTag tag).Safe schema := by
  have hguarded : ∀ a ∈ (schema.cleanTag tag).attrs, ∃ pattern,
      isGuardedRule a.name pattern = true ∧
        (pattern.Admits a ∨ (a.name, a.value) ∈ schema.required tag.name) := by
    intro a ha
    obtain ⟨pattern, hrule, hok⟩ := permitted_cleanTag hs ha
    obtain ⟨owner, hown⟩ := ownRule?_of_rule? hrule
    exact ⟨pattern, hs.rule owner a.name pattern hown, hok⟩
  obtain ⟨htag, hkept⟩ := hs.tag _ hallowed
  obtain ⟨hne, hname⟩ := isName_of_isTagName htag
  refine ⟨by simpa using hallowed, by simpa using hkept, ?_, ?_⟩
  · intro a ha
    obtain ⟨pattern, hrule, hok⟩ := hguarded a ha
    rcases hok with hadmits | hrequired
    · exact harmless_of_isGuardedRule hrule hadmits
    · have hnourl := (hs.required _ _ hrequired).2
      simp only [isGuardedRule, Bool.and_eq_true, Bool.not_eq_true'] at hrule
      exact ⟨hrule.1.2, fun hu => absurd (hnourl.symm.trans hu) (by decide)⟩
  · refine ⟨by simpa using hne, by simpa using hname, fun a ha => ?_⟩
    obtain ⟨pattern, hrule, -⟩ := hguarded a ha
    simp only [isGuardedRule, Bool.and_eq_true] at hrule
    exact isName_of_isAttributeName hrule.1.1

theorem safe_of_mem_tags_sanitize {schema : Schema} (hs : schema.Guarded) {document : Forest} :
    ∀ tag ∈ (sanitize schema document).tags, tag.Safe schema := by
  intro tag ht
  rw [sanitize, Forest.tags_trimEdges] at ht
  obtain ⟨t, -, -, hallowed, rfl⟩ := Schema.tag_of_mem_tags_clean ht
  exact Schema.safe_cleanTag hs hallowed

-- ════════════════════════════════════════════════════════════════════════
-- The later passes
-- ════════════════════════════════════════════════════════════════════════

/-- A tag with harmless attributes is safe if the base schema allows the element. -/
theorem safe_of_base {schema : Schema} {entries : List Override} {name : String}
    {attrs : List Attribute} (h : Schema.base.withOverrides entries = .ok schema)
    (ha : Schema.base.allowsTag name = true) (hharmless : ∀ a ∈ attrs, a.Harmless)
    (hnames : ∀ a ∈ attrs, isName a.name = true) :
    Tag.Safe schema ⟨name, attrs⟩ := by
  obtain ⟨htag, hkept⟩ := Schema.guarded_base.tag _ ha
  obtain ⟨hne, hname⟩ := isName_of_isTagName htag
  exact ⟨Schema.allowsTag_withOverrides h ha, hkept, hharmless, hne, hname, hnames⟩

namespace Renderer

variable {r : Renderer}

/-- **The later passes keep tags safe**, whatever a highlighter makes of the code. -/
theorem safe_of_mem_tags_finish (h : Schema.base.withOverrides r.config.overrides = .ok r.schema)
    {tree : Forest} (hf : ∀ tag ∈ tree.tags, tag.Safe r.schema) :
    ∀ tag ∈ (r.finish tree).1.tags, tag.Safe r.schema := by
  have hids : ∀ tag ∈ (assignHeadingIds tree).tags, tag.Safe r.schema :=
    of_mem_tags_assignIds (fun tag id _ ht => ht.setAttr rfl
      (harmless_id id)) _ hf
  have hlink : ∀ id, (selfLinkTag r.config.anchorClass id).Safe r.schema := by
    intro id
    refine safe_of_base h (Schema.allowsTag_base (by decide)) ?_ ?_
    · simp only [List.forall_mem_cons]
      exact ⟨harmless_class _, harmless_href_hash id, by simp⟩
    · simp only [List.forall_mem_cons]
      exact ⟨rfl, rfl, by simp⟩
  have hheadings : ∀ tag ∈ (r.headings tree).1.tags, tag.Safe r.schema := by
    unfold headings
    simp only
    split
    · exact (relinked_linkHeadings _ _).of_mem hlink
        (fun tag id _ ht => ht.setAttr rfl (harmless_href_hash id)) hids
    · exact hids
  refine r.highlighter.of_mem_tags_highlight ?_ (fun tag _ ht => ht.addClass _) hheadings
  intro scope
  refine safe_of_base h (Schema.allowsTag_base (by decide)) ?_ ?_
  · simp only [List.forall_mem_cons]
    exact ⟨harmless_class _, by simp⟩
  · simp only [List.forall_mem_cons]
    exact ⟨rfl, by simp⟩

/-- **The HTML of an article is safe.** What stands between a `<` and the next `>` is a start tag or
an end tag, the element is allowed and not always removed, and its attributes are harmless. -/
theorem safe_of_written (r : Renderer)
    (h : Schema.base.withOverrides r.config.overrides = .ok r.schema) (document : Forest)
    (before body after : List Char)
    (hhtml : (r.finish (sanitize r.schema document)).1.written.toList =
      before ++ '<' :: (body ++ '>' :: after))
    (hbody : '>' ∉ body) : ∃ m, Markup.read? body = some m ∧ m.Safe r.schema := by
  have hclean : ∀ tag ∈ (sanitize r.schema document).tags, tag.Safe r.schema :=
    safe_of_mem_tags_sanitize (Schema.guarded_base.withOverrides h)
  have hsafe := safe_of_mem_tags_finish h hclean
  refine Marked.of_eq (P := fun body => ∃ m, Markup.read? body = some m ∧ m.Safe r.schema)
    (Forest.marked_written fun tag ht => ?_) hhtml hbody
  exact ⟨(hsafe tag ht).named, (hsafe tag ht).markup⟩

end Renderer

/-- An aside with an address and a script, a heading and a script. -/
def scriptedAside : Forest :=
  .element ⟨"aside", [⟨"onclick", "x()"⟩, ⟨"href", "/?a&b"⟩]⟩
    (.single ⟨"h2", []⟩ (.single ⟨"a", [⟨"href", "javascript:x()"⟩]⟩ (.ofText "A < B")))
    (.single ⟨"script", []⟩ (.ofText "x()"))

/-- A renderer that allows asides with addresses. -/
def asideRenderer : Renderer where
  schema := (Schema.base.allowTag "aside").allowAttribute "aside" "href" (.ofSchemes linkSchemes)
  config := { overrides := [⟨" ASIDE ", [.name "Href"]⟩] }

theorem safe_of_written_scriptedAside :
    ∃ m, Markup.read? "aside href=\"/?a&amp;b\"".toList = some m ∧ m.Safe asideRenderer.schema :=
  asideRenderer.safe_of_written rfl scriptedAside [] "aside href=\"/?a&amp;b\"".toList
    ("<h2 id=\"a-b\"><a class=\"heading-anchor\" href=\"#a-b\">A &lt; B</a></h2></aside>").toList
    (by decide +kernel) (by decide)

end ArticleMarkup
