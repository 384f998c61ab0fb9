import ArticleMarkup.Html.Construction
import Mathlib.Tactic.FinCases

/-!
# Elements that stay where they are written

The start tag of an element may close or move elements that are open: a block ends a paragraph, a
heading ends a heading, an item ends the item before it, and a link ends a link. Where none of these
is open, the element stays where it is written.

## Main definitions

- `Fits` — an element that closes nothing where it is opened
- `FitsEmpty` — an empty element that closes nothing where it stands
- `openNames` — the elements that can be open

## Main statements

- `Builder.startInBody_block`, `Builder.startInBody_heading`, `Builder.startInBody_item` and others —
  what the start tag does
- `Builder.endInBody_current`, `Builder.adopt_current` — the end tag of the innermost open element
-/

namespace ArticleMarkup.Html

/-- Elements of running text, which have no rule of their own. -/
def phraseNames : List String :=
  ["abbr", "bdo", "cite", "del", "dfn", "ins", "kbd", "mark", "q", "ruby", "samp", "span", "sub",
    "sup", "time", "var"]

/-- The items that end one another, with the lists that they stand in. -/
def itemKinds : List (List String × List String) :=
  [(["li"], ["ol", "ul"]), (["dd", "dt"], ["dl"])]

/-- **An element that closes nothing** where it is opened. The names are those of the elements around
it, the innermost first. -/
inductive Fits (around : List String) : String → Prop where
  /-- A block stands in no paragraph. -/
  | block {name : String} : name ∈ Builder.blockNames → "p" ∉ around → Fits around name
  /-- Nor does a heading, and it does not stand directly in a heading either. -/
  | heading {name : String} : name ∈ headingNames → "p" ∉ around →
      (∀ parent ∈ around.head?, parent ∉ headingNames) → Fits around name
  /-- Preformatted text is a block. -/
  | preformatted : "p" ∉ around → Fits around "pre"
  /-- An item stands directly in its list. -/
  | item {name : String} {items lists : List String} : (items, lists) ∈ itemKinds → name ∈ items →
      "p" ∉ around → (∃ parent ∈ around.head?, parent ∈ lists) → Fits around name
  /-- A link stands in no link. -/
  | link : "a" ∉ around → Fits around "a"
  /-- A formatting element stands in at most two of its name. -/
  | formatting {name : String} : name ∈ Builder.plainFormattingNames → around.count name ≤ 2 →
      Fits around name
  /-- Running text goes everywhere. -/
  | phrase {name : String} : name ∈ phraseNames → Fits around name

instance (around : List String) (name : String) : Decidable (Fits around name) :=
  decidable_of_iff
    ((name ∈ Builder.blockNames ∧ "p" ∉ around) ∨
      (name ∈ headingNames ∧ "p" ∉ around ∧ ∀ parent ∈ around.head?, parent ∉ headingNames) ∨
      (name = "pre" ∧ "p" ∉ around) ∨
      (∃ kind ∈ itemKinds, name ∈ kind.1 ∧ "p" ∉ around ∧
        ∃ parent ∈ around.head?, parent ∈ kind.2) ∨
      (name = "a" ∧ "a" ∉ around) ∨
      (name ∈ Builder.plainFormattingNames ∧ around.count name ≤ 2) ∨ name ∈ phraseNames) <| by
    constructor
    · rintro (⟨h, hp⟩ | ⟨h, hp, hparent⟩ | ⟨rfl, hp⟩ | ⟨kind, hkind, h, hp, hparent⟩ |
        ⟨rfl, ha⟩ | ⟨h, hcount⟩ | h)
      · exact .block h hp
      · exact .heading h hp hparent
      · exact .preformatted hp
      · exact .item hkind h hp hparent
      · exact .link ha
      · exact .formatting h hcount
      · exact .phrase h
    · rintro (⟨h, hp⟩ | ⟨h, hp, hparent⟩ | hp | ⟨hkind, h, hp, hparent⟩ | ha | ⟨h, hcount⟩ | h)
      · exact .inl ⟨h, hp⟩
      · exact .inr (.inl ⟨h, hp, hparent⟩)
      · exact .inr (.inr (.inl ⟨rfl, hp⟩))
      · exact .inr (.inr (.inr (.inl ⟨_, hkind, h, hp, hparent⟩)))
      · exact .inr (.inr (.inr (.inr (.inl ⟨rfl, ha⟩))))
      · exact .inr (.inr (.inr (.inr (.inr (.inl ⟨h, hcount⟩)))))
      · exact .inr (.inr (.inr (.inr (.inr (.inr h)))))

/-- Empty elements of running text. -/
def emptyNames : List String := ["br", "embed", "img", "input", "wbr"]

/-- **An empty element that closes nothing** where it stands. -/
inductive FitsEmpty (around : List String) : String → Prop where
  /-- Most are part of running text. -/
  | phrase {name : String} : name ∈ emptyNames → FitsEmpty around name
  /-- A rule stands in no paragraph. -/
  | rule : "p" ∉ around → FitsEmpty around "hr"

instance (around : List String) (name : String) : Decidable (FitsEmpty around name) :=
  decidable_of_iff (name ∈ emptyNames ∨ name = "hr" ∧ "p" ∉ around) <| by
    constructor
    · rintro (h | ⟨rfl, hp⟩)
      · exact .phrase h
      · exact .rule hp
    · rintro (h | hp)
      · exact .inl h
      · exact .inr ⟨rfl, hp⟩

/-- The elements that are opened again where they were closed from outside. -/
def formattingNames : List String :=
  "a" :: Builder.plainFormattingNames

/-- The elements that can be open. -/
def openNames : List String :=
  Builder.blockNames ++ headingNames ++ ["pre", "li", "dd", "dt"] ++ formattingNames ++ phraseNames

theorem Fits.mem_openNames {around : List String} {name : String} (h : Fits around name) :
    name ∈ openNames := by
  simp only [openNames, formattingNames, List.mem_append, List.mem_cons]
  cases h with
  | block hname _ => simp [hname]
  | heading hname _ _ => simp [hname]
  | preformatted _ => simp
  | item hkind hname _ _ =>
    simp only [itemKinds, List.mem_cons, Prod.mk.injEq, List.not_mem_nil, or_false] at hkind
    rcases hkind with ⟨rfl, -⟩ | ⟨rfl, -⟩ <;> simp_all
  | link _ => simp
  | formatting hname _ => simp [hname]
  | phrase hname => simp [hname]

theorem FitsEmpty.mem_emptyNames {around : List String} {name : String}
    (h : FitsEmpty around name) : name ∈ "hr" :: emptyNames := by
  cases h with
  | phrase hname => exact List.mem_cons_of_mem _ hname
  | rule _ => exact List.mem_cons_self

namespace Builder

variable (b : Builder) {name : String} (attrs : List Attribute) (selfClosing : Bool)

-- ════════════════════════════════════════════════════════════════════════
-- Start tags
-- ════════════════════════════════════════════════════════════════════════

theorem startInBody_block (h : name ∈ blockNames) :
    b.startInBody ⟨name, attrs⟩ selfClosing = b.endParagraph.open ⟨name, attrs⟩ := by
  fin_cases h <;> rfl

theorem startInBody_heading (h : name ∈ headingNames)
    (hparent : ∀ e ∈ b.endParagraph.stack.head?, e.isHtmlIn headingNames = false) :
    b.startInBody ⟨name, attrs⟩ selfClosing = b.endParagraph.open ⟨name, attrs⟩ := by
  fin_cases h
  all_goals
    refine congrArg (fun b : Builder => b.open _) ?_
    split
    · next e rest hstack => exact if_neg (by simp [hparent e (by rw [hstack]; rfl)])
    · rfl

theorem startInBody_preformatted :
    b.startInBody ⟨"pre", attrs⟩ selfClosing =
      { b.endParagraph.open ⟨"pre", attrs⟩ with skipNewline := true } := rfl

/-- An item directly in its list ends no other. -/
theorem startInBody_item {items lists : List String} (hkind : (items, lists) ∈ itemKinds)
    (h : name ∈ items) {e : OpenElement} {rest : List OpenElement} (hstack : b.stack = e :: rest)
    (hspace : e.space = .html) (he : e.name ∈ lists) :
    b.startInBody ⟨name, attrs⟩ selfClosing = b.endParagraph.open ⟨name, attrs⟩ := by
  have hstay : b.closeItem items = b := by
    have hlist : e.isHtmlIn items = false ∧ e.isSpecial = true ∧
        e.isHtmlIn ["address", "div", "p"] = false := by
      have hall : ∀ kind ∈ itemKinds, ∀ list ∈ kind.2, kind.1.contains list = false ∧
          OpenElement.isSpecial ⟨0, .html, list, false⟩ = true ∧
          ["address", "div", "p"].contains list = false := by
        decide
      obtain ⟨hitems, hspecial, hblock⟩ := hall _ hkind _ he
      simp only [OpenElement.isSpecial, OpenElement.isHtmlIn, hspace] at hspecial ⊢
      simp only [hitems, hspecial, hblock, Bool.and_false, and_self]
    simp [closeItem, closeItem.go, hstack, hlist]
  have hrule : b.startInBody ⟨name, attrs⟩ selfClosing =
      (b.closeItem items).endParagraph.open ⟨name, attrs⟩ := by
    simp only [itemKinds, List.mem_cons, Prod.mk.injEq, List.not_mem_nil, or_false] at hkind
    rcases hkind with ⟨rfl, rfl⟩ | ⟨rfl, rfl⟩ <;> fin_cases h <;> rfl
  rw [hrule, hstay]

theorem startInBody_link (h : Mark.newest? "a" b.marks = none) :
    b.startInBody ⟨"a", attrs⟩ selfClosing = b.reopenFormatting.openFormatting ⟨"a", attrs⟩ := by
  refine congrArg (fun b : Builder => b.reopenFormatting.openFormatting ⟨"a", attrs⟩) ?_
  rw [h]

theorem startInBody_formatting (h : name ∈ plainFormattingNames) :
    b.startInBody ⟨name, attrs⟩ selfClosing = b.reopenFormatting.openFormatting ⟨name, attrs⟩ := by
  fin_cases h <;> rfl

theorem startInBody_phrase (h : name ∈ phraseNames) :
    b.startInBody ⟨name, attrs⟩ selfClosing = b.reopenFormatting.open ⟨name, attrs⟩ := by
  fin_cases h <;> rfl

theorem startInBody_empty (h : name ∈ emptyNames) :
    b.startInBody ⟨name, attrs⟩ selfClosing =
      b.reopenFormatting.insertElement .html ⟨name, attrs⟩ := by
  fin_cases h <;> rfl

-- ════════════════════════════════════════════════════════════════════════
-- End tags
-- ════════════════════════════════════════════════════════════════════════

theorem endInBody_block (h : name ∈ "pre" :: blockNames.filter (· != "p"))
    (hopen : b.scope name = true) : b.endInBody name = b.implied.close name := by
  have hrule : b.endInBody name = if b.scope name then b.implied.close name else b := by
    fin_cases h <;> rfl
  rw [hrule, if_pos hopen]

theorem endInBody_heading (h : name ∈ headingNames)
    (hopen : inScope OpenElement.endsScope (·.isHtmlIn headingNames) b.stack = true) :
    b.endInBody name =
      { b.implied with stack := popThrough (·.isHtmlIn headingNames) b.implied.stack } := by
  have hrule : b.endInBody name =
      if inScope OpenElement.endsScope (·.isHtmlIn headingNames) b.stack then
        { b.implied with stack := popThrough (·.isHtmlIn headingNames) b.implied.stack }
      else b := by
    fin_cases h <;> rfl
  rw [hrule, if_pos hopen]

/-- Paragraphs, items and running text have their own end tag as the one that is not implied. -/
theorem endInBody_except (h : name ∈ ["p", "li", "dd", "dt"] ++ phraseNames)
    (hopen : ∀ ends, inScope ends (·.isHtml name) b.stack = true) :
    b.endInBody name = (b.impliedExcept name).close name := by
  rw [List.cons_append, List.mem_cons] at h
  rcases h with rfl | h
  · have hrule : b.endInBody "p" =
        (if inScope OpenElement.endsButtonScope (·.isHtml "p") b.stack then b
          else b.open { name := "p" }).closeParagraph := rfl
    rw [hrule, if_pos (hopen _)]
    rfl
  · have hrule : ∃ ends, b.endInBody name =
        if inScope ends (·.isHtml name) b.stack then (b.impliedExcept name).close name else b := by
      fin_cases h <;> exact ⟨_, rfl⟩
    obtain ⟨ends, hrule⟩ := hrule
    rw [hrule, if_pos (hopen ends)]

theorem endInBody_formatting (h : name ∈ formattingNames) : b.endInBody name = b.adopt name := by
  fin_cases h <;> rfl

section

variable {b} {e : OpenElement} {rest : List OpenElement} (hstack : b.stack = e :: rest)
  (hspace : e.space = .html)
include hstack hspace

theorem close_current : b.close e.name = { b with stack := rest } := by
  simp [close, hstack, popThrough, OpenElement.isHtml, hspace]

/-- The end tag of the newest element is not implied by itself. -/
theorem impliedExcept_current : b.impliedExcept e.name = b := by
  have hno : e.isHtmlIn (impliedEnds.filter (· != e.name)) = false := by
    simp [OpenElement.isHtmlIn, hspace]
  unfold impliedExcept
  rw [hstack, popImplied, hno, if_neg Bool.false_ne_true, ← hstack]

theorem implied_current (h : e.name ∉ impliedEnds) : b.implied = b := by
  have hno : e.isHtmlIn impliedEnds = false := by
    simpa [OpenElement.isHtmlIn, hspace] using h
  unfold implied
  rw [hstack, popImplied, hno, if_neg Bool.false_ne_true, ← hstack]

theorem inScope_current (ends : OpenElement → Bool) :
    inScope ends (·.isHtml e.name) b.stack = true := by
  simp [hstack, inScope, OpenElement.isHtml, hspace]

/-- **The end tag** of the newest element closes it. -/
theorem endInBody_current (h : e.name ∈ openNames) (hplain : e.name ∉ formattingNames) :
    b.endInBody e.name = { b with stack := rest } := by
  have hkinds : ∀ name ∈ openNames, name ∉ formattingNames →
      (name ∈ "pre" :: blockNames.filter (· != "p") ∧ name ∉ impliedEnds) ∨
        (name ∈ headingNames ∧ name ∉ impliedEnds) ∨
        name ∈ ["p", "li", "dd", "dt"] ++ phraseNames := by
    decide
  rcases hkinds _ h hplain with ⟨hname, himplied⟩ | ⟨hname, himplied⟩ | hname
  · rw [endInBody_block b hname (inScope_current hstack hspace _),
      implied_current hstack hspace himplied, close_current hstack hspace]
  · have hheading : e.isHtmlIn headingNames = true := by
      simp [OpenElement.isHtmlIn, hspace, hname]
    rw [endInBody_heading b hname (by simp [hstack, inScope, hheading]),
      implied_current hstack hspace himplied, hstack, popThrough, if_pos hheading]
  · rw [endInBody_except b hname (inScope_current hstack hspace),
      impliedExcept_current hstack hspace, close_current hstack hspace]

omit hspace in
/-- **The end tag of a formatting element** that is the newest element closes it, and it is
forgotten. -/
theorem adopt_current {tag : Tag} {marks : List Mark} (hname : tag.name = e.name)
    (hmarks : b.marks = .element e.id tag :: marks) (hothers : ∀ m ∈ marks, m.isFor e.id = false) :
    b.adopt e.name = { b with stack := rest, marks := marks } := by
  have hwithout : Mark.without e.id b.marks = marks := by
    have hrest : marks.filter (fun m => !m.isFor e.id) = marks :=
      List.filter_eq_self.mpr fun m hm => by simp [hothers m hm]
    simpa [Mark.without, hmarks, Mark.isFor] using hrest
  have hnewest : Mark.newest? e.name b.marks = some (e.id, tag) := by
    rw [hmarks, Mark.newest?, if_pos hname]
  have hopen : b.stack.any (·.id == e.id) = true := by simp [hstack]
  have hscope : inScope OpenElement.endsScope (·.id == e.id) b.stack = true := by
    simp [hstack, inScope]
  have habove : b.stack.takeWhile (·.id != e.id) = [] := by simp [hstack]
  have honce : b.adoptOnce e.name = ({ b with stack := rest, marks := marks }, false) := by
    unfold adoptOnce
    simp only [hnewest, hopen, hscope, habove, hwithout, Bool.not_true, Bool.false_eq_true, if_false]
    simp [hstack]
  have hmarked : b.marks.any (·.isFor e.id) = true := by simp [hmarks, Mark.isFor]
  unfold adopt
  simp only [hstack, hmarked, Bool.not_true, Bool.and_false, Bool.false_eq_true, if_false]
  rw [adoptRounds, honce]

end

end Builder

end ArticleMarkup.Html
