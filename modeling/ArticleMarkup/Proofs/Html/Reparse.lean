import ArticleMarkup.Proofs.Html.Growth
import ArticleMarkup.Proofs.Html.LineEnds

/-!
# Parsing the written form

A document whose elements fit where they stand comes back from its written form with nothing changed
but its line ends: the parser reads each of them as a line feed, and a carriage return that stands
first in a `pre` is swallowed with it. All other characters come back as they are.

## Main definitions

- `Forest.Nested` — all elements fit where they stand
- `Forest.Regular` — a document that the parser keeps as it is written
- `Forest.Plain` — a document of plain elements, which fit everywhere
- `Forest.reread` — what comes back of a document

## Main statements

- `foldl_feed_layOut` — the written form adds the document at the end of the tree
- `lower_regular` — what the parser makes of a written document
- `lower_written` — the same for plain elements
-/

namespace ArticleMarkup

open Html (Fits FitsEmpty lineEnd normalizeNewlines)

-- ════════════════════════════════════════════════════════════════════════
-- Documents
-- ════════════════════════════════════════════════════════════════════════

/-- A tag with distinct attributes, whose values hold no NUL. -/
structure Tag.Regular (tag : Tag) : Prop where
  /-- The names of attributes are read as they are written. -/
  names : ∀ a ∈ tag.attrs, Html.Scanner.IsSmallName a.name
  /-- No attribute is given twice. -/
  distinct : (tag.attrs.map (·.name)).Nodup
  /-- A NUL would be replaced. -/
  noNul : ∀ a ∈ tag.attrs, Html.Scanner.nul ∉ a.value.toList

instance (tag : Tag) : Decidable tag.Regular :=
  decidable_of_iff ((∀ a ∈ tag.attrs, Html.Scanner.IsSmallName a.name) ∧
      (tag.attrs.map (·.name)).Nodup ∧ ∀ a ∈ tag.attrs, Html.Scanner.nul ∉ a.value.toList)
    ⟨fun h => ⟨h.1, h.2.1, h.2.2⟩, fun h => ⟨h.names, h.distinct, h.noNul⟩⟩

/-- **All elements fit where they stand**, in elements of the names `around`, the innermost first. -/
def Forest.Nested (around : List String) : Forest → Prop
  | nil => True
  | text _ rest => rest.Nested around
  | element tag cs rest =>
    (Fits around tag.name ∧ cs.Nested (tag.name :: around) ∨
      FitsEmpty around tag.name ∧ cs = nil) ∧ rest.Nested around

/-- Whether all elements fit is found from node to node. -/
def Forest.decidableNested (around : List String) : (f : Forest) → Decidable (f.Nested around)
  | nil => .isTrue trivial
  | text _ rest => rest.decidableNested around
  | element tag cs rest =>
    have := cs.decidableNested (tag.name :: around)
    have := rest.decidableNested around
    inferInstanceAs (Decidable ((Fits around tag.name ∧ cs.Nested (tag.name :: around) ∨
      FitsEmpty around tag.name ∧ cs = nil) ∧ rest.Nested around))

instance (around : List String) (f : Forest) : Decidable (f.Nested around) :=
  f.decidableNested around

/-- **A regular document**, which stands in elements of the names `around`: its elements fit where
they stand, and its texts are not empty, no neighbours and free of NUL. -/
structure Forest.Regular (around : List String) (f : Forest) : Prop where
  /-- The attributes of its elements are read as they are written. -/
  tags : ∀ tag ∈ f.tags, tag.Regular
  /-- No element closes or moves another. -/
  nested : f.Nested around
  /-- No text is empty. -/
  full : "" ∉ f.texts
  /-- No two texts are neighbours. -/
  apart : f.textsApart = true
  /-- A NUL would be left out. -/
  noNul : ∀ s ∈ f.texts, Html.Scanner.nul ∉ s.toList

/-- The elements that fit everywhere among themselves: a block, a span, and a block that swallows a
newline. -/
def Html.plainNames : List String := ["div", "span", "pre"]

open Html (plainNames)

/-- The tag of a plain element with distinct attributes, whose values hold no NUL. -/
structure Tag.Plain (tag : Tag) : Prop where
  /-- The element has no rule of its own. -/
  name : tag.name ∈ plainNames
  /-- Its attributes mean nothing to a parser. -/
  attrs : ∀ a ∈ tag.attrs, a.name ∈ ["title", "class", "lang"]
  /-- No attribute is given twice. -/
  distinct : (tag.attrs.map (·.name)).Nodup
  /-- A NUL would be replaced. -/
  noNul : ∀ a ∈ tag.attrs, Html.Scanner.nul ∉ a.value.toList

instance (tag : Tag) : Decidable tag.Plain :=
  decidable_of_iff (tag.name ∈ plainNames ∧ (∀ a ∈ tag.attrs, a.name ∈ ["title", "class", "lang"]) ∧
      (tag.attrs.map (·.name)).Nodup ∧ ∀ a ∈ tag.attrs, Html.Scanner.nul ∉ a.value.toList)
    ⟨fun h => ⟨h.1, h.2.1, h.2.2.1, h.2.2.2⟩, fun h => ⟨h.name, h.attrs, h.distinct, h.noNul⟩⟩

/-- **A document of plain elements**, whose texts are not empty, no neighbours and free of NUL. -/
structure Forest.Plain (f : Forest) : Prop where
  /-- Its elements are plain. -/
  tags : ∀ tag ∈ f.tags, tag.Plain
  /-- No text is empty. -/
  full : "" ∉ f.texts
  /-- No two texts are neighbours. -/
  apart : f.textsApart = true
  /-- A NUL would be left out. -/
  noNul : ∀ s ∈ f.texts, Html.Scanner.nul ∉ s.toList

-- ════════════════════════════════════════════════════════════════════════
-- What comes back
-- ════════════════════════════════════════════════════════════════════════

/-- An attribute with line feeds for its carriage returns. -/
def Attribute.reread (a : Attribute) : Attribute :=
  ⟨a.name, String.ofList (a.value.toList.map lineEnd)⟩

/-- A tag with line feeds for the carriage returns in its values. -/
def Tag.reread (tag : Tag) : Tag :=
  ⟨tag.name, tag.attrs.map Attribute.reread⟩

/-- A text with line feeds for its line ends. A carriage return in front is lost where a newline is
swallowed: nothing is written in front of it to be swallowed instead. -/
def rereadText (swallow : Bool) (cs : List Char) : List Char :=
  if swallow && cs.head? == some '\r' then (normalizeNewlines cs).tail else normalizeNewlines cs

theorem Tag.reread_eq_self {tag : Tag} (h : ∀ a ∈ tag.attrs, '\r' ∉ a.value.toList) :
    tag.reread = tag := by
  have hattr : ∀ a ∈ tag.attrs, a.reread = id a := by
    intro a ha
    have hchar : ∀ c ∈ a.value.toList, lineEnd c = id c := by
      intro c hc
      have hne : c ≠ '\r' := by
        rintro rfl
        exact h a ha hc
      rw [lineEnd, if_neg hne]
      rfl
    rw [Attribute.reread, List.map_congr_left hchar, List.map_id, String.ofList_toList]
    rfl
  rw [Tag.reread, List.map_congr_left hattr, List.map_id]

theorem Tag.return_not_mem_reread (tag : Tag) :
    ∀ a ∈ tag.reread.attrs, '\r' ∉ a.value.toList := by
  intro a ha
  obtain ⟨b, -, rfl⟩ := List.mem_map.mp ha
  rw [Attribute.reread, String.toList_ofList]
  intro hmem
  obtain ⟨c, -, hc⟩ := List.mem_map.mp hmem
  rw [lineEnd] at hc
  split at hc
  · cases hc
  · next hne => exact hne hc

namespace Forest

/-- **What comes back** of a document from its written form. `swallow` says that a newline in front
of it would be swallowed. -/
def reread (swallow : Bool) : Forest → Forest
  | nil => nil
  | text s rest =>
    if rereadText swallow s.toList = [] then rest.reread false
    else text (String.ofList (rereadText swallow s.toList)) (rest.reread false)
  | element tag cs rest =>
    element tag.reread (cs.reread (newlineSwallowingTags.contains tag.name)) (rest.reread false)

theorem reread_text (swallow : Bool) (s : String) (rest : Forest) :
    (text s rest).reread swallow =
      if rereadText swallow s.toList = [] then rest.reread false
      else text (String.ofList (rereadText swallow s.toList)) (rest.reread false) := rfl

theorem reread_element (swallow : Bool) (tag : Tag) (cs rest : Forest) :
    (element tag cs rest).reread swallow =
      element tag.reread (cs.reread (newlineSwallowingTags.contains tag.name))
        (rest.reread false) := rfl

/-- The first node is an element. -/
def startsWithElement : Forest → Bool
  | element _ _ _ => true
  | _ => false

/-- No text and no value holds a carriage return. -/
def OnlyLineFeeds (f : Forest) : Prop :=
  (∀ s ∈ f.texts, '\r' ∉ s.toList) ∧ ∀ tag ∈ f.tags, ∀ a ∈ tag.attrs, '\r' ∉ a.value.toList

theorem Regular.text {around : List String} {s : String} {rest : Forest}
    (h : (Forest.text s rest).Regular around) :
    s.toList ≠ [] ∧ Html.Scanner.nul ∉ s.toList ∧ rest.startsWithText = false ∧
      rest.Regular around := by
  have hfull := h.full
  have hapart := h.apart
  have hnul := h.noNul
  simp only [texts, List.mem_cons, not_or] at hfull
  simp only [textsApart, Bool.and_eq_true, Bool.not_eq_true'] at hapart
  rw [texts, List.forall_mem_cons] at hnul
  exact ⟨by simpa using Ne.symm hfull.1, hnul.1, hapart.1, h.tags, h.nested, hfull.2, hapart.2,
    hnul.2⟩

theorem Regular.element {around : List String} {tag : Tag} {cs rest : Forest}
    (h : (Forest.element tag cs rest).Regular around) :
    tag.Regular ∧
      (Fits around tag.name ∧ cs.Regular (tag.name :: around) ∨
        FitsEmpty around tag.name ∧ cs = .nil) ∧ rest.Regular around := by
  have htags := h.tags
  have hfull := h.full
  have hapart := h.apart
  have hnul := h.noNul
  obtain ⟨hfits, hnested⟩ := h.nested
  simp only [Forest.tags, List.forall_mem_cons, List.forall_mem_append] at htags
  simp only [texts, List.mem_append, not_or] at hfull
  simp only [textsApart, Bool.and_eq_true] at hapart
  rw [texts, List.forall_mem_append] at hnul
  have hchildren : cs.Nested (tag.name :: around) → cs.Regular (tag.name :: around) :=
    fun hcs => ⟨htags.2.1, hcs, hfull.1, hapart.1, hnul.1⟩
  exact ⟨htags.1, hfits.imp_left fun hopen => ⟨hopen.1, hchildren hopen.2⟩, htags.2.2, hnested,
    hfull.2, hapart.2, hnul.2⟩

/-- A plain element fits where only plain elements are around it. -/
theorem nested_of_plain {f : Forest} (h : ∀ tag ∈ f.tags, tag.name ∈ plainNames)
    {around : List String} (haround : ∀ name ∈ around, name ∈ plainNames) : f.Nested around := by
  induction f generalizing around with
  | nil => trivial
  | text s rest ih => exact ih h haround
  | element tag cs rest ihcs ihrest =>
    simp only [tags, List.forall_mem_cons, List.forall_mem_append] at h
    have hcs := @ihcs h.2.1 (tag.name :: around) (List.forall_mem_cons.mpr ⟨h.1, haround⟩)
    have hp : "p" ∉ around := fun hmem => absurd (haround _ hmem) (by decide)
    have hname := h.1
    simp only [plainNames, List.mem_cons, List.not_mem_nil, or_false] at hname
    refine ⟨.inl ⟨?_, hcs⟩, ihrest h.2.2 haround⟩
    rcases hname with hname | hname | hname <;> rw [hname]
    · exact .block (by decide) hp
    · exact .phrase (by decide)
    · exact .preformatted hp

/-- A document of plain elements is regular. -/
theorem Plain.regular {f : Forest} (h : f.Plain) : f.Regular [] where
  tags := fun tag htag =>
    have hsmall : ∀ name ∈ ["title", "class", "lang"], Html.Scanner.IsSmallName name := by decide
    have hplain := h.tags tag htag
    ⟨fun a ha => hsmall _ (hplain.attrs a ha), hplain.distinct, hplain.noNul⟩
  nested := nested_of_plain (fun tag htag => (h.tags tag htag).name) (by simp)
  full := h.full
  apart := h.apart
  noNul := h.noNul

/-- What is known of the elements that fit somewhere. -/
theorem Nested.mem_names {around : List String} {f : Forest} (h : f.Nested around) :
    ∀ tag ∈ f.tags, tag.name ∈ Html.openNames ++ "hr" :: Html.emptyNames := by
  induction f generalizing around with
  | nil => simp [tags]
  | text s rest ih => exact ih h
  | element tag cs rest ihcs ihrest =>
    obtain ⟨hfits, hrest⟩ := h
    simp only [tags, List.forall_mem_cons, List.forall_mem_append]
    rcases hfits with ⟨hfits, hcs⟩ | ⟨hfits, rfl⟩
    · exact ⟨List.mem_append_left _ hfits.mem_openNames, ihcs hcs, ihrest hrest⟩
    · exact ⟨List.mem_append_right _ hfits.mem_emptyNames, by simp [tags], ihrest hrest⟩

theorem tags_reread (swallow : Bool) (f : Forest) :
    (f.reread swallow).tags = f.tags.map Tag.reread := by
  induction f generalizing swallow with
  | nil => rfl
  | text s rest ih =>
    rw [reread_text]
    split
    · exact ih false
    · exact ih false
  | element tag cs rest ihcs ihrest => simp [reread_element, tags, ihcs, ihrest]

theorem depth_reread (swallow : Bool) (f : Forest) : (f.reread swallow).depth = f.depth := by
  induction f generalizing swallow with
  | nil => rfl
  | text s rest ih =>
    rw [reread_text]
    split
    · exact ih false
    · exact ih false
  | element tag cs rest ihcs ihrest => simp [reread_element, depth, ihcs, ihrest]

/-- Each text that comes back is there for a reason: it is not empty and has no carriage return. -/
theorem texts_reread (swallow : Bool) (f : Forest) :
    ∀ s ∈ (f.reread swallow).texts, s ≠ "" ∧ '\r' ∉ s.toList := by
  induction f generalizing swallow with
  | nil => exact fun s hs => absurd hs List.not_mem_nil
  | text s rest ih =>
    rw [reread_text]
    split
    · exact ih false
    · next hne =>
      refine List.forall_mem_cons.mpr ⟨⟨by simpa using hne, ?_⟩, ih false⟩
      rw [String.toList_ofList, rereadText]
      split
      · exact fun h => Html.not_mem_normalizeNewlines _ (List.mem_of_mem_tail h)
      · exact Html.not_mem_normalizeNewlines _
  | element tag cs rest ihcs ihrest =>
    exact List.forall_mem_append.mpr ⟨ihcs _, ihrest false⟩

theorem textsApart_reread (swallow : Bool) {f : Forest} (h : f.textsApart = true) :
    (f.reread swallow).textsApart = true ∧
      (f.startsWithText = false → (f.reread swallow).startsWithText = false) := by
  induction f generalizing swallow with
  | nil => exact ⟨rfl, fun _ => rfl⟩
  | text s rest ih =>
    simp only [textsApart, Bool.and_eq_true, Bool.not_eq_true'] at h
    obtain ⟨hrest, hstart⟩ := ih false h.2
    refine ⟨?_, fun htext => Bool.noConfusion htext⟩
    rw [reread_text]
    split
    · exact hrest
    · simp only [textsApart, hstart h.1, hrest, Bool.not_false, Bool.and_self]
  | element tag cs rest ihcs ihrest =>
    simp only [textsApart, Bool.and_eq_true] at h
    refine ⟨?_, fun _ => rfl⟩
    simp only [reread_element, textsApart, (ihcs _ h.1).1, (ihrest false h.2).1, Bool.and_self]

theorem onlyLineFeeds_reread (swallow : Bool) (f : Forest) : (f.reread swallow).OnlyLineFeeds := by
  refine ⟨fun s hs => (texts_reread swallow f s hs).2, ?_⟩
  rw [tags_reread]
  intro tag htag
  obtain ⟨tag, -, rfl⟩ := List.mem_map.mp htag
  exact tag.return_not_mem_reread

theorem reread_of_onlyLineFeeds {f : Forest} (hfull : "" ∉ f.texts) (h : f.OnlyLineFeeds)
    (swallow : Bool) : f.reread swallow = f := by
  obtain ⟨htexts, htags⟩ := h
  induction f generalizing swallow with
  | nil => rfl
  | text s rest ih =>
    simp only [texts, List.mem_cons, not_or] at hfull
    rw [texts, List.forall_mem_cons] at htexts
    have hhead : s.toList.head? ≠ some '\r' := by
      intro hhead
      exact htexts.1 (List.mem_of_mem_head? hhead)
    have htext : rereadText swallow s.toList = s.toList := by
      rw [rereadText, if_neg (by simp [hhead]), Html.normalizeNewlines_of_not_mem htexts.1]
    rw [reread_text, htext, if_neg (by simpa using Ne.symm hfull.1), String.ofList_toList,
      ih hfull.2 false htexts.2 htags]
  | element tag cs rest ihcs ihrest =>
    simp only [texts, List.mem_append, not_or] at hfull
    rw [texts, List.forall_mem_append] at htexts
    rw [tags, List.forall_mem_cons, List.forall_mem_append] at htags
    rw [reread_element, Tag.reread_eq_self htags.1, ihcs hfull.1 _ htexts.1 htags.2.1,
      ihrest hfull.2 false htexts.2 htags.2.2]

/-- **A document comes back unchanged** exactly when it holds no carriage return. -/
theorem reread_eq_self_iff {f : Forest} (hfull : "" ∉ f.texts) (swallow : Bool) :
    f.reread swallow = f ↔ f.OnlyLineFeeds :=
  ⟨fun h => h ▸ onlyLineFeeds_reread swallow f, fun h => reread_of_onlyLineFeeds hfull h swallow⟩

end Forest

-- ════════════════════════════════════════════════════════════════════════
-- Parsing
-- ════════════════════════════════════════════════════════════════════════

namespace Html

open Builder Scanner
open ArticleMarkup.Html.Parser (feed)

/-- Characters that complete no token leave the tree as it is. -/
theorem foldl_feed_quiet {s t : Scanner} {b : Builder} (hb : b.readsForeign = false) {cs : List Char}
    (h : s.scan cs = (t, [])) : cs.foldl feed ⟨s, b⟩ = ⟨t, b⟩ := by
  induction cs generalizing s with
  | nil => cases h; rfl
  | cons c cs ih =>
    rw [scan, Prod.mk.injEq, List.append_eq_nil_iff] at h
    have hfeed : feed ⟨s, b⟩ c = ⟨(s.step false c).1, b⟩ := by
      simp only [feed, hb, h.2.1]
      rfl
    rw [List.foldl_cons, hfeed]
    exact ih (Prod.ext h.1 h.2.2)

/-- Characters that are read as text go into the tree one after the other. -/
theorem foldl_feed_chars {s t : Scanner} {frames : List Frame} {dom : Dom} {next : Nat}
    {skip : Bool}
    (hframes : WellNumbered frames next) {cs ds : List Char} (h : s.scan cs = (t, chars ds)) :
    cs.foldl feed ⟨s, Builder.at frames dom next skip⟩ =
      ⟨t, (chars ds).foldl process (Builder.at frames dom next skip)⟩ := by
  induction cs generalizing s ds dom skip with
  | nil =>
    rw [scan_nil, Prod.mk.injEq] at h
    rw [← h.1, ← h.2]
    rfl
  | cons c cs ih =>
    rw [scan, Prod.mk.injEq] at h
    obtain ⟨first, rest, rfl, hfirst, hrest⟩ := List.map_eq_append_iff.mp h.2.symm
    have htags : (chars first).any Token.isTag = false := by simp [chars, Token.isTag]
    have hfeed : feed ⟨s, Builder.at frames dom next skip⟩ c =
        ⟨(s.step false c).1, (chars first).foldl process (Builder.at frames dom next skip)⟩ := by
      simp only [feed, readsForeign_at, ← hfirst]
      rw [show first.map Token.char = chars first from rfl, htags]
      rfl
    have hscan : (s.step false c).1.scan cs = (t, chars rest) := Prod.ext h.1 hrest.symm
    have hsplit : chars (first ++ rest) = chars first ++ chars rest := List.map_append
    rw [List.foldl_cons, hfeed, hsplit, List.foldl_append]
    by_cases hne : first = []
    · subst hne
      exact ih hscan
    · rw [process_chars_at hframes hne]
      exact ih hscan

/-- A tag goes to the tree builder when it is complete. -/
theorem foldl_feed_tag {s u t : Scanner} {b : Builder} (hb : b.readsForeign = false)
    {front : List Char} {c : Char} {token : Token} (hfront : s.scan front = (u, []))
    (hstep : u.step false c = (t, [token])) (htag : token.isTag = true) (ht : t.InText)
    (hwanted : (b.process token).wanted = .markup) (rest : List Char) :
    (front ++ c :: rest).foldl feed ⟨s, b⟩ = rest.foldl feed ⟨t, b.process token⟩ := by
  have hfeed : feed ⟨u, b⟩ c = ⟨t, b.process token⟩ := by
    have hself : { t with content := Content.markup } = t := by rw [← ht.content]
    simp only [feed, hb, hstep, List.any_cons, htag, Bool.true_or, if_true, List.foldl_cons,
      List.foldl_nil, hwanted, hself]
  rw [List.foldl_append, foldl_feed_quiet hb hfront, List.foldl_cons, hfeed]

/-- What the names of elements that can be open are. -/
theorem openNames_spec : ∀ name ∈ openNames, IsSmallName name ∧ voidTags.contains name = false ∧
    newlineSwallowingTags.contains name = (name == "pre") ∧ name ≠ "template" := by
  decide +kernel

/-- What the names of empty elements are. -/
theorem emptyNames_spec : ∀ name ∈ "hr" :: emptyNames, IsSmallName name ∧
    voidTags.contains name = true ∧ name ≠ "template" := by
  decide

/-- The newline in front of the children that is there to be swallowed. -/
def lead (swallow : Bool) (f : Forest) : List Char :=
  if swallow && f.startsWithNewline then ['\n'] else []

theorem exists_layOut_lead (name : String) (f : Forest) (ps : List Piece) :
    ∃ blank, Piece.layOut false (Forest.leadPieces name f ++ ps) =
      lead (newlineSwallowingTags.contains name) f ++ Piece.layOut blank ps := by
  unfold Forest.leadPieces lead
  split
  · exact ⟨true, rfl⟩
  · exact ⟨false, rfl⟩

/-- What is swallowed is the newline in front, or the line feed that a carriage return became. -/
theorem swallow_eq_rereadText (skip : Bool) (s : String) (rest : Forest) :
    (if skip && (lead skip (.text s rest) ++ normalizeNewlines s.toList).head? == some '\n'
      then (lead skip (.text s rest) ++ normalizeNewlines s.toList).tail
      else lead skip (.text s rest) ++ normalizeNewlines s.toList) = rereadText skip s.toList := by
  cases skip with
  | false => rfl
  | true =>
    simp only [lead, rereadText, Forest.startsWithNewline, Bool.true_and]
    cases s.toList with
    | nil => rfl
    | cons c cs =>
      by_cases hn : c = '\n'
      · subst hn
        rfl
      by_cases hr : c = '\r'
      · subst hr
        have hfirst : (normalizeNewlines ('\r' :: cs)).head? = some '\n' := by
          by_cases hcs : cs.head? = some '\n'
          · obtain ⟨cs, rfl⟩ := List.head?_eq_some_iff.mp hcs
            rfl
          · rw [normalizeNewlines_return hcs]
            rfl
        simp [hfirst]
      · have hfirst := normalizeNewlines_cons_of_ne hr cs
        simp [hfirst, hn, hr]

/-- **A text** goes into the tree as it comes back. -/
theorem foldl_feed_text {s : String} {rest : Forest} {around : List String}
    (hf : (Forest.text s rest).Regular around) {frames : List Frame} {next : Nat}
    (hframes : WellNumbered frames next) (dom : Dom) (skip : Bool)
    {scanner : Scanner} (hs : scanner.InText) (blank : Bool) {ps : List Piece}
    (hps : ∀ blank, AtTag (Piece.layOut blank ps)) :
    ∃ blank', (normalizeNewlines (lead skip (.text s rest) ++
        Piece.layOut blank (s.toList.map textPiece ++ ps))).foldl feed
          ⟨scanner, Builder.at frames dom next skip⟩ =
      (normalizeNewlines (Piece.layOut blank' ps)).foldl feed
        ⟨scanner, Builder.at frames (dom.pushChars (rereadText skip s.toList)) next false⟩ := by
  obtain ⟨hne, hnul, -, -⟩ := hf.text
  obtain ⟨ink, last, hink, hspells⟩ := exists_normalizeNewlines_layOut hnul blank hps
  have hlead : ∀ more, normalizeNewlines (lead skip (.text s rest) ++ more) =
      lead skip (.text s rest) ++ normalizeNewlines more := by
    intro more
    refine normalizeNewlines_append_of_not_mem ?_ more
    unfold lead
    split <;> decide
  have hread : Spells '<' (lead skip (.text s rest) ++ ink)
      (lead skip (.text s rest) ++ normalizeNewlines s.toList) := by
    unfold lead
    split
    · exact .plain (by decide) (by decide) (by decide) hspells
    · exact hspells
  have hscan := scan_text hs hread
  have hnonempty : lead skip (.text s rest) ++ normalizeNewlines s.toList ≠ [] := by
    simp [normalizeNewlines_ne_nil hne]
  refine ⟨last, ?_⟩
  rw [hlead, hink, ← List.append_assoc, List.foldl_append, foldl_feed_chars hframes hscan,
    process_chars_at hframes hnonempty, swallow_eq_rereadText]

/-- **A start tag** is given to the tree builder with the values that come back. -/
theorem foldl_feed_startChars {tag : Tag} (htag : tag.Regular) (hname : IsSmallName tag.name)
    {frames frames' : List Frame} {dom dom' : Dom} {next next' : Nat} {skip skip' : Bool}
    (hprocess : (Builder.at frames dom next skip).process
        (.startTag tag.reread (voidTags.contains tag.name)) = Builder.at frames' dom' next' skip')
    {s : Scanner} (hs : s.InText) (rest : List Char) :
    ∃ t : Scanner, t.InText ∧
      (normalizeNewlines (tag.startChars ++ rest)).foldl feed ⟨s, Builder.at frames dom next skip⟩ =
        (normalizeNewlines rest).foldl feed ⟨t, Builder.at frames' dom' next' skip'⟩ := by
  have hink : ∀ a ∈ tag.attrs,
      Spells '"' (valueInk a.value.toList) (a.value.toList.map lineEnd) := fun a ha =>
    spells_valueInk (htag.noNul a ha)
  obtain ⟨u, t, hfront, hstep, ht⟩ :=
    scan_startTag hs hname htag.names htag.distinct hink (voidTags.contains tag.name)
  refine ⟨t, ht, ?_⟩
  rw [normalizeNewlines_startChars_append hname htag.names,
    foldl_feed_tag readsForeign_at hfront hstep rfl ht (congrArg Builder.wanted hprocess)]
  exact congrArg (fun b => (normalizeNewlines rest).foldl feed ⟨t, b⟩) hprocess

/-- **An end tag** closes the innermost element. -/
theorem foldl_feed_endChars {tag : Tag} {frame : Frame} (htag : frame.tag.name = tag.name)
    {frames : List Frame} {next : Nat} (hframes : WellNumbered (frame :: frames) next) (dom : Dom)
    (skip : Bool) {s : Scanner} (hs : s.InText) (rest : List Char) :
    ∃ t : Scanner, t.InText ∧
      (normalizeNewlines (tag.endChars ++ rest)).foldl feed
          ⟨s, Builder.at (frame :: frames) dom next skip⟩ =
        (normalizeNewlines rest).foldl feed
          ⟨t, Builder.at frames
            (.element frame.id .html (Space.html.nodeTag frame.tag) dom frame.older) next false⟩ := by
  have hsmall := (openNames_spec _ (hframes.known frame List.mem_cons_self)).1
  obtain ⟨u, t, hfront, hstep, ht⟩ := scan_endTag hs hsmall
  have hprocess := @process_endTag_at _ dom _ skip frame hframes
  have hnormal : normalizeNewlines (tag.endChars ++ rest) =
      ('<' :: '/' :: frame.tag.name.toList) ++ '>' :: normalizeNewlines rest := by
    have hreturn : '\r' ∉ '<' :: '/' :: (frame.tag.name.toList ++ ['>']) := by
      simpa using return_not_mem_of_isSmallName hsmall
    rw [Tag.endChars, ← htag, normalizeNewlines_append_of_not_mem hreturn]
    simp
  refine ⟨t, ht, ?_⟩
  rw [hnormal,
    foldl_feed_tag readsForeign_at hfront hstep rfl ht (congrArg Builder.wanted hprocess), hprocess]

/-- **An element with children** is added after the newest node, and what is said of its children is
read inside it. -/
theorem foldl_feed_element {tag : Tag} {cs rest : Forest} (htag : tag.Regular) {frames : List Frame}
    (hfits : Fits (names frames) tag.name) {next : Nat} (hframes : WellNumbered frames next)
    (hpos : 0 < next) (dom : Dom) (skip : Bool) {s : Scanner} (hs : s.InText) (blank : Bool)
    {ps : List Piece}
    (hcs : ∀ {s : Scanner}, s.InText → ∀ first, ∃ t mid, t.InText ∧
      (normalizeNewlines (lead (newlineSwallowingTags.contains tag.name) cs ++
          Piece.layOut first (cs.pieces ++ .ink tag.endChars :: (rest.pieces ++ ps)))).foldl feed
          ⟨s, Builder.at (⟨next, tag.reread, dom⟩ :: frames) .nil (next + 1)
            (newlineSwallowingTags.contains tag.name)⟩ =
        (normalizeNewlines (Piece.layOut mid (.ink tag.endChars :: (rest.pieces ++ ps)))).foldl feed
          ⟨t, Builder.at (⟨next, tag.reread, dom⟩ :: frames)
            (Dom.grow (cs.reread (newlineSwallowingTags.contains tag.name)) (next + 1) .nil).2
            (Dom.grow (cs.reread (newlineSwallowingTags.contains tag.name)) (next + 1) .nil).1
            (newlineSwallowingTags.contains tag.name && cs.isEmpty)⟩) :
    ∃ t : Scanner, t.InText ∧
      (normalizeNewlines (Piece.layOut blank ((Forest.element tag cs rest).pieces ++ ps))).foldl feed
          ⟨s, Builder.at frames dom next skip⟩ =
        (normalizeNewlines (Piece.layOut false (rest.pieces ++ ps))).foldl feed
          ⟨t, Builder.at frames (.element next .html (Space.html.nodeTag tag.reread)
            (Dom.grow (cs.reread (newlineSwallowingTags.contains tag.name)) (next + 1) .nil).2 dom)
            (Dom.grow (cs.reread (newlineSwallowingTags.contains tag.name)) (next + 1) .nil).1
            false⟩ := by
  obtain ⟨hsmall, hvoid, hpre, -⟩ := openNames_spec _ hfits.mem_openNames
  obtain ⟨first, hlead⟩ := exists_layOut_lead tag.name cs
    (cs.pieces ++ .ink tag.endChars :: (rest.pieces ++ ps))
  have hout : Piece.layOut blank ((Forest.element tag cs rest).pieces ++ ps) =
      tag.startChars ++ (lead (newlineSwallowingTags.contains tag.name) cs ++
        Piece.layOut first (cs.pieces ++ .ink tag.endChars :: (rest.pieces ++ ps))) := by
    rw [Forest.pieces, hvoid, ← hlead]
    simp [Piece.layOut]
  have hprocess := @process_startTag_at _ dom _ skip hframes tag.reread hfits
    (voidTags.contains tag.name)
  rw [show (tag.reread.name == "pre") = newlineSwallowingTags.contains tag.name from hpre.symm]
    at hprocess
  obtain ⟨s₁, hs₁, hstart⟩ := foldl_feed_startChars htag hsmall hprocess hs
    (lead (newlineSwallowingTags.contains tag.name) cs ++
      Piece.layOut first (cs.pieces ++ .ink tag.endChars :: (rest.pieces ++ ps)))
  obtain ⟨s₂, mid, hs₂, hchildren⟩ := hcs hs₁ first
  have hinner : WellNumbered (⟨next, tag.reread, dom⟩ :: frames) (next + 1) :=
    hframes.cons hpos (show tag.reread.name ∈ openNames from hfits.mem_openNames) dom
      (Nat.lt_succ_self next)
  have hle := Dom.le_grow (cs.reread (newlineSwallowingTags.contains tag.name)) (next + 1) .nil
  obtain ⟨t, ht, hclose⟩ := @foldl_feed_endChars tag ⟨next, tag.reread, dom⟩ rfl _ _
    (hinner.mono hle) (Dom.grow (cs.reread _) (next + 1) .nil).2 _ _ hs₂
    (Piece.layOut false (rest.pieces ++ ps))
  refine ⟨t, ht, ?_⟩
  rw [hout, hstart, hchildren, Piece.layOut, hclose]

/-- **An empty element** is added after the newest node. -/
theorem foldl_feed_empty {tag : Tag} {rest : Forest} (htag : tag.Regular) {frames : List Frame}
    (hfits : FitsEmpty (names frames) tag.name) {next : Nat} (hframes : WellNumbered frames next)
    (dom : Dom) (skip : Bool) {s : Scanner} (hs : s.InText) (blank : Bool) {ps : List Piece} :
    ∃ t : Scanner, t.InText ∧
      (normalizeNewlines (Piece.layOut blank ((Forest.element tag .nil rest).pieces ++ ps))).foldl
          feed ⟨s, Builder.at frames dom next skip⟩ =
        (normalizeNewlines (Piece.layOut false (rest.pieces ++ ps))).foldl feed
          ⟨t, Builder.at frames (.element next .html (Space.html.nodeTag tag.reread) .nil dom)
            (next + 1) false⟩ := by
  obtain ⟨hsmall, hvoid, -⟩ := emptyNames_spec _ hfits.mem_emptyNames
  have hout : Piece.layOut blank ((Forest.element tag .nil rest).pieces ++ ps) =
      tag.startChars ++ Piece.layOut false (rest.pieces ++ ps) := by
    rw [Forest.pieces, hvoid]
    simp [Piece.layOut]
  have hprocess := @process_emptyTag_at _ dom _ skip hframes tag.reread hfits
    (voidTags.contains tag.name)
  rw [hout]
  exact foldl_feed_startChars htag hsmall hprocess hs (Piece.layOut false (rest.pieces ++ ps))

/-- **The written form** adds the document after the newest node. -/
theorem foldl_feed_layOut {f : Forest} {frames : List Frame} (hf : f.Regular (names frames))
    {next : Nat} (hframes : WellNumbered frames next) (hpos : 0 < next) (dom : Dom) (skip : Bool)
    {s : Scanner} (hs : s.InText) (blank : Bool) {ps : List Piece}
    (hps : ∀ blank, AtTag (Piece.layOut blank ps)) :
    ∃ t blank', t.InText ∧
      (normalizeNewlines (lead skip f ++ Piece.layOut blank (f.pieces ++ ps))).foldl feed
          ⟨s, Builder.at frames dom next skip⟩ =
        (normalizeNewlines (Piece.layOut blank' ps)).foldl feed
          ⟨t, Builder.at frames (Dom.grow (f.reread skip) next dom).2
            (Dom.grow (f.reread skip) next dom).1 (skip && f.isEmpty)⟩ := by
  induction f generalizing frames next dom skip s blank ps with
  | nil =>
    refine ⟨s, blank, hs, ?_⟩
    cases skip <;> rfl
  | text content rest ih =>
    obtain ⟨hne, -, hapart, hrest⟩ := hf.text
    have hps' : ∀ blank, AtTag (Piece.layOut blank (rest.pieces ++ ps)) :=
      Forest.atTag_layOut hapart hps
    obtain ⟨mid, htext⟩ := foldl_feed_text hf hframes dom skip hs blank hps'
    obtain ⟨t, last, ht, hfeed⟩ :=
      ih hrest hframes hpos (dom.pushChars (rereadText skip content.toList)) false hs mid hps
    refine ⟨t, last, ht, ?_⟩
    have hgrow : Dom.grow ((Forest.text content rest).reread skip) next dom =
        Dom.grow (rest.reread false) next (dom.pushChars (rereadText skip content.toList)) := by
      rw [Forest.reread_text]
      split
      · next hempty => rw [hempty]; rfl
      · rw [Dom.grow, String.toList_ofList]
    rw [Forest.pieces, List.append_assoc, htext, hgrow]
    simpa [lead, Forest.isEmpty] using hfeed
  | element tag cs rest ihcs ihrest =>
    obtain ⟨htag, hkind, hrest⟩ := hf.element
    have hnone : lead skip (.element tag cs rest) = [] := by simp [lead, Forest.startsWithNewline]
    rcases hkind with ⟨hfits, hcs⟩ | ⟨hfits, rfl⟩
    · have hinner : WellNumbered (⟨next, tag.reread, dom⟩ :: frames) (next + 1) :=
        hframes.cons hpos (show tag.reread.name ∈ openNames from hfits.mem_openNames) dom
          (Nat.lt_succ_self next)
      have hle := Dom.le_grow (cs.reread (newlineSwallowingTags.contains tag.name)) (next + 1) .nil
      obtain ⟨u, hu, helement⟩ := foldl_feed_element htag hfits hframes hpos dom skip hs blank
        fun hs first => @ihcs (⟨next, tag.reread, dom⟩ :: frames) hcs _ hinner (Nat.succ_pos next)
          .nil _ _ hs first _ fun _ => .inr ⟨_, rfl⟩
      obtain ⟨t, last, ht, hafter⟩ := ihrest hrest
        (hframes.mono (Nat.le_of_succ_le hle)) (by omega)
        (.element next .html (Space.html.nodeTag tag.reread)
          (Dom.grow (cs.reread _) (next + 1) .nil).2 dom) false hu false hps
      refine ⟨t, last, ht, ?_⟩
      rw [hnone, List.nil_append, helement]
      simpa [lead, Forest.isEmpty, Forest.reread_element, Dom.grow] using hafter
    · obtain ⟨u, hu, helement⟩ := foldl_feed_empty htag hfits hframes dom skip hs blank
      obtain ⟨t, last, ht, hafter⟩ := ihrest hrest (hframes.mono (Nat.le_succ next))
        (Nat.succ_pos next) (.element next .html (Space.html.nodeTag tag.reread) .nil dom) false hu
        false hps
      refine ⟨t, last, ht, ?_⟩
      rw [hnone, List.nil_append, helement]
      simpa [lead, Forest.isEmpty, Forest.reread_element, Forest.reread, Dom.grow] using hafter

-- ════════════════════════════════════════════════════════════════════════
-- Whole documents
-- ════════════════════════════════════════════════════════════════════════

theorem written_of_startsWithElement {f : Forest} (h : f.startsWithElement = true) :
    ∃ cs, Piece.layOut false f.pieces = '<' :: cs := by
  cases f with
  | nil => cases h
  | text s rest => cases h
  | element tag cs rest =>
    rw [Forest.pieces]
    split <;> rw [Piece.layOut, Tag.startChars_eq] <;> exact ⟨_, rfl⟩

/-- **The tree of a written document** is what comes back of it. -/
theorem tree_written {f : Forest} (hf : f.Regular []) (hstart : f.startsWithElement = true) :
    tree f.written = (Dom.grow (f.reread false) 1 .nil).2 := by
  have hchars : inputChars f.written = normalizeNewlines (Piece.layOut false f.pieces) := by
    -- a document that starts with a tag has no mark of the byte order
    obtain ⟨cs, hcs⟩ := written_of_startsWithElement hstart
    rw [inputChars, Forest.written, String.toList_ofList, hcs]
    rfl
  have hempty : WellNumbered [] 1 := ⟨by simp, by simp, by simp, by simp⟩
  obtain ⟨t, last, ht, hfeed⟩ := @foldl_feed_layOut f [] hf 1 hempty Nat.one_pos .nil false {}
    ⟨rfl, rfl, rfl⟩ false [] fun _ => .inl rfl
  have hlead : lead false f = [] := by simp [lead]
  rw [hlead, List.nil_append, List.append_nil] at hfeed
  have hparser : ({} : Parser) = ⟨{}, Builder.at [] .nil 1 false⟩ := rfl
  have hfinish : t.finish = [] := by rw [Scanner.finish, ht.state]
  rw [tree, hchars, hparser, hfeed]
  simp only [Piece.layOut, normalizeNewlines, List.foldl_nil, Parser.finish, hfinish]
  rfl

/-- **What the parser makes of a written regular document**: within the limit on nesting it is the
document with its line ends read as line feeds. -/
theorem lower_regular {f : Forest} (hf : f.Regular []) (hstart : f.startsWithElement = true)
    (limit : Nat) :
    lower f.written limit = if f.depth ≤ limit then some (f.reread false) else none := by
  have hnames : ∀ tag ∈ (f.reread false).tags, tag.name ≠ "template" := by
    rw [Forest.tags_reread]
    intro tag htag
    obtain ⟨tag, hmem, rfl⟩ := List.mem_map.mp htag
    rcases List.mem_append.mp (hf.nested.mem_names tag hmem) with hname | hname
    · exact (openNames_spec _ hname).2.2.2
    · exact (emptyNames_spec _ hname).2.2
  have hfull : "" ∉ (f.reread false).texts := fun h => (Forest.texts_reread false f _ h).1 rfl
  have hforest := @Dom.toForest_grow _ hnames hfull (Forest.textsApart_reread false hf.apart).1 1 .nil
    fun _ => rfl
  have hdepth := Dom.depth_grow hnames 1 .nil
  rw [Forest.depth_reread, Dom.depth, Nat.zero_max] at hdepth
  have hblank : Text.isBlank f.written = false := by
    obtain ⟨cs, hcs⟩ := written_of_startsWithElement hstart
    rw [Text.isBlank, Forest.written, String.toList_ofList, hcs]
    rfl
  rw [lower_eq, hblank, tree_written hf hstart, hdepth, hforest]
  rfl

/-- **What the parser makes of a written document** of plain elements. Within the limit on nesting it is
the document with its line ends read as line feeds. That is the document itself exactly if it holds no
carriage return. -/
theorem lower_written {f : Forest} (hf : f.Plain) (hstart : f.startsWithElement = true) {limit : Nat}
    (hlimit : f.depth ≤ limit) :
    lower f.written limit = some (f.reread false) ∧
      (lower f.written limit = some f ↔ f.OnlyLineFeeds) := by
  have hlower : lower f.written limit = some (f.reread false) := by
    rw [lower_regular hf.regular hstart, if_pos hlimit]
  refine ⟨hlower, ?_⟩
  rw [hlower, Option.some.injEq, Forest.reread_eq_self_iff hf.full]

/-- A block with two values in its tag and code in it that begins with an empty line. -/
def listing : Forest :=
  .element ⟨"div", [⟨"title", "\"a\"\n<"⟩, ⟨"lang", "en"⟩]⟩
    (.element ⟨"pre", []⟩ (.ofText "\n\n&lt;\t\u0001") (.ofText " \n\n")) (.single ⟨"span", []⟩ .nil)

/-- All of it comes back. -/
theorem lower_written_listing :
    (listing.Plain ∧ listing.startsWithElement = true ∧ listing.depth ≤ 2) ∧
      lower listing.written 2 = some listing :=
  have hplain : listing.Plain := ⟨by decide, by decide, by decide, by decide⟩
  have hlines : listing.OnlyLineFeeds := ⟨by decide, by decide⟩
  ⟨⟨hplain, rfl, by decide⟩, (lower_written hplain rfl (by decide)).2.mpr hlines⟩

/-- A block with a carriage return in its text. -/
def returned : Forest :=
  .single ⟨"div", []⟩ (.ofText "a\rb")

/-- The carriage return does not come back: a line feed does. -/
theorem lower_written_returned :
    (returned.Plain ∧ returned.startsWithElement = true ∧ returned.depth ≤ 1) ∧
      lower returned.written 1 = some (.single ⟨"div", []⟩ (.ofText "a\nb")) ∧
      lower returned.written 1 ≠ some returned :=
  ⟨⟨⟨by decide, by decide, by decide, by decide⟩, rfl, by decide⟩, by decide, by decide +kernel⟩

end Html

end ArticleMarkup
