import ArticleMarkup.Proofs.Forest.Texts
import ArticleMarkup.Proofs.Written.Markup
import Mathlib.Data.List.TakeWhile

/-!
# Reading the written form back

The written form of a forest is split at its tags, and the tags are put together to a forest again.
What comes back is the forest that was written, so nothing of a text or of an attribute's value is
ever taken for markup.

## Main definitions

- `Part`, `readParts` — the tags of a written form and the texts between them
- `assemble` — the forest that a sequence of parts stands for
- `Forest.read?` — both, for a whole text
- `Forest.parts` — the tags and texts of a forest
- `Forest.Legible` — a forest whose written form can be read back

## Main statements

- `Forest.readParts_layOut` — the pieces of a forest are read as its parts
- `Forest.assemble_parts` — the parts of a forest are put together to it
- `Forest.read?_written` — a written forest reads back
-/

namespace ArticleMarkup

-- ════════════════════════════════════════════════════════════════════════
-- Splitting at tags
-- ════════════════════════════════════════════════════════════════════════

/-- A part of a written form. -/
inductive Part where
  /-- A tag. -/
  | tag (markup : Markup)
  /-- The text up to the next tag. -/
  | text (content : String)
deriving DecidableEq, Repr

/-- The characters behind a tag without the newline that the tag swallows. -/
def dropNewline : Markup → List Char → List Char
  | .start tag, '\n' :: cs => if newlineSwallowingTags.contains tag.name then cs else '\n' :: cs
  | _, cs => cs

theorem length_dropNewline_le (markup : Markup) (cs : List Char) :
    (dropNewline markup cs).length ≤ cs.length := by
  unfold dropNewline
  split
  · split <;> simp
  · exact Nat.le_refl _

/-- **The parts of a text**: what stands between a `<` and the next `>` is read as a tag, and
everything else is unescaped. -/
def readParts (cs : List Char) : Option (List Part) :=
  match cs with
  | [] => some []
  | '<' :: cs =>
    match _hend : cs.dropWhile (· != '>') with
    | [] => none
    | _ :: rest =>
      match Markup.read? (cs.takeWhile (· != '>')) with
      | none => none
      | some markup => (readParts (dropNewline markup rest)).map (.tag markup :: ·)
  | c :: cs =>
    (readParts (cs.dropWhile (· != '<'))).map
      (.text (String.ofList (unescape (c :: cs.takeWhile (· != '<')))) :: ·)
termination_by cs.length
decreasing_by
  · have h := (List.dropWhile_sublist (l := cs) (· != '>')).length_le
    have hdrop := length_dropNewline_le markup rest
    rw [_hend] at h
    simp only [List.length_cons] at h ⊢
    omega
  · have h := (List.dropWhile_sublist (l := cs) (· != '<')).length_le
    simp only [List.length_cons]
    omega

/-- A tag is read as the markup between its ends. -/
theorem readParts_tag {body rest : List Char} {markup : Markup} (hbody : '>' ∉ body)
    (hread : Markup.read? body = some markup) :
    readParts ('<' :: (body ++ '>' :: rest)) =
      (readParts (dropNewline markup rest)).map (.tag markup :: ·) := by
  have hne : ∀ c ∈ body, (c != '>') = true := by
    intro c hc
    rw [bne_iff_ne]
    rintro rfl
    exact hbody hc
  rw [readParts]
  split
  · next hend =>
    rw [dropWhile_append_cons hne (by decide)] at hend
    cases hend
  · next rest' hend =>
    rw [dropWhile_append_cons hne (by decide)] at hend
    cases hend
    rw [takeWhile_append_cons hne (by decide), hread]

/-- Nothing follows, or a tag does: where a text ends. -/
def AtTag (cs : List Char) : Prop :=
  cs = [] ∨ ∃ after, cs = '<' :: after

/-- Text is read up to the next tag. -/
theorem readParts_text {cs rest : List Char} (hne : cs ≠ []) (hlt : '<' ∉ cs) (hrest : AtTag rest) :
    readParts (cs ++ rest) =
      (readParts rest).map (.text (String.ofList (unescape cs)) :: ·) := by
  cases cs with
  | nil => exact absurd rfl hne
  | cons c cs =>
    simp only [List.mem_cons, not_or] at hlt
    have hcs : ∀ d ∈ cs, (d != '<') = true := by
      intro d hd
      rw [bne_iff_ne]
      rintro rfl
      exact hlt.2 hd
    rw [List.cons_append, readParts]
    · rcases hrest with rfl | ⟨after, rfl⟩
      · rw [List.append_nil, List.takeWhile_eq_self_iff.mpr hcs, List.dropWhile_eq_nil_iff.mpr hcs]
      · rw [takeWhile_append_cons hcs (by decide), dropWhile_append_cons hcs (by decide)]
    · exact fun h => hlt.1 h.symm

-- ════════════════════════════════════════════════════════════════════════
-- Putting parts together
-- ════════════════════════════════════════════════════════════════════════

/-- **Put parts together.** `done` holds the nodes since the last start tag that is still open, and
`outer` the elements that are open, innermost first, each behind the nodes in front of it. -/
def assemble (outer : List (Forest × Tag)) (done : Forest) : List Part → Option Forest
  | [] => if outer.isEmpty then some done else none
  | .text s :: parts => assemble outer (done ++ .ofText s) parts
  | .tag (.start tag) :: parts =>
    if voidTags.contains tag.name then assemble outer (done ++ .single tag .nil) parts
    else assemble ((done, tag) :: outer) .nil parts
  | .tag (.close name) :: parts =>
    match outer with
    | [] => none
    | (before, tag) :: outer =>
      if tag.name = name then assemble outer (before ++ .single tag done) parts else none

namespace Forest

/-- **Read a written form.** -/
def read? (html : String) : Option Forest :=
  (readParts html.toList).bind (assemble [] .nil)

/-- The tags and texts of a forest, as they are read. -/
def parts : Forest → List Part
  | nil => []
  | text s rest => .text s :: rest.parts
  | element tag cs rest =>
    if voidTags.contains tag.name then .tag (.start tag) :: rest.parts
    else .tag (.start tag) :: (cs.parts ++ .tag (.close tag.name) :: rest.parts)

/-- No void element has children. -/
def voidsEmpty : Forest → Bool
  | nil => true
  | text _ rest => rest.voidsEmpty
  | element tag cs rest =>
    (!voidTags.contains tag.name || cs.isEmpty) && cs.voidsEmpty && rest.voidsEmpty

/-- **A forest that can be read back** from its written form. -/
structure Legible (f : Forest) : Prop where
  /-- The names of elements and attributes need no quotes. -/
  named : ∀ tag ∈ f.tags, tag.WellNamed
  /-- No children go unwritten. -/
  voids : f.voidsEmpty = true
  /-- No text is empty. -/
  full : "" ∉ f.texts
  /-- No two texts are neighbours. -/
  apart : f.textsApart = true

theorem Legible.text {s : String} {rest : Forest} (h : (Forest.text s rest).Legible) :
    s ≠ "" ∧ rest.startsWithText = false ∧ rest.Legible := by
  have hfull := h.full
  have hapart := h.apart
  simp only [texts, List.mem_cons, not_or] at hfull
  simp only [textsApart, Bool.and_eq_true, Bool.not_eq_true'] at hapart
  exact ⟨Ne.symm hfull.1, hapart.1, h.named, h.voids, hfull.2, hapart.2⟩

theorem Legible.element {tag : Tag} {cs rest : Forest} (h : (Forest.element tag cs rest).Legible) :
    tag.WellNamed ∧ (voidTags.contains tag.name = true → cs = nil) ∧ cs.Legible ∧ rest.Legible := by
  have hnamed := h.named
  have hvoids := h.voids
  have hfull := h.full
  have hapart := h.apart
  simp only [tags, List.forall_mem_cons, List.forall_mem_append] at hnamed
  simp only [voidsEmpty, Bool.and_eq_true, Bool.or_eq_true, Bool.not_eq_true'] at hvoids
  simp only [texts, List.mem_append, not_or] at hfull
  simp only [textsApart, Bool.and_eq_true] at hapart
  refine ⟨hnamed.1, fun hvoid => ?_, ⟨hnamed.2.1, hvoids.1.2, hfull.1, hapart.1⟩,
    ⟨hnamed.2.2, hvoids.2, hfull.2, hapart.2⟩⟩
  have hempty : cs.isEmpty = true := hvoids.1.1.resolve_left (by rw [hvoid]; decide)
  cases cs with
  | nil => rfl
  | text s rest => cases hempty
  | element tag cs rest => cases hempty

/-- **The parts of a forest** are put together to it. -/
theorem assemble_parts {f : Forest} (hf : f.Legible) (outer : List (Forest × Tag)) (done : Forest)
    (more : List Part) : assemble outer done (f.parts ++ more) = assemble outer (done ++ f) more := by
  induction f generalizing outer done more with
  | nil => rw [append_nil]; rfl
  | text s rest ih =>
    rw [parts, List.cons_append, assemble, ih hf.text.2.2, append_assoc]
    rfl
  | element tag cs rest ihcs ihrest =>
    obtain ⟨-, hvoid, hcs, hrest⟩ := hf.element
    unfold parts
    split
    · next hname =>
      rw [List.cons_append, assemble, if_pos hname, ihrest hrest, append_assoc, hvoid hname]
      rfl
    · next hname =>
      rw [List.cons_append, assemble, if_neg hname, List.append_assoc, ihcs hcs, List.cons_append,
        assemble, if_pos rfl, ihrest hrest, append_assoc]
      rfl

end Forest

-- ════════════════════════════════════════════════════════════════════════
-- Pieces read as parts
-- ════════════════════════════════════════════════════════════════════════

/-- **A text** is written without a tag, and unescapes to itself. -/
theorem exists_layOut_text (cs : List Char) (blank : Bool) (ps : List Piece) :
    ∃ ink blank', Piece.layOut blank (cs.map textPiece ++ ps) = ink ++ Piece.layOut blank' ps ∧
      '<' ∉ ink ∧ unescape ink = cs := by
  induction cs generalizing blank with
  | nil => exact ⟨[], blank, rfl, by simp, rfl⟩
  | cons c cs ih =>
    rw [List.map_cons, List.cons_append]
    rcases textPiece_cases c with ⟨rfl, hpiece⟩ | ⟨hc, hpiece⟩ | ⟨front, hpiece, hfront, hback⟩ <;>
      rw [hpiece]
    · cases blank
      · obtain ⟨ink, last, hink, hlt, hcs⟩ := ih true
        refine ⟨'\n' :: ink, last, by simp [Piece.layOut, hink], by simp [hlt], ?_⟩
        rw [unescape_cons_of_ne (by decide), hcs]
      · obtain ⟨ink, last, hink, hlt, hcs⟩ := ih false
        refine ⟨"&#10;".toList ++ ink, last, by simp [Piece.layOut, hink], by simp [hlt], ?_⟩
        exact congrArg ('\n' :: ·) hcs
    · have hne : c ≠ '<' ∧ c ≠ '&' := by rcases hc with rfl | rfl <;> decide
      obtain ⟨ink, last, hink, hlt, hcs⟩ := ih blank
      refine ⟨c :: ink, last, by simp [Piece.layOut, hink], by simp [hlt, Ne.symm hne.1], ?_⟩
      rw [unescape_cons_of_ne hne.2, hcs]
    · obtain ⟨ink, last, hink, hlt, hcs⟩ := ih false
      refine ⟨front ++ ink, last, by simp [Piece.layOut, hink], ?_, by rw [hback, hcs]⟩
      rw [List.mem_append, not_or]
      exact ⟨fun h => (hfront _ h).1 rfl, hlt⟩

theorem AtTag.head?_ne {cs : List Char} (h : AtTag cs) : cs.head? ≠ some '\n' := by
  rcases h with rfl | ⟨after, rfl⟩ <;> simp

theorem dropNewline_of_head? {cs : List Char} (h : cs.head? ≠ some '\n') (markup : Markup) :
    dropNewline markup cs = cs := by
  unfold dropNewline
  split
  · simp at h
  · rfl

theorem not_swallowing_of_void :
    ∀ name ∈ voidTags, ¬newlineSwallowingTags.contains name = true := by
  decide

theorem dropNewline_of_not_swallowing {tag : Tag}
    (h : ¬newlineSwallowingTags.contains tag.name = true) (cs : List Char) :
    dropNewline (.start tag) cs = cs := by
  unfold dropNewline
  split
  · next heq =>
    cases heq
    rw [if_neg h]
  · rfl

namespace Forest

/-- In front of a node that is not a text there is a tag. -/
theorem atTag_layOut {f : Forest} (hf : f.startsWithText = false) {ps : List Piece}
    (h : ∀ blank, AtTag (Piece.layOut blank ps)) (blank : Bool) :
    AtTag (Piece.layOut blank (f.pieces ++ ps)) := by
  cases f with
  | nil => exact h blank
  | text s rest => cases hf
  | element tag cs rest =>
    have hstart : ∀ more, AtTag (Piece.layOut blank (.ink tag.startChars :: more)) := by
      intro more
      rw [Piece.layOut, Tag.startChars_eq]
      exact .inr ⟨_, rfl⟩
    unfold pieces
    split
    · exact hstart _
    · exact hstart _

/-- The written form starts with a newline only when the forest does. -/
theorem head?_layOut_ne {f : Forest} (hf : f.Legible) (hn : f.startsWithNewline = false)
    {ps : List Piece} (h : ∀ blank, AtTag (Piece.layOut blank ps)) (blank : Bool) :
    (Piece.layOut blank (f.pieces ++ ps)).head? ≠ some '\n' := by
  cases f with
  | nil => exact (h blank).head?_ne
  | element tag cs rest => exact (atTag_layOut rfl h blank).head?_ne
  | text s rest =>
    cases hs : s.toList with
    | nil => exact absurd (by simpa using hs) hf.text.1
    | cons c cs =>
      have hc : c ≠ '\n' := by simpa [startsWithNewline, hs] using hn
      rw [pieces, hs, List.map_cons, List.cons_append, List.cons_append]
      rcases textPiece_cases c with ⟨hnewline, -⟩ | ⟨-, hpiece⟩ | ⟨ink, hpiece, hink, hback⟩
      · exact absurd hnewline hc
      · simpa [hpiece, Piece.layOut] using hc
      · cases ink with
        | nil => simpa [unescape] using hback []
        | cons d ink => simpa [hpiece, Piece.layOut] using (hink d List.mem_cons_self).2.2

/-- The newline that is written in front of the children is the one that is swallowed. -/
theorem exists_dropNewline_layOut (tag : Tag) {cs : Forest} (hcs : cs.Legible) {ps : List Piece}
    (h : ∀ blank, AtTag (Piece.layOut blank ps)) :
    ∃ blank, dropNewline (.start tag)
        (Piece.layOut false (leadPieces tag.name cs ++ (cs.pieces ++ ps))) =
      Piece.layOut blank (cs.pieces ++ ps) := by
  unfold leadPieces
  split
  · next hlead =>
    rw [Bool.and_eq_true] at hlead
    exact ⟨true, if_pos hlead.1⟩
  · next hlead =>
    refine ⟨false, ?_⟩
    rw [List.nil_append]
    by_cases hname : newlineSwallowingTags.contains tag.name
    · have hn : cs.startsWithNewline = false := by
        rwa [hname, Bool.true_and, Bool.not_eq_true] at hlead
      exact dropNewline_of_head? (head?_layOut_ne hcs hn h false) _
    · exact dropNewline_of_not_swallowing hname _

theorem readParts_startChars {tag : Tag} (h : tag.WellNamed) (rest : List Char) :
    readParts (tag.startChars ++ rest) =
      (readParts (dropNewline (.start tag) rest)).map (.tag (.start tag) :: ·) := by
  have hbody : '>' ∉ tag.inside := fun hmem => (h.inside_plain _ hmem).2 rfl
  rw [Tag.startChars_eq, List.cons_append, List.append_assoc]
  exact readParts_tag hbody (Markup.read?_inside h)

theorem readParts_endChars {tag : Tag} (h : tag.WellNamed) (rest : List Char) :
    readParts (tag.endChars ++ rest) = (readParts rest).map (.tag (.close tag.name) :: ·) := by
  have hclose : '>' ∉ '/' :: tag.name.toList := by
    simpa using fun hmem => (isName_ne h.2.1 hmem).2.1 rfl
  have heq : tag.endChars ++ rest = '<' :: (('/' :: tag.name.toList) ++ '>' :: rest) := by
    simp [Tag.endChars]
  rw [heq, readParts_tag hclose (Markup.read?_close tag.name)]
  simp [dropNewline]

/-- **The pieces of a forest** are read as its parts, in front of whatever can be read. -/
theorem readParts_layOut {f : Forest} (hf : f.Legible) {ps : List Piece} {more : List Part}
    (hat : ∀ blank, AtTag (Piece.layOut blank ps))
    (hps : ∀ blank, readParts (Piece.layOut blank ps) = some more) (blank : Bool) :
    readParts (Piece.layOut blank (f.pieces ++ ps)) = some (f.parts ++ more) := by
  induction f generalizing ps more blank with
  | nil => exact hps blank
  | text s rest ih =>
    obtain ⟨hne, hapart, hrest⟩ := hf.text
    rw [pieces, List.append_assoc]
    obtain ⟨ink, last, hink, hlt, hback⟩ := exists_layOut_text s.toList blank (rest.pieces ++ ps)
    -- a text that is written with no character at all would be lost
    have hink' : ink ≠ [] := by
      rintro rfl
      exact hne (by simpa [unescape] using hback.symm)
    rw [hink, readParts_text hink' hlt (atTag_layOut hapart hat last), ih hrest hat hps, hback]
    simp [parts]
  | element tag cs rest ihcs ihrest =>
    obtain ⟨hnamed, -, hcs, hrest⟩ := hf.element
    have hafter := ihrest hrest hat hps
    unfold pieces parts
    split
    · next hname =>
      have hplain := not_swallowing_of_void tag.name (List.contains_iff_mem.mp hname)
      rw [List.cons_append, Piece.layOut, readParts_startChars hnamed,
        dropNewline_of_not_swallowing hplain, hafter]
      rfl
    · -- the end tag and what follows it is what the children are read in front of
      have hend : ∀ blank, readParts (Piece.layOut blank (.ink tag.endChars :: (rest.pieces ++ ps))) =
          some (.tag (.close tag.name) :: (rest.parts ++ more)) := by
        intro blank
        rw [Piece.layOut, readParts_endChars hnamed, hafter]
        rfl
      have hat' : ∀ blank, AtTag (Piece.layOut blank (.ink tag.endChars :: (rest.pieces ++ ps))) :=
        fun _ => .inr ⟨_, rfl⟩
      obtain ⟨last, hlead⟩ := exists_dropNewline_layOut tag hcs hat'
      rw [List.cons_append, Piece.layOut, readParts_startChars hnamed, List.append_assoc,
        List.append_assoc, List.cons_append, hlead, ihcs hcs hat' hend last, List.cons_append,
        List.append_assoc]
      rfl

-- ════════════════════════════════════════════════════════════════════════
-- Whole forests
-- ════════════════════════════════════════════════════════════════════════

theorem readParts_written {f : Forest} (hf : f.Legible) :
    readParts f.written.toList = some f.parts := by
  have hend : ∀ blank, readParts (Piece.layOut blank []) = some [] := by
    intro blank
    rw [Piece.layOut, readParts]
  have h := readParts_layOut hf (fun _ => .inl rfl) hend false
  rw [List.append_nil, List.append_nil] at h
  rwa [written, String.toList_ofList]

/-- **A written forest reads back.** -/
theorem read?_written {f : Forest} (hf : f.Legible) : read? f.written = some f := by
  have h := assemble_parts hf [] nil []
  rw [List.append_nil] at h
  rw [read?, readParts_written hf, Option.bind_some, h]
  rfl

/-- **Writing loses nothing**: the tags and texts that are read from a written forest are its own, put
together they are the forest again, and no other forest has the same written form. -/
theorem written_lossless {f : Forest} (hf : f.Legible) :
    readParts f.written.toList = some f.parts ∧ read? f.written = some f ∧
      ∀ g : Forest, g.Legible → g.written = f.written → g = f := by
  refine ⟨readParts_written hf, read?_written hf, fun g hg hsame => ?_⟩
  have hread := read?_written hg
  rw [hsame, read?_written hf, Option.some.injEq] at hread
  exact hread.symm

/-- Code that begins with an empty line and holds a reference, in a block with a quote in its title,
and an image behind it. -/
def preformatted : Forest :=
  .element ⟨"pre", [⟨"title", "\"a\"\n>"⟩]⟩ (.ofText "\n\n<b>&lt;")
    (.single ⟨"img", [⟨"alt", ""⟩]⟩ .nil)

/-- Its written form. -/
def preformattedHtml : String :=
  "<pre title=\"&quot;a&quot;&#10;&gt;\">\n&#10;\n&lt;b&gt;&amp;lt;</pre><img alt=\"\" />"

/-- The empty lines come back, and the text is no tag. -/
theorem written_lossless_preformatted :
    preformatted.Legible ∧ preformatted.written = preformattedHtml ∧
      read? preformattedHtml = some preformatted :=
  have hf : preformatted.Legible := ⟨by decide, by decide, by decide, by decide⟩
  have hwritten : preformatted.written = preformattedHtml := by decide
  ⟨hf, hwritten, hwritten ▸ (written_lossless hf).2.1⟩

end Forest

end ArticleMarkup
