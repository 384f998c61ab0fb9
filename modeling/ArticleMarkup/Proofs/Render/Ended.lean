import ArticleMarkup.Proofs.Html.Reparse
import ArticleMarkup.Proofs.Render.Again
import ArticleMarkup.Proofs.Written.Lines

/-!
# Documents whose last line is ended

Markdown ends the last line of a text. A document that is read from such a text has a newline after
its last node, which no pass over the tree changes or takes for anything else.

## Main definitions

- `Forest.endLine` — a newline after the last node

## Main statements

- `Forest.written_endLine` — the newline is written as it is behind ink
- `Forest.Regular.endLine` — the document stays regular
- `Renderer.finish_settled` — the passes over a settled document with an ended line
-/

namespace ArticleMarkup

open Markdown (isSpaceOrTab)

/-- Behind ink a line is not blank. -/
theorem Piece.blankAfter_ink (blank : Bool) (ps : List Piece) (cs : List Char) :
    blankAfter blank (ps ++ [.ink cs]) = false := by
  induction ps generalizing blank with
  | nil => rfl
  | cons p ps ih => cases p <;> exact ih _

namespace Forest

/-- **End the last line** with a newline after the last node. -/
def endLine (f : Forest) : Forest :=
  f.glue (.ofText "\n")

theorem endLine_text {rest : Forest} (h : rest ≠ nil) (s : String) :
    (text s rest).endLine = text s rest.endLine :=
  glue_text_of_ne_nil h s _

theorem endLine_element (tag : Tag) (cs rest : Forest) :
    (element tag cs rest).endLine = element tag cs rest.endLine := rfl

/-- What goes from node to node and keeps the texts keeps the newline too. -/
theorem map_endLine {F : Forest → Forest} (hnil : F nil = nil)
    (htext : ∀ s rest, F (text s rest) = text s (F rest))
    (helement : ∀ tag cs, ∃ tag' cs', ∀ rest, F (element tag cs rest) = element tag' cs' (F rest))
    (f : Forest) : F f.endLine = (F f).endLine := by
  have hne : ∀ f, f ≠ nil → F f ≠ nil := by
    intro f hf
    cases f with
    | nil => exact absurd rfl hf
    | text s rest => simp [htext]
    | element tag cs rest =>
      obtain ⟨tag', cs', hsame⟩ := helement tag cs
      simp [hsame]
  induction f with
  | nil => exact (htext "\n" nil).trans (by rw [hnil]; rfl)
  | text s rest ih =>
    by_cases hrest : rest = nil
    · subst hrest
      exact (htext (s ++ "\n") nil).trans (by rw [htext, hnil]; rfl)
    · rw [endLine_text hrest, htext, htext, endLine_text (hne rest hrest), ih]
  | element tag cs rest _ ih =>
    obtain ⟨tag', cs', hsame⟩ := helement tag cs
    rw [endLine_element, hsame, hsame, ih, endLine_element]

theorem tags_endLine (f : Forest) : f.endLine.tags = f.tags := by
  rw [endLine, tags_glue]
  exact List.append_nil _

theorem depth_endLine (f : Forest) : f.endLine.depth = f.depth := by
  rw [endLine, depth_glue]
  exact Nat.max_zero _

theorem textsApart_endLine {f : Forest} (h : f.textsApart = true) : f.endLine.textsApart = true :=
  textsApart_glue h rfl

theorem startsWithElement_endLine {f : Forest} (h : f.startsWithElement = true) :
    f.endLine.startsWithElement = true := by
  cases f with
  | nil => cases h
  | text s rest => cases h
  | element tag cs rest => rfl

/-- The last node of the ended document is a text: the newline, or the former last text with it. -/
theorem exists_getLast?_outline_endLine (f : Forest) :
    ∃ s, (s = "" ∨ f.outline.getLast? = some (some s)) ∧
      f.endLine.outline.getLast? = some (some (s ++ "\n")) := by
  have hne : ∀ f : Forest, f.endLine.outline ≠ [] := by
    intro f hnil
    cases f with
    | nil => cases hnil
    | text s rest => cases rest <;> cases hnil
    | element tag cs rest => cases hnil
  induction f with
  | nil => exact ⟨"", .inl rfl, rfl⟩
  | text s rest ih =>
    by_cases hrest : rest = nil
    · subst hrest
      exact ⟨s, .inr rfl, rfl⟩
    · obtain ⟨t, hlast, ht⟩ := ih
      rw [endLine_text hrest, outline, outline, List.getLast?_cons_of_ne_nil (hne rest),
        List.getLast?_cons_of_ne_nil (mt outline_eq_nil_iff.mp hrest)]
      exact ⟨t, hlast, ht⟩
  | element tag cs rest _ ih =>
    obtain ⟨t, hlast, ht⟩ := ih
    rw [endLine_element, outline, outline, List.getLast?_cons_of_ne_nil (hne rest)]
    by_cases hrest : rest = nil
    · subst hrest
      exact ⟨"", .inl rfl, rfl⟩
    · rw [List.getLast?_cons_of_ne_nil (mt outline_eq_nil_iff.mp hrest)]
      exact ⟨t, hlast, ht⟩

/-- Texts of the ended document are the former ones, and one that got the newline. -/
theorem mem_texts_endLine {f : Forest} {s : String} (h : s ∈ f.endLine.texts) :
    s ∈ f.texts ∨ ∃ t, (t = "" ∨ t ∈ f.texts) ∧ s = t ++ "\n" := by
  induction f with
  | nil => exact .inr ⟨"", .inl rfl, List.mem_singleton.mp h⟩
  | text t rest ih =>
    by_cases hrest : rest = nil
    · subst hrest
      exact .inr ⟨t, .inr List.mem_cons_self, List.mem_singleton.mp h⟩
    · rw [endLine_text hrest, texts, List.mem_cons] at h
      rw [texts]
      grind
  | element tag cs rest _ ih =>
    rw [endLine_element, texts, List.mem_append] at h
    rw [texts]
    grind

theorem pieces_endLine (f : Forest) : f.endLine.pieces = f.pieces ++ [.newline] := by
  induction f with
  | nil => rfl
  | text s rest ih =>
    by_cases hrest : rest = nil
    · subst hrest
      simp [endLine, ofText, glue, consText, pieces, textPiece]
    · rw [endLine_text hrest, pieces, pieces, ih, List.append_assoc]
  | element tag cs rest _ ih =>
    rw [endLine_element, pieces, pieces, ih]
    split <;> simp

/-- **The newline is written as it is** behind a character that is ink. -/
theorem written_endLine {f : Forest} (hf : ∀ tag ∈ f.tags, tag.OneLine) {c : Char}
    (hc : f.written.toList.getLast? = some c) (hink : isSpaceOrTab c = false) (hn : c ≠ '\n') :
    f.endLine.written.toList = f.written.toList ++ ['\n'] := by
  have hblank : Piece.blankAfter false f.pieces = false := by
    have hafter := Piece.inkAfter_layOut (inked_pieces hf) false
    obtain ⟨cs, hcs⟩ := List.getLast?_eq_some_iff.mp hc
    rw [written, String.toList_ofList] at hcs
    rw [hcs, inkAfter_append, inkAfter, if_neg hn, hink, Bool.not_false, Bool.or_true] at hafter
    simpa [inkAfter] using hafter.symm
  rw [written, written, pieces_endLine, String.toList_ofList, String.toList_ofList,
    Piece.layOut_append, hblank]
  rfl

/-- A newline that is the last text of a document stands behind a tag. -/
theorem exists_pieces_of_newline {f : Forest} (hapart : f.textsApart = true)
    (h : f.outline.getLast? = some (some "\n")) :
    f = ofText "\n" ∨ ∃ ps cs, f.pieces = ps ++ [.ink cs, .newline] := by
  have hnewline : (ofText "\n").pieces = [.newline] := rfl
  induction f with
  | nil => cases h
  | text s rest ih =>
    simp only [textsApart, Bool.and_eq_true, Bool.not_eq_true'] at hapart
    by_cases hrest : rest = nil
    · subst hrest
      obtain rfl : s = "\n" := by simpa [outline] using h
      exact .inl rfl
    · rw [outline, List.getLast?_cons_of_ne_nil (mt outline_eq_nil_iff.mp hrest)] at h
      rcases ih hapart.2 h with rfl | ⟨ps, cs, hps⟩
      · cases hapart.1
      · exact .inr ⟨s.toList.map textPiece ++ ps, cs, by rw [pieces, hps, List.append_assoc]⟩
  | element tag cs rest _ ih =>
    simp only [textsApart, Bool.and_eq_true] at hapart
    by_cases hrest : rest = nil
    · subst hrest
      simp [outline] at h
    · rw [outline, List.getLast?_cons_of_ne_nil (mt outline_eq_nil_iff.mp hrest)] at h
      right
      rcases ih hapart.2 h with rfl | ⟨ps, ink, hps⟩
      · rw [pieces, hnewline]
        split
        · exact ⟨[], _, rfl⟩
        · exact ⟨.ink tag.startChars :: (leadPieces tag.name cs ++ cs.pieces), _, by simp; rfl⟩
      · rw [pieces, hps]
        split
        · exact ⟨.ink tag.startChars :: ps, ink, rfl⟩
        · exact ⟨.ink tag.startChars ::
            (leadPieces tag.name cs ++ cs.pieces ++ .ink tag.endChars :: ps), ink, by simp⟩

/-- Such a newline is written as it is, and so it ends the document. -/
theorem getLast?_written_of_newline {f : Forest} (hapart : f.textsApart = true)
    (h : f.outline.getLast? = some (some "\n")) : f.written.toList.getLast? = some '\n' := by
  rcases exists_pieces_of_newline hapart h with rfl | ⟨ps, cs, hps⟩
  · rfl
  · have hsplit : ps ++ [.ink cs, .newline] = ps ++ [.ink cs] ++ [.newline] := by simp
    rw [written, String.toList_ofList, hps, hsplit, Piece.layOut_append, Piece.blankAfter_ink]
    simp [Piece.layOut]

/-- **The ended document has trimmed edges** if it had them before and its last line was not
ended. -/
theorem trimEdges_endLine {f : Forest} (hapart : f.textsApart = true) (htrim : f.trimEdges = f)
    (hstart : f.startsWithElement = true) (hlast : f.written.toList.getLast? ≠ some '\n') :
    f.endLine.trimEdges = f.endLine := by
  have hedges := (trimEdges_eq_self_iff f).mp htrim
  refine (trimEdges_eq_self_iff _).mpr ⟨fun s hs => ?_, fun s hs hblank => ?_⟩
  · cases f with
    | nil => cases hstart
    | text t rest => cases hstart
    | element tag cs rest => cases hs
  · obtain ⟨t, ht, hended⟩ := exists_getLast?_outline_endLine f
    obtain rfl : t ++ "\n" = s := by simpa [hended] using hs
    rcases ht with rfl | ht
    · rfl
    · have htblank : Text.isBlank t = true := by
        rw [Text.isBlank, String.toList_append, List.all_append, Bool.and_eq_true] at hblank
        exact hblank.1
      rw [hedges.back t ht htblank] at ht
      exact absurd (getLast?_written_of_newline hapart ht) hlast

theorem Nested.endLine {around : List String} {f : Forest} (h : f.Nested around) :
    f.endLine.Nested around := by
  induction f with
  | nil => trivial
  | text s rest ih =>
    by_cases hrest : rest = nil
    · subst hrest
      trivial
    · rw [endLine_text hrest]
      exact ih h
  | element tag cs rest _ ih => exact ⟨h.1, ih h.2⟩

/-- **The ended document is regular.** -/
theorem Regular.endLine {around : List String} {f : Forest} (h : f.Regular around) :
    f.endLine.Regular around where
  tags := by rw [tags_endLine]; exact h.tags
  nested := h.nested.endLine
  full := fun hempty => by
    rcases mem_texts_endLine hempty with hmem | ⟨t, -, ht⟩
    · exact h.full hmem
    · simpa using congrArg String.toList ht
  apart := textsApart_endLine h.apart
  noNul := fun s hs => by
    rcases mem_texts_endLine hs with hmem | ⟨t, ht, rfl⟩
    · exact h.noNul s hmem
    · rcases ht with rfl | ht
      · decide
      · rw [String.toList_append, List.mem_append, not_or]
        exact ⟨h.noNul t ht, by decide⟩

theorem OnlyLineFeeds.endLine {f : Forest} (h : f.OnlyLineFeeds) : f.endLine.OnlyLineFeeds := by
  refine ⟨fun s hs => ?_, by rw [tags_endLine]; exact h.2⟩
  rcases mem_texts_endLine hs with hmem | ⟨t, ht, rfl⟩
  · exact h.1 s hmem
  · rcases ht with rfl | ht
    · decide
    · simp [h.1 t ht]

end Forest

-- ════════════════════════════════════════════════════════════════════════
-- Passes over the tree
-- ════════════════════════════════════════════════════════════════════════

theorem Highlight.Highlighter.highlight_endLine (h : Highlight.Highlighter) (f : Forest) :
    h.highlight f.endLine = (h.highlight f).endLine := by
  refine Forest.map_endLine rfl (fun _ _ => rfl) (fun tag cs => ?_) f
  by_cases hpre : tag.name = "pre"
  · by_cases hr : ∃ code content spans, h.Reads cs code content spans
    · obtain ⟨code, content, spans, hr⟩ := hr
      exact ⟨_, _, h.highlight_of_reads hpre hr⟩
    · exact ⟨_, _, h.highlight_of_not_reads hpre hr⟩
  · exact ⟨_, _, h.highlight_element_of_ne hpre cs⟩

theorem linkHeadings_endLine (cls : String) (f : Forest) :
    linkHeadings cls f.endLine = (linkHeadings cls f).endLine := by
  refine Forest.map_endLine rfl (fun _ _ => rfl) (fun tag cs => ?_) f
  exact ⟨_, _, fun rest => by rw [linkHeadings, link]; rfl⟩

theorem assignHeadingIds_endLine (f : Forest) :
    assignHeadingIds f.endLine = (assignHeadingIds f).endLine := by
  have hreserve : ∀ (a : Anchors) (f : Forest), reserveIds a f.endLine = reserveIds a f := by
    intro a f
    induction f generalizing a with
    | nil => rfl
    | text s rest ih =>
      by_cases hrest : rest = .nil
      · subst hrest
        rfl
      · rw [Forest.endLine_text hrest]
        exact ih a
    | element tag cs rest _ ih =>
      rw [Forest.endLine_element, reserveIds, reserveIds, ih]
  have hassign : ∀ (a : Anchors) (f : Forest),
      (assignIds a f.endLine).1 = (assignIds a f).1.endLine := by
    intro a f
    induction f generalizing a with
    | nil => rfl
    | text s rest ih =>
      by_cases hrest : rest = .nil
      · subst hrest
        rfl
      · have hne : (assignIds a rest).1 ≠ .nil := by
          rwa [Ne, ← Forest.outline_eq_nil_iff, Renderer.outline_assignIds,
            Forest.outline_eq_nil_iff]
        rw [Forest.endLine_text hrest]
        exact (congrArg (Forest.text s) (ih a)).trans (Forest.endLine_text hne s).symm
    | element tag cs rest _ ih =>
      simp only [Forest.endLine_element, assignIds_element, ih]
  rw [assignHeadingIds, assignHeadingIds, hreserve, hassign]

theorem collectHeadings_endLine (levels : Levels) (f : Forest) :
    collectHeadings levels f.endLine = collectHeadings levels f := by
  rw [collectHeadings_eq, collectHeadings_eq, Forest.endLine, Forest.headings_glue]
  exact congrArg _ (List.append_nil _)

namespace Renderer

variable {r : Renderer}

/-- The records of a document are its listed headings unless highlighting hides a heading. -/
theorem contents_finish {document : Forest}
    (h : r.highlighter.hides (r.prepared document) = false) :
    (r.finish (sanitize r.schema document)).2.1 =
      collectHeadings r.config.tocLevels (r.passes document) := by
  have hnone : (r.highlighter.replaced (r.prepared document)).flatMap
      (collectHeadings r.config.tocLevels) = [] := by
    rw [List.flatMap_eq_nil_iff]
    intro content hcontent
    have hno : content.hasHeading = false := by
      simpa using List.any_eq_false.mp h content hcontent
    refine List.eq_nil_iff_forall_not_mem.mpr fun record hrecord => ?_
    obtain ⟨tag, htag, hheading, -⟩ := exists_heading_of_mem_collectHeadings hrecord
    have hplain := (Forest.hasHeading_eq_false_iff content).mp hno tag htag
    exact absurd (hheading.symm.trans hplain) (by decide)
  have hperm := (r.contents_perm (sanitize r.schema document)).length_eq
  rw [List.length_append, show (r.headings (sanitize r.schema document)).1 = r.prepared document
    from rfl, hnone, List.length_nil, Nat.add_zero] at hperm
  exact ((r.contents_sublist (sanitize r.schema document)).eq_of_length hperm.symm).symm

/-- **The passes over a settled document**, whose headings have their ids and links, change
nothing. -/
theorem finish_settled (hs : r.schema = Schema.base) {g : Forest} (hapart : g.textsApart = true)
    (hsettled : ∀ tag ∈ g.tags, Schema.base.Settled tag) (htrim : g.trimEdges = g)
    (hids : assignHeadingIds (r.highlighter.highlight g) = r.highlighter.highlight g)
    (hlinks : r.config.linksHeadings = true →
      linkHeadings r.config.anchorClass (r.highlighter.highlight g) = r.highlighter.highlight g) :
    r.passes (r.highlighter.highlight g) = r.highlighter.highlight g ∧
      (r.finish (sanitize r.schema (r.highlighter.highlight g))).2.1 =
        collectHeadings r.config.tocLevels (r.highlighter.highlight g) := by
  have halike : r.highlighter.Alike (r.prepared (r.highlighter.highlight g))
      (r.highlighter.highlight g) := by
    have halike := alike_prepared_highlight hs hapart hsettled htrim hids
    split at halike
    · next hlinked => rwa [hlinks hlinked] at halike
    · exact halike
  have hpasses : r.passes (r.highlighter.highlight g) = r.highlighter.highlight g := by
    rw [passes_eq, halike.highlight_eq, Highlight.Highlighter.highlight_highlight]
  have hhides : r.highlighter.hides (r.prepared (r.highlighter.highlight g)) = false := by
    rw [halike.hides_eq, Highlight.Highlighter.hides_highlight]
  refine ⟨hpasses, ?_⟩
  rw [contents_finish hhides, hpasses]

end Renderer

end ArticleMarkup
