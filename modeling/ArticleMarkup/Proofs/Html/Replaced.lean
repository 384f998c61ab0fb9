import ArticleMarkup.Proofs.Html.Reparse
import ArticleMarkup.Proofs.Written.Lines

/-!
# Characters that a reader replaces

A carriage return is read as a line feed, and a NUL as a replacement character or as nothing. The
writer writes both as they are, so that the written form of a document holds them exactly where the
document does.

## Main definitions

- `IsReplaced` — a carriage return or a NUL

## Main statements

- `IsReplaced.mem_written_iff` — where the written form holds such a character
- `Forest.Regular.onlyLineFeeds`, `Forest.Regular.nul_not_mem_written` — regular documents
-/

namespace ArticleMarkup

open Html.Scanner (IsSmallName nul)

/-- **A character that a reader replaces** by another. -/
def IsReplaced (c : Char) : Prop :=
  c = '\r' ∨ c = nul

/-- The piece has the character on its line. -/
def Piece.Holds (c : Char) : Piece → Prop
  | .ink cs => c ∈ cs
  | .space d => c = d
  | .newline => False

namespace IsReplaced

variable {c : Char} (hc : IsReplaced c)
include hc

theorem not_mem {cs : List Char} (hr : '\r' ∉ cs) (hn : nul ∉ cs) : c ∉ cs := by
  rcases hc with rfl | rfl <;> assumption

theorem mem_layOut_iff (blank : Bool) (ps : List Piece) :
    c ∈ Piece.layOut blank ps ↔ ∃ p ∈ ps, p.Holds c := by
  have hmark : c ∉ "&#10;".toList := hc.not_mem (by decide) (by decide)
  have hline : c ≠ '\n' := by
    rcases hc with rfl | rfl <;> decide
  have hnewline : ¬Piece.newline.Holds c := id
  induction ps generalizing blank with
  | nil => simp [Piece.layOut]
  | cons p ps ih =>
    cases p with
    | ink cs => simp [Piece.layOut, Piece.Holds, ih]
    | space d => simp [Piece.layOut, Piece.Holds, ih]
    | newline =>
      rw [Piece.layOut]
      split
      · simp [-String.reduceToList, hmark, hnewline, ih]
      · simp [hline, hnewline, ih]

theorem holds_textPiece_iff (d : Char) : (textPiece d).Holds c ↔ c = d := by
  unfold textPiece
  split_ifs with hline hspace hamp hlt hgt hnbsp
  · subst hline
    rcases hc with rfl | rfl <;> simp [Piece.Holds, nul]
  · exact Iff.rfl
  · subst hamp
    rcases hc with rfl | rfl <;> simp [Piece.Holds, nul]
  · subst hlt
    rcases hc with rfl | rfl <;> simp [Piece.Holds, nul]
  · subst hgt
    rcases hc with rfl | rfl <;> simp [Piece.Holds, nul]
  · subst hnbsp
    rcases hc with rfl | rfl <;> simp [Piece.Holds, nul]
  · exact List.mem_singleton

theorem mem_valueChars_iff (d : Char) : c ∈ valueChars d ↔ c = d := by
  unfold valueChars
  split_ifs with hamp hquot hlt hgt hline hnbsp
  · subst hamp
    rcases hc with rfl | rfl <;> simp [nul]
  · subst hquot
    rcases hc with rfl | rfl <;> simp [nul]
  · subst hlt
    rcases hc with rfl | rfl <;> simp [nul]
  · subst hgt
    rcases hc with rfl | rfl <;> simp [nul]
  · subst hline
    rcases hc with rfl | rfl <;> simp [nul]
  · subst hnbsp
    rcases hc with rfl | rfl <;> simp [nul]
  · exact List.mem_singleton

theorem not_mem_of_isSmallName {name : String} (h : IsSmallName name) : c ∉ name.toList := by
  intro hmem
  have hsmall := List.all_eq_true.mp h.2 c hmem
  rcases hc with rfl | rfl <;> exact absurd hsmall (by decide)

theorem mem_startChars_iff {tag : Tag} (hname : IsSmallName tag.name)
    (hnames : ∀ a ∈ tag.attrs, IsSmallName a.name) :
    c ∈ tag.startChars ↔ ∃ a ∈ tag.attrs, c ∈ a.value.toList := by
  have hmarks : c ∉ ['<', ' ', '/', '>', '=', '"'] := hc.not_mem (by decide) (by decide)
  simp only [List.mem_cons, List.not_mem_nil, or_false, not_or] at hmarks
  have hattr : ∀ a ∈ tag.attrs, (c ∈ a.chars ↔ c ∈ a.value.toList) := by
    intro a ha
    simp [Attribute.chars, hmarks, hc.not_mem_of_isSmallName (hnames a ha), hc.mem_valueChars_iff]
  have hclose : c ∉ if voidTags.contains tag.name then [' ', '/'] else [] := by
    split <;> simp [hmarks]
  rw [Tag.startChars_eq, Tag.inside]
  simp only [List.mem_cons, List.mem_append, List.mem_flatMap, hmarks,
    hc.not_mem_of_isSmallName hname, hclose, List.not_mem_nil, false_or, or_false]
  exact exists_congr fun a => and_congr_right fun ha => hattr a ha

theorem not_mem_endChars {tag : Tag} (hname : IsSmallName tag.name) : c ∉ tag.endChars := by
  have hmarks : c ∉ ['<', '/', '>'] := hc.not_mem (by decide) (by decide)
  simp only [List.mem_cons, List.not_mem_nil, or_false, not_or] at hmarks
  simp [Tag.endChars, hmarks, hc.not_mem_of_isSmallName hname]

omit hc in
theorem exists_holds_append (ps qs : List Piece) :
    (∃ p ∈ ps ++ qs, p.Holds c) ↔ (∃ p ∈ ps, p.Holds c) ∨ ∃ p ∈ qs, p.Holds c := by
  simp only [List.mem_append, or_and_right, exists_or]

omit hc in
theorem not_holds_leadPieces (name : String) (cs : Forest) :
    ¬∃ p ∈ Forest.leadPieces name cs, p.Holds c := by
  rintro ⟨p, hp, hholds⟩
  unfold Forest.leadPieces at hp
  split at hp
  · rw [List.mem_singleton.mp hp] at hholds
    exact hholds
  · cases hp

/-- **Where the written form holds such a character**: in a text or in a value of the document. -/
theorem mem_written_iff {around : List String} {f : Forest} (hf : f.Regular around) :
    c ∈ f.written.toList ↔
      (∃ s ∈ f.texts, c ∈ s.toList) ∨ ∃ tag ∈ f.tags, ∃ a ∈ tag.attrs, c ∈ a.value.toList := by
  rw [Forest.written, String.toList_ofList, hc.mem_layOut_iff]
  induction f generalizing around with
  | nil => simp [Forest.pieces, Forest.texts, Forest.tags]
  | text s rest ih =>
    obtain ⟨-, -, -, hrest⟩ := hf.text
    have htext : (∃ p ∈ s.toList.map textPiece, p.Holds c) ↔ c ∈ s.toList := by
      simp [hc.holds_textPiece_iff]
    rw [Forest.pieces, exists_holds_append, htext, ih hrest, Forest.texts, Forest.tags,
      List.exists_mem_cons_iff, or_assoc]
  | element tag cs rest ihcs ihrest =>
    obtain ⟨htag, hkind, hrest⟩ := hf.element
    rcases hkind with ⟨hfits, hcs⟩ | ⟨hfits, rfl⟩
    · obtain ⟨hsmall, hvoid, -⟩ := Html.openNames_spec _ hfits.mem_openNames
      have hend : ¬(Piece.ink tag.endChars).Holds c := hc.not_mem_endChars hsmall
      have hstart : (Piece.ink tag.startChars).Holds c ↔
          ∃ a ∈ tag.attrs, c ∈ a.value.toList := hc.mem_startChars_iff hsmall htag.names
      rw [Forest.pieces, hvoid, if_neg Bool.false_ne_true, List.exists_mem_cons_iff,
        exists_holds_append, exists_holds_append, List.exists_mem_cons_iff, hstart, ihcs hcs,
        ihrest hrest, Forest.texts, Forest.tags, List.exists_mem_cons_iff]
      simp only [not_holds_leadPieces, hend, false_or, List.mem_append, or_and_right, exists_or]
      grind
    · obtain ⟨hsmall, hvoid, -⟩ := Html.emptyNames_spec _ hfits.mem_emptyNames
      have hstart : (Piece.ink tag.startChars).Holds c ↔
          ∃ a ∈ tag.attrs, c ∈ a.value.toList := hc.mem_startChars_iff hsmall htag.names
      rw [Forest.pieces, hvoid, if_pos rfl, List.exists_mem_cons_iff, hstart, ihrest hrest,
        Forest.texts, Forest.tags, List.exists_mem_cons_iff]
      simp only [Forest.texts, Forest.tags, List.nil_append]
      grind

end IsReplaced

/-- A regular document whose written form holds no carriage return holds none. -/
theorem Forest.Regular.onlyLineFeeds {around : List String} {f : Forest} (hf : f.Regular around)
    (h : '\r' ∉ f.written.toList) : f.OnlyLineFeeds := by
  have hiff := IsReplaced.mem_written_iff (.inl rfl) hf
  rw [hiff, not_or] at h
  exact ⟨fun s hs hmem => h.1 ⟨s, hs, hmem⟩, fun tag htag a ha hmem => h.2 ⟨tag, htag, a, ha, hmem⟩⟩

/-- The written form of a regular document holds no NUL. -/
theorem Forest.Regular.nul_not_mem_written {around : List String} {f : Forest}
    (hf : f.Regular around) : nul ∉ f.written.toList := by
  rw [IsReplaced.mem_written_iff (.inr rfl) hf]
  rintro (⟨s, hs, hmem⟩ | ⟨tag, htag, a, ha, hmem⟩)
  · exact hf.noNul s hs hmem
  · exact (hf.tags tag htag).noNul a ha hmem

/-- The tags of a regular document are written on one line each. -/
theorem Forest.Regular.oneLine {around : List String} {f : Forest} (hf : f.Regular around) :
    ∀ tag ∈ f.tags, tag.OneLine := by
  have hsmall : ∀ name, IsSmallName name → '\n' ∉ name.toList := by
    intro name hname hmem
    exact absurd (List.all_eq_true.mp hname.2 _ hmem) (by decide)
  intro tag htag
  refine ⟨hsmall _ ?_, fun a ha => hsmall _ ((hf.tags tag htag).names a ha)⟩
  rcases List.mem_append.mp (hf.nested.mem_names tag htag) with hname | hname
  · exact (Html.openNames_spec _ hname).1
  · exact (Html.emptyNames_spec _ hname).1

/-- A written form that starts with a tag is that of a document that starts with an element. -/
theorem Forest.startsWithElement_of_written {f : Forest} (hfull : "" ∉ f.texts)
    (h : f.written.toList.head? = some '<') : f.startsWithElement = true := by
  cases f with
  | nil => cases h
  | element tag cs rest => rfl
  | text s rest =>
    simp only [texts, List.mem_cons, not_or] at hfull
    obtain ⟨c, cs, hcs⟩ := List.exists_cons_of_ne_nil
      (show s.toList ≠ [] by simpa using Ne.symm hfull.1)
    have hnot : ∀ ps, (Piece.layOut false (textPiece c :: ps)).head? ≠ some '<' := by
      intro ps
      unfold textPiece
      split_ifs with hline hspace hamp hlt hgt hnbsp
      · simp [Piece.layOut]
      · have hne : c ≠ '<' := by
          rintro rfl
          exact absurd hspace (by decide)
        simpa [Piece.layOut] using hne
      all_goals simp [Piece.layOut]
      exact hlt
    rw [written, String.toList_ofList, pieces, hcs] at h
    exact absurd h (hnot _)

end ArticleMarkup
