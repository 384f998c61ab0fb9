import ArticleMarkup.Proofs.Markdown.RawLines
import ArticleMarkup.Proofs.Written.Markup
import Mathlib.Data.List.Induction

/-!
# Lines of the written form

The written form of a document that starts with an element has no blank line: each of its line feeds
ends a line that holds more than spaces and tabs. When it starts with the tag of a block, all of it
is read back as one block of raw HTML.

## Main definitions

- `inkAfter` — the last line of some characters holds more than spaces and tabs
- `linesInked` — so does every line that a line feed ends
- `lastLine` — the characters behind the last line feed
- `Piece.blankAfter` — what laying out pieces knows of the line that they end in
- `StartsBlock` — the text starts with the start tag of a block

## Main statements

- `Piece.inkAfter_layOut` — it knows whether that line is blank
- `Forest.linesInked_written` — the lines of a written document
- `Forest.newlines_written` — **no line of a written document is blank**, and only for that newlines
  are written as references
- `Forest.rawLines_written` — markdown reads them as raw HTML
-/

namespace ArticleMarkup

open Markdown (isSpaceOrTab readChar linesFrom linesOf rawLines)

-- ════════════════════════════════════════════════════════════════════════
-- Ink
-- ════════════════════════════════════════════════════════════════════════

/-- The line that the characters end in holds more than spaces and tabs. `ink` says so of the
characters in front of them. -/
def inkAfter (ink : Bool) : List Char → Bool
  | [] => ink
  | c :: cs => if c = '\n' then inkAfter false cs else inkAfter (ink || !isSpaceOrTab c) cs

/-- **Every line that a line feed ends** holds more than spaces and tabs. -/
def linesInked (ink : Bool) : List Char → Bool
  | [] => true
  | c :: cs =>
    if c = '\n' then ink && linesInked false cs else linesInked (ink || !isSpaceOrTab c) cs

theorem linesInked_append (ink : Bool) (a b : List Char) :
    linesInked ink (a ++ b) = (linesInked ink a && linesInked (inkAfter ink a) b) := by
  induction a generalizing ink with
  | nil => rfl
  | cons c a ih =>
    simp only [List.cons_append, linesInked, inkAfter, ih]
    split
    · rw [Bool.and_assoc]
    · rfl

/-- Characters without a line feed leave their line inked if one of them is ink. -/
theorem inkAfter_of_not_mem {cs : List Char} (h : '\n' ∉ cs) (ink : Bool) :
    inkAfter ink cs = (ink || cs.any (!isSpaceOrTab ·)) := by
  induction cs generalizing ink with
  | nil => simp [inkAfter]
  | cons c cs ih =>
    simp only [List.mem_cons, not_or] at h
    simp only [inkAfter, if_neg (Ne.symm h.1), ih h.2, List.any_cons, Bool.or_assoc]

theorem linesInked_of_not_mem {cs : List Char} (h : '\n' ∉ cs) (ink : Bool) :
    linesInked ink cs = true := by
  induction cs generalizing ink with
  | nil => rfl
  | cons c cs ih =>
    simp only [List.mem_cons, not_or] at h
    simp only [linesInked, if_neg (Ne.symm h.1), ih h.2]

/-- **The last line** of some characters: those behind the last line feed, or all. -/
def lastLine (cs : List Char) : List Char :=
  (cs.reverse.takeWhile (· ≠ '\n')).reverse

theorem lastLine_concat (cs : List Char) (c : Char) :
    lastLine (cs ++ [c]) = if c = '\n' then [] else lastLine cs ++ [c] := by
  unfold lastLine
  rw [List.reverse_concat, List.takeWhile_cons]
  by_cases hc : c = '\n' <;> simp [hc]

theorem inkAfter_append (ink : Bool) (a b : List Char) :
    inkAfter ink (a ++ b) = inkAfter (inkAfter ink a) b := by
  induction a generalizing ink with
  | nil => rfl
  | cons c a ih =>
    simp only [List.cons_append, inkAfter, ih]
    split <;> rfl

/-- Behind the start of a text, or behind a line feed, ink is a character of the last line. -/
theorem inkAfter_eq_any_lastLine (cs : List Char) :
    inkAfter false cs = (lastLine cs).any (!isSpaceOrTab ·) := by
  induction cs using List.reverseRecOn with
  | nil => rfl
  | append_singleton cs c ih =>
    rw [inkAfter_append, ih, lastLine_concat, inkAfter, inkAfter, inkAfter]
    split
    · rfl
    · simp

theorem exists_mem_lastLine_iff {cs : List Char} :
    inkAfter false cs = true ↔ ∃ c ∈ lastLine cs, c ≠ ' ' ∧ c ≠ '\t' := by
  simp [inkAfter_eq_any_lastLine, isSpaceOrTab]

-- ════════════════════════════════════════════════════════════════════════
-- Pieces
-- ════════════════════════════════════════════════════════════════════════

theorem ne_newline_of_isSpaceOrTab {c : Char} (h : isSpaceOrTab c = true) : c ≠ '\n' := by
  rintro rfl
  exact absurd h (by decide)

/-- The piece is what it is taken for: ink leaves its line inked and does not end it, and a space
is one. -/
def Piece.Inked : Piece → Prop
  | .ink cs => cs.any (!isSpaceOrTab ·) = true ∧ '\n' ∉ cs
  | .space c => isSpaceOrTab c = true
  | .newline => True

/-- **Laid out pieces have no blank line**, behind a line that is inked unless it is blank. -/
theorem linesInked_layOut {ps : List Piece} (h : ∀ p ∈ ps, p.Inked) {blank ink : Bool}
    (hink : blank = false → ink = true) : linesInked ink (Piece.layOut blank ps) = true := by
  induction ps generalizing blank ink with
  | nil => rfl
  | cons p ps ih =>
    simp only [List.forall_mem_cons] at h
    obtain ⟨hp, hps⟩ := h
    cases p with
    | ink cs =>
      obtain ⟨hany, hn⟩ := hp
      rw [Piece.layOut, linesInked_append, linesInked_of_not_mem hn, inkAfter_of_not_mem hn, hany]
      simpa using ih hps fun _ => rfl
    | space c =>
      have hc : isSpaceOrTab c = true := hp
      rw [Piece.layOut, linesInked, if_neg (ne_newline_of_isSpaceOrTab hc), hc]
      simpa using ih hps hink
    | newline =>
      rw [Piece.layOut]
      split
      · have hmark : linesInked ink "&#10;".toList = true ∧ inkAfter ink "&#10;".toList = true := by
          cases ink <;> decide
        rw [linesInked_append, hmark.1, hmark.2]
        simpa using ih hps fun _ => rfl
      · next hblank =>
        rw [linesInked, if_pos rfl, hink (by simpa using hblank)]
        simpa using ih hps (by simp)

/-- **The line that some pieces end in** was begun by a newline and holds nothing but spaces and tabs.
`blank` says so of the line in front of them. -/
def Piece.blankAfter (blank : Bool) : List Piece → Bool
  | [] => blank
  | .ink _ :: rest => blankAfter false rest
  | .space _ :: rest => blankAfter blank rest
  | .newline :: rest => blankAfter (!blank) rest

theorem Piece.layOut_append (blank : Bool) (ps qs : List Piece) :
    layOut blank (ps ++ qs) = layOut blank ps ++ layOut (blankAfter blank ps) qs := by
  induction ps generalizing blank with
  | nil => rfl
  | cons p ps ih =>
    cases p with
    | ink cs => simp only [List.cons_append, layOut, blankAfter, ih, List.append_assoc]
    | space c => simp only [List.cons_append, layOut, blankAfter, ih]
    | newline =>
      simp only [List.cons_append, layOut, blankAfter, ih]
      cases blank <;> simp

/-- **Laying out knows the blank lines**: behind any pieces it takes the line for blank exactly if that
holds no ink. -/
theorem Piece.inkAfter_layOut {ps : List Piece} (h : ∀ p ∈ ps, p.Inked) (blank : Bool) :
    inkAfter (!blank) (layOut blank ps) = !blankAfter blank ps := by
  induction ps generalizing blank with
  | nil => rfl
  | cons p ps ih =>
    simp only [List.forall_mem_cons] at h
    obtain ⟨hp, hps⟩ := h
    cases p with
    | ink cs =>
      obtain ⟨hany, hn⟩ := hp
      rw [layOut, inkAfter_append, inkAfter_of_not_mem hn, hany, Bool.or_true]
      exact ih hps false
    | space c =>
      have hc : isSpaceOrTab c = true := hp
      rw [layOut, inkAfter, if_neg (ne_newline_of_isSpaceOrTab hc), hc, Bool.not_true,
        Bool.or_false]
      exact ih hps blank
    | newline =>
      cases blank with
      | true => exact ih hps false
      | false => exact ih hps true

theorem inked_textPiece (c : Char) : (textPiece c).Inked := by
  unfold textPiece
  split
  · trivial
  · next hn =>
    split
    · next hc => simpa [Piece.Inked, isSpaceOrTab] using hc
    · next hc =>
      repeat' split
      all_goals first
        | exact ⟨rfl, by decide⟩
        | refine ⟨?_, by simpa using Ne.symm hn⟩
          simpa [isSpaceOrTab] using hc

theorem forall_mem_map_textPiece (cs : List Char) : ∀ p ∈ cs.map textPiece, p.Inked := by
  intro p hp
  obtain ⟨c, -, rfl⟩ := List.mem_map.mp hp
  exact inked_textPiece c

/-- No name of the tag holds a line feed. -/
def Tag.OneLine (tag : Tag) : Prop :=
  '\n' ∉ tag.name.toList ∧ ∀ a ∈ tag.attrs, '\n' ∉ a.name.toList

theorem Tag.WellNamed.oneLine {tag : Tag} (h : tag.WellNamed) : tag.OneLine := by
  have hname : ∀ name, isName name = true → '\n' ∉ name.toList := by
    intro name hname hmem
    exact absurd (List.all_eq_true.mp hname _ hmem) (by decide)
  exact ⟨hname _ h.2.1, fun a ha => hname _ (h.2.2 a ha)⟩

theorem newline_not_mem_valueChars (c : Char) : '\n' ∉ valueChars c := by
  have hall : (valueChars c).all (· != '\n') = true := by
    unfold valueChars
    repeat' split
    all_goals first
      | rfl
      | simp_all
  intro hmem
  simpa using List.all_eq_true.mp hall _ hmem

/-- A tag is written on one line. -/
theorem Tag.OneLine.inked {tag : Tag} (h : tag.OneLine) :
    (Piece.ink tag.startChars).Inked ∧ (Piece.ink tag.endChars).Inked := by
  have hattr : ∀ a ∈ tag.attrs, '\n' ∉ a.chars := by
    intro a ha hmem
    have hvalue : '\n' ∉ a.value.toList.flatMap valueChars := by
      simp only [List.mem_flatMap, not_exists, not_and]
      exact fun c _ => newline_not_mem_valueChars c
    simp [Attribute.chars, h.2 a ha, hvalue] at hmem
  have hinside : '\n' ∉ tag.inside := by
    simp only [Tag.inside, List.mem_append, List.mem_flatMap, not_or, not_exists, not_and]
    refine ⟨h.1, hattr, ?_⟩
    split <;> decide
  rw [Tag.startChars_eq]
  refine ⟨⟨rfl, ?_⟩, rfl, ?_⟩
  · simpa using hinside
  · simpa [Tag.endChars] using h.1

/-- A start tag is ink, whatever stands in front of it. -/
theorem Tag.inkAfter_startChars (tag : Tag) (ink : Bool) (cs : List Char) :
    inkAfter ink (tag.startChars ++ cs) = inkAfter true (tag.startChars ++ cs) := by
  rw [Tag.startChars_eq]
  cases ink <;> rfl

namespace Forest

theorem inked_pieces {f : Forest} (hf : ∀ tag ∈ f.tags, tag.OneLine) : ∀ p ∈ f.pieces, p.Inked := by
  induction f with
  | nil => simp [pieces]
  | text s rest ih =>
    intro p hp
    rcases List.mem_append.mp hp with hp | hp
    · exact forall_mem_map_textPiece _ p hp
    · exact ih hf p hp
  | element tag cs rest ihcs ihrest =>
    simp only [tags, List.mem_cons, List.mem_append] at hf
    obtain ⟨hstart, hend⟩ := (hf tag (.inl rfl)).inked
    have hcs := ihcs fun t ht => hf t (.inr (.inl ht))
    have hrest := ihrest fun t ht => hf t (.inr (.inr ht))
    have hlead : ∀ p ∈ leadPieces tag.name cs, p.Inked := by
      unfold leadPieces
      split
      · simp [Piece.Inked]
      · simp
    unfold pieces
    split
    · exact List.forall_mem_cons.mpr ⟨hstart, hrest⟩
    · simp only [List.forall_mem_cons, List.forall_mem_append]
      exact ⟨hstart, ⟨hlead, hcs⟩, hend, hrest⟩

/-- **The written form has no blank line** behind a line that holds more than spaces and tabs. -/
theorem linesInked_written {f : Forest} (hf : ∀ tag ∈ f.tags, tag.OneLine) :
    linesInked true f.written.toList = true := by
  rw [written, String.toList_ofList]
  exact linesInked_layOut (inked_pieces hf) fun _ => rfl

section FirstElement

variable {tag : Tag} {cs rest : Forest}

theorem pieces_element (tag : Tag) (cs rest : Forest) :
    ∃ ps, (element tag cs rest).pieces = .ink tag.startChars :: ps := by
  unfold pieces
  split <;> exact ⟨_, rfl⟩

/-- Each line feed of the written form ends a line that holds more than spaces and tabs. -/
theorem exists_ink_of_newline (hnames : ∀ t ∈ (element tag cs rest).tags, t.OneLine)
    {before after : List Char}
    (h : (element tag cs rest).written.toList = before ++ '\n' :: after) :
    ∃ c ∈ lastLine before, c ≠ ' ' ∧ c ≠ '\t' := by
  -- the first line starts with a tag, so it is inked without anything in front of it
  have hstart : linesInked false (element tag cs rest).written.toList = true := by
    have hinked := linesInked_written hnames
    obtain ⟨ps, hps⟩ := pieces_element tag cs rest
    rw [written, String.toList_ofList, hps, Piece.layOut, Tag.startChars_eq] at hinked ⊢
    exact hinked
  rw [h, linesInked_append, linesInked, if_pos rfl] at hstart
  simp only [Bool.and_eq_true] at hstart
  exact exists_mem_lastLine_iff.mp hstart.2.1

/-- A newline is written as it is behind ink, and as a reference on a blank line. -/
theorem written_newline (hnames : ∀ t ∈ (element tag cs rest).tags, t.OneLine)
    {front back : List Piece} (h : (element tag cs rest).pieces = front ++ .newline :: back) :
    let inked := (lastLine (Piece.layOut false front)).any (!isSpaceOrTab ·)
    (element tag cs rest).written.toList =
      Piece.layOut false front ++ (if inked then ['\n'] else "&#10;".toList) ++
        Piece.layOut inked back := by
  have hpieces := inked_pieces hnames
  obtain ⟨ps, hps⟩ := pieces_element tag cs rest
  rw [h] at hps hpieces
  obtain ⟨front, rfl⟩ : ∃ front', front = .ink tag.startChars :: front' := by
    cases front with
    | nil => cases hps
    | cons p front => exact ⟨front, congrArg (· :: front) (List.cons.inj hps).1⟩
  have hlast : (lastLine (Piece.layOut false (.ink tag.startChars :: front))).any
      (!isSpaceOrTab ·) = !Piece.blankAfter false (.ink tag.startChars :: front) := by
    have hink := Piece.inkAfter_layOut (List.forall_mem_append.mp hpieces).1 false
    rw [← inkAfter_eq_any_lastLine, ← hink, Piece.layOut, tag.inkAfter_startChars false]
    rfl
  intro inked
  rw [written, String.toList_ofList, h, Piece.layOut_append, List.append_assoc]
  simp only [inked, hlast, List.append_cancel_left_eq]
  cases Piece.blankAfter false (.ink tag.startChars :: front) <;> rfl

/-- **No line of a written document is blank** if the document starts with an element: each line feed
ends a line that holds more than spaces and tabs. Only for that newlines are written as references: one
whose line holds more is written as it is. -/
theorem newlines_written (hnames : ∀ t ∈ (element tag cs rest).tags, t.OneLine) :
    (∀ before after, (element tag cs rest).written.toList = before ++ '\n' :: after →
      ∃ c ∈ lastLine before, c ≠ ' ' ∧ c ≠ '\t') ∧
    ∀ front back, (element tag cs rest).pieces = front ++ .newline :: back →
      let inked := (lastLine (Piece.layOut false front)).any (!isSpaceOrTab ·)
      (element tag cs rest).written.toList =
        Piece.layOut false front ++ (if inked then ['\n'] else "&#10;".toList) ++
          Piece.layOut inked back :=
  ⟨fun _ _ h => exists_ink_of_newline hnames h, fun _ _ h => written_newline hnames h⟩

/-- Of a preformatted text the line feed at the start and the empty line are written as references. -/
theorem newlines_written_preformatted :
    (∀ t ∈ (element ⟨"pre", []⟩ (.text "\na\n\n \n" .nil) .nil).tags, t.OneLine) ∧
    (element ⟨"pre", []⟩ (.text "\na\n\n \n" .nil) .nil).written.toList =
      "<pre>\n&#10;a".toList ++ '\n' :: "&#10; \n</pre>".toList ∧
    ∃ c ∈ lastLine "<pre>\n&#10;a".toList, c ≠ ' ' ∧ c ≠ '\t' := by
  have hnames : ∀ t ∈ (element ⟨"pre", []⟩ (.text "\na\n\n \n" .nil) .nil).tags, t.OneLine := by
    simp [tags, Tag.OneLine]
  have hwritten : (element ⟨"pre", []⟩ (.text "\na\n\n \n" .nil) .nil).written.toList =
      "<pre>\n&#10;a".toList ++ '\n' :: "&#10; \n</pre>".toList := by
    decide
  exact ⟨hnames, hwritten, (newlines_written hnames).1 _ _ hwritten⟩

end FirstElement

end Forest

-- ════════════════════════════════════════════════════════════════════════
-- Lines of markdown
-- ════════════════════════════════════════════════════════════════════════

theorem isEmpty_text (line : Markdown.Line) :
    line.text.isEmpty = !line.body.any (!isSpaceOrTab ·) := by
  unfold Markdown.Line.text
  induction line.body with
  | nil => rfl
  | cons c cs ih =>
    rw [List.dropWhile_cons, List.any_cons]
    split
    · next hc => simp [hc, ih]
    · next hc => simp [hc]

/-- A line that no line feed ends is not blank unless the text ends in a space or a tab. -/
theorem forall_mem_linesFrom {body cs : List Char} (hr : '\r' ∉ cs)
    (hlines : linesInked (body.any (!isSpaceOrTab ·)) cs = true)
    (hlast : ∀ c, cs.getLast? = some c → isSpaceOrTab c = false)
    (hbody : cs = [] → body = [] ∨ body.any (!isSpaceOrTab ·) = true) :
    ∀ line ∈ linesFrom body cs, line.text.isEmpty = false := by
  have htail : ∀ c cs, (∀ d, (c :: cs).getLast? = some d → isSpaceOrTab d = false) →
      ∀ d, cs.getLast? = some d → isSpaceOrTab d = false := by
    intro c cs h d hd
    exact h d (by rw [List.getLast?_cons, hd, Option.getD_some])
  fun_induction linesFrom body cs with
  | case1 body hempty => simp
  | case2 body hempty =>
    have hne : body ≠ [] := by simpa using hempty
    have hink := (hbody rfl).resolve_left hne
    rw [List.forall_mem_singleton, isEmpty_text, List.any_reverse, hink, Bool.not_true]
  | case3 body cs ih => simp at hr
  | case4 body cs _ ih => simp at hr
  | case5 body cs ih =>
    rw [linesInked, if_pos rfl, Bool.and_eq_true] at hlines
    refine List.forall_mem_cons.mpr ⟨?_, ih (by simpa using hr) (by simpa using hlines.2)
      (htail _ cs hlast) (by simp)⟩
    rw [isEmpty_text, List.any_reverse, hlines.1, Bool.not_true]
  | case6 body c cs _ _ hn ih =>
    have hread : isSpaceOrTab (if c = '\x00' then '\ufffd' else c) = isSpaceOrTab c := by
      split
      · next h => subst h; rfl
      · rfl
    refine ih (fun h => hr (List.mem_cons_of_mem _ h)) ?_ (htail c cs hlast) ?_
    · rw [List.any_cons, hread, Bool.or_comm]
      rwa [linesInked, if_neg hn] at hlines
    · rintro rfl
      simp [hread, hlast c rfl]

/-- The line that is begun goes on with the characters. -/
theorem exists_linesFrom {body cs : List Char} (h : body ≠ []) :
    ∃ more ending lines, linesFrom body cs = ⟨body.reverse ++ more, ending⟩ :: lines := by
  fun_induction linesFrom body cs with
  | case1 body hempty => exact absurd (by simpa using hempty) h
  | case2 body hempty => exact ⟨[], [], [], by simp⟩
  | case3 body cs ih => exact ⟨[], _, _, by rw [List.append_nil]⟩
  | case4 body cs _ ih => exact ⟨[], _, _, by rw [List.append_nil]⟩
  | case5 body cs ih => exact ⟨[], _, _, by rw [List.append_nil]⟩
  | case6 body c cs _ _ _ ih =>
    obtain ⟨more, ending, lines, hlines⟩ := ih (by simp)
    exact ⟨_, ending, lines, by rw [hlines, List.reverse_cons, List.append_assoc]⟩

/-- Characters that end no line are read one by one. -/
theorem linesFrom_append {body a : List Char} (hn : '\n' ∉ a) (hr : '\r' ∉ a) (cs : List Char) :
    linesFrom body (a ++ cs) = linesFrom ((a.map readChar).reverse ++ body) cs := by
  induction a generalizing body with
  | nil => rfl
  | cons c a ih =>
    simp only [List.mem_cons, not_or] at hn hr
    have hstep : linesFrom body (c :: (a ++ cs)) = linesFrom (readChar c :: body) (a ++ cs) := by
      rw [linesFrom]
      · rfl
      · exact fun _ hc => absurd hc.symm hr.1
      · exact fun hc => absurd hc.symm hr.1
      · exact Ne.symm hn.1
    rw [List.cons_append, hstep, ih hn.2 hr.2]
    simp

/-- A text that starts with the start tag of a block starts with a line that begins a block. -/
theorem exists_rawStart? {name : String} (h : name ∈ Markdown.blockNames) {c : Char}
    (hc : c = ' ' ∨ c = '>') (rest : List Char) :
    ∃ line lines, linesOf ('<' :: (name.toList ++ c :: rest)) = line :: lines ∧
      line.rawStart? = some .blankLine := by
  have hall : Markdown.blockNames.all (fun name =>
      name.toList.all fun c => c != '\n' && c != '\r' && readChar c == c) = true := by
    decide
  have hname : ∀ d ∈ name.toList, d ≠ '\n' ∧ d ≠ '\r' ∧ readChar d = d := by
    intro d hd
    simpa [and_assoc] using List.all_eq_true.mp (List.all_eq_true.mp hall name h) d hd
  have hfront : ∀ d ∈ '<' :: (name.toList ++ [c]), d ≠ '\n' ∧ d ≠ '\r' ∧ readChar d = d := by
    simp only [List.forall_mem_cons, List.forall_mem_append]
    refine ⟨by decide, hname, ?_, by simp⟩
    rcases hc with rfl | rfl <;> decide
  have hread : ('<' :: (name.toList ++ [c])).map readChar = '<' :: (name.toList ++ [c]) :=
    (List.map_congr_left fun d hd => (hfront d hd).2.2).trans (List.map_id _)
  have hlines : linesOf ('<' :: (name.toList ++ c :: rest)) =
      linesFrom ('<' :: (name.toList ++ [c])).reverse rest := by
    have hsplit := @linesFrom_append [] _ (fun h => (hfront _ h).1 rfl)
      (fun h => (hfront _ h).2.1 rfl) rest
    rw [hread, List.append_nil] at hsplit
    rw [← hsplit]
    simp [linesOf]
  obtain ⟨more, ending, lines, hfirst⟩ :=
    @exists_linesFrom ('<' :: (name.toList ++ [c])).reverse rest (by simp)
  refine ⟨_, lines, hlines.trans hfirst, ?_⟩
  have hbody : ('<' :: (name.toList ++ [c])).reverse.reverse ++ more =
      '<' :: (name.toList ++ c :: more) := by
    simp
  unfold Markdown.Line.rawStart? Markdown.Line.text
  rw [hbody]
  exact Markdown.blockStart?_of_mem h hc more

/-- **The text starts with the start tag of a block.** -/
def StartsBlock (cs : List Char) : Prop :=
  ∃ name ∈ Markdown.blockNames, ∃ c rest, (c = ' ' ∨ c = '>') ∧
    cs = '<' :: (name.toList ++ c :: rest)

/-- **Markdown reads a written form as raw HTML** when it starts with the start tag of a block,
holds no carriage return and does not end in a space or a tab. -/
theorem Forest.rawLines_written {f : Forest} (hf : ∀ tag ∈ f.tags, tag.OneLine)
    (hstart : StartsBlock f.written.toList) (hr : '\r' ∉ f.written.toList)
    (hlast : ∀ c, f.written.toList.getLast? = some c → isSpaceOrTab c = false) :
    rawLines none (linesOf f.written.toList) = true := by
  have hinked := linesInked_written hf
  obtain ⟨name, hname, c, rest, hc, hwritten⟩ := hstart
  obtain ⟨line, lines, hlines, hblock⟩ := exists_rawStart? hname hc rest
  rw [hwritten] at hr hlast hinked ⊢
  have hall := @forall_mem_linesFrom [] _ hr hinked hlast (by simp)
  rw [hlines]
  refine Markdown.rawLines_of_blankLine hblock fun l hl => hall l ?_
  rwa [show linesFrom [] ('<' :: (name.toList ++ c :: rest)) = line :: lines from hlines]

end ArticleMarkup
