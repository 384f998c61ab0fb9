import ArticleMarkup.Highlight.Tokenizer
import ArticleMarkup.Proofs.Forest.Tags

/-!
# Spans hold the code they were made from

Whatever scope changes a tokenizer reports, and in whatever order, the spans made from them hold the
code, every character once and in its place; and there are no elements but the spans.

## Main definitions

- `Piece.chars` — the characters of a piece of code
- `glueRow` — a row of forests glued together

## Main statements

- `textContent_spans`, `mem_tags_spans` — text and tags of a sequence of pieces
- `Tokenizer.textContent_spans` — the spans of some code hold the code
-/

namespace ArticleMarkup.Highlight

/-- The characters of a piece of code; a step of the scope stack has none. -/
def Piece.chars : Piece → List Char
  | .text s => s.toList
  | .mark _ => []

-- ════════════════════════════════════════════════════════════════════════
-- Rows of forests
-- ════════════════════════════════════════════════════════════════════════

/-- A row of forests glued together. -/
def glueRow (row : List Forest) : Forest :=
  row.foldr Forest.glue .nil

theorem spans_eq (stem : String) (pieces : List Piece) :
    spans stem pieces = glueRow (pieces.foldr (consPiece stem) [.nil]) := rfl

@[simp] theorem glueRow_nil : glueRow [] = .nil := rfl

@[simp] theorem glueRow_cons (f : Forest) (row : List Forest) :
    glueRow (f :: row) = f.glue (glueRow row) := rfl

/-- **A property of spans**: it holds of them when it holds without any node, each piece keeps it all along
the row, and so does gluing the row together. -/
theorem spans_of_row {P : Forest → Prop} {stem : String} {pieces : List Piece} (hnil : P .nil)
    (hglue : ∀ f g, P f → P g → P (f.glue g))
    (hpiece : ∀ piece ∈ pieces, ∀ row, (∀ f ∈ row, P f) → ∀ f ∈ consPiece stem piece row, P f) :
    P (spans stem pieces) := by
  have hrow : ∀ f ∈ pieces.foldr (consPiece stem) [.nil], P f := by
    induction pieces with
    | nil => exact List.forall_mem_singleton.mpr hnil
    | cons piece rest ih =>
      rw [List.forall_mem_cons] at hpiece
      exact hpiece.1 _ (ih hpiece.2)
  rw [spans_eq]
  generalize pieces.foldr (consPiece stem) [.nil] = row at hrow
  induction row with
  | nil => exact hnil
  | cons f row ih =>
    rw [List.forall_mem_cons] at hrow
    exact hglue f _ hrow.1 (ih hrow.2)

/-- Only a span without any node is left out. -/
theorem textContent_spanAround (stem : String) (scope : Scope) (inner rest : Forest) :
    (spanAround stem scope inner rest).textContent = inner.textContent ++ rest.textContent := by
  unfold spanAround
  cases inner <;> simp [Forest.isEmpty, Forest.textContent]

/-- A piece puts its characters in front of the row. -/
theorem textContent_consPiece (stem : String) (piece : Piece) (row : List Forest) :
    (glueRow (consPiece stem piece row)).textContent.toList =
      piece.chars ++ (glueRow row).textContent.toList := by
  match piece, row with
  | .text s, [] => simp [consPiece, Piece.chars, Forest.ofText, Forest.textContent]
  | .text s, inner :: outer => simp [consPiece, Piece.chars, List.append_assoc]
  | .mark .pop, row => simp [consPiece, Piece.chars, Forest.textContent]
  | .mark (.push _), [] => simp [consPiece, Piece.chars]
  | .mark (.push scope), [inner] =>
    simp [consPiece, Piece.chars, textContent_spanAround, Forest.textContent]
  | .mark (.push scope), inner :: rest :: outer =>
    simp [consPiece, Piece.chars, textContent_spanAround, List.append_assoc]

theorem textContent_spans (stem : String) (pieces : List Piece) :
    (spans stem pieces).textContent.toList = pieces.flatMap Piece.chars := by
  rw [spans_eq]
  induction pieces with
  | nil => simp [Forest.textContent]
  | cons piece rest ih =>
    rw [List.foldr_cons, textContent_consPiece, ih, List.flatMap_cons]

theorem mem_tags_spanAround {stem : String} {scope : Scope} {inner rest : Forest} {tag : Tag}
    (h : tag ∈ (spanAround stem scope inner rest).tags) :
    tag = spanTag stem scope ∨ tag ∈ inner.tags ∨ tag ∈ rest.tags := by
  unfold spanAround at h
  split at h
  · exact .inr (.inr h)
  · simpa [Forest.tags] using h

/-- A piece adds no element but the span of its scope. -/
theorem mem_tags_consPiece {stem : String} {piece : Piece} {row : List Forest} {tag : Tag}
    (h : tag ∈ (glueRow (consPiece stem piece row)).tags) :
    (∃ scope, tag = spanTag stem scope) ∨ tag ∈ (glueRow row).tags := by
  match piece, row with
  | .text s, [] => simp [consPiece, Forest.ofText, Forest.tags] at h
  | .text s, inner :: outer => exact .inr (by simpa [consPiece] using h)
  | .mark .pop, row => exact .inr (by simpa [consPiece, Forest.tags] using h)
  | .mark (.push _), [] => exact .inr h
  | .mark (.push scope), [inner] =>
    simp only [consPiece, glueRow_cons, glueRow_nil, Forest.tags_glue, List.mem_append] at h
    rcases h with h | h
    · rcases mem_tags_spanAround h with h | h | h
      · exact .inl ⟨scope, h⟩
      · exact .inr (by simp [h])
      · cases h
    · cases h
  | .mark (.push scope), inner :: rest :: outer =>
    simp only [consPiece, glueRow_cons, Forest.tags_glue, List.mem_append] at h ⊢
    rcases h with h | h
    · rcases mem_tags_spanAround h with h | h | h
      · exact .inl ⟨scope, h⟩
      · exact .inr (.inl h)
      · exact .inr (.inr (.inl h))
    · exact .inr (.inr (.inr h))

/-- **All elements are spans** of scopes. -/
theorem mem_tags_spans {stem : String} {pieces : List Piece} {tag : Tag}
    (h : tag ∈ (spans stem pieces).tags) : ∃ scope, tag = spanTag stem scope := by
  rw [spans_eq] at h
  induction pieces with
  | nil => simp [Forest.tags] at h
  | cons piece rest ih => exact (mem_tags_consPiece h).elim id ih

-- ════════════════════════════════════════════════════════════════════════
-- Lines
-- ════════════════════════════════════════════════════════════════════════

/-- **A line that is cut at a change**: the text in front of it, its marks, and the rest of the line from
the place of the change on. -/
theorem linePieces_cons_eq_ok {line : List Char} {start place : Nat} {s s' : ScopeStack}
    {change : ScopeChange} {changes : LineChanges} {pieces : List Piece}
    (h : linePieces line start s ((place, change) :: changes) = .ok (pieces, s')) :
    ∃ marks s₁ later, s.apply change = some (marks, s₁) ∧
      linePieces line (max start (min place line.length)) s₁ changes = .ok (later, s') ∧
      pieces = textBetween start (max start (min place line.length)) line ++
        marks.map .mark ++ later := by
  unfold linePieces at h
  simp only at h
  split at h
  · cases h
  · next marks s₁ happly =>
    split at h
    · cases h
    · next later s₂ hlater =>
      simp only [Except.ok.injEq, Prod.mk.injEq] at h
      obtain ⟨rfl, rfl⟩ := h
      exact ⟨marks, s₁, later, happly, hlater, rfl⟩

/-- **Several lines**: the pieces of the first one, and those of the others from its last stack on. -/
theorem pieces_cons_eq_ok {s : ScopeStack} {changes : List LineChanges} {line : List Char}
    {lines : List (List Char)} {ps : List Piece} (h : pieces s changes (line :: lines) = .ok ps) :
    ∃ here s' later, linePieces line 0 s (changes.headD []) = .ok (here, s') ∧
      pieces s' changes.tail lines = .ok later ∧ ps = here ++ later := by
  unfold pieces at h
  split at h
  · cases h
  · next here s' hhere =>
    split at h
    · cases h
    · next later hlater =>
      cases h
      exact ⟨here, s', later, hhere, hlater, rfl⟩

theorem flatMap_chars_textBetween {start stop : Nat} {line : List Char} (h : start ≤ stop) :
    (textBetween start stop line).flatMap Piece.chars ++ line.drop stop = line.drop start := by
  unfold textBetween
  split
  · have hdrop : line.drop stop = (line.drop start).drop (stop - start) := by
      rw [List.drop_drop, Nat.add_sub_cancel' h]
    rw [hdrop]
    simp only [List.flatMap_cons, List.flatMap_nil, Piece.chars, String.toList_ofList,
      List.append_nil, List.take_append_drop]
  · next hlt =>
    have : start = stop := by omega
    simp [this]

theorem flatMap_chars_marks (marks : List ScopeMark) :
    (marks.map Piece.mark).flatMap Piece.chars = [] := by
  simp [Piece.chars]

/-- **The pieces of a line** hold what is left of it, wherever the changes stand. -/
theorem flatMap_chars_linePieces {line : List Char} {start : Nat} {stack stack' : ScopeStack}
    {changes : LineChanges} {pieces : List Piece} (hstart : start ≤ line.length)
    (h : linePieces line start stack changes = .ok (pieces, stack')) :
    pieces.flatMap Piece.chars = line.drop start := by
  induction changes generalizing start stack stack' pieces with
  | nil =>
    simp only [linePieces, Except.ok.injEq, Prod.mk.injEq] at h
    have hall : (textBetween start line.length line).flatMap Piece.chars ++
        line.drop line.length = line.drop start := flatMap_chars_textBetween hstart
    rw [List.drop_length, List.append_nil] at hall
    exact h.1 ▸ hall
  | cons change rest ih =>
    obtain ⟨place, change⟩ := change
    have hstop : max start (min place line.length) ≤ line.length := by omega
    obtain ⟨marks, stack₁, later, -, hlater, rfl⟩ := linePieces_cons_eq_ok h
    rw [List.flatMap_append, ih hstop hlater, List.flatMap_append, flatMap_chars_marks,
      List.append_nil]
    exact flatMap_chars_textBetween (by omega)

/-- The pieces of several lines hold the lines. -/
theorem flatMap_chars_pieces {stack : ScopeStack} {changes : List LineChanges}
    {lines : List (List Char)} {ps : List Piece} (h : pieces stack changes lines = .ok ps) :
    ps.flatMap Piece.chars = lines.flatten := by
  induction lines generalizing stack changes ps with
  | nil =>
    cases h
    rfl
  | cons line rest ih =>
    obtain ⟨here, stack', later, hhere, hlater, rfl⟩ := pieces_cons_eq_ok h
    rw [List.flatMap_append, flatMap_chars_linePieces (Nat.zero_le _) hhere, ih hlater]
    rfl

theorem flatten_splitLinesFrom (line cs : List Char) :
    (splitLinesFrom line cs).flatten = line.reverse ++ cs := by
  induction cs generalizing line with
  | nil =>
    unfold splitLinesFrom
    split
    · next h => simp [List.isEmpty_iff.mp h]
    · simp
  | cons c cs ih =>
    unfold splitLinesFrom
    split <;> simp [ih]

/-- Splitting a text into lines loses nothing. -/
theorem flatten_splitLines (source : String) : (splitLines source).flatten = source.toList := by
  simpa [splitLines] using flatten_splitLinesFrom [] source.toList

-- ════════════════════════════════════════════════════════════════════════
-- Tokenizers
-- ════════════════════════════════════════════════════════════════════════

/-- What a tokenizer makes of some code is the spans of pieces of that code. -/
theorem Tokenizer.spans_eq_ok {t : Tokenizer} {stem source : String} {f : Forest}
    (h : t.spans stem source = .ok f) :
    ∃ ps : List Piece, f = Highlight.spans stem ps ∧ ps.flatMap Piece.chars = source.toList := by
  unfold Tokenizer.spans at h
  simp only at h
  split at h
  · cases h
  · split at h
    · cases h
    · next ps hps =>
      cases h
      exact ⟨ps, rfl, (flatMap_chars_pieces hps).trans (flatten_splitLines source)⟩

/-- **The spans of some code hold the code.** -/
theorem Tokenizer.textContent_spans {t : Tokenizer} {stem source : String} {f : Forest}
    (h : t.spans stem source = .ok f) : f.textContent = source := by
  obtain ⟨ps, rfl, hps⟩ := t.spans_eq_ok h
  exact String.toList_inj.mp ((Highlight.textContent_spans stem ps).trans hps)

/-- The spans of some code are the only elements. -/
theorem Tokenizer.mem_tags_spans {t : Tokenizer} {stem source : String} {f : Forest} {tag : Tag}
    (h : t.spans stem source = .ok f) (ht : tag ∈ f.tags) : ∃ scope, tag = spanTag stem scope := by
  obtain ⟨ps, rfl, -⟩ := t.spans_eq_ok h
  exact Highlight.mem_tags_spans ht

end ArticleMarkup.Highlight
