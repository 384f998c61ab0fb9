import ArticleMarkup.Proofs.Forest.Nodes
import ArticleMarkup.Proofs.Highlight.Hidden
import Mathlib.Data.String.Basic

/-!
# Scopes around characters

The spans that stand around a character of highlighted code are those of the scopes that held when the
character was reached. The scope stack at a place of a line can be told without building anything:
carry out the changes up to the first one that lies behind the place.

## Main definitions

- `Forest.placed` — the characters of a forest, each with the tags around it
- `ScopeStack.atPlace` — the scope stack at a place of a line
- `scopedLines` — the characters of several lines, each with the scopes that hold there

## Main statements

- `placedRow_consPiece` — what a piece does to the row of forests that are being built
- `scopedPieces_linePieces` — the pieces of a line, against the scope stack at its places
- `Tokenizer.spans_mirror` — the spans of some code mirror the scope stack
-/

namespace ArticleMarkup

namespace Forest

/-- **The characters in their places**: each with the tags of the elements around it, innermost first,
where `around` stand around the whole forest. -/
def placed (around : List Tag) : Forest → List (Char × List Tag)
  | nil => []
  | text s rest => s.toList.map (·, around) ++ rest.placed around
  | element tag cs rest => cs.placed (tag :: around) ++ rest.placed around

@[simp] theorem placed_nil (around : List Tag) : nil.placed around = [] := rfl

@[simp] theorem placed_text (around : List Tag) (s : String) (rest : Forest) :
    (text s rest).placed around = s.toList.map (·, around) ++ rest.placed around := rfl

@[simp] theorem placed_element (around : List Tag) (tag : Tag) (cs rest : Forest) :
    (element tag cs rest).placed around = cs.placed (tag :: around) ++ rest.placed around := rfl

theorem placed_consText (around : List Tag) (s : String) (f : Forest) :
    (f.consText s).placed around = s.toList.map (·, around) ++ f.placed around := by
  cases f <;> simp [consText]

theorem placed_glue (around : List Tag) (f g : Forest) :
    (f.glue g).placed around = f.placed around ++ g.placed around := by
  fun_induction glue f g with
  | case1 g => rfl
  | case2 s g => simp [placed_consText]
  | case3 s rest g _ ih => simp [ih]
  | case4 tag cs rest g ih => simp [ih]

end Forest

namespace Highlight

-- ════════════════════════════════════════════════════════════════════════
-- The scope stack at a place
-- ════════════════════════════════════════════════════════════════════════

namespace ScopeStack

/-- The scope stack once changes are carried out one after the other. A change that cannot be carried
out is passed over; code with such a change is not highlighted at all. -/
def after (s : ScopeStack) (changes : LineChanges) : ScopeStack :=
  changes.foldl (fun s change => ((s.apply change.2).map Prod.snd).getD s) s

/-- **The scope stack at a place** of a line that begins with the stack `s`: all changes are carried
out up to the first one that lies behind the place. -/
def atPlace (s : ScopeStack) (changes : LineChanges) (place : Nat) : ScopeStack :=
  s.after (changes.takeWhile fun change => change.1 ≤ place)

theorem after_cons {s s' : ScopeStack} {change : ScopeChange} {marks : List ScopeMark}
    (h : s.apply change = some (marks, s')) (place : Nat) (changes : LineChanges) :
    s.after ((place, change) :: changes) = s'.after changes := by
  simp [after, h]

theorem atPlace_cons_of_le {s s' : ScopeStack} {change : ScopeChange} {marks : List ScopeMark}
    (h : s.apply change = some (marks, s')) {place i : Nat} (hi : place ≤ i)
    (changes : LineChanges) : s.atPlace ((place, change) :: changes) i = s'.atPlace changes i := by
  unfold ScopeStack.atPlace
  rw [List.takeWhile_cons_of_pos (by simpa using hi), after_cons h]

theorem atPlace_cons_of_lt (s : ScopeStack) {place i : Nat} (hi : i < place) (change : ScopeChange)
    (changes : LineChanges) : s.atPlace ((place, change) :: changes) i = s := by
  unfold ScopeStack.atPlace
  rw [List.takeWhile_cons_of_neg (by simpa using hi)]
  rfl

end ScopeStack

/-- The characters of a line, each with the scopes that hold there, innermost first. -/
def scopedLine (s : ScopeStack) (changes : LineChanges) (line : List Char) :
    List (Char × List Scope) :=
  line.mapIdx fun i c => (c, (s.atPlace changes i).scopes)

/-- **The characters of several lines**, each with the scopes that hold there. The scopes that hold at
the end of a line hold at the start of the next one; lines without a list of changes have none. -/
def scopedLines (s : ScopeStack) (changes : List LineChanges) :
    List (List Char) → List (Char × List Scope)
  | [] => []
  | line :: lines =>
    scopedLine s (changes.headD []) line ++
      scopedLines (s.after (changes.headD [])) changes.tail lines

-- ════════════════════════════════════════════════════════════════════════
-- Rows of forests
-- ════════════════════════════════════════════════════════════════════════

/-- The characters of a row of forests, where `around` stand around the first one; each further forest
stands outside one tag more. -/
def placedRow (around : List Tag) : List Forest → List (Char × List Tag)
  | [] => []
  | f :: row => f.placed around ++ placedRow around.tail row

theorem placed_glueRow (row : List Forest) : (glueRow row).placed [] = placedRow [] row := by
  induction row with
  | nil => rfl
  | cons f row ih => rw [glueRow_cons, Forest.placed_glue, ih]; rfl

theorem placed_spanAround (around : List Tag) (stem : String) (scope : Scope)
    (inner rest : Forest) :
    (spanAround stem scope inner rest).placed around =
      inner.placed (spanTag stem scope :: around) ++ rest.placed around := by
  unfold spanAround
  cases inner <;> simp [Forest.isEmpty]

/-- The scopes that hold behind a piece, given those that hold in front of it. -/
def Piece.enter (scopes : List Scope) : Piece → List Scope
  | .text _ => scopes
  | .mark .pop => scopes.tail
  | .mark (.push scope) => scope :: scopes

/-- **A piece puts its characters in front of the row**, and the rest of the row stands within the
scopes that hold behind it. -/
theorem placedRow_consPiece (stem : String) (scopes : List Scope) (piece : Piece)
    (row : List Forest) :
    placedRow (scopes.map (spanTag stem)) (consPiece stem piece row) =
      piece.chars.map (·, scopes.map (spanTag stem)) ++
        placedRow ((piece.enter scopes).map (spanTag stem)) row := by
  match piece, row with
  | .text s, [] => simp [consPiece, placedRow, Piece.chars, Forest.ofText]
  | .text s, inner :: outer =>
    simp [consPiece, placedRow, Piece.chars, Piece.enter, Forest.placed_consText]
  | .mark .pop, row => simp [consPiece, placedRow, Piece.chars, Piece.enter]
  | .mark (.push _), [] => simp [consPiece, placedRow, Piece.chars]
  | .mark (.push scope), [inner] =>
    simp [consPiece, placedRow, Piece.chars, Piece.enter, placed_spanAround]
  | .mark (.push scope), inner :: rest :: outer =>
    simp [consPiece, placedRow, Piece.chars, Piece.enter, placed_spanAround]

/-- The characters of pieces, each with the scopes that hold there. -/
def scopedPieces (scopes : List Scope) : List Piece → List (Char × List Scope)
  | [] => []
  | piece :: rest => piece.chars.map (·, scopes) ++ scopedPieces (piece.enter scopes) rest

/-- **The spans of pieces** stand around the characters as the scopes hold there. -/
theorem placed_spans (stem : String) (pieces : List Piece) :
    (spans stem pieces).placed [] =
      (scopedPieces [] pieces).map fun e => (e.1, e.2.map (spanTag stem)) := by
  have hrow : ∀ scopes : List Scope,
      placedRow (scopes.map (spanTag stem)) (pieces.foldr (consPiece stem) [.nil]) =
        (scopedPieces scopes pieces).map fun e => (e.1, e.2.map (spanTag stem)) := by
    induction pieces with
    | nil => intro scopes; rfl
    | cons piece rest ih =>
      intro scopes
      rw [List.foldr_cons, placedRow_consPiece, ih, scopedPieces, List.map_append, List.map_map]
      rfl
  rw [spans_eq, placed_glueRow]
  exact hrow []

-- ════════════════════════════════════════════════════════════════════════
-- Lines
-- ════════════════════════════════════════════════════════════════════════

/-- The scopes that hold once marks are carried out one after the other. -/
def scopesAfter (scopes : List Scope) (marks : List ScopeMark) : List Scope :=
  marks.foldl (fun scopes mark => (Piece.mark mark).enter scopes) scopes

theorem scopesAfter_pops (n : Nat) (scopes : List Scope) :
    scopesAfter scopes (List.replicate n .pop) = scopes.drop n := by
  induction n generalizing scopes with
  | zero => rfl
  | succ n ih =>
    rw [List.replicate_succ, scopesAfter, List.foldl_cons]
    exact (ih scopes.tail).trans List.drop_tail

theorem scopesAfter_pushes (group scopes : List Scope) :
    scopesAfter scopes (group.map .push) = group.reverse ++ scopes := by
  induction group generalizing scopes with
  | nil => rfl
  | cons scope group ih =>
    have hrest := ih (scope :: scopes)
    rw [List.reverse_cons, List.append_assoc]
    exact hrest

/-- **The marks of a change** lead from the scopes before it to those after it. -/
theorem scopesAfter_of_apply {s s' : ScopeStack} {change : ScopeChange} {marks : List ScopeMark}
    (h : s.apply change = some (marks, s')) : scopesAfter s.scopes marks = s'.scopes := by
  cases change with
  | push scope =>
    cases h
    rfl
  | pop count =>
    cases h
    exact scopesAfter_pops count s.scopes
  | clear amount =>
    cases h
    exact scopesAfter_pops (s.clearCount amount) s.scopes
  | restore =>
    simp only [ScopeStack.apply] at h
    split at h
    · cases h
    · next group rest _ =>
      cases h
      rw [scopesAfter_pushes, List.reverse_reverse]
  | noop =>
    cases h
    rfl

theorem scopedPieces_marks (marks : List ScopeMark) (scopes : List Scope) (rest : List Piece) :
    scopedPieces scopes (marks.map .mark ++ rest) = scopedPieces (scopesAfter scopes marks) rest := by
  induction marks generalizing scopes with
  | nil => rfl
  | cons mark marks ih => exact ih ((Piece.mark mark).enter scopes)

/-- Between two places no scope changes. -/
theorem scopedPieces_textBetween (scopes : List Scope) (start stop : Nat) (line : List Char)
    (rest : List Piece) :
    scopedPieces scopes (textBetween start stop line ++ rest) =
      ((line.drop start).take (stop - start)).map (·, scopes) ++ scopedPieces scopes rest := by
  unfold textBetween
  split
  · simp [scopedPieces, Piece.chars, Piece.enter]
  · next hlt =>
    have hnone : stop - start = 0 := by omega
    simp [hnone]

/-- Characters that all have the same scopes. -/
theorem mapIdx_of_same {cs : List Char} {scopesAt : Nat → List Scope} {scopes : List Scope}
    (h : ∀ i, i < cs.length → scopesAt i = scopes) :
    cs.mapIdx (fun i c => (c, scopesAt i)) = cs.map (·, scopes) := by
  apply List.ext_getElem
  · simp
  · intro i hi _
    rw [List.length_mapIdx] at hi
    simp [h i hi]

/-- What is left of a line, cut at a place. -/
theorem mapIdx_drop {line : List Char} {start stop : Nat} (hstart : start ≤ stop)
    (hstop : stop ≤ line.length) (g : Nat → Char → Char × List Scope) :
    (line.drop start).mapIdx g =
      ((line.drop start).take (stop - start)).mapIdx g ++
        (line.drop stop).mapIdx fun i => g (i + (stop - start)) := by
  have hdrop : line.drop stop = (line.drop start).drop (stop - start) := by
    rw [List.drop_drop, Nat.add_sub_cancel' hstart]
  have hlength : ((line.drop start).take (stop - start)).length = stop - start := by
    rw [List.length_take, List.length_drop]
    omega
  conv_lhs => rw [← List.take_append_drop (stop - start) (line.drop start)]
  rw [List.mapIdx_append, hlength, hdrop]

/-- **The pieces of a line** from some place on: each character has the scopes of the stack at its
place, and what comes later goes on from the stack after all changes. -/
theorem scopedPieces_linePieces {line : List Char} {start : Nat} {s s' : ScopeStack}
    {changes : LineChanges} {pieces : List Piece} (hstart : start ≤ line.length)
    (h : linePieces line start s changes = .ok (pieces, s')) (later : List Piece) :
    s' = s.after changes ∧
      scopedPieces s.scopes (pieces ++ later) =
        (line.drop start).mapIdx (fun i c => (c, (s.atPlace changes (start + i)).scopes)) ++
          scopedPieces s'.scopes later := by
  induction changes generalizing start s pieces with
  | nil =>
    simp only [linePieces, Except.ok.injEq, Prod.mk.injEq] at h
    obtain ⟨rfl, rfl⟩ := h
    refine ⟨rfl, ?_⟩
    have hall : (line.drop start).take (line.length - start) = line.drop start :=
      List.take_of_length_le (by simp)
    have hsame : (line.drop start).mapIdx (fun i c => (c, (s.atPlace [] (start + i)).scopes)) =
        (line.drop start).map (·, s.scopes) := mapIdx_of_same fun _ _ => rfl
    rw [scopedPieces_textBetween, hall, hsame]
  | cons change changes ih =>
    obtain ⟨place, change⟩ := change
    obtain ⟨marks, s₁, later', happly, hlater, rfl⟩ := linePieces_cons_eq_ok h
    generalize hmax : max start (min place line.length) = stop at hlater ⊢
    have hle : start ≤ stop := by omega
    have hstop : stop ≤ line.length := by omega
    obtain ⟨hend, hrest⟩ := ih hstop hlater
    refine ⟨by rw [hend, ScopeStack.after_cons happly], ?_⟩
    -- in front of the change the old stack holds
    have hfront : ((line.drop start).take (stop - start)).mapIdx
          (fun i c => (c, (s.atPlace ((place, change) :: changes) (start + i)).scopes)) =
        ((line.drop start).take (stop - start)).map (·, s.scopes) := by
      apply mapIdx_of_same
      intro i hi
      rw [List.length_take, List.length_drop] at hi
      rw [ScopeStack.atPlace_cons_of_lt s (by omega)]
    -- a change that lies past the end of the line has no character behind it
    have hback : (line.drop stop).mapIdx (fun i c =>
          (c, (s.atPlace ((place, change) :: changes) (start + (i + (stop - start)))).scopes)) =
        (line.drop stop).mapIdx (fun i c => (c, (s₁.atPlace changes (stop + i)).scopes)) := by
      rw [List.mapIdx_eq_mapIdx_iff]
      intro i hi
      rw [List.length_drop] at hi
      have hplace : start + (i + (stop - start)) = stop + i := by omega
      rw [hplace, ScopeStack.atPlace_cons_of_le happly (by omega)]
    rw [List.append_assoc, List.append_assoc, scopedPieces_textBetween, scopedPieces_marks,
      scopesAfter_of_apply happly, hrest, mapIdx_drop hle hstop, hfront, hback, List.append_assoc]

/-- **The pieces of several lines.** -/
theorem scopedPieces_pieces {s : ScopeStack} {changes : List LineChanges}
    {lines : List (List Char)} {ps : List Piece} (h : pieces s changes lines = .ok ps) :
    scopedPieces s.scopes ps = scopedLines s changes lines := by
  induction lines generalizing s changes ps with
  | nil =>
    cases h
    rfl
  | cons line lines ih =>
    obtain ⟨here, s', later, hhere, hlater, rfl⟩ := pieces_cons_eq_ok h
    obtain ⟨hend, hline⟩ := scopedPieces_linePieces (Nat.zero_le _) hhere later
    rw [hline, ih hlater, scopedLines, ← hend, List.drop_zero]
    simp only [scopedLine, Nat.zero_add]

-- ════════════════════════════════════════════════════════════════════════
-- Spans that hold text
-- ════════════════════════════════════════════════════════════════════════

/-- Every element holds text, and so does the forest itself unless it has no node. -/
structure Full (f : Forest) : Prop where
  /-- Every element holds text. -/
  elements : ∀ e ∈ f.elements, e.2.textContent ≠ ""
  /-- The forest holds text. -/
  text : f ≠ .nil → f.textContent ≠ ""

theorem full_nil : Full .nil where
  elements := by
    intro e he
    cases he
  text := fun h => absurd rfl h

theorem Full.consText {f : Forest} (hf : Full f) {s : String} (hs : s ≠ "") :
    Full (f.consText s) where
  elements := by
    rw [Forest.elements_consText]
    exact hf.elements
  text := by
    intro _
    rw [Forest.textContent_consText]
    simp [hs]

theorem Full.glue {f g : Forest} (hf : Full f) (hg : Full g) : Full (f.glue g) where
  elements := by
    rw [Forest.elements_glue, List.forall_mem_append]
    exact ⟨hf.elements, hg.elements⟩
  text := by
    intro hne
    by_cases hnil : f = .nil
    · rw [hnil, Forest.glue] at hne ⊢
      exact hg.text hne
    · simp [hf.text hnil]

theorem Full.spanAround {inner rest : Forest} (hinner : Full inner) (hrest : Full rest)
    (stem : String) (scope : Scope) : Full (spanAround stem scope inner rest) := by
  unfold Highlight.spanAround
  by_cases hempty : inner.isEmpty = true
  · rw [if_pos hempty]
    exact hrest
  · rw [if_neg hempty]
    have htext : inner.textContent ≠ "" := by
      apply hinner.text
      rintro rfl
      exact hempty rfl
    constructor
    · simp only [Forest.elements_element, List.forall_mem_cons, List.forall_mem_append]
      exact ⟨htext, hinner.elements, hrest.elements⟩
    · intro _
      simp [Forest.textContent, htext]

/-- A piece with text leaves no element without any. -/
theorem full_consPiece (stem : String) {piece : Piece} (hpiece : piece ≠ .text "")
    {row : List Forest} (hrow : ∀ f ∈ row, Full f) : ∀ f ∈ consPiece stem piece row, Full f := by
  match piece, row with
  | .text s, [] =>
    have hs : s ≠ "" := fun h => hpiece (congrArg Piece.text h)
    exact List.forall_mem_singleton.mpr (full_nil.consText hs)
  | .text s, inner :: outer =>
    have hs : s ≠ "" := fun h => hpiece (congrArg Piece.text h)
    rw [List.forall_mem_cons] at hrow
    exact List.forall_mem_cons.mpr ⟨hrow.1.consText hs, hrow.2⟩
  | .mark .pop, row => exact List.forall_mem_cons.mpr ⟨full_nil, hrow⟩
  | .mark (.push _), [] => exact hrow
  | .mark (.push scope), [inner] =>
    rw [List.forall_mem_singleton] at hrow
    exact List.forall_mem_singleton.mpr (hrow.spanAround full_nil stem scope)
  | .mark (.push scope), inner :: rest :: outer =>
    simp only [List.forall_mem_cons] at hrow
    exact List.forall_mem_cons.mpr ⟨hrow.1.spanAround hrow.2.1 stem scope, hrow.2.2⟩

/-- **Every span holds text** where no piece is an empty text. -/
theorem textContent_ne_of_mem_elements_spans (stem : String) {pieces : List Piece}
    (hpieces : ∀ piece ∈ pieces, piece ≠ .text "") :
    ∀ e ∈ (spans stem pieces).elements, e.2.textContent ≠ "" := by
  have hfull : Full (spans stem pieces) := by
    apply spans_of_row full_nil
    · intro f g hf hg
      exact hf.glue hg
    · intro piece hpiece row hrow
      exact full_consPiece stem (hpieces piece hpiece) hrow
  exact hfull.elements

theorem ne_of_mem_textBetween {start stop : Nat} {line : List Char} (hstop : stop ≤ line.length) :
    ∀ piece ∈ textBetween start stop line, piece ≠ .text "" := by
  unfold textBetween
  split
  · next hlt =>
    rw [List.forall_mem_singleton]
    intro hempty
    have hnil : (line.drop start).take (stop - start) = [] := by simpa using hempty
    have hlength := congrArg List.length hnil
    simp only [List.length_take, List.length_drop, List.length_nil] at hlength
    omega
  · intro piece hpiece
    cases hpiece

/-- No piece of a line is an empty text. -/
theorem ne_of_mem_linePieces {line : List Char} {start : Nat} {s s' : ScopeStack}
    {changes : LineChanges} {pieces : List Piece} (hstart : start ≤ line.length)
    (h : linePieces line start s changes = .ok (pieces, s')) :
    ∀ piece ∈ pieces, piece ≠ .text "" := by
  induction changes generalizing start s s' pieces with
  | nil =>
    simp only [linePieces, Except.ok.injEq, Prod.mk.injEq] at h
    rw [← h.1]
    exact ne_of_mem_textBetween (Nat.le_refl _)
  | cons change changes ih =>
    obtain ⟨place, change⟩ := change
    have hstop : max start (min place line.length) ≤ line.length := by omega
    obtain ⟨marks, s₁, later, -, hlater, rfl⟩ := linePieces_cons_eq_ok h
    rw [List.forall_mem_append, List.forall_mem_append]
    refine ⟨⟨ne_of_mem_textBetween hstop, ?_⟩, ih hstop hlater⟩
    intro piece hpiece
    obtain ⟨mark, -, rfl⟩ := List.mem_map.mp hpiece
    exact Piece.noConfusion

theorem ne_of_mem_pieces {s : ScopeStack} {changes : List LineChanges}
    {lines : List (List Char)} {ps : List Piece} (h : pieces s changes lines = .ok ps) :
    ∀ piece ∈ ps, piece ≠ .text "" := by
  induction lines generalizing s changes ps with
  | nil =>
    cases h
    intro piece hpiece
    cases hpiece
  | cons line lines ih =>
    obtain ⟨here, s', later, hhere, hlater, rfl⟩ := pieces_cons_eq_ok h
    rw [List.forall_mem_append]
    exact ⟨ne_of_mem_linePieces (Nat.zero_le _) hhere, ih hlater⟩

-- ════════════════════════════════════════════════════════════════════════
-- Tokenizers
-- ════════════════════════════════════════════════════════════════════════

/-- **The tag of a span**: its classes are what stands between the dots of the scope, with the stem in
front of each, and it has no other attribute. -/
theorem spanTag_eq (stem : String) (scope : Scope) :
    spanTag stem scope = ⟨"span", [⟨"class",
      " ".intercalate ((scope.toList.splitOn '.').map (stem ++ String.ofList ·))⟩]⟩ := by
  have hatoms : scope.atoms = (scope.toList.splitOn '.').map String.ofList :=
    String.splitToList_of_valid scope (· == '.')
  rw [spanTag, hatoms, List.map_map]
  rfl

/-- **The spans of some code mirror the scope stack**, whatever changes the tokenizer reports and in
whatever order. They hold the code; around each character stand the spans of exactly the scopes that
hold there, each with the atoms of its scope as classes, behind the stem; every span holds text; and
no two texts are neighbours. -/
theorem Tokenizer.spans_mirror {t : Tokenizer} {stem source : String} {f : Forest}
    {changes : List LineChanges} (hread : t (splitLines source) = .ok changes)
    (h : t.spans stem source = .ok f) :
    f.textContent = source ∧
      f.placed [] = (scopedLines {} changes (splitLines source)).map (fun e =>
        (e.1, e.2.map fun scope => ⟨"span", [⟨"class",
          " ".intercalate ((scope.toList.splitOn '.').map (stem ++ String.ofList ·))⟩]⟩)) ∧
      (∀ e ∈ f.elements, e.2.textContent ≠ "") ∧ f.textsApart = true := by
  have htext := t.textContent_spans h
  unfold Tokenizer.spans at h
  simp only [hread] at h
  split at h
  · cases h
  · next ps hps =>
    cases h
    refine ⟨htext, ?_, textContent_ne_of_mem_elements_spans stem (ne_of_mem_pieces hps),
      textsApart_spans stem ps⟩
    rw [placed_spans, scopedPieces_pieces hps, funext (spanTag_eq stem)]

/-- Changes out of order, a pop on an empty stack, and scopes that are cleared in one line and restored
behind the end of it. -/
def strayChanges : List LineChanges :=
  [[(0, .pop 1), (2, .push "source.a"), (1, .push "string")],
    [(1, .clear .all), (9, .restore)], []]

/-- The span of `source.a`. -/
def strayOuter : Tag := ⟨"span", [⟨"class", "x-source x-a"⟩]⟩

/-- The span of `string`. -/
def strayInner : Tag := ⟨"span", [⟨"class", "x-string"⟩]⟩

/-- The spans of three lines of code with these changes. -/
def straySpans : Forest :=
  .text "ab" (.element strayOuter (.single strayInner (.ofText "c\nd"))
    (.text "e\n" (.single strayOuter (.single strayInner (.ofText "f")))))

theorem spans_mirror_strayChanges :
    Tokenizer.spans (fun _ => .ok strayChanges) "x-" "abc\nde\nf" = .ok straySpans ∧
      straySpans.placed [] =
        [('a', []), ('b', []), ('c', [strayInner, strayOuter]), ('\n', [strayInner, strayOuter]),
          ('d', [strayInner, strayOuter]), ('e', []), ('\n', []),
          ('f', [strayInner, strayOuter])] := by
  have houter : spanTag "x-" "source.a" = strayOuter := (spanTag_eq _ _).trans (by decide)
  have hinner : spanTag "x-" "string" = strayInner := (spanTag_eq _ _).trans (by decide)
  have hspans : Tokenizer.spans (fun _ => .ok strayChanges) "x-" "abc\nde\nf" =
      .ok straySpans := by
    rw [straySpans, ← houter, ← hinner]
    rfl
  have hscoped : scopedLines {} strayChanges (splitLines "abc\nde\nf") =
      [('a', []), ('b', []), ('c', ["string", "source.a"]), ('\n', ["string", "source.a"]),
        ('d', ["string", "source.a"]), ('e', []), ('\n', []), ('f', ["string", "source.a"])] := by
    decide
  obtain ⟨-, hplaced, -, -⟩ := Tokenizer.spans_mirror rfl hspans
  rw [hscoped] at hplaced
  exact ⟨hspans, hplaced.trans (by decide)⟩

end Highlight

end ArticleMarkup
