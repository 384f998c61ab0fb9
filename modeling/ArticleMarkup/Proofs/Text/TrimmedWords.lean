import ArticleMarkup.Proofs.Text.Trim
import ArticleMarkup.Proofs.Text.Words

/-!
# Words of a trimmed text

Words end at ASCII white space, but trimming takes every blank character off the ends of a text. So a
text that is trimmed has the same words as before exactly if nothing but ASCII white space goes.

## Main definitions

- `Text.TrimsAscii` — trimming takes ASCII white space away and nothing else

## Main statements

- `Text.flatten_wordsFrom` — words hold every character except ASCII white space
- `Text.words_trim_eq_iff` — when trimming leaves the words of a text alone
-/

namespace ArticleMarkup.Text

/-- **Trimming takes ASCII white space away and nothing else**: around the trimmed text there are no
other characters. -/
def TrimsAscii (s : String) : Prop :=
  ∃ front back, s.toList = front ++ (trim s).toList ++ back ∧
    (∀ c ∈ front, isAsciiSpace c = true) ∧ ∀ c ∈ back, isAsciiSpace c = true

/-- The words of a text hold its characters in order, except for ASCII white space. -/
theorem flatten_wordsFrom (word cs : List Char) :
    (wordsFrom word cs).flatten = word.reverse ++ cs.filter (!isAsciiSpace ·) := by
  induction cs generalizing word with
  | nil =>
    cases word with
    | nil => rfl
    | cons c word => simp [wordsFrom]
  | cons c cs ih =>
    rw [wordsFrom]
    by_cases hc : isAsciiSpace c = true
    · rw [if_pos hc, List.filter_cons_of_neg (by simp [hc])]
      cases word with
      | nil => exact ih []
      | cons d word => simp [ih]
    · rw [if_neg hc, ih, List.filter_cons_of_pos (by simpa using hc)]
      simp

theorem flatten_words (s : String) :
    ((words s).map String.toList).flatten = s.toList.filter (!isAsciiSpace ·) := by
  rw [words, List.map_map, List.map_congr_left (g := id) (by simp), List.map_id]
  exact flatten_wordsFrom [] s.toList

/-- White space in front of a text is in no word. -/
theorem wordsFrom_spaces_append {front : List Char} (h : ∀ c ∈ front, isAsciiSpace c = true)
    (cs : List Char) : wordsFrom [] (front ++ cs) = wordsFrom [] cs := by
  induction front with
  | nil => rfl
  | cons c front ih =>
    obtain ⟨hc, hfront⟩ := List.forall_mem_cons.mp h
    rw [List.cons_append, wordsFrom, if_pos hc]
    exact ih hfront

theorem wordsFrom_of_spaces (word : List Char) {back : List Char}
    (h : ∀ c ∈ back, isAsciiSpace c = true) : wordsFrom word back = wordsFrom word [] := by
  cases back with
  | nil => rfl
  | cons c back =>
    obtain ⟨hc, hback⟩ := List.forall_mem_cons.mp h
    have hrest : wordsFrom [] back = [] := by
      simpa [wordsFrom] using wordsFrom_spaces_append hback []
    show (if isAsciiSpace c = true then _ else _) = _
    rw [if_pos hc, hrest]
    rfl

/-- White space behind a text is in no word. -/
theorem wordsFrom_append_spaces (word cs : List Char) {back : List Char}
    (h : ∀ c ∈ back, isAsciiSpace c = true) :
    wordsFrom word (cs ++ back) = wordsFrom word cs := by
  induction cs generalizing word with
  | nil => exact wordsFrom_of_spaces word h
  | cons c cs ih =>
    rw [List.cons_append, wordsFrom, wordsFrom, ih, ih]

/-- What is left of a text stands in one piece in it. -/
theorem exists_around_trim (s : String) :
    ∃ front back, s.toList = front ++ (trim s).toList ++ back := by
  refine ⟨s.toList.takeWhile isBlankChar, (trimStartChars s.toList).rtakeWhile isBlankChar, ?_⟩
  have hstart : s.toList.takeWhile isBlankChar ++ trimStartChars s.toList = s.toList :=
    List.takeWhile_append_dropWhile
  have hend : trimEndChars (trimStartChars s.toList) ++
      (trimStartChars s.toList).rtakeWhile isBlankChar = trimStartChars s.toList := by
    rw [trimEndChars_eq]
    exact List.rdropWhile_append_rtakeWhile
  rw [trim, String.toList_ofList, trimChars, List.append_assoc, hend, hstart]

/-- **When trimming leaves the words of a text alone**: exactly if it takes nothing but ASCII white
space away. -/
theorem words_trim_eq_iff (s : String) : words (trim s) = words s ↔ TrimsAscii s := by
  constructor
  · intro h
    obtain ⟨front, back, hs⟩ := exists_around_trim s
    -- the characters of the words are the same, so there are none around the trimmed text
    have hink : (trim s).toList.filter (!isAsciiSpace ·) =
        (front ++ (trim s).toList ++ back).filter (!isAsciiSpace ·) := by
      rw [← flatten_words, h, flatten_words, hs]
    have hlength := congrArg List.length hink
    simp only [List.filter_append, List.length_append] at hlength
    have hfront : (front.filter (!isAsciiSpace ·)).length = 0 := by omega
    have hback : (back.filter (!isAsciiSpace ·)).length = 0 := by omega
    rw [List.length_eq_zero_iff, List.filter_eq_nil_iff] at hfront hback
    exact ⟨front, back, hs, by simpa using hfront, by simpa using hback⟩
  · rintro ⟨front, back, hs, hfront, hback⟩
    have hsame : wordsFrom [] s.toList = wordsFrom [] (trim s).toList := by
      rw [hs, wordsFrom_append_spaces _ _ hback, wordsFrom_spaces_append hfront]
    rw [words, words, hsame]

theorem words_trim_of_isBlank {s : String} (h : isBlank s = true) : words (trim s) = [] := by
  rw [(trim_eq_empty_iff s).mpr h]
  rfl

end ArticleMarkup.Text
