import ArticleMarkup.Text.Ascii

/-!
# Words of a text

What splitting a text at ASCII white space gives, and that words which are joined by spaces come
back.

## Main definitions

- `Text.IsWord` — a text that is not empty and holds no ASCII white space

## Main statements

- `Text.isWord_of_mem_words` — splitting gives words
- `Text.words_append_space` — a space separates words
- `Text.words_joinWith` — splitting takes joined words apart again
-/

namespace ArticleMarkup.Text

/-- The text is not empty and holds no ASCII white space. -/
def IsWord (w : String) : Prop :=
  w ≠ "" ∧ ∀ c ∈ w.toList, isAsciiSpace c = false

instance (w : String) : Decidable (IsWord w) :=
  decidable_of_iff (w ≠ "" ∧ w.toList.all (!isAsciiSpace ·) = true) (by simp [IsWord])

/-- Splitting gives words, whatever part of the first one has been read before. -/
theorem isWord_of_mem_wordsFrom {word cs w : List Char}
    (hword : ∀ c ∈ word, isAsciiSpace c = false) (h : w ∈ wordsFrom word cs) :
    w ≠ [] ∧ ∀ c ∈ w, isAsciiSpace c = false := by
  induction cs generalizing word with
  | nil =>
    unfold wordsFrom at h
    split at h
    · cases h
    · next hne =>
      rw [List.mem_singleton] at h
      subst h
      refine ⟨by simpa using hne, ?_⟩
      intro c hc
      exact hword c (List.mem_reverse.mp hc)
  | cons c cs ih =>
    unfold wordsFrom at h
    split at h
    · split at h
      · exact ih (fun c hc => by cases hc) h
      · next hne =>
        rcases List.mem_cons.mp h with h | h
        · subst h
          refine ⟨by simpa using hne, ?_⟩
          intro c hc
          exact hword c (List.mem_reverse.mp hc)
        · exact ih (fun c hc => by cases hc) h
    · next hc =>
      refine ih ?_ h
      intro d hd
      rcases List.mem_cons.mp hd with rfl | hd
      · simpa using hc
      · exact hword d hd

theorem isWord_of_mem_words {s w : String} (h : w ∈ words s) : IsWord w := by
  obtain ⟨cs, hcs, rfl⟩ := List.mem_map.mp h
  obtain ⟨hne, hspace⟩ := isWord_of_mem_wordsFrom (fun c hc => by cases hc) hcs
  refine ⟨?_, by simpa using hspace⟩
  intro h
  exact hne (by simpa using congrArg String.toList h)

-- ════════════════════════════════════════════════════════════════════════
-- Joined words
-- ════════════════════════════════════════════════════════════════════════

/-- A space ends the word that has been read. -/
theorem wordsFrom_append_space (word cs rest : List Char) :
    wordsFrom word (cs ++ ' ' :: rest) = wordsFrom word cs ++ wordsFrom [] rest := by
  induction cs generalizing word with
  | nil =>
    have hspace : isAsciiSpace ' ' = true := rfl
    cases word <;> simp [wordsFrom, hspace]
  | cons c cs ih =>
    rw [List.cons_append, wordsFrom, wordsFrom]
    split
    · split
      · exact ih []
      · rw [ih []]
        rfl
    · exact ih (c :: word)

/-- The end of the text ends the word that has been read. -/
theorem wordsFrom_eq_singleton (word : List Char) {cs : List Char} (hne : word ++ cs ≠ [])
    (hcs : ∀ c ∈ cs, isAsciiSpace c = false) : wordsFrom word cs = [word.reverse ++ cs] := by
  induction cs generalizing word with
  | nil =>
    have hword : word.isEmpty = false := by simpa using hne
    simp [wordsFrom, hword]
  | cons c cs ih =>
    have hc := hcs c List.mem_cons_self
    have hrest : ∀ d ∈ cs, isAsciiSpace d = false := fun d hd => hcs d (List.mem_cons_of_mem _ hd)
    rw [wordsFrom, hc, if_neg Bool.false_ne_true, ih (c :: word) (by simp) hrest]
    simp

theorem IsWord.toList_ne_nil {w : String} (h : IsWord w) : w.toList ≠ [] := by
  simpa using h.1

/-- A word is the only word of its text. -/
theorem words_of_isWord {w : String} (h : IsWord w) : words w = [w] := by
  have hone := wordsFrom_eq_singleton [] (by simpa using h.1) h.2
  simp [words, hone]

/-- **A space separates words**, whatever stands on its two sides. -/
theorem words_append_space (s t : String) : words (s ++ " " ++ t) = words s ++ words t := by
  have hsplit : (s ++ " " ++ t).toList = s.toList ++ ' ' :: t.toList := by simp
  rw [words, hsplit, wordsFrom_append_space, List.map_append]
  rfl

/-- **Words that are joined by spaces** come back when the text is split. -/
theorem words_joinWith {ws : List String} (h : ∀ w ∈ ws, IsWord w) :
    words (joinWith " " ws) = ws := by
  induction ws with
  | nil => rfl
  | cons w ws ih =>
    obtain ⟨hw, hrest⟩ := List.forall_mem_cons.mp h
    cases ws with
    | nil => exact words_of_isWord hw
    | cons v ws =>
      have hjoin : joinWith " " (w :: v :: ws) = w ++ " " ++ joinWith " " (v :: ws) := by
        apply String.toList_inj.mp
        simp [joinWith]
      rw [hjoin, words_append_space, words_of_isWord hw, ih hrest]
      rfl

end ArticleMarkup.Text
