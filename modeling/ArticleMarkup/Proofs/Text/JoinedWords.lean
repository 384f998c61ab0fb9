import ArticleMarkup.Proofs.Text.Trim
import ArticleMarkup.Proofs.Text.Words

/-!
# Joined words, trimmed

A list of words that is written with single spaces stays one when it is trimmed. Words end at ASCII
white space and trimming goes further, so a first or last word may lose characters or be lost, but the
spaces that are left still separate words.

## Main statements

- `Text.exists_words_trim` — trimming joined words gives joined words
- `Text.joinWith_concat` — a word that is added at the end
-/

namespace ArticleMarkup.Text

/-- The characters of words. -/
def AreWords (ws : List (List Char)) : Prop :=
  ∀ w ∈ ws, w ≠ [] ∧ ∀ c ∈ w, isAsciiSpace c = false

theorem areWords_cons {w : List Char} {ws : List (List Char)} : AreWords (w :: ws) ↔
    (w ≠ [] ∧ ∀ c ∈ w, isAsciiSpace c = false) ∧ AreWords ws :=
  List.forall_mem_cons

theorem AreWords.reverse {ws : List (List Char)} (h : AreWords ws) :
    AreWords (ws.map List.reverse).reverse := by
  intro w hw
  obtain ⟨v, hv, rfl⟩ := List.mem_map.mp (List.mem_reverse.mp hw)
  exact ⟨by simpa using (h v hv).1, fun c hc => (h v hv).2 c (List.mem_reverse.mp hc)⟩

theorem areWords_toList {ws : List String} (h : ∀ w ∈ ws, IsWord w) :
    AreWords (ws.map String.toList) := by
  intro w hw
  obtain ⟨v, hv, rfl⟩ := List.mem_map.mp hw
  exact ⟨(h v hv).toList_ne_nil, (h v hv).2⟩

theorem toList_joinWith (ws : List String) :
    (joinWith " " ws).toList = [' '].intercalate (ws.map String.toList) := by
  rw [joinWith, String.toList_intercalate]
  rfl

/-- A word that is added at the end of a list that is not empty. -/
theorem intercalate_concat {ws : List (List Char)} (hne : ws ≠ []) (w : List Char) :
    [' '].intercalate (ws ++ [w]) = [' '].intercalate ws ++ ' ' :: w := by
  induction ws with
  | nil => exact absurd rfl hne
  | cons v ws ih =>
    cases ws with
    | nil => simp
    | cons u ws =>
      rw [List.cons_append, List.cons_append, List.intercalate_cons_cons, ← List.cons_append,
        ih (by simp)]
      simp

/-- Joined words read from the end are joined words. -/
theorem reverse_intercalate (ws : List (List Char)) :
    ([' '].intercalate ws).reverse = [' '].intercalate (ws.map List.reverse).reverse := by
  induction ws with
  | nil => rfl
  | cons w ws ih =>
    cases ws with
    | nil => simp
    | cons v ws =>
      have hne : ((v :: ws).map List.reverse).reverse ≠ [] := by simp
      rw [List.map_cons, List.reverse_cons, intercalate_concat hne, ← ih]
      simp

/-- Joined words stay joined words when blank characters in front are dropped. -/
theorem exists_words_dropWhile {ws : List (List Char)} (h : AreWords ws) :
    ∃ kept, AreWords kept ∧
      ([' '].intercalate ws).dropWhile isBlankChar = [' '].intercalate kept := by
  induction ws with
  | nil => exact ⟨[], h, rfl⟩
  | cons w ws ih =>
    obtain ⟨⟨-, hspace⟩, hws⟩ := areWords_cons.mp h
    have hsuffix := List.dropWhile_suffix (l := w) isBlankChar
    have hkept : ∀ c ∈ w.dropWhile isBlankChar, isAsciiSpace c = false :=
      fun c hc => hspace c (hsuffix.subset hc)
    cases ws with
    | nil =>
      by_cases hall : w.dropWhile isBlankChar = []
      · exact ⟨[], hws, by simpa using hall⟩
      · exact ⟨[w.dropWhile isBlankChar], areWords_cons.mpr ⟨⟨hall, hkept⟩, hws⟩, by simp⟩
    | cons v ws =>
      rw [List.intercalate_cons_cons, List.append_assoc, List.dropWhile_append]
      by_cases hall : w.dropWhile isBlankChar = []
      · -- the first word is lost, and the space behind it is blank too
        obtain ⟨kept, hkept, heq⟩ := ih hws
        have hblank : isBlankChar ' ' = true := by decide
        refine ⟨kept, hkept, ?_⟩
        rw [hall, List.isEmpty_nil, if_pos rfl, List.singleton_append,
          List.dropWhile_cons_of_pos hblank, heq]
      · refine ⟨w.dropWhile isBlankChar :: v :: ws, areWords_cons.mpr ⟨⟨hall, hkept⟩, hws⟩, ?_⟩
        rw [if_neg (by simpa using hall), List.intercalate_cons_cons, List.append_assoc]

/-- **Trimming joined words** gives joined words. -/
theorem exists_words_trim {ws : List String} (h : ∀ w ∈ ws, IsWord w) :
    ∃ kept, (∀ w ∈ kept, IsWord w) ∧ trim (joinWith " " ws) = joinWith " " kept := by
  obtain ⟨front, hfront, hstart⟩ := exists_words_dropWhile (areWords_toList h)
  obtain ⟨back, hback, hend⟩ := exists_words_dropWhile hfront.reverse
  refine ⟨(back.map List.reverse).reverse.map String.ofList, ?_, ?_⟩
  · intro w hw
    obtain ⟨v, hv, rfl⟩ := List.mem_map.mp hw
    obtain ⟨hne, hspace⟩ := hback.reverse v hv
    exact ⟨by simpa using hne, by simpa using hspace⟩
  · apply String.toList_inj.mp
    rw [toList_joinWith, List.map_map, List.map_congr_left (g := id) (by simp), List.map_id,
      ← reverse_intercalate, ← hend, ← reverse_intercalate, ← hstart, ← toList_joinWith]
    simp [trim, trimChars, trimStartChars, trimEndChars]

/-- A word that is added at the end of joined words. -/
theorem joinWith_concat {ws : List String} (hne : ws ≠ []) (w : String) :
    joinWith " " ws ++ " " ++ w = joinWith " " (ws ++ [w]) := by
  apply String.toList_inj.mp
  rw [toList_joinWith, List.map_append, List.map_singleton,
    intercalate_concat (by simpa using hne), ← toList_joinWith]
  simp

end ArticleMarkup.Text
