import ArticleMarkup.Proofs.Text.Lowercase
import ArticleMarkup.Proofs.Text.Trim
import ArticleMarkup.Slug

/-!
# Characters of a slug

A slug is never empty and holds no blank character, so it is an id that reads the same with its
blank ends removed.

## Main statements

- `Text.isBlankChar_of_mem_lowercase` — letters and numbers are not blank, nor are their images
- `isTrimmed_slug` — slugs are trimmed
-/

namespace ArticleMarkup

namespace Text

/-- The code points of white space. -/
def blankPoints : List Nat :=
  [0x09, 0x0a, 0x0b, 0x0c, 0x0d, 0x20, 0x85, 0xa0, 0x1680, 0x2000, 0x2001, 0x2002, 0x2003, 0x2004,
    0x2005, 0x2006, 0x2007, 0x2008, 0x2009, 0x200a, 0x2028, 0x2029, 0x202f, 0x205f, 0x3000]

theorem mem_blankPoints {c : Char} (h : isBlankChar c = true) : c.toNat ∈ blankPoints := by
  simp only [isBlankChar, Bool.or_eq_true, Bool.and_eq_true, decide_eq_true_eq, beq_iff_eq] at h
  simp only [blankPoints, List.mem_cons, List.not_mem_nil, or_false]
  omega

/-- No letter or number is blank. -/
theorem isBlankChar_of_isAlphanumeric {c : Char} (h : isAlphanumeric c = true) :
    isBlankChar c = false := by
  have hpoints : ∀ n ∈ blankPoints, isAlphanumeric (Char.ofNat n) = false := by decide +kernel
  rw [Bool.eq_false_iff]
  intro hb
  have hc := hpoints _ (mem_blankPoints hb)
  rw [Char.ofNat_toNat, h] at hc
  cases hc

theorem isBlankChar_of_isDigit {c : Char} (h : c.isDigit = true) : isBlankChar c = false := by
  have hpoints : ∀ n ∈ blankPoints, (Char.ofNat n).isDigit = false := by decide
  rw [Bool.eq_false_iff]
  intro hb
  have hc := hpoints _ (mem_blankPoints hb)
  rw [Char.ofNat_toNat, h] at hc
  cases hc

/-- **Small letters are not blank.** -/
theorem isBlankChar_of_mem_lowercase {c d : Char} (h : isAlphanumeric c = true)
    (hd : d ∈ lowercase c) : isBlankChar d = false := by
  rcases cases_of_mem_lowercase h hd with ⟨halnum, -⟩ | ⟨rfl, -⟩
  · exact isBlankChar_of_isAlphanumeric halnum
  · decide

end Text

theorem isBlankChar_of_mem_slugChars {started gap : Bool} {cs : List Char} {d : Char}
    (h : d ∈ slugChars started gap cs) : Text.isBlankChar d = false := by
  induction cs generalizing started gap with
  | nil => cases h
  | cons c cs ih =>
    unfold slugChars at h
    split at h
    · next hc =>
      split at h
      · rcases List.mem_cons.mp h with rfl | h
        · decide
        · exact (List.mem_append.mp h).elim (Text.isBlankChar_of_mem_lowercase hc) ih
      · exact (List.mem_append.mp h).elim (Text.isBlankChar_of_mem_lowercase hc) ih
    · exact ih h

theorem isBlankChar_of_mem_slug {text : String} {d : Char} (h : d ∈ (slug text).toList) :
    Text.isBlankChar d = false := by
  unfold slug at h
  split at h
  · have hsection : fallbackSlug.toList.all (fun c => !Text.isBlankChar c) = true := by decide
    simpa using List.all_eq_true.mp hsection d h
  · rw [String.toList_ofList] at h
    exact isBlankChar_of_mem_slugChars h

theorem slug_ne_empty (text : String) : slug text ≠ "" := by
  unfold slug
  split
  · decide
  · next hne => simpa using hne

/-- **Slugs are trimmed.** -/
theorem isTrimmed_slug (text : String) : Text.IsTrimmed (slug text) :=
  Text.isTrimmed_of_forall (slug_ne_empty text) fun _ => isBlankChar_of_mem_slug

end ArticleMarkup
