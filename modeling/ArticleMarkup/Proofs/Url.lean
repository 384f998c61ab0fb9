import ArticleMarkup.Proofs.Text.Trim
import ArticleMarkup.Schema.Pattern

/-!
# References to ids

A reference that begins with a number sign never has a scheme, whatever follows.

## Main statements

- `Url.classify_hash` — such a reference is relative
-/

namespace ArticleMarkup

namespace Url

/-- The number sign in front of a reference is significant. -/
theorem significant_hash (cs : List Char) : ∃ rest, significant ('#' :: cs) = '#' :: rest := by
  obtain ⟨front, hfront⟩ := Text.rdropWhile_cons_of_neg (c := '#')
    (p := fun c => decide (c.toNat ≤ 0x20)) (by decide) cs
  refine ⟨front.filter (fun c => c != '\t' && c != '\n' && c != '\r'), ?_⟩
  have hstart : ('#' :: cs).dropWhile (fun c => decide (c.toNat ≤ 0x20)) = '#' :: cs :=
    List.dropWhile_cons_of_neg (by decide)
  unfold significant
  simp only [hstart]
  rw [List.rdropWhile] at hfront
  rw [hfront]
  exact List.filter_cons_of_pos (by decide)

/-- **A reference to an id is relative.** -/
theorem classify_hash (id : String) : classify ("#" ++ id) = .relative := by
  obtain ⟨rest, hrest⟩ := significant_hash id.toList
  have hlist : ("#" ++ id).toList = '#' :: id.toList := by simp
  have hscheme : scheme? (significant ("#" ++ id).toList) = none := by
    rw [hlist, hrest]
    rfl
  unfold classify
  rw [hscheme]

end Url

/-- References to ids pass every check of schemes. -/
theorem Pattern.acceptsUrl_hash (schemes : List String) (id : String) :
    acceptsUrl schemes ("#" ++ id) = true := by
  simp [acceptsUrl, Url.classify_hash]

end ArticleMarkup
