import ArticleMarkup.Proofs.Html.Lowering
import ArticleMarkup.Proofs.Html.Tally
import ArticleMarkup.Proofs.Markdown.Depth
import ArticleMarkup.Render.Renderer

/-!
# The limits of a rendering

Each limit is a threshold: a text passes it exactly if a number that belongs to the text does not exceed
it. For the number of elements it is the estimate, a sum over the tags of the text, and for the nesting
the depth of the tree, before and after the HTML is made.

## Main statements

- `checkElements_threshold` — **the limit on the number of elements**, and the counters of its check
- `checkDepth_threshold` — **the limit on the nesting of markdown**, and the search for its nodes
- `lowerHtml_eq_error_iff` — the limit on the nesting of elements
-/

namespace ArticleMarkup

open Html (TagAt TagMark Tally elementEstimate exists_places formattingTags prices unreleased)
open Markdown.Shape (Finds LiesAt Round)

theorem checkElements_eq_ok_iff {html : String} {limit : Nat} :
    checkElements html limit = .ok () ↔ elementEstimate html ≤ limit := by
  rw [← Html.checkBudget_eq_none_iff, checkElements]
  cases Html.checkBudget html limit with
  | none => simp
  | some estimate => simp

/-- The error reports an estimate that lies above the limit and within that for the text. -/
theorem exists_of_checkElements {html : String} {limit : Nat} {e : RenderError}
    (h : checkElements html limit = .error e) :
    ∃ n, e = .tooManyElements n limit ∧ limit < n ∧ n ≤ elementEstimate html := by
  unfold checkElements at h
  split at h
  · next n hn =>
    cases h
    exact ⟨n, rfl, Html.lt_of_checkBudget hn⟩
  · cases h

/-- **The limit on the number of elements.** The tags of a text are found in order, one wherever a `<`, a
`/` for an end tag, and a name stand. Each text has an estimate, the sum of the prices of its tags up to
the cap. The check lets it pass exactly the limits that the estimate does not exceed, and otherwise
reports a number between the two. At each tag the counter of all open formatting elements is the sum of
the counters for each, which count those that no end tag of their name has released; so it is never
decreased at zero. -/
theorem checkElements_threshold (html : String) :
    ∃ places : List (Nat × TagMark), places.Pairwise (·.1 < ·.1) ∧
      (∀ i tag, (i, tag) ∈ places ↔ TagAt (html.toList.drop i) tag) ∧
      ∃ total, total = min (prices [] (places.map Prod.snd)).sum (2 ^ 64 - 1) ∧
        (∀ limit, checkElements html limit = .ok () ↔ total ≤ limit) ∧
        (∀ limit e, checkElements html limit = .error e →
          ∃ n, e = .tooManyElements n limit ∧ limit < n ∧ n ≤ total) ∧
        ∀ before, before <+: places.map Prod.snd →
          let tally := before.foldl Tally.enter {}
          tally.unclosed = formattingTags.map ((unreleased before).count ·) ∧
            tally.openFormatting = (unreleased before).length ∧
            tally.openFormatting = tally.unclosed.sum ∧
            ∀ slot, 0 < tally.unclosed.getD slot 0 → 0 < tally.openFormatting := by
  obtain ⟨places, hsorted, hplaces, htags⟩ := exists_places html.toList
  refine ⟨places, hsorted, hplaces, elementEstimate html, ?_, fun _ => checkElements_eq_ok_iff,
    fun _ _ h => exists_of_checkElements h, fun before _ => ?_⟩
  · rw [htags]
    exact Html.elementEstimate_eq html
  · have hbalanced := Tally.balanced_start.foldl before
    obtain ⟨hunclosed, hopen⟩ := Tally.counters_foldl before
    exact ⟨hunclosed, hopen, hbalanced.sum, fun _ hpos => hbalanced.openFormatting_pos hpos⟩

/-- **The limit on the nesting of markdown.** A document passes exactly if no node of its tree lies
deeper than the limit, and otherwise the error names the depth just below the limit. Every search of a
tree for such a node ends, whatever nodes it visits first, and what it finds does not depend on that:
nothing if there is no such node, and otherwise always the same depth. -/
theorem checkDepth_threshold (document : Markdown.Blocks Markdown.Inlines) (limit : Nat) :
    (checkDepth document limit = .ok () ↔
        ∀ depth, LiesAt depth document.shape → depth ≤ limit) ∧
      (∀ e, checkDepth document limit = .error e → e = .nestingTooDeep (limit + 1) limit) ∧
      Finds limit {(0, document.shape)} (Markdown.exceedsDepth? limit document) ∧
      (WellFounded fun after before => Round limit before after) ∧
      ∀ tree : Markdown.Shape,
        (Finds limit {(0, tree)} none ↔
            ∀ depth, LiesAt depth tree → depth ≤ limit) ∧
          ∀ found, Finds limit {(0, tree)} (some found) ↔
            found = limit + 1 ∧ ∃ depth, LiesAt depth tree ∧ limit < depth := by
  refine ⟨?_, ?_, Markdown.finds_exceedsDepth? limit document, Markdown.Shape.wellFounded_round limit,
    fun tree => ⟨Markdown.Shape.finds_none_iff, fun found => Markdown.Shape.finds_some_iff⟩⟩
  · rw [← Markdown.Shape.depth_le_iff, checkDepth, Markdown.exceedsDepth?_eq]
    by_cases hdepth : document.shape.depth ≤ limit
    · simp [hdepth]
    · simp [hdepth]
  · intro e h
    rw [checkDepth, Markdown.exceedsDepth?_eq] at h
    by_cases hdepth : document.shape.depth ≤ limit
    · simp [hdepth] at h
    · simpa [hdepth, eq_comm] using h

/-- **The limit on the nesting of elements**: a text fails exactly if its tree is deeper, and the error
names the depth just below the limit. -/
theorem lowerHtml_eq_error_iff {html : String} {limit : Nat} {e : RenderError} :
    lowerHtml html limit = .error e ↔
      e = .nestingTooDeep (limit + 1) limit ∧ Text.isBlank html = false ∧
        limit < (Html.tree html).depth := by
  unfold lowerHtml Html.lowered
  rw [Html.Dom.lower_eq]
  cases Text.isBlank html with
  | true => simp
  | false =>
    by_cases hdepth : (Html.tree html).depth ≤ limit
    · simp [hdepth]
    · simp [hdepth, Nat.not_le.mp hdepth, eq_comm]

/-- A tree that is made within a limit is no deeper. -/
theorem depth_le_of_lowerHtml {html : String} {limit : Nat} {tree : Forest}
    (h : lowerHtml html limit = .ok tree) : tree.depth ≤ limit := by
  unfold lowerHtml Html.lowered at h
  rw [Html.Dom.lower_eq] at h
  by_cases hblank : Text.isBlank html = true
  · simp only [if_pos hblank, Except.ok.injEq] at h
    rw [← h]
    exact Nat.zero_le _
  · by_cases hdepth : (Html.tree html).depth ≤ limit
    · simp only [if_neg hblank, if_pos hdepth, Except.ok.injEq] at h
      rw [← h, Html.Dom.toForest, Html.Dom.depth_toForestBefore, Forest.depth, Nat.max_zero]
      exact hdepth
    · simp [hblank, hdepth] at h

end ArticleMarkup
