import ArticleMarkup.Proofs.Anchor
import Mathlib.Data.Finset.Preimage
import Mathlib.Data.Fintype.EquivFin
import Mathlib.Order.Nat

/-!
# Anchors without counters

The numbers that `Anchors` keeps only save work. However many anchors and reservations are asked
for, the answers are those of a reference that keeps nothing but the set of ids handed out so far
and starts every search at one.

## Main definitions

- `Request`, `Answer` — what is asked of the anchors of a document, and what comes back
- `Reference.anchorFor`, `Reference.serve` — the answers from a set of taken ids alone
- `answers` — the answers to one request after the other
- `Anchors.Tracks` — anchors against the set of ids that are taken

## Main statements

- `Anchors.Tracks.serve` — one request, asked of both
- `answers_eq_of_step` — two keepers that agree request by request agree on all
- `Anchors.answers_eq_reference` — anchors answer as the reference does, and no id comes up twice
-/

namespace ArticleMarkup

/-- What is asked for while a document is labelled. -/
inductive Request where
  /-- An anchor for a heading with this text. -/
  | anchor (text : String)
  /-- This id, which is in the document already. -/
  | reserve (id : String)
deriving DecidableEq, Repr

/-- The answer to a request. -/
inductive Answer where
  /-- The anchor is this id. -/
  | given (id : String)
  /-- The id was free and is reserved now. -/
  | accepted (id : String)
  /-- The id had been handed out before. -/
  | refused (id : String)
deriving DecidableEq, Repr

/-- The id that is handed out with an answer. -/
def Answer.handedOut? : Answer → Option String
  | given id => some id
  | accepted id => some id
  | refused _ => none

def Anchors.serve (a : Anchors) : Request → Answer × Anchors
  | .anchor text =>
    let (id, a) := a.anchorFor text
    (.given id, a)
  | .reserve id =>
    let (free, a) := a.reserve id
    (if free then .accepted id else .refused id, a)

/-- **The answers** to requests that are served one after the other. -/
def answers {σ : Type} (serve : σ → Request → Answer × σ) (s : σ) : List Request → List Answer
  | [] => []
  | r :: rs => (serve s r).1 :: answers serve (serve s r).2 rs

-- ════════════════════════════════════════════════════════════════════════
-- The reference
-- ════════════════════════════════════════════════════════════════════════

namespace Reference

/-- Finitely many ids leave a number free behind every id. -/
theorem exists_number (taken : Finset String) (base : String) :
    ∃ n, 1 ≤ n ∧ Anchors.numbered base n ∉ taken := by
  have hinj : Function.Injective fun n => Anchors.numbered base (n + 1) :=
    (Anchors.numbered_injective base).comp Nat.succ_injective
  obtain ⟨n, hn⟩ := Infinite.exists_notMem_finset (taken.preimage _ hinj.injOn)
  exact ⟨n + 1, by omega, by simpa using hn⟩

/-- **The anchor of a text**: its slug while that is free, else the slug with the least number behind
it that gives a free id. -/
def anchorFor (taken : Finset String) (text : String) : String :=
  if slug text ∈ taken then
    Anchors.numbered (slug text) (Nat.find (exists_number taken (slug text)))
  else slug text

/-- Serve one request from the set of the ids that were handed out before. -/
def serve (taken : Finset String) : Request → Answer × Finset String
  | .anchor text => (.given (anchorFor taken text), insert (anchorFor taken text) taken)
  | .reserve id =>
    if id ∈ taken then (.refused id, taken) else (.accepted id, insert id taken)

theorem anchorFor_not_mem (taken : Finset String) (text : String) :
    anchorFor taken text ∉ taken := by
  unfold anchorFor
  split
  · exact (Nat.find_spec (exists_number taken (slug text))).2
  · assumption

/-- An id is handed out when it is free, and is taken from then on. -/
theorem serve_cases (taken : Finset String) (r : Request) :
    ((serve taken r).1.handedOut? = none ∧ (serve taken r).2 = taken) ∨
      ∃ id, id ∉ taken ∧ (serve taken r).1.handedOut? = some id ∧
        (serve taken r).2 = insert id taken := by
  cases r with
  | anchor text => exact .inr ⟨anchorFor taken text, anchorFor_not_mem taken text, rfl, rfl⟩
  | reserve id =>
    by_cases h : id ∈ taken
    · exact .inl (by simp [serve, h, Answer.handedOut?])
    · exact .inr ⟨id, h, by simp [serve, h, Answer.handedOut?]⟩

/-- **No id is handed out twice**, nor one that was taken at the start. -/
theorem nodup_handedOut (taken : Finset String) (rs : List Request) :
    ((answers serve taken rs).filterMap Answer.handedOut?).Nodup ∧
      ∀ id ∈ (answers serve taken rs).filterMap Answer.handedOut?, id ∉ taken := by
  induction rs generalizing taken with
  | nil => simp [answers]
  | cons r rs ih =>
    rw [answers]
    rcases serve_cases taken r with ⟨hnone, hsame⟩ | ⟨id, hfree, hid, hinsert⟩
    · rw [List.filterMap_cons_none hnone, hsame]
      exact ih taken
    · rw [List.filterMap_cons_some hid, hinsert]
      obtain ⟨hnodup, hnew⟩ := ih (insert id taken)
      refine ⟨List.nodup_cons.mpr ⟨fun h => hnew id h (Finset.mem_insert_self id taken), hnodup⟩, ?_⟩
      refine List.forall_mem_cons.mpr ⟨hfree, fun other h hmem => ?_⟩
      exact hnew other h (Finset.mem_insert_of_mem hmem)

end Reference

-- ════════════════════════════════════════════════════════════════════════
-- Anchors against the reference
-- ════════════════════════════════════════════════════════════════════════

/-- Two keepers that answer every request alike, whatever came before, give the same answers. -/
theorem answers_eq_of_step {σ τ : Type} {R : σ → τ → Prop} {serve : σ → Request → Answer × σ}
    {serve' : τ → Request → Answer × τ}
    (hstep : ∀ s t r, R s t → (serve s r).1 = (serve' t r).1 ∧ R (serve s r).2 (serve' t r).2)
    {s : σ} {t : τ} (h : R s t) (rs : List Request) : answers serve s rs = answers serve' t rs := by
  induction rs generalizing s t with
  | nil => rfl
  | cons r rs ih =>
    obtain ⟨hanswer, hnext⟩ := hstep s t r h
    rw [answers, answers, hanswer, ih hnext]

namespace Anchors

/-- Every number up to the last one that was tried behind a key gives a taken id. -/
def Tried (tried : Table Nat) (taken : Finset String) : Prop :=
  ∀ base last, tried.find? base = some last → ∀ n, 1 ≤ n → n ≤ last → numbered base n ∈ taken

theorem Tried.mono {tried : Table Nat} {taken taken' : Finset String} (h : Tried tried taken)
    (hsub : taken ⊆ taken') : Tried tried taken' :=
  fun base last hfind n hn hlast => hsub (h base last hfind n hn hlast)

theorem Tried.insert {tried : Table Nat} {taken : Finset String} (h : Tried tried taken)
    {key : String} {last : Nat} (hnew : ∀ n, 1 ≤ n → n ≤ last → numbered key n ∈ taken) :
    Tried (tried.insert key last) taken := by
  intro base last' hfind n hn hlast
  rw [Table.find?_insert] at hfind
  split at hfind
  · next hkey =>
    cases hfind
    exact hkey ▸ hnew n hn hlast
  · exact h base last' hfind n hn hlast

/-- **Anchors against the set of taken ids.** -/
structure Tracks (a : Anchors) (taken : Finset String) : Prop where
  /-- The same ids are taken. -/
  same : ∀ id, a.taken id = true ↔ id ∈ taken
  /-- The numbers that were tried are taken for good. -/
  tried : Tried a.tried taken

theorem taken_of_lt_firstFree {a : Anchors} {base : String} {n fuel m : Nat} (hn : n ≤ m)
    (hm : m < firstFree a base n fuel) : a.taken (numbered base m) = true := by
  induction fuel generalizing n with
  | zero => exact absurd hm (by simpa [firstFree] using hn)
  | succ fuel ih =>
    unfold firstFree at hm
    split at hm
    · next ht =>
      rcases Nat.eq_or_lt_of_le hn with rfl | hlt
      · exact ht
      · exact ih hlt hm
    · omega

theorem le_firstFree (a : Anchors) (base : String) (n fuel : Nat) : n ≤ firstFree a base n fuel := by
  induction fuel generalizing n with
  | zero => exact Nat.le_refl n
  | succ fuel ih =>
    unfold firstFree
    split
    · exact Nat.le_of_succ_le (ih (n + 1))
    · exact Nat.le_refl n

namespace Tracks

variable {a : Anchors} {taken : Finset String}

theorem empty : Tracks {} ∅ := ⟨by simp [Anchors.taken, Table.has], by simp [Tried]⟩

theorem mem_iff_find? (h : a.Tracks taken) (base : String) :
    base ∈ taken ↔ (a.tried.find? base).isSome = true :=
  (h.same base).symm

/-- The search behind the last number that was tried finds the least number that is free. -/
theorem find_eq_firstFree (h : a.Tracks taken) {base : String} {last : Nat}
    (hfind : a.tried.find? base = some last) :
    Nat.find (Reference.exists_number taken base) =
      firstFree a base (last + 1) a.tried.length := by
  have hbase : a.taken base = true := by simp [Anchors.taken, Table.has, hfind]
  have hfree := taken_firstFree hbase (last + 1)
  have hstart := le_firstFree a base (last + 1) a.tried.length
  -- it is free, and no smaller one is
  rw [Nat.find_eq_iff]
  refine ⟨⟨by omega, fun hmem => ?_⟩, fun m hm hfound => hfound.2 ?_⟩
  · rw [(h.same _).mpr hmem] at hfree
    cases hfree
  · -- a smaller number was tried before, or is passed over now
    rcases Nat.lt_or_ge last m with hlast | hlast
    · exact (h.same _).mp (taken_of_lt_firstFree hlast hm)
    · exact h.tried base last hfind m hfound.1 hlast

theorem anchorFor_eq (h : a.Tracks taken) (text : String) :
    (a.anchorFor text).1 = Reference.anchorFor taken text := by
  unfold anchorFor Reference.anchorFor
  simp only
  split
  · next hfind => rw [if_neg (by simp [h.mem_iff_find?, hfind])]
  · next last hfind => rw [if_pos (by simp [h.mem_iff_find?, hfind]), h.find_eq_firstFree hfind]

/-- **Making an anchor** keeps track: the numbers below the new one are taken as well. -/
theorem anchorFor (h : a.Tracks taken) (text : String) :
    Tracks (a.anchorFor text).2 (insert (a.anchorFor text).1 taken) where
  same := fun id => by
    rw [(a.anchorFor_spec text).2.2, Finset.mem_insert, h.same]
  tried := by
    unfold Anchors.anchorFor
    simp only
    split
    · exact (h.tried.mono (Finset.subset_insert _ _)).insert (by omega)
    · next last hfind =>
      refine ((h.tried.mono (Finset.subset_insert _ _)).insert fun n hn hle => ?_).insert (by omega)
      rcases Nat.eq_or_lt_of_le hle with rfl | hlt
      · exact Finset.mem_insert_self _ _
      · -- the anchor has the least free number, so those below it are taken
        have hless := Nat.find_min (Reference.exists_number taken (slug text))
          (h.find_eq_firstFree hfind ▸ hlt)
        exact Finset.mem_insert_of_mem (by simpa [hn] using hless)

/-- **Reserving an id** keeps track. -/
theorem reserve (h : a.Tracks taken) (id : String) :
    Tracks (a.reserve id).2 (insert id taken) where
  same := fun other => by
    rw [(a.reserve_spec id).2, Finset.mem_insert, h.same]
  tried := by
    unfold Anchors.reserve
    split
    · exact h.tried.mono (Finset.subset_insert _ _)
    · exact (h.tried.mono (Finset.subset_insert _ _)).insert (by omega)

/-- **One request** is answered as by the reference, and the anchors keep track. -/
theorem serve (h : a.Tracks taken) (r : Request) :
    (a.serve r).1 = (Reference.serve taken r).1 ∧
      Tracks (a.serve r).2 (Reference.serve taken r).2 := by
  cases r with
  | anchor text =>
    have hnext := h.anchorFor text
    rw [h.anchorFor_eq] at hnext
    exact ⟨congrArg Answer.given (h.anchorFor_eq text), hnext⟩
  | reserve id =>
    have hnext := h.reserve id
    have hfree : (a.reserve id).1 = true ↔ id ∉ taken := by
      rw [(a.reserve_spec id).1, Bool.not_eq_true', ← h.same, Bool.not_eq_true]
    by_cases hmem : id ∈ taken
    · have hrefused : (a.reserve id).1 = false := by simpa [hmem] using hfree
      rw [Finset.insert_eq_of_mem hmem] at hnext
      simpa [Anchors.serve, Reference.serve, hmem, hrefused] using hnext
    · simpa [Anchors.serve, Reference.serve, hmem, hfree.mpr hmem] using hnext

end Tracks

/-- **Anchors answer as the reference does**, whatever is asked of a new document, and no id is handed
out twice. -/
theorem answers_eq_reference (requests : List Request) :
    answers serve {} requests = answers Reference.serve ∅ requests ∧
      ((answers serve {} requests).filterMap Answer.handedOut?).Nodup := by
  have hsame : answers serve {} requests = answers Reference.serve ∅ requests :=
    answers_eq_of_step (R := Tracks) (fun _ _ r h => h.serve r) .empty requests
  exact ⟨hsame, hsame ▸ (Reference.nodup_handedOut ∅ requests).1⟩

-- the number of a second `A` steps over the id that a text of its own has made
example :
    answers serve {} [.anchor "A", .anchor "A 1", .anchor "A", .reserve "a", .anchor "A 1"] =
      [.given "a", .given "a-1", .given "a-2", .refused "a", .given "a-1-1"] := by
  decide

end Anchors

end ArticleMarkup
