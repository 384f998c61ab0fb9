import ArticleMarkup.Proofs.Html.LineEnds
import ArticleMarkup.Proofs.Html.Modes
import ArticleMarkup.Proofs.Html.Pending
import ArticleMarkup.Proofs.Html.Tally

/-!
# The element budget and the parser

The estimate counts each tag where its `<` stands, and the parser handles it where it ends, if it is a
tag at all. In between lies the room that a tag has. With it, each character adds to the worth of the
parser at most four times what it adds to the estimate, unless the parser remembers more formatting
elements than the account, or an end tag makes an element.

## Main definitions

- `shortfall` — the formatting elements that the account misses
- `strays` — the elements that end tags make

## Main statements

- `Parser.feed_le` — one character
- `Parser.run_le` — the characters of a text
- `elementCount_tree_le` — **the tree of a text that is within the budget**
-/

namespace ArticleMarkup.Html

open Shape

-- ════════════════════════════════════════════════════════════════════════
-- The account
-- ════════════════════════════════════════════════════════════════════════

/-- The tag that begins here. -/
def tagAt? (c : Char) (cs : List Char) : Option TagMark :=
  if c = '<' then tagMark? cs else none

theorem tagsOf_cons (c : Char) (cs : List Char) :
    tagsOf (c :: cs) = (tagAt? c cs).toList ++ tagsOf cs := by
  rw [tagsOf, tagAt?]
  split <;> rfl

theorem takeWhile_normalizeNewlines (cs : List Char) :
    (normalizeNewlines cs).takeWhile Text.isAsciiAlnum = cs.takeWhile Text.isAsciiAlnum := by
  fun_induction normalizeNewlines cs with
  | case1 => rfl
  | case2 cs ih => rfl
  | case3 cs _ ih => rfl
  | case4 c cs _ _ ih => rw [List.takeWhile_cons, List.takeWhile_cons, ih]

theorem nameMark?_normalizeNewlines (closing : Bool) (cs : List Char) :
    nameMark? closing (normalizeNewlines cs) = nameMark? closing cs := by
  have hname := takeWhile_normalizeNewlines cs
  fun_cases normalizeNewlines cs with
  | case1 => rfl
  | case2 cs => rfl
  | case3 cs _ => rfl
  | case4 c cs _ hc =>
    rw [normalizeNewlines_cons_of_ne hc] at hname
    rw [nameMark?, nameMark?, hname]

theorem tagMark?_normalizeNewlines (cs : List Char) :
    tagMark? (normalizeNewlines cs) = tagMark? cs := by
  by_cases hslash : cs.head? = some '/'
  · obtain ⟨rest, rfl⟩ : ∃ rest, cs = '/' :: rest := by
      cases cs with
      | nil => cases hslash
      | cons c rest =>
        cases hslash
        exact ⟨rest, rfl⟩
    rw [normalizeNewlines_cons_of_ne (by decide), tagMark?_slash, tagMark?_slash,
      nameMark?_normalizeNewlines]
  · have hslash' : (normalizeNewlines cs).head? ≠ some '/' := by
      fun_cases normalizeNewlines cs with
      | case1 => exact hslash
      | case2 cs => exact fun heq => absurd (Option.some.inj heq) (by decide)
      | case3 cs _ => exact fun heq => absurd (Option.some.inj heq) (by decide)
      | case4 c cs _ _ => exact hslash
    rw [tagMark?_of_ne hslash', tagMark?_of_ne hslash, nameMark?_normalizeNewlines]

theorem tagsOf_normalizeNewlines (cs : List Char) : tagsOf (normalizeNewlines cs) = tagsOf cs := by
  fun_induction normalizeNewlines cs with
  | case1 => rfl
  | case2 cs ih => exact ih
  | case3 cs _ ih => exact ih
  | case4 c cs _ _ ih => rw [tagsOf, tagsOf, ih, tagMark?_normalizeNewlines]

/-- The tags that are counted are those of the characters that are scanned. -/
theorem tagsOf_inputChars (html : String) : tagsOf (inputChars html) = tagsOf html.toList := by
  unfold inputChars
  rw [tagsOf_normalizeNewlines]
  split
  · next cs h =>
    rw [h]
    rfl
  · rfl

namespace Account

variable {account : Account} {tag : TagMark}

/-- The account after the tag that begins somewhere, if one does. -/
def after (account : Account) : Option TagMark → Account
  | none => account
  | some tag => account.enter tag

theorem foldl_tagsOf_cons (account : Account) (c : Char) (cs : List Char) :
    (tagsOf (c :: cs)).foldl enter account = (tagsOf cs).foldl enter (account.after (tagAt? c cs)) := by
  rw [tagsOf_cons, List.foldl_append]
  cases tagAt? c cs <;> rfl

/-- **What a tag adds** to the estimate while that is not at its end: the formatting elements that are
open, and one for a start tag. -/
theorem estimate_enter (h : (account.enter tag).estimate < estimateCap) :
    (account.enter tag).estimate = account.estimate + min account.unclosed.length
      (account.enter tag).unclosed.length + (if tag.closing then 0 else 1) ∧
    (account.enter tag).unclosed.length ≤ account.unclosed.length + (if tag.closing then 0 else 1) ∧
    account.unclosed.length ≤ (account.enter tag).unclosed.length + (if tag.closing then 1 else 0) := by
  obtain ⟨closing, name⟩ := tag
  cases closing with
  | true =>
    have hle := @List.length_erase_le _ _ name account.unclosed
    have hge := @List.le_length_erase _ _ _ name account.unclosed
    simp only [enter, if_true] at h ⊢
    omega
  | false =>
    simp only [enter, Bool.false_eq_true, if_false] at h ⊢
    split
    · rw [List.length_cons]
      omega
    · omega

theorem estimate_le_foldl (tags : List TagMark)
    (h : (tags.foldl enter account).estimate < estimateCap) :
    account.estimate ≤ (tags.foldl enter account).estimate := by
  induction tags generalizing account with
  | nil => exact Nat.le_refl _
  | cons tag tags ih =>
    have hrest := ih h
    have hone := (estimate_enter (hrest.trans_lt h)).1
    rw [List.foldl_cons] at h ⊢
    omega

end Account

/-- **The estimate** of a text that passes the check is within the limit. -/
theorem elementEstimate_le_of_checkBudget {html : String} {limit : Nat}
    (h : checkBudget html limit = none) : elementEstimate html ≤ limit :=
  checkBudget_eq_none_iff.mp h

-- ════════════════════════════════════════════════════════════════════════
-- The room of a tag
-- ════════════════════════════════════════════════════════════════════════

/-- **The room** that is left for the tag that is being read, by the formatting elements that are open
in the account and those that are remembered. -/
def room (unclosed remembered : Nat) : Option Bool → Nat
  | none => 0
  | some false => 4 + 4 * remembered
  | some true => 4 * min unclosed remembered

/-- **A tag that is counted** makes room for itself, as far as the account knows of the formatting
elements that are remembered. -/
theorem room_enter_le {account : Account} {tag : TagMark} {pending pending' : Option Bool}
    (remembered : Nat) (hcap : (account.enter tag).estimate < estimateCap)
    (hpending : pending' = none ∨ pending' = pending ∨ pending' = some tag.closing) :
    room (account.enter tag).unclosed.length remembered pending' + 4 * account.estimate ≤
      room account.unclosed.length remembered pending + 4 * (account.enter tag).estimate +
        (if tag.closing then 0 else 4 * (remembered - account.unclosed.length)) := by
  obtain ⟨hestimate, hmore, hless⟩ := Account.estimate_enter hcap
  obtain ⟨closing, name⟩ := tag
  rcases hpending with rfl | rfl | rfl
  · cases closing <;> simp only [room] <;> omega
  · cases closing <;> match pending' with
      | none | some false | some true =>
        simp only [room]
        omega
  · cases closing <;> simp only [room, if_true, Bool.false_eq_true, if_false] at * <;> omega

-- ════════════════════════════════════════════════════════════════════════
-- One character
-- ════════════════════════════════════════════════════════════════════════

namespace Builder

variable {b : Builder}

/-- The elements that end tags make among the tokens. -/
def strays (b : Builder) : List Token → Nat
  | [] => 0
  | .endTag name :: tokens => stray b.stack name + (b.process (.endTag name)).strays tokens
  | token :: tokens => (b.process token).strays tokens

theorem le_strays_append (b : Builder) (tokens : List Token) (name : String) :
    stray (tokens.foldl process b).stack name ≤ b.strays (tokens ++ [.endTag name]) := by
  induction tokens generalizing b with
  | nil => exact Nat.le_add_right _ _
  | cons token tokens ih =>
    have hrest := ih (b.process token)
    cases token with
    | endTag name => exact hrest.trans (Nat.le_add_left _ _)
    | char | null | startTag | comment | remark => exact hrest

theorem keeps_foldl_process (hb : b.shape.WellFormed) {tokens : List Token}
    (htext : ∀ t ∈ tokens, t.isTag = false) : b.shape.Keeps (tokens.foldl process b).shape := by
  induction tokens generalizing b with
  | nil => exact .refl hb
  | cons token tokens ih =>
    rw [List.forall_mem_cons] at htext
    have hone := keeps_process hb htext.1
    exact hone.trans (ih hone.wellFormed htext.2)

end Builder

namespace Parser

variable {p : Parser} {account : Account}

/-- The formatting elements that the parser remembers. -/
def remembered (p : Parser) : Nat :=
  p.builder.shape.remembered

/-- The formatting elements that the parser remembers and the account does not know. -/
def missing (p : Parser) (account : Account) : Nat :=
  p.remembered - account.unclosed.length

/-- What one character gives. -/
def tokens (p : Parser) (c : Char) : List Token :=
  (p.scanner.step p.builder.readsForeign c).2

/-- **What the estimate falls short by** at one character: a start tag that is counted there, and an end
tag that is handled there, cost the formatting elements that the account does not know. -/
def shortfallAt (p : Parser) (account : Account) (c : Char) (rest : List Char) : Nat :=
  (match tagAt? c rest with
    | some tag => if tag.closing then 0 else p.missing account
    | none => 0) +
  (if (p.tokens c).any Token.isEnd then (p.feed c).missing account else 0)

/-- The room that is left in front of the characters `rest`. -/
def room (p : Parser) (account : Account) (rest : List Char) : Nat :=
  Html.room account.unclosed.length p.remembered (p.scanner.pending rest)

theorem builder_feed (p : Parser) (c : Char) :
    (p.feed c).builder = (p.tokens c).foldl Builder.process p.builder := by
  unfold feed
  dsimp only
  split <;> rfl

theorem pending_feed (p : Parser) (c : Char) (rest : List Char) :
    (p.feed c).scanner.pending rest =
      (p.scanner.step p.builder.readsForeign c).1.pending rest := by
  unfold feed
  dsimp only
  split <;> rfl

/-- The room after a character of text: a tag that is counted makes some, and nothing else takes
any. -/
theorem room_text_le {c : Char} {rest : List Char} {pending pending' : Option Bool} (p : Parser)
    (hcap : (account.after (tagAt? c rest)).estimate < estimateCap)
    (hpending : pending' = none ∨ pending' = pending ∨
      c = '<' ∧ pending' = (tagMark? rest).map (·.closing)) :
    Html.room (account.after (tagAt? c rest)).unclosed.length p.remembered pending' +
        4 * account.estimate ≤
      Html.room account.unclosed.length p.remembered pending +
        4 * (account.after (tagAt? c rest)).estimate + 4 * p.shortfallAt account c rest := by
  unfold shortfallAt
  cases hat : tagAt? c rest with
  | none =>
    have hnext : pending' = none ∨ pending' = pending := by
      rcases hpending with hstop | hgo | ⟨rfl, hbegin⟩
      · exact .inl hstop
      · exact .inr hgo
      · rw [tagAt?, if_pos rfl] at hat
        rw [hat] at hbegin
        exact .inl hbegin
    rw [Account.after]
    rcases hnext with rfl | rfl
    · rw [Html.room]
      omega
    · omega
  | some tag =>
    rw [hat] at hcap
    have hnext : pending' = none ∨ pending' = pending ∨ pending' = some tag.closing := by
      refine hpending.imp_right (Or.imp_right ?_)
      rintro ⟨rfl, hbegin⟩
      rw [tagAt?, if_pos rfl] at hat
      rw [hat] at hbegin
      exact hbegin
    have henter := room_enter_le p.remembered hcap hnext
    dsimp only [Account.after, missing]
    split at henter <;> simp only [*, if_true, Bool.false_eq_true, if_false] <;> omega

/-- **One character** adds to the worth of the parser and its room at most four times what it adds to
the estimate and what that falls short by. -/
theorem feed_le (hb : p.builder.shape.WellFormed) (c : Char) (rest : List Char)
    (hcap : (account.after (tagAt? c rest)).estimate < estimateCap) :
    (p.feed c).builder.shape.WellFormed ∧
      (p.feed c).builder.shape.worth + (p.feed c).room (account.after (tagAt? c rest)) rest +
          4 * account.estimate ≤
        p.builder.shape.worth + p.room account (c :: rest) +
          4 * (account.after (tagAt? c rest)).estimate + 4 * p.shortfallAt account c rest +
          p.builder.strays (p.tokens c) := by
  have hreads := p.scanner.reads_step p.builder.readsForeign c rest
  have hbuilder := p.builder_feed c
  have hpending := p.pending_feed c rest
  have htokens : p.tokens c = (p.scanner.step p.builder.readsForeign c).2 := rfl
  unfold room
  rw [hpending]
  generalize p.scanner.step p.builder.readsForeign c = out at *
  cases hreads with
  | text s tokens htext hnext =>
    have hkeeps := Builder.keeps_foldl_process hb htext
    rw [htokens] at hbuilder
    rw [← hbuilder] at hkeeps
    have hworth := hkeeps.worth
    have hsame : (p.feed c).remembered = p.remembered := hkeeps.remembered
    have hroom := p.room_text_le hcap hnext
    refine ⟨hkeeps.wellFormed, ?_⟩
    rw [hsame]
    dsimp only
    omega
  | tag s tokens t htext htag hc hbefore hnone =>
    have hkeeps := Builder.keeps_foldl_process hb htext
    have hworth := hkeeps.worth
    have hsame : (tokens.foldl Builder.process p.builder).shape.remembered = p.remembered :=
      hkeeps.remembered
    have hat : tagAt? c rest = none := if_neg hc
    rw [htokens, List.foldl_append] at hbuilder
    rw [hat, hbefore, hnone]
    cases t with
    | startTag tag selfClosing =>
      have hstart := @Builder.afterStart_process _ tag selfClosing hkeeps.wellFormed
      have hfeed : (p.feed c).builder =
          (tokens.foldl Builder.process p.builder).process (.startTag tag selfClosing) := hbuilder
      rw [← hfeed] at hstart
      have hafter := hstart.worth
      rw [hsame] at hafter
      refine ⟨hstart.wellFormed, ?_⟩
      simp only [Account.after, Html.room, Token.isEnd]
      omega
    | endTag name =>
      have hend := @Builder.afterEnd_process _ name hkeeps.wellFormed
      have hfeed : (p.feed c).builder =
          (tokens.foldl Builder.process p.builder).process (.endTag name) := hbuilder
      rw [← hfeed] at hend
      have hafter := hend.worth
      have hstrays := p.builder.le_strays_append tokens name
      have hless : (p.feed c).remembered ≤ p.remembered := hsame ▸ hend.remembered
      have hsame' : (p.feed c).builder.shape.remembered = (p.feed c).remembered := rfl
      have hany : (p.tokens c).any Token.isEnd = true := by
        rw [htokens, List.any_append]
        exact Bool.or_true _
      have hshort : p.shortfallAt account c rest = (p.feed c).missing account := by
        rw [shortfallAt, hat, hany]
        exact Nat.zero_add _
      refine ⟨hend.wellFormed, ?_⟩
      rw [hshort, htokens]
      simp only [Account.after, Html.room, Token.isEnd, missing]
      omega
    | char | null | comment | remark => cases htag

-- ════════════════════════════════════════════════════════════════════════
-- A whole text
-- ════════════════════════════════════════════════════════════════════════

/-- What the estimate falls short by, over some characters. -/
def shortfallFrom (p : Parser) (account : Account) : List Char → Nat
  | [] => 0
  | c :: cs =>
    p.shortfallAt account c cs + shortfallFrom (p.feed c) (account.after (tagAt? c cs)) cs

/-- The elements that end tags make, over some characters. -/
def straysFrom (p : Parser) : List Char → Nat
  | [] => 0
  | c :: cs => p.builder.strays (p.tokens c) + straysFrom (p.feed c) cs

/-- **The characters of a text** add to the worth of the parser at most four times what they add to
the estimate and what that falls short by. -/
theorem run_le (cs : List Char) (hb : p.builder.shape.WellFormed)
    (hcap : ((tagsOf cs).foldl Account.enter account).estimate < estimateCap) :
    (cs.foldl feed p).builder.shape.WellFormed ∧
      (cs.foldl feed p).builder.shape.worth + 4 * account.estimate ≤
        p.builder.shape.worth + p.room account cs +
          4 * ((tagsOf cs).foldl Account.enter account).estimate +
          4 * p.shortfallFrom account cs + p.straysFrom cs := by
  induction cs generalizing p account with
  | nil =>
    refine ⟨hb, ?_⟩
    simp only [List.foldl_nil, tagsOf]
    omega
  | cons c cs ih =>
    rw [Account.foldl_tagsOf_cons] at hcap ⊢
    have hbefore := (Account.estimate_le_foldl _ hcap).trans_lt hcap
    obtain ⟨hwell, hone⟩ := feed_le hb c cs hbefore
    obtain ⟨hwell', hrest⟩ := ih hwell hcap
    refine ⟨hwell', ?_⟩
    rw [List.foldl_cons, shortfallFrom, straysFrom]
    omega

end Parser

theorem wellFormed_start : ({} : Builder).shape.WellFormed where
  elements := Nat.one_pos
  stack_lt _ he := absurd he List.not_mem_nil
  distinct := .nil
  marks_lt _ _ hm := absurd hm List.not_mem_nil
  formatting _ _ hm := absurd hm List.not_mem_nil
  same _ he := absurd he List.not_mem_nil
  form_lt _ h := absurd h.symm (Option.some_ne_none _)
  form _ h := absurd h.symm (Option.some_ne_none _)
  modes := List.not_mem_nil

/-- **What the estimate for a text falls short by**: the formatting elements that the parser remembers
and the account does not know, at each start tag that is counted and after each end tag. -/
def shortfall (html : String) : Nat :=
  ({} : Parser).shortfallFrom {} (inputChars html)

/-- **The elements that the end tags of a text make**: paragraphs that are not open, and line
breaks. -/
def strays (html : String) : Nat :=
  ({} : Parser).straysFrom (inputChars html)

theorem next_le_worth (s : Shape) : s.next ≤ s.worth := by
  unfold worth reach
  omega

/-- **The tree of a text that is within the budget** has at most four elements for each that the limit
allows, if the estimate falls short by nothing and no end tag makes an element. The estimate is below
its cap whenever the limit is. -/
theorem elementCount_tree_le {html : String} {limit : Nat}
    (hcap : elementEstimate html < estimateCap) (h : checkBudget html limit = none) :
    (tree html).elementCount ≤ 4 * (limit + shortfall html) + strays html := by
  have hlimit := elementEstimate_le_of_checkBudget h
  unfold elementEstimate at hcap hlimit
  rw [← tagsOf_inputChars] at hcap hlimit
  obtain ⟨hwell, hrun⟩ := @Parser.run_le {} {} (inputChars html) wellFormed_start hcap
  have htext := Builder.keeps_foldl_process hwell
    ((inputChars html).foldl Parser.feed {}).scanner.isTag_finish
  have hfinish := htext.trans (Builder.keeps_finish htext.wellFormed)
  have hstart : ({} : Parser).builder.shape.worth = 1 := rfl
  have hroom : ({} : Parser).room {} (inputChars html) = 0 := rfl
  have helements : (tree html).elementCount + 1 ≤
      ((inputChars html).foldl Parser.feed {}).builder.shape.worth :=
    hfinish.wellFormed.elements.trans_le ((next_le_worth _).trans hfinish.worth)
  rw [hstart, hroom, ← shortfall, ← strays] at hrun
  omega

/-- Formatting elements that are opened again in each paragraph, all of which the account knows. -/
theorem elementCount_tree_le_reopened :
    (elementEstimate "<b><i>a<p>b<p>c</i></b>" < estimateCap ∧
      checkBudget "<b><i>a<p>b<p>c</i></b>" 10 = none) ∧
    shortfall "<b><i>a<p>b<p>c</i></b>" = 0 ∧ strays "<b><i>a<p>b<p>c</i></b>" = 0 ∧
    (tree "<b><i>a<p>b<p>c</i></b>").elementCount ≤ 4 * (10 + 0) + 0 := by
  have hcap : elementEstimate "<b><i>a<p>b<p>c</i></b>" < estimateCap := by decide
  have hcheck : checkBudget "<b><i>a<p>b<p>c</i></b>" 10 = none := by decide
  have hshortfall : shortfall "<b><i>a<p>b<p>c</i></b>" = 0 := by decide
  have hstrays : strays "<b><i>a<p>b<p>c</i></b>" = 0 := by decide
  have hcount := elementCount_tree_le hcap hcheck
  rw [hshortfall, hstrays] at hcount
  exact ⟨⟨hcap, hcheck⟩, hshortfall, hstrays, hcount⟩

/-- End tags of paragraphs that are not open make elements that no limit stops. -/
theorem elementCount_tree_paragraphEnds :
    checkBudget "</p></p></p></p></p>" 1 = none ∧
      ¬ (tree "</p></p></p></p></p>").elementCount ≤ 4 * 1 := by
  decide

end ArticleMarkup.Html
