import ArticleMarkup.Html.Budget
import ArticleMarkup.Html.Fragment

/-!
# The tag that is being read

The scanner gives a tag when it comes to the `>` of the tag, and each tag begins at a `<` of its own
after which a tag of the same kind can be seen. So while characters are read, at most one tag is under
way, and its kind is known from the `<` on.

## Main definitions

- `Scanner.pending` — the kind of the tag that is being read
- `Scanner.Reads` — what one character may do

## Main statements

- `Scanner.reads_step` — one character
-/

namespace ArticleMarkup.Html

/-- The tag whose name begins here, if a letter stands here. -/
def nameMark? (closing : Bool) (cs : List Char) : Option TagMark :=
  match cs with
  | c :: _ =>
    if Text.isAsciiLetter c then
      some ⟨closing, String.ofList ((cs.takeWhile Text.isAsciiAlnum).map Char.toLower)⟩
    else none
  | [] => none

theorem tagMark?_slash (cs : List Char) : tagMark? ('/' :: cs) = nameMark? true cs :=
  rfl

theorem tagMark?_of_ne {cs : List Char} (h : cs.head? ≠ some '/') :
    tagMark? cs = nameMark? false cs := by
  unfold tagMark?
  split
  next closing name heq =>
  split at heq
  · exact absurd rfl h
  · cases heq
    rfl

/-- The token is an end tag. -/
def Token.isEnd : Token → Bool
  | .endTag _ => true
  | _ => false

namespace Scanner

/-- **The tag that is being read** in front of the characters `rest`: whether it is an end tag. -/
def pending (s : Scanner) (rest : List Char) : Option Bool :=
  match s.state with
  | .tagOpen | .rawTagOpen => (tagMark? rest).map (·.closing)
  | .endTagOpen | .rawEndTagOpen => (tagMark? ('/' :: rest)).map (·.closing)
  | .tagName | .beforeAttrName | .attrName | .afterAttrName | .beforeAttrValue | .attrValue _
  | .afterAttrValue | .selfClosing | .reference (some _) _ | .rawEndTagName _ => some s.isEnd
  | _ => none

/-- **What one character may do** where a tag of the kind `before` is being read and `rest` follows:
text is given and the tag goes on, comes to nothing or a new one begins, or the tag is given. -/
inductive Reads (before : Option Bool) (c : Char) (rest : List Char) :
    Scanner × List Token → Prop
  | text (s : Scanner) (tokens : List Token) (htext : ∀ t ∈ tokens, t.isTag = false)
      (hpending : s.pending rest = none ∨ s.pending rest = before ∨
        c = '<' ∧ s.pending rest = (tagMark? rest).map (·.closing)) : Reads before c rest (s, tokens)
  | tag (s : Scanner) (tokens : List Token) (t : Token) (htext : ∀ t ∈ tokens, t.isTag = false)
      (htag : t.isTag = true) (hc : c ≠ '<') (hbefore : before = some t.isEnd)
      (hpending : s.pending rest = none) : Reads before c rest (s, tokens ++ [t])

variable {s : Scanner} {before : Option Bool} {c : Char} {rest : List Char}

theorem isTag_chars (cs : List Char) : ∀ t ∈ chars cs, t.isTag = false := by
  intro t ht
  obtain ⟨c, -, rfl⟩ := List.mem_map.mp ht
  rfl

theorem isTag_singleton {t : Token} (h : t.isTag = false) : ∀ t' ∈ [t], t'.isTag = false :=
  List.forall_mem_singleton.mpr h

theorem isTag_nil : ∀ t ∈ ([] : List Token), t.isTag = false :=
  fun _ ht => absurd ht List.not_mem_nil

namespace Reads

/-- No tag is being read any more. -/
theorem stop {tokens : List Token} (h : s.pending rest = none)
    (htext : ∀ t ∈ tokens, t.isTag = false) : Reads before c rest (s, tokens) :=
  .text s tokens htext (.inl h)

/-- The tag is read on. -/
theorem goOn (h : s.pending rest = before) : Reads before c rest (s, []) :=
  .text s [] isTag_nil (.inr (.inl h))

/-- A tag begins. -/
theorem begin {tokens : List Token} (hc : c = '<')
    (h : s.pending rest = (tagMark? rest).map (·.closing)) (htext : ∀ t ∈ tokens, t.isTag = false) :
    Reads before c rest (s, tokens) :=
  .text s tokens htext (.inr (.inr ⟨hc, h⟩))

/-- Text in front of what is given. -/
theorem prepend {before : Option Bool} {out : Scanner × List Token} (h : Reads before c rest out)
    {tokens : List Token} (htokens : ∀ t ∈ tokens, t.isTag = false) :
    Reads before c rest (out.1, tokens ++ out.2) := by
  cases h with
  | text s more htext hpending =>
    refine .text s _ (fun t ht => ?_) hpending
    rcases List.mem_append.mp ht with ht | ht
    · exact htokens t ht
    · exact htext t ht
  | tag s more t htext htag hc hbefore hpending =>
    rw [← List.append_assoc]
    refine .tag s _ t (fun t ht => ?_) htag hc hbefore hpending
    rcases List.mem_append.mp ht with ht | ht
    · exact htokens t ht
    · exact htext t ht

theorem ite {p : Prop} [Decidable p] {out out' : Scanner × List Token}
    (h : p → Reads before c rest out) (h' : ¬p → Reads before c rest out') :
    Reads before c rest (if p then out else out') := by
  split
  · next hp => exact h hp
  · next hp => exact h' hp

end Reads

-- ════════════════════════════════════════════════════════════════════════
-- Text
-- ════════════════════════════════════════════════════════════════════════

theorem reads_stepScript (hs : s.state = .text) : Reads before c rest (s.stepScript c) := by
  have hstay : Reads before c rest (s, [.char (valueChar c)]) :=
    .stop (by rw [pending, hs]) (isTag_singleton rfl)
  unfold stepScript
  split
  · exact .ite (fun hc => .begin hc rfl isTag_nil) fun _ => hstay
  · refine .ite (fun _ => .stop rfl (isTag_singleton rfl)) fun _ => ?_
    exact .ite (fun hc => .begin hc rfl isTag_nil) fun _ => hstay
  · refine .ite (fun _ => .stop rfl (isTag_singleton rfl)) fun _ => ?_
    exact .ite (fun hc => .begin hc rfl (isTag_singleton rfl)) fun _ => hstay

/-- **Text** only begins tags. -/
theorem reads_stepText (s : Scanner) (before : Option Bool) (c : Char) (rest : List Char) :
    Reads before c rest (s.stepText c) := by
  unfold stepText
  dsimp only
  split
  · refine .ite (fun _ => .stop rfl isTag_nil) fun _ => ?_
    refine .ite (fun hc => .begin hc rfl isTag_nil) fun _ => ?_
    exact .ite (fun _ => .stop rfl (isTag_singleton rfl)) fun _ => .stop rfl (isTag_singleton rfl)
  · refine .ite (fun _ => .stop rfl isTag_nil) fun _ => ?_
    exact .ite (fun hc => .begin hc rfl isTag_nil) fun _ => .stop rfl (isTag_singleton rfl)
  · exact .ite (fun hc => .begin hc rfl isTag_nil) fun _ => .stop rfl (isTag_singleton rfl)
  · exact reads_stepScript rfl
  · exact .stop rfl (isTag_singleton rfl)

theorem reads_textThen (s : Scanner) (before : Option Bool) (cs : List Char) (c : Char)
    (rest : List Char) : Reads before c rest (s.textThen cs c) :=
  (reads_stepText s before c rest).prepend (isTag_chars cs)

-- ════════════════════════════════════════════════════════════════════════
-- Tags
-- ════════════════════════════════════════════════════════════════════════

theorem isEnd_endAttr (s : Scanner) : s.endAttr.isEnd = s.isEnd := by
  unfold endAttr
  split <;> rfl

/-- **A tag is given** at its end. -/
theorem reads_endTag (hc : c = '>') (selfClosing : Bool) :
    Reads (some s.isEnd) c rest (s.endTag selfClosing) := by
  have hne : c ≠ '<' := by
    rw [hc]
    decide
  unfold endTag
  dsimp only
  split
  · next hend =>
    rw [isEnd_endAttr] at hend
    exact @Reads.tag _ c rest _ [] _ isTag_nil rfl hne (congrArg some hend) rfl
  · next hend =>
    rw [isEnd_endAttr, Bool.not_eq_true] at hend
    exact @Reads.tag _ c rest _ [] _ isTag_nil rfl hne (congrArg some hend) rfl

theorem isEnd_beginAttr (s : Scanner) (c : Char) : (s.beginAttr c).isEnd = s.isEnd :=
  isEnd_endAttr s

theorem reads_stepBeforeAttrName : Reads (some s.isEnd) c rest (s.stepBeforeAttrName c) := by
  unfold stepBeforeAttrName
  refine .ite (fun _ => .goOn rfl) fun _ => ?_
  refine .ite (fun _ => .goOn rfl) fun _ => ?_
  exact .ite (fun hc => reads_endTag hc false) fun _ => .goOn (congrArg some (isEnd_beginAttr s c))

theorem reads_stepTagName (hs : s.state = .tagName) :
    Reads (some s.isEnd) c rest (s.stepTagName c) := by
  unfold stepTagName
  refine .ite (fun _ => .goOn rfl) fun _ => ?_
  refine .ite (fun _ => .goOn rfl) fun _ => ?_
  refine .ite (fun hc => reads_endTag hc false) fun _ => .goOn ?_
  rw [pending, hs]

theorem reads_stepAttrName (hs : s.state = .attrName) :
    Reads (some s.isEnd) c rest (s.stepAttrName c) := by
  unfold stepAttrName
  refine .ite (fun _ => .goOn rfl) fun _ => ?_
  refine .ite (fun _ => .goOn rfl) fun _ => ?_
  refine .ite (fun _ => .goOn rfl) fun _ => ?_
  refine .ite (fun hc => reads_endTag hc false) fun _ => .goOn ?_
  rw [pending, hs]

theorem reads_stepAfterAttrName (hs : s.state = .afterAttrName) :
    Reads (some s.isEnd) c rest (s.stepAfterAttrName c) := by
  unfold stepAfterAttrName
  refine .ite (fun _ => .goOn (by rw [pending, hs])) fun _ => ?_
  refine .ite (fun _ => .goOn rfl) fun _ => ?_
  refine .ite (fun _ => .goOn rfl) fun _ => ?_
  exact .ite (fun hc => reads_endTag hc false) fun _ => .goOn (congrArg some (isEnd_beginAttr s c))

theorem reads_stepAttrValue (s : Scanner) (delimiter : Delimiter) (c : Char) (rest : List Char) :
    Reads (some s.isEnd) c rest (s.stepAttrValue delimiter c) := by
  unfold stepAttrValue
  dsimp only
  refine .ite (fun _ => .goOn rfl) fun _ => ?_
  split
  · exact .ite (fun _ => .goOn rfl) fun _ => .goOn rfl
  · exact .ite (fun _ => .goOn rfl) fun _ => .goOn rfl
  · refine .ite (fun _ => .goOn rfl) fun _ => ?_
    exact .ite (fun hc => @reads_endTag (s.goTo (.attrValue .space)) c rest hc false)
      fun _ => .goOn rfl

theorem reads_stepBeforeAttrValue (hs : s.state = .beforeAttrValue) :
    Reads (some s.isEnd) c rest (s.stepBeforeAttrValue c) := by
  unfold stepBeforeAttrValue
  refine .ite (fun _ => .goOn (by rw [pending, hs])) fun _ => ?_
  refine .ite (fun _ => .goOn rfl) fun _ => ?_
  refine .ite (fun _ => .goOn rfl) fun _ => ?_
  exact .ite (fun hc => reads_endTag hc false) fun _ => reads_stepAttrValue s .space c rest

/-- A letter after `<` or `</` begins a tag of the kind that was seen. -/
theorem tagMark?_cons {c : Char} (h : Text.isAsciiLetter c = true) (rest : List Char) :
    (tagMark? (c :: rest)).map (·.closing) = some false ∧
      (tagMark? ('/' :: c :: rest)).map (·.closing) = some true := by
  have hne : (c :: rest).head? ≠ some '/' := by
    rintro heq
    cases heq
    exact absurd h (by decide)
  rw [tagMark?_of_ne hne, tagMark?_slash, nameMark?, nameMark?, if_pos h, if_pos h]
  exact ⟨rfl, rfl⟩

theorem reads_stepTagOpen :
    Reads ((tagMark? (c :: rest)).map (·.closing)) c rest (s.stepTagOpen c) := by
  unfold stepTagOpen
  refine .ite (fun _ => .stop rfl isTag_nil) fun _ => ?_
  refine .ite (fun hc => .goOn (by rw [hc]; rfl)) fun _ => ?_
  refine .ite (fun _ => .stop rfl isTag_nil) fun _ => ?_
  exact .ite (fun hc => .goOn (tagMark?_cons hc rest).1.symm) fun _ => reads_textThen s _ _ c rest

theorem reads_stepEndTagOpen :
    Reads ((tagMark? ('/' :: c :: rest)).map (·.closing)) c rest (s.stepEndTagOpen c) := by
  unfold stepEndTagOpen
  refine .ite (fun _ => .stop rfl isTag_nil) fun _ => ?_
  exact .ite (fun hc => .goOn (tagMark?_cons hc rest).2.symm) fun _ => .stop rfl isTag_nil

theorem reads_stepRawTagOpen :
    Reads ((tagMark? (c :: rest)).map (·.closing)) c rest (s.stepRawTagOpen c) := by
  unfold stepRawTagOpen
  split
  · exact .ite (fun _ => .stop rfl (isTag_singleton rfl)) fun _ => reads_stepText s _ c rest
  · refine .ite (fun hc => .goOn (by rw [hc]; rfl)) fun _ => ?_
    exact .ite (fun _ => .stop rfl (isTag_chars _)) fun _ => reads_textThen s _ _ c rest
  · refine .ite (fun hc => .goOn (by rw [hc]; rfl)) fun _ => ?_
    exact .ite (fun _ => .stop rfl (isTag_chars _)) fun _ => reads_textThen s _ _ c rest

theorem reads_stepRawEndTagOpen :
    Reads ((tagMark? ('/' :: c :: rest)).map (·.closing)) c rest (s.stepRawEndTagOpen c) := by
  unfold stepRawEndTagOpen
  exact .ite (fun hc => .goOn (tagMark?_cons hc rest).2.symm) fun _ => reads_textThen s _ _ c rest

theorem reads_stepRawEndTagName (reversed : List Char) :
    Reads (some s.isEnd) c rest (s.stepRawEndTagName reversed c) := by
  unfold stepRawEndTagName
  dsimp only
  refine .ite (fun _ => .goOn rfl) fun _ => ?_
  refine .ite (fun _ => .goOn rfl) fun _ => ?_
  refine .ite (fun hc => reads_endTag ?_ false) fun _ => ?_
  · rw [Bool.and_eq_true] at hc
    exact beq_iff_eq.mp hc.2
  exact .ite (fun _ => .goOn rfl) fun _ => reads_textThen s _ _ c rest

-- ════════════════════════════════════════════════════════════════════════
-- Scripts
-- ════════════════════════════════════════════════════════════════════════

theorem reads_stepScriptDash (two : Bool) : Reads before c rest (s.stepScriptDash two c) := by
  unfold stepScriptDash
  refine .ite (fun _ => .stop rfl (isTag_singleton rfl)) fun _ => ?_
  exact .ite (fun _ => .stop rfl (isTag_singleton rfl)) fun _ => reads_stepText s _ c rest

theorem reads_stepInnerScript (opening : Bool) (reversed : List Char) :
    Reads before c rest (s.stepInnerScript opening reversed c) := by
  unfold stepInnerScript
  refine .ite (fun _ => .stop rfl (isTag_singleton rfl)) fun _ => ?_
  refine .ite (fun _ => .stop ?_ (isTag_singleton rfl)) fun _ => reads_stepText s _ c rest
  cases opening <;> rfl

-- ════════════════════════════════════════════════════════════════════════
-- Character references
-- ════════════════════════════════════════════════════════════════════════

/-- A reference in text stands in no tag, and one in a value in the tag of the value. -/
theorem reads_giveThen (within : Option Delimiter) (cs : List Char)
    (h : before = within.map fun _ => s.isEnd) : Reads before c rest (s.giveThen within cs c) := by
  cases within with
  | none => exact (reads_stepText (s.goTo .text) before c rest).prepend (isTag_chars cs)
  | some d =>
    have hvalue := reads_stepAttrValue
      { s with state := .attrValue d, value := cs.reverse ++ s.value } d c rest
    exact h ▸ hvalue.prepend isTag_nil

theorem reads_give (within : Option Delimiter) (cs : List Char)
    (h : before = within.map fun _ => s.isEnd) : Reads before c rest (s.give within cs) := by
  cases within with
  | none => exact .stop rfl (isTag_chars cs)
  | some d => exact .goOn h.symm

theorem reads_stepReference (within : Option Delimiter) (read : Reference)
    (h : before = within.map fun _ => s.isEnd) :
    Reads before c rest (s.stepReference within read c) := by
  have hstay : ∀ read', Reads before c rest (s.goTo (.reference within read'), []) := by
    intro read'
    refine .goOn ?_
    rw [h]
    cases within <;> rfl
  unfold stepReference
  split
  · refine .ite (fun _ => hstay _) fun _ => ?_
    exact .ite (fun _ => hstay _) fun _ => reads_giveThen within _ h
  · refine .ite (fun _ => hstay _) fun _ => ?_
    split
    · exact reads_give within _ h
    · exact reads_giveThen within _ h
  · refine .ite (fun _ => hstay _) fun _ => ?_
    exact .ite (fun _ => hstay _) fun _ => reads_giveThen within _ h
  · exact .ite (fun _ => hstay _) fun _ => reads_giveThen within _ h
  · refine .ite (fun _ => hstay _) fun _ => ?_
    refine .ite (fun _ => hstay _) fun _ => ?_
    refine .ite (fun _ => reads_give within _ h) fun _ => ?_
    exact (reads_giveThen within _ h).prepend (isTag_singleton rfl)

-- ════════════════════════════════════════════════════════════════════════
-- Declarations and comments
-- ════════════════════════════════════════════════════════════════════════

theorem reads_stepSkipping (isComment : Bool) :
    Reads before c rest (s.stepSkipping isComment c) := by
  unfold stepSkipping
  refine .ite (fun _ => .stop rfl (isTag_singleton ?_)) fun _ => .stop rfl isTag_nil
  cases isComment <;> rfl

theorem reads_stepDeclaration (foreign : Bool) (reversed : List Char) :
    Reads before c rest (s.stepDeclaration foreign reversed c) := by
  unfold stepDeclaration
  dsimp only
  split
  · exact reads_stepSkipping true
  · next known state hfind =>
    have hstates : ∀ p ∈ declarations foreign,
        p.2 = .commentStart ∨ p.2 = .skipping false ∨ p.2 = .section := by
      cases foreign <;> decide
    have hstate := hstates _ (List.mem_of_find?_eq_some hfind)
    dsimp only at hstate
    refine .ite (fun _ => .stop ?_ isTag_nil) fun _ => .stop rfl isTag_nil
    rcases hstate with rfl | rfl | rfl
    · rfl
    · rfl
    · rfl

theorem reads_stepComment (hs : s.pending rest = none) :
    Reads before c rest (s.stepComment c) := by
  have hdash : ∀ p : Prop, [Decidable p] → ∀ state state' : State,
      (s.goTo state).pending rest = none → (s.goTo state').pending rest = none →
      Reads before c rest (s.goTo (if p then state else state'), []) := by
    intro p _ state state' h h'
    split
    · exact .stop h isTag_nil
    · exact .stop h' isTag_nil
  unfold stepComment
  dsimp only
  split
  · refine .ite (fun _ => .stop rfl isTag_nil) fun _ => ?_
    exact .ite (fun _ => .stop rfl (isTag_singleton rfl)) fun _ => .stop rfl isTag_nil
  · refine .ite (fun _ => .stop rfl isTag_nil) fun _ => ?_
    exact .ite (fun _ => .stop rfl (isTag_singleton rfl)) fun _ => .stop rfl isTag_nil
  · exact hdash _ _ _ rfl rfl
  · refine .ite (fun _ => .stop rfl (isTag_singleton rfl)) fun _ => ?_
    refine .ite (fun _ => .stop rfl isTag_nil) fun _ => ?_
    exact .ite (fun _ => .stop hs isTag_nil) fun _ => .stop rfl isTag_nil
  · refine .ite (fun _ => .stop rfl (isTag_singleton rfl)) fun _ => ?_
    exact hdash _ _ _ rfl rfl
  · exact hdash _ _ _ rfl rfl

theorem reads_stepSection (hs : s.pending rest = none) :
    Reads before c rest (s.stepSection c) := by
  have htoken : (if c = nul then Token.null else .char c).isTag = false := by
    split <;> rfl
  unfold stepSection
  dsimp only
  split
  · refine .ite (fun _ => .stop rfl isTag_nil) fun _ => .stop rfl ?_
    exact List.forall_mem_cons.mpr ⟨rfl, isTag_singleton htoken⟩
  · refine .ite (fun _ => .stop hs (isTag_singleton rfl)) fun _ => ?_
    refine .ite (fun _ => .stop rfl isTag_nil) fun _ => .stop rfl ?_
    exact List.forall_mem_cons.mpr
      ⟨rfl, List.forall_mem_cons.mpr ⟨rfl, isTag_singleton htoken⟩⟩
  · exact .ite (fun _ => .stop rfl isTag_nil) fun _ => .stop hs (isTag_singleton htoken)

-- ════════════════════════════════════════════════════════════════════════
-- One character
-- ════════════════════════════════════════════════════════════════════════

/-- **One character** goes on with the tag that is being read, gives it, or begins a new one. -/
theorem reads_step (s : Scanner) (foreign : Bool) (c : Char) (rest : List Char) :
    Reads (s.pending (c :: rest)) c rest (s.step foreign c) := by
  unfold step
  cases hs : s.state with
  | text => exact reads_stepText s _ c rest
  | reference within read =>
    refine reads_stepReference within read ?_
    rw [pending, hs]
    cases within <;> rfl
  | tagOpen => rw [pending, hs]; exact reads_stepTagOpen
  | endTagOpen => rw [pending, hs]; exact reads_stepEndTagOpen
  | tagName => rw [pending, hs]; exact reads_stepTagName hs
  | beforeAttrName => rw [pending, hs]; exact reads_stepBeforeAttrName
  | attrName => rw [pending, hs]; exact reads_stepAttrName hs
  | afterAttrName => rw [pending, hs]; exact reads_stepAfterAttrName hs
  | beforeAttrValue => rw [pending, hs]; exact reads_stepBeforeAttrValue hs
  | attrValue d => rw [pending, hs]; exact reads_stepAttrValue s d c rest
  | afterAttrValue => rw [pending, hs]; exact reads_stepBeforeAttrName
  | selfClosing =>
    rw [pending, hs]
    exact .ite (fun hc => reads_endTag hc true) fun _ => reads_stepBeforeAttrName
  | rawTagOpen => rw [pending, hs]; exact reads_stepRawTagOpen
  | rawEndTagOpen => rw [pending, hs]; exact reads_stepRawEndTagOpen
  | rawEndTagName reversed => rw [pending, hs]; exact reads_stepRawEndTagName reversed
  | scriptMark =>
    exact .ite (fun _ => .stop rfl (isTag_singleton rfl)) fun _ => reads_stepText s _ c rest
  | scriptMarkDash =>
    exact .ite (fun _ => .stop rfl (isTag_singleton rfl)) fun _ => reads_stepText s _ c rest
  | scriptDash => exact reads_stepScriptDash false
  | scriptDashDash => exact reads_stepScriptDash true
  | innerScriptOpen reversed => exact reads_stepInnerScript true reversed
  | innerScriptClose reversed => exact reads_stepInnerScript false reversed
  | declaration reversed => exact reads_stepDeclaration foreign reversed
  | skipping isComment => exact reads_stepSkipping isComment
  | commentStart | commentStartDash | comment | commentDash | commentDashDash | commentBang =>
    exact reads_stepComment (by rw [pending, hs])
  | «section» | sectionBracket | sectionBrackets =>
    exact reads_stepSection (by rw [pending, hs])

/-- The end of the input gives no tag. -/
theorem isTag_finish (s : Scanner) : ∀ t ∈ s.finish, t.isTag = false := by
  unfold finish
  split
  all_goals first
    | exact isTag_chars _
    | exact isTag_singleton rfl
    | exact isTag_nil
    | skip
  · exact List.forall_mem_cons.mpr ⟨rfl, isTag_singleton rfl⟩
  · split
    · exact isTag_nil
    · exact isTag_chars _

end Scanner

end ArticleMarkup.Html
