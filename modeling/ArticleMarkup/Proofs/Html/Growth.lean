import ArticleMarkup.Proofs.Html.Lowering
import ArticleMarkup.Proofs.Html.Nesting

/-!
# Trees that grow at their end

While elements are opened where they fit and closed in turn, the tree builder adds each node after
the newest one. The tree is then a path of open elements with what came before each, and reading the
tags and texts of a forest puts that forest at the end of the innermost one.

## Main definitions

- `Frame`, `Dom.plug` — an open element with its older siblings, and the tree around what is innermost
- `Builder.at` — the tree builder on such a path
- `Dom.grow` — a forest added after the newest node

## Main statements

- `Builder.process_char_at`, `Builder.process_startTag_at`, `Builder.process_emptyTag_at`,
  `Builder.process_endTag_at` — one token
- `Dom.toForest_grow` — what has been added is the forest
-/

namespace ArticleMarkup.Html

/-- An open element, with the siblings that were there before it. -/
structure Frame where
  /-- Its number in the tree. -/
  id : Nat
  /-- Its tag. -/
  tag : Tag
  /-- Its older siblings. -/
  older : Dom

/-- The entry of the element on the stack. -/
def Frame.openElement (frame : Frame) : OpenElement :=
  ⟨frame.id, .html, frame.tag.name, false⟩

/-- The entry of the element among the formatting elements, if it is one. -/
def Frame.mark? (frame : Frame) : Option Mark :=
  if frame.tag.name ∈ formattingNames then some (.element frame.id frame.tag) else none

/-- The names of open elements, the innermost first. -/
def names (frames : List Frame) : List String :=
  frames.map (·.tag.name)

namespace Dom

/-- **The tree** whose open elements are the frames, innermost first, with these nodes in the innermost
one. -/
def plug (frames : List Frame) (dom : Dom) : Dom :=
  frames.foldl
    (fun dom frame => .element frame.id .html (Space.html.nodeTag frame.tag) dom frame.older) dom

/-- Add several characters after the newest node. -/
def pushChars (dom : Dom) (cs : List Char) : Dom :=
  cs.foldl (fun dom c => dom.pushChar c) dom

theorem within?_plug {target : Nat} {f : Dom → Dom} {frames : List Frame} {dom dom' : Dom}
    (h : dom.within? target f = some dom') (hne : ∀ frame ∈ frames, frame.id ≠ target) :
    (plug frames dom).within? target f = some (plug frames dom') := by
  induction frames generalizing dom dom' with
  | nil => exact h
  | cons frame frames ih =>
    rw [List.forall_mem_cons] at hne
    refine ih ?_ hne.2
    rw [within?, if_neg hne.1, h]

end Dom

/-- The frames have numbers of their own, all below `next`. -/
structure WellNumbered (frames : List Frame) (next : Nat) : Prop where
  /-- Zero is the number of the root. -/
  pos : ∀ frame ∈ frames, 0 < frame.id
  /-- A new element has a new number. -/
  lt : ∀ frame ∈ frames, frame.id < next
  /-- No two have the same number. -/
  nodup : (frames.map Frame.id).Nodup
  /-- Their elements can be open. -/
  known : ∀ frame ∈ frames, frame.tag.name ∈ openNames

theorem WellNumbered.cons {frames : List Frame} {next : Nat} (h : WellNumbered frames next)
    (hnext : 0 < next) {tag : Tag} (htag : tag.name ∈ openNames) (older : Dom) {n : Nat}
    (hn : next < n) : WellNumbered (⟨next, tag, older⟩ :: frames) n := by
  refine ⟨?_, ?_, ?_, ?_⟩
  · exact List.forall_mem_cons.mpr ⟨hnext, h.pos⟩
  · exact List.forall_mem_cons.mpr ⟨hn, fun frame hframe => Nat.lt_trans (h.lt frame hframe) hn⟩
  · rw [List.map_cons, List.nodup_cons]
    refine ⟨fun hmem => ?_, h.nodup⟩
    obtain ⟨frame, hframe, hid⟩ := List.mem_map.mp hmem
    exact absurd (h.lt frame hframe) (by rw [hid]; exact Nat.lt_irrefl _)
  · exact List.forall_mem_cons.mpr ⟨htag, h.known⟩

theorem WellNumbered.mono {frames : List Frame} {next n : Nat} (h : WellNumbered frames next)
    (hn : next ≤ n) : WellNumbered frames n :=
  ⟨h.pos, fun frame hframe => Nat.lt_of_lt_of_le (h.lt frame hframe) hn, h.nodup, h.known⟩

namespace Builder

/-- **The tree builder on a path** of open elements. -/
def «at» (frames : List Frame) (dom : Dom) (next : Nat) (skip : Bool) : Builder where
  dom := Dom.plug frames dom
  next := next
  stack := frames.map Frame.openElement
  marks := frames.filterMap Frame.mark?
  skipNewline := skip

variable {frames : List Frame} {dom : Dom} {next : Nat} {skip : Bool}

theorem changeAt_inside {id : Nat} (h : 0 < id) (dom : Dom) (f : Dom → Dom) :
    changeAt dom (.inside id) f = (dom.within? id f).getD dom := by
  cases id with
  | zero => exact absurd h (Nat.lt_irrefl 0)
  | succ id => rfl

/-- **The next node** goes after the newest one. -/
theorem changeAt_place_at (h : WellNumbered frames next) {b : Builder}
    (hb : b.stack = frames.map Frame.openElement) (hfoster : b.fostering = false) (f : Dom → Dom) :
    changeAt (Dom.plug frames dom) b.place f = Dom.plug frames (f dom) := by
  unfold place placeIn
  rw [hb, hfoster]
  cases frames with
  | nil => rfl
  | cons frame frames =>
    have hnodup := h.nodup
    rw [List.map_cons, List.nodup_cons] at hnodup
    have hne : ∀ other ∈ frames, other.id ≠ frame.id := by
      intro other hother hid
      exact hnodup.1 (List.mem_map.mpr ⟨other, hother, hid⟩)
    have hwithin :
        (Dom.element frame.id .html (Space.html.nodeTag frame.tag) dom frame.older).within? frame.id f =
        some (.element frame.id .html (Space.html.nodeTag frame.tag) (f dom) frame.older) := by
      rw [Dom.within?, if_pos rfl]
    simp only [List.map_cons, List.head?_cons, Bool.false_and, Bool.false_eq_true, if_false]
    have hplug := Dom.within?_plug hwithin hne
    have hcons : ∀ dom, Dom.plug (frame :: frames) dom =
        Dom.plug frames (.element frame.id .html (Space.html.nodeTag frame.tag) dom frame.older) :=
      fun _ => rfl
    exact (changeAt_inside (h.pos frame List.mem_cons_self) _ f).trans (by rw [hcons, hplug]; rfl)

@[simp] theorem readsForeign_at : (Builder.at frames dom next skip).readsForeign = false := by
  cases frames <;> rfl

theorem isForeign_at (token : Token) :
    isForeign (frames.map Frame.openElement) token = false := by
  cases frames <;> rfl

/-- A token that is not skipped is handled by the rules of flow content. -/
theorem process_at {token : Token} (hskip : (skip && token == .char '\n') = false) :
    (Builder.at frames dom next skip).process token =
      (Builder.at frames dom next false).inBody token := by
  have hrun : (Builder.at frames dom next false).run token processFuel =
      (Builder.at frames dom next false).inBody token := by
    show (Builder.at frames dom next false).run token (23 + 1) = _
    rw [run]
    simp only [show (Builder.at frames dom next false).stack = frames.map Frame.openElement from rfl,
      isForeign_at, Bool.false_eq_true, if_false]
    rfl
  unfold process
  simp only [show (Builder.at frames dom next skip).skipNewline = skip from rfl, hskip,
    Bool.false_eq_true, if_false]
  exact hrun

/-- Only open elements are remembered. -/
theorem exists_of_mem_marks {m : Mark} (h : m ∈ frames.filterMap Frame.mark?) :
    ∃ frame ∈ frames, m = .element frame.id frame.tag := by
  obtain ⟨frame, hframe, hm⟩ := List.mem_filterMap.mp h
  unfold Frame.mark? at hm
  split at hm
  · exact ⟨frame, hframe, (Option.some.inj hm).symm⟩
  · cases hm

theorem standsOpen_at {m : Mark} (h : m ∈ frames.filterMap Frame.mark?) :
    (Builder.at frames dom next skip).standsOpen m = true := by
  obtain ⟨frame, hframe, rfl⟩ := exists_of_mem_marks h
  have hopen : frame.openElement ∈ frames.map Frame.openElement := List.mem_map_of_mem hframe
  exact List.any_eq_true.mpr ⟨_, hopen, beq_self_eq_true frame.id⟩

/-- No element of the name is remembered where none is open. -/
theorem newest?_at {name : String} (h : name ∉ names frames) :
    Mark.newest? name (frames.filterMap Frame.mark?) = none := by
  have hno : ∀ marks : List Mark, (∀ id tag, Mark.element id tag ∈ marks → tag.name ≠ name) →
      Mark.newest? name marks = none := by
    intro marks hmarks
    induction marks with
    | nil => rfl
    | cons m marks ih =>
      cases m with
      | border => rfl
      | element id tag =>
        rw [Mark.newest?, if_neg (hmarks id tag List.mem_cons_self)]
        exact ih fun id tag hmem => hmarks id tag (List.mem_cons_of_mem _ hmem)
  refine hno _ fun id tag hmem hname => ?_
  obtain ⟨frame, hframe, heq⟩ := exists_of_mem_marks hmem
  obtain ⟨-, rfl⟩ := Mark.element.inj heq
  exact h (List.mem_map.mpr ⟨frame, hframe, hname⟩)

theorem reopenFormatting_at :
    (Builder.at frames dom next skip).reopenFormatting = Builder.at frames dom next skip := by
  have hnone : (Builder.at frames dom next skip).marks.takeWhile
      (fun m => !(Builder.at frames dom next skip).standsOpen m) = [] := by
    cases hmarks : (Builder.at frames dom next skip).marks with
    | nil => rfl
    | cons m marks =>
      have hm : m ∈ frames.filterMap Frame.mark? := by
        rw [show frames.filterMap Frame.mark? = m :: marks from hmarks]
        exact List.mem_cons_self
      rw [List.takeWhile_cons, standsOpen_at hm]
      rfl
  unfold reopenFormatting
  simp only [hnone]
  rfl

/-- **A character** goes to the newest nodes, unless it is a line feed to be swallowed. -/
theorem process_char_at (h : WellNumbered frames next) (c : Char) :
    (Builder.at frames dom next skip).process (.char c) =
      Builder.at frames (if skip && c == '\n' then dom else dom.pushChar c) next false := by
  split
  · next hskip =>
    rw [Bool.and_eq_true, beq_iff_eq] at hskip
    obtain ⟨rfl, rfl⟩ := hskip
    rfl
  · next hskip =>
    have hdom := @changeAt_place_at _ dom _ h (Builder.at frames dom next false) rfl rfl
      (Dom.pushChar c)
    rw [process_at (by simpa using hskip), inBody, reopenFormatting_at, insertChar]
    exact congrArg (fun dom' => { Builder.at frames dom next false with dom := dom' }) hdom

/-- Opening an element, which is not remembered by that. -/
theorem open_at (h : WellNumbered frames next) (tag : Tag) :
    (Builder.at frames dom next false).open tag =
      { Builder.at (⟨next, tag, dom⟩ :: frames) .nil (next + 1) false with
        marks := frames.filterMap Frame.mark? } := by
  have hdom := @changeAt_place_at _ dom _ h (Builder.at frames dom next false) rfl rfl
    (.element next .html (Space.html.nodeTag tag) .nil)
  exact congrArg (fun dom' => { Builder.at (⟨next, tag, dom⟩ :: frames) .nil (next + 1) false with
    dom := dom'
    marks := frames.filterMap Frame.mark? }) hdom

/-- An element that is no formatting element. -/
theorem open_at_of_plain (h : WellNumbered frames next) {tag : Tag}
    (htag : tag.name ∉ formattingNames) :
    (Builder.at frames dom next false).open tag =
      Builder.at (⟨next, tag, dom⟩ :: frames) .nil (next + 1) false := by
  have hmark : (⟨next, tag, dom⟩ : Frame).mark? = none := if_neg htag
  rw [open_at h, «at», List.filterMap_cons_none hmark]

/-- No more formatting elements of a name are remembered than are open. -/
theorem length_filterMap_marks_le (name : String) {f : Mark → Option Nat}
    (hf : ∀ id tag, (f (.element id tag)).isSome = true → tag.name = name) (frames : List Frame) :
    ((frames.filterMap Frame.mark?).filterMap f).length ≤ (names frames).count name := by
  calc ((frames.filterMap Frame.mark?).filterMap f).length
      = frames.countP (fun frame => (frame.mark?.bind f).isSome) := by
        rw [List.filterMap_filterMap, List.length_filterMap_eq_countP]
    _ ≤ frames.countP (fun frame => frame.tag.name == name) := by
        refine List.countP_mono_left fun frame _ h => ?_
        unfold Frame.mark? at h
        split at h
        · exact beq_iff_eq.mpr (hf _ _ h)
        · cases h
    _ = (names frames).count name := by
        rw [names, List.count, List.countP_map]
        rfl

/-- There is room among the formatting elements while at most two of the name are open. -/
theorem makeRoom_at {tag : Tag} (h : (names frames).count tag.name ≤ 2) :
    Mark.makeRoom tag (frames.filterMap Frame.mark?) = frames.filterMap Frame.mark? := by
  unfold Mark.makeRoom
  simp only
  split
  · refine if_neg fun hfull => ?_
    have hrecent := hfull.trans ((List.takeWhile_sublist _).filterMap _).length_le
    refine absurd (hrecent.trans (length_filterMap_marks_le tag.name ?_ frames)) (by omega)
    intro id other hsome
    have hsame : Mark.sameTag tag other = true := by
      by_contra hno
      simp [hno] at hsome
    rw [Mark.sameTag, Bool.and_eq_true, beq_iff_eq] at hsame
    exact hsame.1.symm
  · rfl

/-- **A formatting element**, of whose name at most two are open, is remembered with the others. -/
theorem openFormatting_at (h : WellNumbered frames next) {tag : Tag}
    (htag : tag.name ∈ formattingNames) (hcount : (names frames).count tag.name ≤ 2) :
    (Builder.at frames dom next false).openFormatting tag =
      Builder.at (⟨next, tag, dom⟩ :: frames) .nil (next + 1) false := by
  have hmark : (⟨next, tag, dom⟩ : Frame).mark? = some (.element next tag) := if_pos htag
  unfold openFormatting
  rw [open_at h]
  simp only [«at», makeRoom_at hcount, List.filterMap_cons_some hmark]

/-- **An empty element** that closes nothing goes after the newest nodes. -/
theorem insertElement_at (h : WellNumbered frames next) (tag : Tag) :
    (Builder.at frames dom next false).insertElement .html tag =
      Builder.at frames (.element next .html (Space.html.nodeTag tag) .nil dom) (next + 1) false := by
  have hdom := @changeAt_place_at _ dom _ h (Builder.at frames dom next false) rfl rfl
    (.element next .html (Space.html.nodeTag tag) .nil)
  exact congrArg (fun dom' => { Builder.at frames dom (next + 1) false with dom := dom' }) hdom

/-- No paragraph is open. -/
theorem endParagraph_at (h : "p" ∉ names frames) :
    (Builder.at frames dom next skip).endParagraph = Builder.at frames dom next skip := by
  have hscope : inScope OpenElement.endsButtonScope (·.isHtml "p")
      (frames.map Frame.openElement) = false := by
    induction frames with
    | nil => rfl
    | cons frame frames ih =>
      rw [names, List.map_cons, List.mem_cons, not_or] at h
      have hname : frame.openElement.isHtml "p" = false := by
        simp [OpenElement.isHtml, Frame.openElement, Ne.symm h.1]
      rw [List.map_cons, inScope, hname, ih h.2]
      simp
  unfold endParagraph
  rw [show (Builder.at frames dom next skip).stack = frames.map Frame.openElement from rfl, hscope]
  rfl

/-- **A start tag** of an element that fits opens it after the newest nodes. -/
theorem process_startTag_at (h : WellNumbered frames next) {tag : Tag}
    (hfits : Fits (names frames) tag.name) (selfClosing : Bool) :
    (Builder.at frames dom next skip).process (.startTag tag selfClosing) =
      Builder.at (⟨next, tag, dom⟩ :: frames) .nil (next + 1) (tag.name == "pre") := by
  rw [process_at (by simp), inBody]
  obtain ⟨name, attrs⟩ := tag
  have hopen := @open_at_of_plain _ dom _ h ⟨name, attrs⟩
  have hformatting := @openFormatting_at _ dom _ h ⟨name, attrs⟩
  have hother : ∀ name ∈ blockNames ++ headingNames ++ ["li", "dd", "dt"] ++ phraseNames,
      name ∉ formattingNames ∧ (name == "pre") = false := by
    decide
  have hpre : ∀ name ∈ plainFormattingNames, (name == "pre") = false := by
    decide
  cases hfits with
  | block hname hp =>
    obtain ⟨hplain, hpre⟩ := hother name (by simp [hname])
    rw [startInBody_block _ _ _ hname, endParagraph_at hp, hopen hplain, hpre]
  | heading hname hp hparent =>
    obtain ⟨hplain, hpre⟩ := hother name (by simp [hname])
    rw [startInBody_heading _ _ _ hname, endParagraph_at hp, hopen hplain, hpre]
    rw [endParagraph_at hp]
    cases frames with
    | nil => simp [«at»]
    | cons frame frames => simpa [«at», OpenElement.isHtmlIn, Frame.openElement, names] using hparent
  | preformatted hp =>
    have hplain : "pre" ∉ formattingNames := by decide
    rw [startInBody_preformatted, endParagraph_at hp, hopen hplain]
    rfl
  | item hkind hname hp hparent =>
    have hitem : name ∈ ["li", "dd", "dt"] := by
      simp only [itemKinds, List.mem_cons, Prod.mk.injEq, List.not_mem_nil, or_false] at hkind
      rcases hkind with ⟨rfl, -⟩ | ⟨rfl, -⟩ <;> simp_all
    obtain ⟨hplain, hpre⟩ := hother name (by simp only [List.mem_append]; simp [hitem])
    obtain ⟨parent, hhead, hlist⟩ := hparent
    cases frames with
    | nil => cases hhead
    | cons frame frames =>
      obtain rfl := Option.some.inj hhead
      rw [startInBody_item _ _ _ hkind hname rfl rfl hlist, endParagraph_at hp, hopen hplain, hpre]
  | link ha =>
    have hcount : (names frames).count "a" ≤ 2 := by rw [List.count_eq_zero.mpr ha]; omega
    rw [startInBody_link _ _ _ (newest?_at ha), reopenFormatting_at,
      hformatting List.mem_cons_self hcount]
    rfl
  | formatting hname hcount =>
    rw [startInBody_formatting _ _ _ hname, reopenFormatting_at,
      hformatting (List.mem_cons_of_mem _ hname) hcount, hpre name hname]
  | phrase hname =>
    obtain ⟨hplain, hpre⟩ := hother name (by simp only [List.mem_append]; simp [hname])
    rw [startInBody_phrase _ _ _ hname, reopenFormatting_at, hopen hplain, hpre]

/-- **The start tag of an empty element** that fits puts it after the newest nodes. -/
theorem process_emptyTag_at (h : WellNumbered frames next) {tag : Tag}
    (hfits : FitsEmpty (names frames) tag.name) (selfClosing : Bool) :
    (Builder.at frames dom next skip).process (.startTag tag selfClosing) =
      Builder.at frames (.element next .html (Space.html.nodeTag tag) .nil dom) (next + 1) false := by
  rw [process_at (by simp), inBody]
  obtain ⟨name, attrs⟩ := tag
  have hinsert := @insertElement_at _ dom _ h ⟨name, attrs⟩
  cases hfits with
  | phrase hname => rw [startInBody_empty _ _ _ hname, reopenFormatting_at, hinsert]
  | rule hp =>
    have hrule : (Builder.at frames dom next false).startInBody ⟨"hr", attrs⟩ selfClosing =
        (Builder.at frames dom next false).endParagraph.insertElement .html ⟨"hr", attrs⟩ := rfl
    rw [hrule, endParagraph_at hp, hinsert]

/-- **An end tag** closes the innermost element, whose tag it names. -/
theorem process_endTag_at {frame : Frame} (h : WellNumbered (frame :: frames) next) :
    (Builder.at (frame :: frames) dom next skip).process (.endTag frame.tag.name) =
      Builder.at frames (.element frame.id .html (Space.html.nodeTag frame.tag) dom frame.older) next
        false := by
  rw [process_at (by simp), inBody]
  have hknown := h.known frame List.mem_cons_self
  by_cases hname : frame.tag.name ∈ formattingNames
  · have hmark : frame.mark? = some (.element frame.id frame.tag) := if_pos hname
    have hothers : ∀ m ∈ frames.filterMap Frame.mark?, m.isFor frame.id = false := by
      intro m hm
      obtain ⟨other, hother, rfl⟩ := exists_of_mem_marks hm
      have hnodup := h.nodup
      rw [List.map_cons, List.nodup_cons] at hnodup
      exact beq_eq_false_iff_ne.mpr fun hid => hnodup.1 (List.mem_map.mpr ⟨other, hother, hid⟩)
    have hadopt := @adopt_current (Builder.at (frame :: frames) dom next false) frame.openElement
      _ rfl frame.tag _ rfl (List.filterMap_cons_some hmark) hothers
    exact (endInBody_formatting _ hname).trans hadopt
  · have hmark : frame.mark? = none := if_neg hname
    have hcurrent := @endInBody_current (Builder.at (frame :: frames) dom next false)
      frame.openElement _ rfl rfl hknown hname
    refine hcurrent.trans ?_
    simp only [«at», List.filterMap_cons_none hmark]
    rfl

/-- Several characters. -/
theorem process_chars_at (h : WellNumbered frames next) {cs : List Char} (hne : cs ≠ []) :
    (Scanner.chars cs).foldl process (Builder.at frames dom next skip) =
      Builder.at frames
        (dom.pushChars (if skip && cs.head? == some '\n' then cs.tail else cs)) next false := by
  obtain ⟨c, cs, rfl⟩ := List.exists_cons_of_ne_nil hne
  have hrest : ∀ (dom : Dom), (Scanner.chars cs).foldl process (Builder.at frames dom next false) =
      Builder.at frames (dom.pushChars cs) next false := by
    intro dom
    induction cs generalizing dom with
    | nil => rfl
    | cons d cs ih =>
      have hd := @process_char_at _ dom _ false h d
      rw [Bool.false_and, if_neg Bool.false_ne_true] at hd
      rw [Scanner.chars, List.map_cons, List.foldl_cons, hd]
      exact ih (by simp) _
  rw [Scanner.chars, List.map_cons, List.foldl_cons, process_char_at h]
  refine (hrest _).trans ?_
  by_cases hskip : skip && c == '\n'
  · simp [hskip]
  · simp [hskip, Dom.pushChars]

end Builder

-- ════════════════════════════════════════════════════════════════════════
-- Growth
-- ════════════════════════════════════════════════════════════════════════

namespace Dom

/-- **Add a forest** after the newest node, with the elements numbered from `next` on in the order of
their start tags. -/
def grow : Forest → Nat → Dom → Nat × Dom
  | .nil, next, dom => (next, dom)
  | .text s rest, next, dom => grow rest next (dom.pushChars s.toList)
  | .element tag cs rest, next, dom =>
    grow rest (grow cs (next + 1) .nil).1
      (.element next .html (Space.html.nodeTag tag) (grow cs (next + 1) .nil).2 dom)

theorem le_grow (f : Forest) (next : Nat) (dom : Dom) : next ≤ (grow f next dom).1 := by
  induction f generalizing next dom with
  | nil => exact Nat.le_refl _
  | text s rest ih => exact ih next _
  | element tag cs rest ihcs ihrest =>
    have hcs := ihcs (next + 1) .nil
    have hrest := ihrest (grow cs (next + 1) .nil).1
      (.element next .html (Space.html.nodeTag tag) (grow cs (next + 1) .nil).2 dom)
    show next ≤ (grow rest _ _).1
    omega

/-- The newest node is a text. -/
def endsInText : Dom → Bool
  | text _ _ => true
  | _ => false

theorem pushChars_text (s : String) (older : Dom) (cs : List Char) :
    (text s older).pushChars cs = text (s ++ String.ofList cs) older := by
  induction cs generalizing s with
  | nil => simp [pushChars]
  | cons c cs ih =>
    have hs : s.push c ++ String.ofList cs = s ++ String.ofList (c :: cs) := by
      apply String.toList_injective
      simp
    exact (ih (s.push c)).trans (by rw [hs])

/-- Characters after a node that is no text make a text of their own. -/
theorem pushChars_of_not_text {dom : Dom} (h : dom.endsInText = false) {cs : List Char}
    (hne : cs ≠ []) : dom.pushChars cs = text (String.ofList cs) dom := by
  obtain ⟨c, cs, rfl⟩ := List.exists_cons_of_ne_nil hne
  have hfirst : dom.pushChar c = text (String.singleton c) dom := by
    cases dom <;> first | rfl | cases h
  have hs : String.singleton c ++ String.ofList cs = String.ofList (c :: cs) := by
    apply String.toList_injective
    simp
  rw [pushChars, List.foldl_cons, hfirst, ← hs]
  exact pushChars_text _ _ _

/-- An HTML element keeps its tag on the way to the forest. -/
@[simp] theorem keptTag_nodeTag (tag : Tag) : keptTag .html (Space.html.nodeTag tag) = tag := by
  simp [keptTag, Space.nodeTag, Space.nodeAttribute, Function.comp_def]

/-- Other elements than templates have their children in the tree. -/
theorem not_isTemplate_of_ne {tag : Tag} (h : tag.name ≠ "template") :
    ¬IsTemplate .html (Space.html.nodeTag tag) :=
  fun htemplate => h htemplate.2

/-- **What has been added** is the forest. -/
theorem toForest_grow {f : Forest} (hnames : ∀ tag ∈ f.tags, tag.name ≠ "template")
    (hfull : "" ∉ f.texts) (hapart : f.textsApart = true) (next : Nat) {dom : Dom}
    (hdom : f.startsWithText = true → dom.endsInText = false) :
    (grow f next dom).2.toForest = dom.toForestBefore f := by
  induction f generalizing next dom with
  | nil => rfl
  | text s rest ih =>
    simp only [Forest.texts, List.mem_cons, not_or] at hfull
    simp only [Forest.textsApart, Bool.and_eq_true, Bool.not_eq_true'] at hapart
    have hne : s.toList ≠ [] := by simpa using Ne.symm hfull.1
    have hmerge : rest.consText s = .text s rest := by
      cases rest with
      | text t rest => cases hapart.1
      | nil => rfl
      | element tag cs rest => rfl
    have hnext : rest.startsWithText = true → (text (String.ofList s.toList) dom).endsInText = false := by
      intro htext
      rw [hapart.1] at htext
      cases htext
    rw [grow, pushChars_of_not_text (hdom rfl) hne, ih hnames hfull.2 hapart.2 next hnext,
      toForestBefore, String.ofList_toList, hmerge]
  | element tag cs rest ihcs ihrest =>
    simp only [Forest.tags, List.forall_mem_cons, List.forall_mem_append] at hnames
    simp only [Forest.texts, List.mem_append, not_or] at hfull
    simp only [Forest.textsApart, Bool.and_eq_true] at hapart
    have hcs := @ihcs hnames.2.1 hfull.1 hapart.1 (next + 1) .nil fun _ => rfl
    rw [grow, ihrest hnames.2.2 hfull.2 hapart.2 _ fun _ => rfl, toForestBefore,
      if_neg (not_isTemplate_of_ne hnames.1), keptTag_nodeTag]
    exact congrArg (fun cs => dom.toForestBefore (.element tag cs rest)) hcs

theorem depth_pushChars (dom : Dom) (cs : List Char) : (dom.pushChars cs).depth = dom.depth := by
  induction cs generalizing dom with
  | nil => rfl
  | cons c cs ih =>
    have hfirst : (dom.pushChar c).depth = dom.depth := by cases dom <;> rfl
    exact (ih (dom.pushChar c)).trans hfirst

/-- The added elements are as deep in the tree as in the forest. -/
theorem depth_grow {f : Forest} (hnames : ∀ tag ∈ f.tags, tag.name ≠ "template") (next : Nat)
    (dom : Dom) : (grow f next dom).2.depth = max dom.depth f.depth := by
  induction f generalizing next dom with
  | nil => simp [grow, Forest.depth]
  | text s rest ih =>
    rw [grow, ih hnames, depth_pushChars, Forest.depth]
  | element tag cs rest ihcs ihrest =>
    simp only [Forest.tags, List.forall_mem_cons, List.forall_mem_append] at hnames
    rw [grow, ihrest hnames.2.2, depth, if_neg (not_isTemplate_of_ne hnames.1),
      ihcs hnames.2.1, Forest.depth, depth]
    omega

end Dom

end ArticleMarkup.Html
