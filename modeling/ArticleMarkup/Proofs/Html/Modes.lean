import ArticleMarkup.Proofs.Html.Rules

/-!
# What a token may cost

The rules of every mode either handle a token, mostly by those of flow content, or close elements and
hand it on to another mode. The parts of a table that a tag leaves out are made on the way, which the
room next to a start tag is for.

## Main definitions

- `Outcome.Begins`, `Outcome.Ends` — what a rule may answer to a start tag and to an end tag

## Main statements

- `Builder.keeps_process` — text and comments cost nothing
- `Builder.afterStart_process` — a start tag
- `Builder.afterEnd_process` — an end tag
-/

namespace ArticleMarkup.Html

open Shape

namespace Builder

variable {b : Builder} {token : Token} {tag : Tag} {name : String}

-- ════════════════════════════════════════════════════════════════════════
-- Text
-- ════════════════════════════════════════════════════════════════════════

/-- The builder after a rule. -/
def Outcome.builder : Outcome → Builder
  | done b => b
  | again b => b

theorem keeps_foster (hb : b.shape.WellFormed) (htag : token.isTag = false) :
    b.shape.Keeps (b.foster token).shape :=
  @keeps_inBody { b with fostering := true } hb token htag

theorem keeps_foldl {f : Builder → Char → Builder}
    (hf : ∀ {b : Builder}, b.shape.WellFormed → ∀ c, b.shape.Keeps (f b c).shape)
    (hb : b.shape.WellFormed) (cs : List Char) : b.shape.Keeps (cs.foldl f b).shape := by
  induction cs generalizing b with
  | nil => exact .refl hb
  | cons c cs ih =>
    have hone := hf hb c
    exact hone.trans (ih hone.wellFormed)

theorem keeps_flushTableText (hb : b.shape.WellFormed) :
    b.shape.Keeps b.flushTableText.shape := by
  unfold flushTableText
  dsimp only
  split
  · exact @keeps_foldl { b with tableText := [], mode := b.returnMode } insertChar
      keeps_insertChar hb _
  · exact @keeps_foldl { b with tableText := [], mode := b.returnMode } _
      (fun hb c => keeps_foster hb rfl) hb _

theorem keeps_inTable (hb : b.shape.WellFormed) (htag : token.isTag = false) :
    b.shape.Keeps (b.inTable token).builder.shape := by
  cases token with
  | char c =>
    unfold inTable
    dsimp only
    split
    · split
      · exact .refl hb
      · exact keeps_foster hb htag
    · exact keeps_foster hb htag
  | null =>
    unfold inTable
    dsimp only
    split
    · split
      · exact .refl hb
      · exact keeps_foster hb htag
    · exact keeps_foster hb htag
  | remark => exact .refl hb
  | comment => exact keeps_insertOther hb
  | startTag tag selfClosing => cases htag
  | endTag name => cases htag

/-- A group of columns is closed, which is no formatting element. -/
theorem keeps_popGroup (hb : b.shape.WellFormed) (h : b.currentIs "colgroup" = true) :
    b.shape.Keeps b.pop.shape := by
  unfold currentIs at h
  split at h
  · next e rest hstack =>
    have hname : e.isHtmlIn formattingTags = false := by
      simp only [OpenElement.isHtml, Bool.and_eq_true, beq_iff_eq] at h
      rw [OpenElement.isHtmlIn, h.2]
      exact Bool.and_false _
    have htail : b.pop.shape = b.shape.withStack rest := by
      simp only [shape, pop, withStack, hstack, List.tail_cons]
    rw [htail]
    exact @Keeps.of_suffix b.shape [e] rest hb hstack (List.forall_mem_singleton.mpr hname)
  · cases h

theorem keeps_inColumnGroup (hb : b.shape.WellFormed) (htag : token.isTag = false) :
    b.shape.Keeps (b.inColumnGroup token).builder.shape := by
  have hleave : b.shape.Keeps (if b.currentIs "colgroup" then
      Outcome.again { b.pop with mode := .table } else .done b).builder.shape := by
    split
    · next hgroup => exact keeps_popGroup hb hgroup
    · exact .refl hb
  cases token with
  | char c =>
    unfold inColumnGroup
    dsimp only
    split
    · exact keeps_insertChar hb c
    · exact hleave
  | null => exact hleave
  | remark => exact .refl hb
  | comment => exact keeps_insertOther hb
  | startTag tag selfClosing => cases htag
  | endTag name => cases htag

theorem keeps_inTableText (hb : b.shape.WellFormed) (htag : token.isTag = false) :
    b.shape.Keeps (b.inTableText token).builder.shape := by
  cases token with
  | char c => exact .refl hb
  | null => exact .refl hb
  | remark => exact .refl hb
  | comment => exact keeps_flushTableText hb
  | startTag tag selfClosing => cases htag
  | endTag name => cases htag

theorem keeps_inSelect (hb : b.shape.WellFormed) (htag : token.isTag = false) :
    b.shape.Keeps (b.inSelect token).builder.shape := by
  cases token with
  | char c => exact keeps_insertChar hb c
  | null => exact .refl hb
  | remark => exact .refl hb
  | comment => exact keeps_insertOther hb
  | startTag tag selfClosing => cases htag
  | endTag name => cases htag

/-- **Text and comments** cost nothing in any mode. -/
theorem keeps_byMode (hb : b.shape.WellFormed) (htag : token.isTag = false) :
    b.shape.Keeps (b.byMode token).builder.shape := by
  have hbody := keeps_inBody hb htag
  have htable := keeps_inTable hb htag
  have hselect := keeps_inSelect hb htag
  unfold byMode
  cases b.mode with
  | body => exact hbody
  | table => exact htable
  | tableText => exact keeps_inTableText hb htag
  | columnGroup => exact keeps_inColumnGroup hb htag
  | select => exact hselect
  | text =>
    cases token with
    | char c => exact keeps_insertChar hb c
    | null | remark | comment => exact .refl hb
    | startTag | endTag => cases htag
  | caption =>
    cases token with
    | char | null | remark | comment => exact hbody
    | startTag | endTag => cases htag
  | tableBody =>
    cases token with
    | char | null | remark | comment => exact htable
    | startTag | endTag => cases htag
  | row =>
    cases token with
    | char | null | remark | comment => exact htable
    | startTag | endTag => cases htag
  | cell =>
    cases token with
    | char | null | remark | comment => exact hbody
    | startTag | endTag => cases htag
  | selectInTable =>
    cases token with
    | char | null | remark | comment => exact hselect
    | startTag | endTag => cases htag
  | template =>
    cases token with
    | char | comment => exact hbody
    | null | remark => exact .refl hb
    | startTag | endTag => cases htag

theorem keeps_run (hb : b.shape.WellFormed) (htag : token.isTag = false) (fuel : Nat) :
    b.shape.Keeps (b.run token fuel).shape := by
  induction fuel generalizing b with
  | zero => exact .refl hb
  | succ fuel ih =>
    rw [run]
    split
    · cases token with
      | char c => exact keeps_insertChar hb c
      | null => exact keeps_insertChar hb _
      | remark => exact .refl hb
      | comment => exact keeps_insertOther hb
      | startTag tag selfClosing => cases htag
      | endTag name => cases htag
    · have hmode := keeps_byMode hb htag
      dsimp only
      split
      · next b' h =>
        rw [h] at hmode
        exact hmode
      · next b' h =>
        rw [h] at hmode
        exact hmode.trans (ih hmode.wellFormed)

-- ════════════════════════════════════════════════════════════════════════
-- The parts of a table that a start tag leaves out
-- ════════════════════════════════════════════════════════════════════════

theorem run_succ (h : isForeign b.stack token = false) (fuel : Nat) :
    b.run token (fuel + 1) = match b.byMode token with
      | .done b => b
      | .again b => b.run token fuel := by
  have hnot : ¬isForeign b.stack token = true := by simp [h]
  rw [run]
  exact if_neg hnot

theorem popTo_eq (wanted : OpenElement → Bool) (stack : List OpenElement) :
    popTo wanted stack = [] ∨ ∃ e rest, popTo wanted stack = e :: rest ∧ wanted e = true := by
  induction stack with
  | nil => exact .inl rfl
  | cons e stack ih =>
    rw [popTo]
    split
    · next h => exact .inr ⟨e, stack, rfl, h⟩
    · exact ih

/-- Directly in a table nothing comes into a formatting element. -/
theorem light_closeToTable (hb : b.shape.WellFormed) (e : OpenElement) :
    b.closeToTable.shape.Light e := by
  have hwell := (b.shrinks_closeTo tableBorder).wellFormed hb
  refine .inr fun id tag hm => ?_
  rcases popTo_eq (·.isHtmlIn tableBorder) b.stack with hnone | ⟨border, rest, hsome, hborder⟩
  · have hstack : b.closeToTable.shape.stack = [] := hnone
    rw [hstack]
    rfl
  · have hstack : b.closeToTable.shape.stack = border :: rest := hsome
    have hends : border.endsScope = true ∧ border.isHtmlIn formattingTags = false := by
      obtain ⟨i, space, name, holdsHtml⟩ := border
      simp only [OpenElement.isHtmlIn, tableBorder, Bool.and_eq_true, beq_iff_eq,
        List.contains_iff_mem, List.mem_cons, List.not_mem_nil, or_false] at hborder
      obtain ⟨rfl, rfl | rfl | rfl⟩ := hborder
      · exact ⟨rfl, rfl⟩
      · exact ⟨rfl, rfl⟩
      · exact ⟨rfl, rfl⟩
    have hid : border.id ≠ id := by
      intro hid
      have hsame := hwell.same border (hstack ▸ List.mem_cons_self) id tag hm hid
      rw [hends.2] at hsame
      cases hsame
    rw [hstack, visible_cons, hends.1, beq_eq_false_iff_ne.mpr hid]
    rfl

/-- A cell ends the scope, and so is no block. -/
theorem isBlock_cell {name : String} (hname : name = "td" ∨ name = "th") (id : Nat)
    (holdsHtml : Bool) : OpenElement.isBlock ⟨id, .html, name, holdsHtml⟩ = false := by
  rcases hname with rfl | rfl
  · rfl
  · rfl

section Parts

variable {selfClosing : Bool}

/-- A cell in a row. -/
theorem settles_run_row (hb : b.shape.WellFormed) (hmode : b.mode = .row)
    (hforeign : isForeign b.stack (.startTag tag selfClosing) = false)
    (hname : tag.name = "td" ∨ tag.name = "th") (fuel : Nat) :
    Settles 1 b.shape (b.run (.startTag tag selfClosing) fuel).shape := by
  have hclose := (b.shrinks_closeTo rowBorder).settles hb
  cases fuel with
  | zero => exact ((Shrinks.refl _).settles hb).mono (Nat.zero_le _)
  | succ fuel =>
    have hrow : b.byMode (.startTag tag selfClosing) =
        .done { ((b.closeTo rowBorder).open tag).border with mode := .cell } := by
      rw [byMode, hmode]
      dsimp only [inRow]
      rw [if_pos (by rcases hname with hname | hname <;> rw [hname] <;> rfl)]
    rw [run_succ hforeign, hrow]
    obtain ⟨n, hn, hshape⟩ := (b.closeTo rowBorder).shape_openIn .html tag
    have hopen : Settles 1 b.shape ((b.closeTo rowBorder).open tag).shape := by
      rw [Builder.open, hshape]
      exact hclose.push_of_light hn rfl (.inl (isBlock_cell hname _ _))
    exact hopen.border

/-- A cell in a group of rows, for which a row is made. -/
theorem starts_openInTableBody (hb : b.shape.WellFormed) (hname : tag.name = "td" ∨ tag.name = "th")
    (fuel : Nat) : Starts 2 b.shape
      (run { (b.closeTo groupBorder).open { name := "tr" } with mode := .row }
        (.startTag tag selfClosing) fuel).shape := by
  have hshrinks := b.shrinks_closeTo groupBorder
  obtain ⟨n, hn, hshape⟩ := (b.closeTo groupBorder).shape_openIn .html { name := "tr" }
  have hwell : ((b.closeTo groupBorder).open { name := "tr" }).shape.WellFormed := by
    rw [Builder.open, hshape]
    exact (hshrinks.wellFormed hb).push hn rfl
  have hcell := @settles_run_row { (b.closeTo groupBorder).open { name := "tr" } with mode := .row }
    tag selfClosing hwell rfl rfl hname fuel
  exact hshrinks.starts_trans (Settles.after_push (hshape ▸ hcell))

/-- A cell or a row in a group of rows. -/
theorem starts_run_tableBody (hb : b.shape.WellFormed) (hmode : b.mode = .tableBody)
    (hforeign : isForeign b.stack (.startTag tag selfClosing) = false)
    (hname : tag.name = "tr" ∨ tag.name = "td" ∨ tag.name = "th") (fuel : Nat) :
    Starts 2 b.shape (b.run (.startTag tag selfClosing) fuel).shape := by
  cases fuel with
  | zero => exact ((Shrinks.refl _).settles hb).starts.mono (Nat.zero_le _)
  | succ fuel =>
    rw [run_succ hforeign, byMode, hmode]
    dsimp only [inTableBody]
    rcases hname with hrow | hcell
    · rw [if_pos (beq_iff_eq.mpr hrow)]
      exact (((b.shrinks_closeTo groupBorder).settles hb).open tag).mono (by decide)
    · have hnot : (tag.name == "tr") = false := by
        rcases hcell with hcell | hcell <;> rw [hcell] <;> rfl
      have hyes : (tag.name == "th" || tag.name == "td") = true := by
        rcases hcell with hcell | hcell <;> rw [hcell] <;> rfl
      rw [hnot, if_neg Bool.false_ne_true, if_pos hyes]
      exact starts_openInTableBody hb hcell fuel

/-- What a table part is made for, whose start tag is left out. -/
theorem starts_openInTable (hb : b.shape.WellFormed) {part : Tag} {b' b'' : Builder} {k : Nat}
    (hshape : b'.shape = (b.closeToTable.open part).shape)
    (h : b'.shape.WellFormed → Starts k b'.shape b''.shape) : Starts (k + 1) b.shape b''.shape := by
  have hshrinks := b.shrinks_closeTo tableBorder
  obtain ⟨n, hn, hpush⟩ := b.closeToTable.shape_openIn .html part
  have hpart : b'.shape = b.closeToTable.shape.push n
      ⟨b.closeToTable.next, .html, part.name, annotationHoldsHtml .html part⟩ :=
    hshape.trans hpush
  rw [hpart] at h
  exact hshrinks.starts_trans (Starts.after_push_of_light (light_closeToTable hb _)
    (h ((hshrinks.wellFormed hb).push hn rfl)))

/-- A column in a group of columns. -/
theorem starts_run_columnGroup (hb : b.shape.WellFormed) (hmode : b.mode = .columnGroup)
    (hforeign : isForeign b.stack (.startTag tag selfClosing) = false) (hname : tag.name = "col")
    (fuel : Nat) : Starts 1 b.shape (b.run (.startTag tag selfClosing) fuel).shape := by
  have hnone : Settles 0 b.shape b.shape := (Shrinks.refl _).settles hb
  cases fuel with
  | zero => exact hnone.starts.mono (Nat.zero_le _)
  | succ fuel =>
    have hcol : b.byMode (.startTag tag selfClosing) = .done (b.insertElement .html tag) := by
      rw [byMode, hmode]
      dsimp only [inColumnGroup]
      rw [hname]
      rfl
    rw [run_succ hforeign, hcol]
    exact (hnone.insertElement .html tag).starts

end Parts

-- ════════════════════════════════════════════════════════════════════════
-- Start tags
-- ════════════════════════════════════════════════════════════════════════

/-- **What a rule may answer to a start tag**: the tag is handled, or elements are closed and another
mode handles it. -/
def Outcome.Begins (b : Builder) (token : Token) : Outcome → Prop
  | done b' => Starts 4 b.shape b'.shape
  | again b' => (b.shape.Shrinks b'.shape ∧ b'.mode ≠ .tableText) ∨
      ∀ fuel, Starts 4 b.shape (b'.run token fuel).shape

theorem Outcome.Begins.ite {c : Prop} [Decidable c] {o o' : Outcome} (h : c → o.Begins b token)
    (h' : ¬c → o'.Begins b token) : (if c then o else o').Begins b token := by
  split
  · next hc => exact h hc
  · next hc => exact h' hc

/-- The mode that is taken after elements are closed is never that of table text. -/
theorem modeFor_ne {modes : List Mode} (h : .tableText ∉ modes) (stack : List OpenElement) :
    modeFor modes stack ≠ .tableText := by
  have hhead : modes.headD .body ≠ .tableText := by
    cases modes with
    | nil => exact Mode.noConfusion
    | cons mode modes => exact fun heq => h (heq ▸ List.mem_cons_self)
  have hite : ∀ {c : Prop} [Decidable c] {m m' : Mode}, m ≠ .tableText → m' ≠ .tableText →
      (if c then m else m') ≠ .tableText := by
    intro c _ m m' hm hm'
    split
    · exact hm
    · exact hm'
  induction stack with
  | nil => exact Mode.noConfusion
  | cons e stack ih =>
    rw [modeFor]
    refine hite ih (hite ?_ ?_)
    · split
      · exact hite Mode.noConfusion Mode.noConfusion
      · exact Mode.noConfusion
    refine hite Mode.noConfusion (hite Mode.noConfusion (hite Mode.noConfusion ?_))
    refine hite Mode.noConfusion (hite Mode.noConfusion (hite Mode.noConfusion ?_))
    exact hite hhead ih

theorem begins_close (hb : b.shape.WellFormed) (name : String) :
    (Outcome.again (b.close name).resetMode).Begins b token :=
  .inl ⟨b.shrinks_close name, modeFor_ne hb.modes _⟩

variable {selfClosing : Bool}

theorem starts_foster (hb : b.shape.WellFormed) :
    Starts 4 b.shape (b.foster (.startTag tag selfClosing)).shape :=
  @starts_startInBody { b with fostering := true } hb tag selfClosing

theorem begins_inTable (hb : b.shape.WellFormed) :
    (b.inTable (.startTag tag selfClosing)).Begins b (.startTag tag selfClosing) := by
  have hnone : Settles 0 b.shape b.shape := (Shrinks.refl _).settles hb
  have hclose : Settles 0 b.shape b.closeToTable.shape :=
    (b.shrinks_closeTo tableBorder).settles hb
  unfold inTable
  dsimp only
  refine .ite (fun _ => (hclose.border.open tag).mono (by decide)) fun _ => ?_
  refine .ite (fun _ => (hclose.open tag).mono (by decide)) fun _ => ?_
  refine .ite (fun hcol => .inr fun fuel => ?_) fun _ => ?_
  · refine (@starts_openInTable b hb { name := "colgroup" }
      { b.closeToTable.open { name := "colgroup" } with mode := .columnGroup } _ 1 rfl
      fun hwell => ?_).mono (by decide)
    exact starts_run_columnGroup hwell rfl rfl (beq_iff_eq.mp hcol) fuel
  refine .ite (fun _ => (hclose.open tag).mono (by decide)) fun _ => ?_
  refine .ite (fun hpart => .inr fun fuel => ?_) fun _ => ?_
  · refine (@starts_openInTable b hb { name := "tbody" }
      { b.closeToTable.open { name := "tbody" } with mode := .tableBody } _ 2 rfl
      fun hwell => ?_).mono (by decide)
    refine starts_run_tableBody hwell rfl rfl ?_ fuel
    simpa [or_comm, or_left_comm, or_assoc] using hpart
  refine .ite (fun _ => .ite (fun _ => begins_close hb "table") fun _ => starts_refl hb)
    fun _ => ?_
  refine .ite (fun _ => (hnone.headStart tag).mono (by decide)) fun _ => ?_
  refine .ite (fun _ => (hnone.insertElement .html tag).starts.mono (by decide)) fun _ => ?_
  refine .ite (fun _ => .ite (fun _ => ?_) fun _ => starts_refl hb) fun _ => starts_foster hb
  have hinsert := (hnone.insertElement .html tag).starts
  refine (hinsert.keeps (keeps_form hinsert.wellFormed (Nat.lt_succ_self _) fun e he hid => ?_)).mono
    (by decide)
  exact absurd hid (Nat.ne_of_lt (hb.stack_lt e he))

theorem shrinks_endCaption (b : Builder) :
    b.shape.Shrinks (b.implied.close "caption").clearMarks.shape :=
  (b.shrinks_implied_close "caption").trans (shrinks_clearMarks _)

theorem begins_inCaption (hb : b.shape.WellFormed) :
    (b.inCaption (.startTag tag selfClosing)).Begins b (.startTag tag selfClosing) := by
  unfold inCaption
  dsimp only
  refine .ite (fun _ => .ite (fun _ => ?_) fun _ => starts_refl hb) fun _ =>
    starts_startInBody hb tag selfClosing
  rw [if_pos rfl]
  exact .inl ⟨b.shrinks_endCaption, Mode.noConfusion⟩

theorem begins_inColumnGroup (hb : b.shape.WellFormed) :
    (b.inColumnGroup (.startTag tag selfClosing)).Begins b (.startTag tag selfClosing) := by
  have hnone : Settles 0 b.shape b.shape := (Shrinks.refl _).settles hb
  unfold inColumnGroup
  dsimp only
  refine .ite (fun _ => starts_refl hb) fun _ => ?_
  refine .ite (fun _ => (hnone.insertElement .html tag).starts.mono (by decide)) fun _ => ?_
  refine .ite (fun _ => (hnone.headStart tag).mono (by decide)) fun _ => ?_
  exact .ite (fun _ => .inl ⟨b.shrinks_pop, Mode.noConfusion⟩) fun _ => starts_refl hb

theorem begins_inTableBody (hb : b.shape.WellFormed) :
    (b.inTableBody (.startTag tag selfClosing)).Begins b (.startTag tag selfClosing) := by
  have hclose := b.shrinks_closeTo groupBorder
  unfold inTableBody
  dsimp only
  refine .ite (fun _ => ((hclose.settles hb).open tag).mono (by decide)) fun _ => ?_
  refine .ite (fun hcell => .inr fun fuel => ?_) fun _ => ?_
  · refine (starts_openInTableBody hb ?_ fuel).mono (by decide)
    simpa [or_comm] using hcell
  refine .ite (fun _ => .ite (fun _ => ?_) fun _ => starts_refl hb) fun _ => begins_inTable hb
  exact .inl ⟨hclose.trans (shrinks_pop _), Mode.noConfusion⟩

theorem begins_inRow (hb : b.shape.WellFormed) :
    (b.inRow (.startTag tag selfClosing)).Begins b (.startTag tag selfClosing) := by
  have hclose := b.shrinks_closeTo rowBorder
  unfold inRow
  dsimp only
  refine .ite (fun _ => ((hclose.settles hb).open tag).border.mono (by decide)) fun _ => ?_
  refine .ite (fun _ => .ite (fun _ => ?_) fun _ => starts_refl hb) fun _ => begins_inTable hb
  exact .inl ⟨hclose.trans (shrinks_pop _), Mode.noConfusion⟩

theorem begins_inCell (hb : b.shape.WellFormed) :
    (b.inCell (.startTag tag selfClosing)).Begins b (.startTag tag selfClosing) := by
  unfold inCell
  dsimp only
  exact .ite (fun _ => .ite (fun _ => .inl ⟨b.shrinks_closeCell, Mode.noConfusion⟩)
    fun _ => starts_refl hb) fun _ => starts_startInBody hb tag selfClosing

theorem begins_inSelect (hb : b.shape.WellFormed) :
    (b.inSelect (.startTag tag selfClosing)).Begins b (.startTag tag selfClosing) := by
  have hnone : Settles 0 b.shape b.shape := (Shrinks.refl _).settles hb
  have hoption := b.shrinks_closeOption "option"
  have hreset : Starts 4 b.shape (b.close "select").resetMode.shape :=
    ((b.shrinks_close "select").settles hb).starts.mono (by decide)
  unfold inSelect
  dsimp only
  refine .ite (fun _ => ((hoption.settles hb).open tag).mono (by decide)) fun _ => ?_
  refine .ite (fun _ => ?_) fun _ => ?_
  · have hgroup := hoption.trans (shrinks_closeOption _ "optgroup")
    exact ((hgroup.settles hb).open tag).mono (by decide)
  refine .ite (fun _ => .ite (fun _ => hreset) fun _ => starts_refl hb) fun _ => ?_
  refine .ite (fun _ => .ite (fun _ => begins_close hb "select") fun _ => starts_refl hb) fun _ => ?_
  exact .ite (fun _ => (hnone.headStart tag).mono (by decide)) fun _ => starts_refl hb

/-- A template takes the mode of what it holds. -/
theorem begins_become (b : Builder) {mode : Mode} (hmode : mode ≠ .tableText) :
    (Outcome.again { b with
      mode := mode, templateModes := mode :: b.templateModes.tail }).Begins b token := by
  refine .inl ⟨⟨rfl, Nat.le_refl _, .refl _, fun _ => Nat.le_refl _, .refl _, fun _ h => h,
    fun hm => ?_⟩, hmode⟩
  exact List.mem_of_mem_tail (List.mem_of_ne_of_mem hmode.symm hm)

theorem begins_inTemplate (hb : b.shape.WellFormed) :
    (b.inTemplate (.startTag tag selfClosing)).Begins b (.startTag tag selfClosing) := by
  have hnone : Settles 0 b.shape b.shape := (Shrinks.refl _).settles hb
  unfold inTemplate
  dsimp only
  refine .ite (fun _ => (hnone.headStart tag).mono (by decide)) fun _ => ?_
  refine .ite (fun _ => begins_become b Mode.noConfusion) fun _ => ?_
  refine .ite (fun _ => begins_become b Mode.noConfusion) fun _ => ?_
  refine .ite (fun _ => begins_become b Mode.noConfusion) fun _ => ?_
  exact .ite (fun _ => begins_become b Mode.noConfusion) fun _ =>
    begins_become b Mode.noConfusion

/-- **A start tag** in any mode but that of table text. -/
theorem begins_byMode (hb : b.shape.WellFormed) (hmode : b.mode ≠ .tableText) :
    (b.byMode (.startTag tag selfClosing)).Begins b (.startTag tag selfClosing) := by
  unfold byMode
  cases h : b.mode with
  | body => exact starts_startInBody hb tag selfClosing
  | text => exact starts_refl hb
  | table => exact begins_inTable hb
  | tableText => exact absurd h hmode
  | caption => exact begins_inCaption hb
  | columnGroup => exact begins_inColumnGroup hb
  | tableBody => exact begins_inTableBody hb
  | row => exact begins_inRow hb
  | cell => exact begins_inCell hb
  | select => exact begins_inSelect hb
  | selectInTable =>
    exact .ite (fun _ => begins_close hb "select") fun _ => begins_inSelect hb
  | template => exact begins_inTemplate hb

/-- Foreign elements are closed, which are no formatting elements. -/
theorem keeps_breakOut (hb : b.shape.WellFormed) : b.shape.Keeps (b.breakOut token).shape := by
  unfold breakOut
  split
  · obtain ⟨front, hfront, hforeign⟩ := popTo_split
      (fun e => e.space == .html || e.isMathText || e.isSvgHtml) b.stack
    refine @Keeps.of_suffix b.shape front _ hb hfront.symm fun e he => ?_
    have hspace := hforeign e he
    rw [Bool.or_eq_false_iff, Bool.or_eq_false_iff] at hspace
    rw [OpenElement.isHtmlIn, hspace.1.1, Bool.false_and]
  · exact .refl hb

theorem mode_breakOut (b : Builder) (token : Token) : (b.breakOut token).mode = b.mode := by
  unfold breakOut
  split <;> rfl

/-- In foreign content a start tag makes a foreign element or leads back to HTML. -/
theorem inForeign_start (b : Builder) (tag : Tag) (selfClosing : Bool) :
    b.inForeign (.startTag tag selfClosing) = none ∨
      ∃ space, b.inForeign (.startTag tag selfClosing) =
        some (b.insertForeign space tag selfClosing) := by
  dsimp only [inForeign]
  split
  · exact .inl rfl
  · exact .inr ⟨_, rfl⟩

theorem starts_insertForeign (hb : b.shape.WellFormed) (space : Space) :
    Starts 4 b.shape (b.insertForeign space tag selfClosing).shape :=
  (((Shrinks.refl _).settles hb).insertForeign space tag selfClosing).mono (by decide)

theorem starts_run (hb : b.shape.WellFormed) (hmode : b.mode ≠ .tableText) (fuel : Nat) :
    Starts 4 b.shape (b.run (.startTag tag selfClosing) fuel).shape := by
  induction fuel generalizing b with
  | zero => exact starts_refl hb
  | succ fuel ih =>
    have hstep : ∀ {b' : Builder}, b'.shape.WellFormed → b'.mode ≠ .tableText →
        Starts 4 b'.shape (match b'.byMode (.startTag tag selfClosing) with
          | .done b => b
          | .again b => b.run (.startTag tag selfClosing) fuel).shape := by
      intro b' hb' hmode'
      have hbegins := @begins_byMode b' tag selfClosing hb' hmode'
      split
      · next b'' h => exact (h ▸ hbegins :)
      · next b'' h =>
        rw [h] at hbegins
        rcases hbegins with ⟨hshrinks, hmode''⟩ | hrun
        · exact hshrinks.starts_trans (ih (hshrinks.wellFormed hb') hmode'')
        · exact hrun fuel
    rw [run]
    split
    · rcases b.inForeign_start tag selfClosing with hout | ⟨space, hin⟩
      · have hshrinks := b.shrinks_breakOut (.startTag tag selfClosing)
        have hmode' := mode_breakOut b (.startTag tag selfClosing)
        rw [hout]
        exact hshrinks.starts_trans (hstep (hshrinks.wellFormed hb) (hmode' ▸ hmode))
      · rw [hin]
        exact starts_insertForeign hb space
    · exact hstep hb hmode

/-- **A start tag** in any mode. -/
theorem afterStart_run (hb : b.shape.WellFormed) (fuel : Nat) :
    AfterStart b.shape (b.run (.startTag tag selfClosing) fuel).shape := by
  induction fuel generalizing b with
  | zero => exact (starts_refl hb).afterStart
  | succ fuel ih =>
    by_cases hmode : b.mode = .tableText
    · -- the table text is entered before the tag
      have htext : ∀ {b' : Builder}, b'.mode = .tableText →
          b'.byMode (.startTag tag selfClosing) = .again b'.flushTableText := by
        intro b' h
        rw [byMode, h]
        rfl
      have hflush : ∀ {b' : Builder}, b'.shape.WellFormed →
          AfterStart b'.shape (b'.flushTableText.run (.startTag tag selfClosing) fuel).shape := by
        intro b' hb'
        have hkeeps := keeps_flushTableText hb'
        exact hkeeps.afterStart (ih hkeeps.wellFormed)
      rw [run]
      split
      · rcases b.inForeign_start tag selfClosing with hout | ⟨space, hin⟩
        · have hbreak := @keeps_breakOut b (.startTag tag selfClosing) hb
          have hmode' := mode_breakOut b (.startTag tag selfClosing)
          rw [hout]
          dsimp only
          rw [htext (hmode'.trans hmode)]
          exact hbreak.afterStart (hflush hbreak.wellFormed)
        · rw [hin]
          exact (starts_insertForeign hb space).afterStart
      · dsimp only
        rw [htext hmode]
        exact hflush hb
    · exact (starts_run hb hmode (fuel + 1)).afterStart

-- ════════════════════════════════════════════════════════════════════════
-- End tags
-- ════════════════════════════════════════════════════════════════════════

/-- **What a rule may answer to an end tag**: the tag is handled, or elements are closed and another
mode handles it, for which it is no more stray than before. -/
def Outcome.Ends (b : Builder) (name : String) : Outcome → Prop
  | done b' => Settles (b.shape.surplus 8 + stray b.stack name) b.shape b'.shape
  | again b' => b.shape.Shrinks b'.shape ∧ b'.mode ≠ .tableText ∧
      stray b'.stack name ≤ stray b.stack name

theorem Outcome.Ends.ite {c : Prop} [Decidable c] {o o' : Outcome} (h : c → o.Ends b name)
    (h' : ¬c → o'.Ends b name) : (if c then o else o').Ends b name := by
  split
  · next hc => exact h hc
  · next hc => exact h' hc

/-- Only two end tags make elements. -/
theorem stray_of_mem {names : List String} (h : names.contains name = true)
    (hp : names.contains "p" = false) (hbr : names.contains "br" = false)
    (stack : List OpenElement) : stray stack name = 0 := by
  have hnp : (name == "p") = false := beq_eq_false_iff_ne.mpr fun heq => by
    rw [heq, hp] at h
    cases h
  have hnbr : (name == "br") = false := beq_eq_false_iff_ne.mpr fun heq => by
    rw [heq, hbr] at h
    cases h
  rw [stray, hnp, hnbr]
  rfl

theorem ends_shrinks {b' : Builder} (hb : b.shape.WellFormed) (h : b.shape.Shrinks b'.shape) :
    (Outcome.done b').Ends b name :=
  (h.settles hb).mono (Nat.zero_le _)

theorem ends_refl (hb : b.shape.WellFormed) : (Outcome.done b).Ends b name :=
  ends_shrinks hb (.refl _)

theorem ends_again {b' : Builder} (h : b.shape.Shrinks b'.shape) (hmode : b'.mode ≠ .tableText)
    (hname : ∀ stack, stray stack name = 0) : (Outcome.again b').Ends b name :=
  ⟨h, hmode, by rw [hname, hname]⟩

theorem ends_inBody (hb : b.shape.WellFormed) :
    (Outcome.done (b.inBody (.endTag name))).Ends b name :=
  settles_endInBody hb name

theorem ends_inTable (hb : b.shape.WellFormed) : (b.inTable (.endTag name)).Ends b name := by
  unfold inTable
  dsimp only
  refine .ite (fun _ => .ite (fun _ => ends_shrinks hb (b.shrinks_close "table"))
    fun _ => ends_refl hb) fun _ => ?_
  refine .ite (fun _ => ends_refl hb) fun _ => ?_
  exact .ite (fun _ => ends_shrinks hb b.shrinks_endTemplate) fun _ =>
    @settles_endInBody { b with fostering := true } hb name

theorem ends_inCaption (hb : b.shape.WellFormed) : (b.inCaption (.endTag name)).Ends b name := by
  unfold inCaption
  dsimp only
  refine .ite (fun _ => .ite (fun _ => ?_) fun _ => ends_refl hb) fun _ => ?_
  · rw [if_neg Bool.false_ne_true]
    exact ends_shrinks hb b.shrinks_endCaption
  refine .ite (fun htable => .ite (fun _ => ?_) fun _ => ends_refl hb) fun _ => ?_
  · rw [if_pos rfl, beq_iff_eq.mp htable]
    exact ends_again b.shrinks_endCaption Mode.noConfusion fun _ => rfl
  exact .ite (fun _ => ends_refl hb) fun _ => ends_inBody hb

/-- A paragraph that is open in a group of columns is open around it. -/
theorem stray_pop_le (h : b.currentIs "colgroup" = true) (name : String) :
    stray b.pop.stack name ≤ stray b.stack name := by
  unfold currentIs at h
  split at h
  · next e rest hstack =>
    have htail : b.pop.stack = rest := by
      simp only [pop, hstack, List.tail_cons]
    have hscope : inScope OpenElement.endsButtonScope (·.isHtml "p") (e :: rest) =
        inScope OpenElement.endsButtonScope (·.isHtml "p") rest := by
      obtain ⟨i, space, group, holdsHtml⟩ := e
      simp only [OpenElement.isHtml, Bool.and_eq_true, beq_iff_eq] at h
      obtain ⟨rfl, rfl⟩ := h
      rfl
    rw [htail, hstack, stray, stray, hscope]
  · cases h

theorem ends_inColumnGroup (hb : b.shape.WellFormed) :
    (b.inColumnGroup (.endTag name)).Ends b name := by
  unfold inColumnGroup
  dsimp only
  refine .ite (fun _ => .ite (fun _ => ends_shrinks hb b.shrinks_pop) fun _ => ends_refl hb)
    fun _ => ?_
  refine .ite (fun _ => ends_refl hb) fun _ => ?_
  refine .ite (fun _ => ends_shrinks hb b.shrinks_endTemplate) fun _ => ?_
  exact .ite (fun hgroup => ⟨b.shrinks_pop, Mode.noConfusion, stray_pop_le hgroup name⟩)
    fun _ => ends_refl hb

theorem ends_inTableBody (hb : b.shape.WellFormed) :
    (b.inTableBody (.endTag name)).Ends b name := by
  have hclose := (b.shrinks_closeTo groupBorder).trans (shrinks_pop _)
  unfold inTableBody
  dsimp only
  refine .ite (fun _ => .ite (fun _ => ends_shrinks hb hclose) fun _ => ends_refl hb) fun _ => ?_
  refine .ite (fun htable => .ite (fun _ => ?_) fun _ => ends_refl hb) fun _ => ?_
  · rw [beq_iff_eq.mp htable]
    exact ends_again hclose Mode.noConfusion fun _ => rfl
  exact .ite (fun _ => ends_refl hb) fun _ => ends_inTable hb

theorem ends_inRow (hb : b.shape.WellFormed) : (b.inRow (.endTag name)).Ends b name := by
  have hclose := (b.shrinks_closeTo rowBorder).trans (shrinks_pop _)
  unfold inRow
  dsimp only
  refine .ite (fun _ => .ite (fun _ => ends_shrinks hb hclose) fun _ => ends_refl hb) fun _ => ?_
  refine .ite (fun htable => .ite (fun _ => ?_) fun _ => ends_refl hb) fun _ => ?_
  · rw [beq_iff_eq.mp htable]
    exact ends_again hclose Mode.noConfusion fun _ => rfl
  refine .ite (fun hgroup => .ite (fun _ => .ite (fun _ => ?_) fun _ => ends_refl hb)
    fun _ => ends_refl hb) fun _ => ?_
  · refine ends_again hclose Mode.noConfusion
      (@stray_of_mem name ["tbody", "tfoot", "thead"] ?_ rfl rfl)
    simpa [or_assoc] using hgroup
  exact .ite (fun _ => ends_refl hb) fun _ => ends_inTable hb

theorem ends_inCell (hb : b.shape.WellFormed) : (b.inCell (.endTag name)).Ends b name := by
  unfold inCell
  dsimp only
  refine .ite (fun _ => .ite (fun _ => ?_) fun _ => ends_refl hb) fun _ => ?_
  · exact ends_shrinks hb ((b.shrinks_implied_close name).trans (shrinks_clearMarks _))
  refine .ite (fun _ => ends_refl hb) fun _ => ?_
  refine .ite (fun htable => .ite (fun _ => ?_) fun _ => ends_refl hb) fun _ => ends_inBody hb
  exact ends_again b.shrinks_closeCell Mode.noConfusion (stray_of_mem htable rfl rfl)

theorem ends_inSelect (hb : b.shape.WellFormed) : (b.inSelect (.endTag name)).Ends b name := by
  unfold inSelect
  dsimp only
  refine .ite (fun _ => ends_shrinks hb ?_) fun _ => ?_
  · refine Shrinks.trans ?_ (shrinks_closeOption _ "optgroup")
    split
    · split
      · exact b.shrinks_pop
      · exact .refl _
    · exact .refl _
  refine .ite (fun _ => ends_shrinks hb (b.shrinks_closeOption "option")) fun _ => ?_
  refine .ite (fun _ => .ite (fun _ => ends_shrinks hb (b.shrinks_close "select"))
    fun _ => ends_refl hb) fun _ => ?_
  exact .ite (fun _ => ends_shrinks hb b.shrinks_endTemplate) fun _ => ends_refl hb

theorem ends_inSelectInTable (hb : b.shape.WellFormed) :
    (b.inSelectInTable (.endTag name)).Ends b name := by
  unfold inSelectInTable
  dsimp only
  refine .ite (fun hender => .ite (fun _ => ?_) fun _ => ends_refl hb) fun _ => ends_inSelect hb
  exact ends_again (b.shrinks_close "select") (modeFor_ne hb.modes _)
    (stray_of_mem hender rfl rfl)

theorem ends_inTemplate (hb : b.shape.WellFormed) : (b.inTemplate (.endTag name)).Ends b name := by
  refine ends_shrinks hb ?_
  split
  · exact b.shrinks_endTemplate
  · exact .refl _

/-- **An end tag** in any mode but that of table text. -/
theorem ends_byMode (hb : b.shape.WellFormed) (hmode : b.mode ≠ .tableText) :
    (b.byMode (.endTag name)).Ends b name := by
  unfold byMode
  cases h : b.mode with
  | body => exact ends_inBody hb
  | text => exact ends_shrinks hb b.shrinks_pop
  | table => exact ends_inTable hb
  | tableText => exact absurd h hmode
  | caption => exact ends_inCaption hb
  | columnGroup => exact ends_inColumnGroup hb
  | tableBody => exact ends_inTableBody hb
  | row => exact ends_inRow hb
  | cell => exact ends_inCell hb
  | select => exact ends_inSelect hb
  | selectInTable => exact ends_inSelectInTable hb
  | template => exact ends_inTemplate hb

theorem foreignEnd_suffix {first : Bool} {stack stack' : List OpenElement}
    (h : foreignEnd name first stack = .close stack') : stack' <:+ stack := by
  induction stack generalizing first with
  | nil => cases h
  | cons e stack ih =>
    rw [foreignEnd] at h
    split at h
    · cases h
    · split at h
      · cases h
        exact List.suffix_cons e _
      · exact (ih h).trans (List.suffix_cons e _)

/-- In foreign content an end tag closes elements or falls under the rules of HTML. -/
theorem inForeign_end (b : Builder) (name : String) :
    b.inForeign (.endTag name) = none ∨
      ∃ b', b.inForeign (.endTag name) = some b' ∧ b.shape.Shrinks b'.shape := by
  dsimp only [inForeign]
  split
  · next stack h => exact .inr ⟨_, rfl, .of_suffix (foreignEnd_suffix h)⟩
  · exact .inr ⟨_, rfl, .refl _⟩
  · exact .inl rfl

theorem settles_run (hb : b.shape.WellFormed) (hmode : b.mode ≠ .tableText) (fuel : Nat) :
    Settles (b.shape.surplus 8 + stray b.stack name) b.shape
      (b.run (.endTag name) fuel).shape := by
  induction fuel generalizing b with
  | zero => exact ends_refl hb
  | succ fuel ih =>
    have hstep : Settles (b.shape.surplus 8 + stray b.stack name) b.shape
        (match b.byMode (.endTag name) with
          | .done b => b
          | .again b => b.run (.endTag name) fuel).shape := by
      have hends := @ends_byMode b name hb hmode
      split
      · next b' h =>
        rw [h] at hends
        exact hends
      · next b' h =>
        rw [h] at hends
        obtain ⟨hshrinks, hmode', hstray⟩ := hends
        have hsurplus := surplus_mono hshrinks.remembered_le 8
        exact (hshrinks.settles_trans (ih (hshrinks.wellFormed hb) hmode')).mono (by omega)
    rw [run]
    split
    · rcases b.inForeign_end name with hout | ⟨b', hin, hshrinks⟩
      · rw [hout]
        exact hstep
      · rw [hin]
        exact ends_shrinks hb hshrinks
    · exact hstep

/-- Formatting elements are not in the way of a paragraph that is open around them. -/
theorem stray_cons {e : OpenElement} (he : e.isHtmlIn formattingTags = true)
    (stack : List OpenElement) (name : String) : stray (e :: stack) name = stray stack name := by
  obtain ⟨id, space, tagName, holdsHtml⟩ := e
  simp only [OpenElement.isHtmlIn, Bool.and_eq_true, beq_iff_eq, List.contains_iff_mem] at he
  obtain ⟨rfl, hname⟩ := he
  have hall : formattingTags.all (fun name =>
      !(OpenElement.isHtml ⟨0, .html, name, false⟩ "p") &&
        !(OpenElement.endsButtonScope ⟨0, .html, name, false⟩)) = true := by decide
  have h := List.all_eq_true.mp hall tagName hname
  rw [Bool.and_eq_true, Bool.not_eq_true', Bool.not_eq_true'] at h
  have hends : OpenElement.endsButtonScope ⟨id, .html, tagName, holdsHtml⟩ = false := h.2
  have hp : OpenElement.isHtml ⟨id, .html, tagName, holdsHtml⟩ "p" = false := h.1
  rw [stray, stray, inScope, hends, hp]
  rfl

theorem stray_reopen {marks : List Mark}
    (hmarks : ∀ id tag, .element id tag ∈ marks → tag.name ∈ formattingTags) :
    stray (b.reopen marks).stack name = stray b.stack name := by
  induction marks generalizing b with
  | nil => rfl
  | cons m marks ih =>
    have hrest : ∀ b : Builder, stray (b.reopen marks).stack name = stray b.stack name :=
      fun _ => ih fun id tag hm => hmarks id tag (List.mem_cons_of_mem _ hm)
    cases m with
    | border => exact hrest _
    | element id tag =>
      have hopen : stray (b.reopenOne tag).stack name = stray b.stack name :=
        stray_cons (isHtmlIn_of_mem (hmarks id tag List.mem_cons_self) _ _) b.stack name
      exact (hrest _).trans hopen

theorem stray_reopenFormatting (hb : b.shape.WellFormed) :
    stray b.reopenFormatting.stack name = stray b.stack name := by
  refine stray_reopen fun id tag hm => hb.formatting id tag ?_
  exact (List.takeWhile_prefix _).subset (List.mem_reverse.mp hm)

/-- Table text is entered without closing a paragraph. -/
theorem stray_flushTableText (hb : b.shape.WellFormed) :
    stray b.flushTableText.stack name = stray b.stack name := by
  have hfoster : ∀ (cs : List Char) {b : Builder}, b.shape.WellFormed →
      stray (cs.foldl (fun b c => b.foster (.char c)) b).stack name = stray b.stack name := by
    intro cs
    induction cs with
    | nil => exact fun _ => rfl
    | cons c cs ih =>
      intro b hb
      exact (ih (@keeps_foster b (.char c) hb rfl).wellFormed).trans
        (@stray_reopenFormatting { b with fostering := true } name hb)
  have hinsert : ∀ (cs : List Char) (b : Builder), (cs.foldl insertChar b).stack = b.stack := by
    intro cs
    induction cs with
    | nil => exact fun _ => rfl
    | cons c cs ih => exact fun b => ih (b.insertChar c)
  unfold flushTableText
  dsimp only
  split
  · rw [hinsert]
  · exact @hfoster _ { b with tableText := [], mode := b.returnMode } hb

/-- **An end tag** in any mode. -/
theorem afterEnd_run (hb : b.shape.WellFormed) (fuel : Nat) :
    AfterEnd (stray b.stack name) b.shape (b.run (.endTag name) fuel).shape := by
  induction fuel generalizing b with
  | zero => exact (ends_refl hb).afterEnd
  | succ fuel ih =>
    by_cases hmode : b.mode = .tableText
    · have hstep : AfterEnd (stray b.stack name) b.shape (match b.byMode (.endTag name) with
          | .done b => b
          | .again b => b.run (.endTag name) fuel).shape := by
        have hkeeps := keeps_flushTableText hb
        have htext : b.byMode (.endTag name) = .again b.flushTableText := by
          rw [byMode, hmode]
          rfl
        rw [htext, ← stray_flushTableText hb]
        exact hkeeps.afterEnd (ih hkeeps.wellFormed)
      rw [run]
      split
      · rcases b.inForeign_end name with hout | ⟨b', hin, hshrinks⟩
        · rw [hout]
          exact hstep
        · rw [hin]
          exact Settles.afterEnd (ends_shrinks hb hshrinks)
      · exact hstep
    · exact (settles_run hb hmode (fuel + 1)).afterEnd

-- ════════════════════════════════════════════════════════════════════════
-- One token
-- ════════════════════════════════════════════════════════════════════════

/-- **Text and comments** cost nothing. -/
theorem keeps_process (hb : b.shape.WellFormed) (htag : token.isTag = false) :
    b.shape.Keeps (b.process token).shape := by
  unfold process
  dsimp only
  split
  · exact .refl hb
  · exact @keeps_run { b with skipNewline := false, wanted := .markup } token hb htag processFuel

/-- **A start tag** costs four, and four more for each formatting element. -/
theorem afterStart_process (hb : b.shape.WellFormed) :
    AfterStart b.shape (b.process (.startTag tag selfClosing)).shape := by
  unfold process
  dsimp only
  split
  · exact (starts_refl hb).afterStart
  · exact @afterStart_run { b with skipNewline := false, wanted := .markup } tag selfClosing hb
      processFuel

/-- **An end tag** costs four for each formatting element that is remembered after it, and what it
makes itself. -/
theorem afterEnd_process (hb : b.shape.WellFormed) :
    AfterEnd (stray b.stack name) b.shape (b.process (.endTag name)).shape := by
  unfold process
  dsimp only
  split
  · exact Settles.afterEnd (ends_refl hb)
  · exact @afterEnd_run { b with skipNewline := false, wanted := .markup } name hb processFuel

/-- At the end no more elements are made. -/
theorem keeps_finish (hb : b.shape.WellFormed) : b.shape.Keeps b.finish.shape := by
  unfold finish
  split
  · exact keeps_flushTableText hb
  · exact .refl hb

end Builder

end ArticleMarkup.Html
