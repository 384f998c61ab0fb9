import ArticleMarkup.Html.Fragment
import ArticleMarkup.Proofs.Html.Adoption

/-!
# What the rules of flow content may cost

A start tag makes one element. It may close all formatting elements around it, so that each is opened
again later, and the element may be a block in each of them. An end tag makes no element, apart from
the end tags of paragraphs that are not open and of line breaks, and may close all formatting elements
that stay remembered.

## Main definitions

- `stray` — the elements that an end tag makes

## Main statements

- `Builder.starts_startInBody` — a start tag
- `Builder.settles_endInBody` — an end tag
- `Builder.keeps_inBody` — everything else
-/

namespace ArticleMarkup.Html

open Shape

-- ════════════════════════════════════════════════════════════════════════
-- Operations in a row
-- ════════════════════════════════════════════════════════════════════════

namespace Builder

variable {b : Builder}

theorem keeps_border (hb : b.shape.WellFormed) : b.shape.Keeps b.border.shape where
  wellFormed :=
    { hb with
      marks_lt := fun id tag hm => hb.marks_lt id tag (List.mem_of_ne_of_mem Mark.noConfusion hm)
      formatting := fun id tag hm =>
        hb.formatting id tag (List.mem_of_ne_of_mem Mark.noConfusion hm)
      same := fun e he id tag hm => hb.same e he id tag (List.mem_of_ne_of_mem Mark.noConfusion hm) }
  remembered := List.countP_cons_of_neg Bool.false_ne_true
  worth := by
    have hclosed : b.border.shape.closed = b.shape.closed :=
      List.countP_cons_of_neg Bool.false_ne_true
    have hremembered : b.border.shape.remembered = b.shape.remembered :=
      List.countP_cons_of_neg Bool.false_ne_true
    have hreach : b.border.shape.reach = b.shape.reach := by
      have hsum : (b.border.shape.marks.map (Mark.weight b.shape.stack)).sum =
          (b.shape.marks.map (Mark.weight b.shape.stack)).sum :=
        Nat.zero_add _
      exact congrArg (b.next + 3 * ·) hsum
    rw [worth, worth, hclosed, hremembered, hreach]

theorem keeps_template (hb : b.shape.WellFormed) :
    b.shape.Keeps { b with mode := .template, templateModes := .template :: b.templateModes }.shape :=
  ⟨{ hb with
      modes := fun hm => hb.modes (List.mem_of_ne_of_mem Mode.noConfusion hm) }, rfl, Nat.le_refl _⟩

/-- The form that is open changes. -/
theorem keeps_form (hb : b.shape.WellFormed) {id : Nat} (hid : id < b.next)
    (hform : ∀ e ∈ b.stack, e.id = id → e.isHtml "form" = true) :
    b.shape.Keeps { b with form := some id }.shape :=
  ⟨{ hb with
      form_lt := fun _ h => Option.some.inj h ▸ hid
      form := fun _ h => Option.some.inj h ▸ hform }, rfl, Nat.le_refl _⟩

end Builder

namespace Shape

variable {s : Shape} {b : Builder} {k : Nat}

theorem Settles.reopen (h : Settles k s b.shape) : Settles k s b.reopenFormatting.shape :=
  h.keeps (Builder.keeps_reopenFormatting h.wellFormed)

theorem Settles.border (h : Settles k s b.shape) : Settles k s b.border.shape :=
  h.keeps (Builder.keeps_border h.wellFormed)

theorem Settles.insertElement (h : Settles k s b.shape) (space : Space) (tag : Tag) :
    Settles (k + 1) s (b.insertElement space tag).shape := by
  obtain ⟨n, hn, hshape⟩ := b.shape_insertElement space tag
  rw [hshape]
  exact h.insert hn

theorem Settles.openIn (h : Settles k s b.shape) (space : Space) (tag : Tag) :
    Starts (k + 1) s (b.openIn space tag).shape := by
  obtain ⟨n, hn, hshape⟩ := b.shape_openIn space tag
  rw [hshape]
  exact h.push hn rfl

theorem Settles.open (h : Settles k s b.shape) (tag : Tag) :
    Starts (k + 1) s (b.open tag).shape :=
  h.openIn .html tag

/-- A rule that distinguishes two cases. -/
theorem Starts.ite {c : Prop} [Decidable c] {b' : Builder} (h : c → Starts k s b.shape)
    (h' : ¬c → Starts k s b'.shape) : Starts k s (if c then b else b').shape := by
  split
  · next hc => exact h hc
  · next hc => exact h' hc

theorem Settles.ite {c : Prop} [Decidable c] {b' : Builder} (h : c → Settles k s b.shape)
    (h' : ¬c → Settles k s b'.shape) : Settles k s (if c then b else b').shape := by
  split
  · next hc => exact h hc
  · next hc => exact h' hc

theorem Starts.border (h : Starts k s b.shape) : Starts k s b.border.shape :=
  h.keeps (Builder.keeps_border h.wellFormed)

theorem Settles.insertForeign (h : Settles k s b.shape) (space : Space) (tag : Tag)
    (selfClosing : Bool) : Starts (k + 1) s (b.insertForeign space tag selfClosing).shape := by
  unfold Builder.insertForeign
  dsimp only
  split
  · exact (h.insertElement space _).starts
  · exact h.openIn space _

theorem Settles.headStart (h : Settles k s b.shape) (tag : Tag) :
    Starts (k + 1) s (b.headStart tag).shape := by
  unfold Builder.headStart
  split
  · exact h.open tag
  · exact h.open tag
  · exact h.open tag
  · exact h.open tag
  · have hborder := (h.open tag).border
    exact hborder.keeps (Builder.keeps_template hborder.wellFormed)
  · exact (h.insertElement .html tag).starts

/-- **A formatting element** costs what it may cost itself. -/
theorem Settles.openFormatting (h : Settles k s b.shape) (hk : k ≤ 3 * s.remembered) {tag : Tag}
    (htag : tag.name ∈ formattingTags) : Starts 4 s (b.openFormatting tag).shape := by
  have hsub := Builder.makeRoom_sublist tag b.marks
  have hwell := (@Shrinks.of_marks b.shape _ hsub).wellFormed h.wellFormed
  have hless := @worth_of_marks_le b.shape _ hsub
  obtain ⟨n, hn, hshape⟩ := b.shape_openFormatting tag
  have hformatting := isHtmlIn_of_mem htag b.next false
  rw [hshape]
  refine ⟨hwell.remember hn rfl hformatting htag, ?_⟩
  have hworth := h.worth
  have hle := h.remembered
  have hremember := @worth_remember_le _ n _ tag hwell rfl hformatting
  omega

end Shape

-- ════════════════════════════════════════════════════════════════════════
-- Start tags
-- ════════════════════════════════════════════════════════════════════════

namespace Builder

variable {b : Builder} {tag : Tag}

theorem starts_refl (hb : b.shape.WellFormed) : Starts 4 b.shape b.shape :=
  (((Shrinks.refl _).settles hb).starts).mono (by decide)

/-- A form is opened, and is the open form unless a template is open. -/
theorem starts_form (hb : b.shape.WellFormed) (hname : tag.name = "form") :
    Starts 4 b.shape (if (b.endParagraph.open tag).hasOpen "template" then b.endParagraph.open tag
      else { b.endParagraph.open tag with form := some b.endParagraph.next }).shape := by
  have hshrinks := b.shrinks_endParagraph
  have hopen := (hshrinks.settles hb).open tag
  split
  · exact hopen.mono (by decide)
  · refine (hopen.keeps (keeps_form hopen.wellFormed (Nat.lt_succ_self _) fun e he hid => ?_)).mono
      (by decide)
    rcases List.mem_cons.mp he with rfl | hold
    · rw [OpenElement.isHtml, hname]
      rfl
    · exact absurd hid (Nat.ne_of_lt ((hshrinks.wellFormed hb).stack_lt e hold))

/-- The link that is open is closed for good before another. -/
theorem settles_anchor (hb : b.shape.WellFormed) :
    Settles (b.shape.surplus 8) b.shape
      (match Mark.newest? "a" b.marks with
        | none => b
        | some (id, _) =>
          { b.adopt "a" with
            marks := Mark.without id (b.adopt "a").marks
            stack := (b.adopt "a").stack.filter (·.id != id) }).shape := by
  split
  · exact ((Shrinks.refl _).settles hb).mono (Nat.zero_le _)
  · next id t hnewest =>
    have hadopt := adopts_adopt hb "a"
    have hmark : .element id t ∈ b.shape.marks := newest?_mem hnewest
    have hold : ∀ e ∈ (b.adopt "a").stack, (e.id != id) = false → e.endsScope = false := by
      intro e he hid
      have hid : e.id = id := by simpa using hid
      rcases hadopt.stack e he with hmem | hle
      · exact (isBlock_of_formatting (hb.same e hmem id t hmark hid)).2
      · exact absurd (hb.marks_lt id t hmark) (by omega)
    have hfilter : (b.adopt "a").shape.Shrinks
        { b.adopt "a" with stack := (b.adopt "a").stack.filter (·.id != id) }.shape :=
      .of_filter hold
    have hshrinks := hfilter.trans (shrinks_without _ id)
    exact (hadopt.trans (hshrinks.adopts hadopt.wellFormed 0)).settles

theorem starts_nobr (hb : b.shape.WellFormed) (htag : tag.name ∈ formattingTags) :
    Starts 4 b.shape ((if b.reopenFormatting.scope "nobr" then
      (b.reopenFormatting.adopt "nobr").reopenFormatting else b.reopenFormatting).openFormatting
        tag).shape := by
  split
  · have hkeeps := keeps_reopenFormatting hb
    have hadopt := (adopts_adopt hkeeps.wellFormed "nobr").settles
    have hsurplus := surplus_le b.reopenFormatting.shape
    have hremembered := hkeeps.remembered
    exact (hkeeps.settles_trans hadopt).reopen.openFormatting (by omega) htag
  · exact (((Shrinks.refl _).settles hb).reopen).openFormatting (Nat.zero_le _) htag

/-- An option is opened, which closes one that is open. -/
theorem shrinks_closeOption (b : Builder) (name : String) :
    b.shape.Shrinks (if b.currentIs name then b.pop else b).shape := by
  split
  · exact b.shrinks_pop
  · exact .refl _

/-- **A start tag** in flow content makes one element, which costs at most as much again as there are
formatting elements around it. -/
theorem starts_startInBody (hb : b.shape.WellFormed) (tag : Tag) (selfClosing : Bool) :
    Starts 4 b.shape (b.startInBody tag selfClosing).shape := by
  have hnone : Settles 0 b.shape b.shape := (Shrinks.refl _).settles hb
  have hparagraph : Settles 0 b.shape b.endParagraph.shape := b.shrinks_endParagraph.settles hb
  have hitem : ∀ names, Settles 0 b.shape (b.closeItem names).endParagraph.shape := fun names =>
    ((b.shrinks_closeItem names).trans (shrinks_endParagraph _)).settles hb
  have hone : ∀ {b' : Builder}, Starts 1 b.shape b'.shape → Starts 4 b.shape b'.shape :=
    fun h => h.mono (by decide)
  unfold startInBody
  dsimp only
  refine .ite (fun _ => starts_refl hb) fun _ => ?_
  refine .ite (fun _ => hone (hnone.headStart tag)) fun _ => ?_
  refine .ite (fun _ => hone (hparagraph.open tag)) fun _ => ?_
  refine .ite (fun _ => ?_) fun _ => ?_
  · -- a heading in a heading closes it
    split
    · split
      · exact hone (((b.shrinks_endParagraph.trans (shrinks_pop _)).settles hb).open tag)
      · exact hone (hparagraph.open tag)
    · exact hone (hparagraph.open tag)
  refine .ite (fun _ => hone (hparagraph.open tag)) fun _ => ?_
  refine .ite (fun hform => .ite (fun _ => starts_refl hb) fun _ =>
    starts_form hb (beq_iff_eq.mp hform)) fun _ => ?_
  refine .ite (fun _ => hone ((hitem ["li"]).open tag)) fun _ => ?_
  refine .ite (fun _ => hone ((hitem ["dd", "dt"]).open tag)) fun _ => ?_
  refine .ite (fun _ => hone (hparagraph.open tag)) fun _ => ?_
  refine .ite (fun _ => ?_) fun _ => ?_
  · split
    · exact hone (((b.shrinks_implied_close "button").settles hb).reopen.open tag)
    · exact hone (hnone.reopen.open tag)
  refine .ite (fun ha => ?_) fun _ => ?_
  · have hsurplus := surplus_le b.shape
    refine (settles_anchor hb).reopen.openFormatting (by omega) ?_
    rw [beq_iff_eq.mp ha]
    decide
  refine .ite (fun hplain => ?_) fun _ => ?_
  · have hsub : plainFormattingNames ⊆ formattingTags := by decide
    exact hnone.reopen.openFormatting (Nat.zero_le _) (hsub (List.contains_iff_mem.mp hplain))
  refine .ite (fun hnobr => ?_) fun _ => ?_
  · refine starts_nobr hb ?_
    rw [beq_iff_eq.mp hnobr]
    decide
  refine .ite (fun _ => hone (hnone.reopen.open tag).border) fun _ => ?_
  refine .ite (fun _ => hone (hparagraph.open tag)) fun _ => ?_
  refine .ite (fun _ => hone (hnone.reopen.insertElement .html tag).starts) fun _ => ?_
  refine .ite (fun _ => hone (hnone.insertElement .html tag).starts) fun _ => ?_
  refine .ite (fun _ => hone (hparagraph.insertElement .html tag).starts) fun _ => ?_
  refine .ite (fun _ => hone (hnone.reopen.insertElement .html _).starts) fun _ => ?_
  refine .ite (fun _ => hone (hnone.open tag)) fun _ => ?_
  refine .ite (fun _ => hone (hparagraph.reopen.open tag)) fun _ => ?_
  refine .ite (fun _ => hone (hnone.open tag)) fun _ => ?_
  refine .ite (fun _ => hone (hnone.reopen.open tag)) fun _ => ?_
  refine .ite (fun _ => hone (((b.shrinks_closeOption "option").settles hb).reopen.open tag))
    fun _ => ?_
  refine .ite (fun _ => ?_) fun _ => ?_
  · split
    · exact hone ((b.shrinks_implied.settles hb).open tag)
    · exact hone (hnone.open tag)
  refine .ite (fun _ => ?_) fun _ => ?_
  · split
    · exact hone (((b.shrinks_impliedExcept "rtc").settles hb).open tag)
    · exact hone (hnone.open tag)
  refine .ite (fun _ => hone (hnone.insertForeign .math tag selfClosing)) fun _ => ?_
  refine .ite (fun _ => hone (hnone.insertForeign .svg tag selfClosing)) fun _ => ?_
  exact .ite (fun _ => starts_refl hb) fun _ => hone (hnone.reopen.open tag)

-- ════════════════════════════════════════════════════════════════════════
-- End tags
-- ════════════════════════════════════════════════════════════════════════

/-- **The elements that an end tag makes**: a paragraph that is not open, and a line break. -/
def stray (stack : List OpenElement) (name : String) : Nat :=
  if name == "br" || name == "p" && !inScope OpenElement.endsButtonScope (·.isHtml "p") stack then 1
  else 0

theorem shrinks_noForm (b : Builder) : b.shape.Shrinks { b with form := none }.shape :=
  ⟨rfl, Nat.le_refl _, .refl _, fun _ => Nat.le_refl _, .refl _,
    fun _ h => absurd h.symm (Option.some_ne_none _), fun h => h⟩

/-- The form that is open is closed, and what is in it stays open. -/
theorem shrinks_endForm (hb : b.shape.WellFormed) {id : Nat} (hid : b.form = some id) :
    b.shape.Shrinks { { b with form := none }.implied with
      stack := { b with form := none }.implied.stack.filter (·.id != id) }.shape := by
  have himplied := b.shrinks_noForm.trans (shrinks_implied _)
  have hform : ∀ e ∈ { b with form := none }.implied.stack, (e.id != id) = false →
      e.endsScope = false := by
    intro e he heq
    have hhtml := hb.form id hid e (himplied.stack.subset he) (by simpa using heq)
    obtain ⟨i, space, name, holdsHtml⟩ := e
    simp only [OpenElement.isHtml, Bool.and_eq_true, beq_iff_eq] at hhtml
    obtain ⟨rfl, rfl⟩ := hhtml
    rfl
  exact himplied.trans (.of_filter hform)

theorem settles_endForm (hb : b.shape.WellFormed) :
    Settles 0 b.shape (match b.form with
      | none => b
      | some id =>
        if inScope OpenElement.endsScope (·.id == id) { b with form := none }.stack then
          { { b with form := none }.implied with
            stack := { b with form := none }.implied.stack.filter (·.id != id) }
        else { b with form := none }).shape := by
  split
  · exact (Shrinks.refl _).settles hb
  · next id hid =>
    exact .ite (fun _ => (shrinks_endForm hb hid).settles hb) fun _ => b.shrinks_noForm.settles hb

/-- A paragraph that is not open is made and closed at once. -/
theorem settles_endParagraph (hb : b.shape.WellFormed) :
    Settles (stray b.stack "p") b.shape (if inScope OpenElement.endsButtonScope (·.isHtml "p") b.stack
      then b else b.open { name := "p" }).closeParagraph.shape := by
  split
  · exact (b.shrinks_closeParagraph.settles hb).mono (Nat.zero_le _)
  · next hscope =>
    have hstray : stray b.stack "p" = 1 := by
      simp [stray, hscope]
    have hshape : (b.open { name := "p" }).closeParagraph.shape =
        (b.insertElement .html { name := "p" }).shape := rfl
    rw [hstray, hshape]
    exact ((Shrinks.refl _).settles hb).insertElement .html { name := "p" }

/-- **An end tag** in flow content. -/
theorem settles_endInBody (hb : b.shape.WellFormed) (name : String) :
    Settles (b.shape.surplus 8 + stray b.stack name) b.shape (b.endInBody name).shape := by
  have hzero : ∀ {b' : Builder}, b.shape.Shrinks b'.shape →
      Settles (b.shape.surplus 8 + stray b.stack name) b.shape b'.shape :=
    fun h => (h.settles hb).mono (Nat.zero_le _)
  have hrefl := Shrinks.refl b.shape
  unfold endInBody
  dsimp only
  refine .ite (fun _ => hzero b.shrinks_endTemplate) fun _ => ?_
  refine .ite (fun _ => hzero hrefl) fun _ => ?_
  refine .ite (fun _ => .ite (fun _ => hzero (b.shrinks_implied_close name)) fun _ => hzero hrefl)
    fun _ => ?_
  refine .ite (fun _ => .ite (fun _ => .ite (fun _ => hzero (b.shrinks_implied_close "form"))
    fun _ => hzero hrefl) fun _ => (settles_endForm hb).mono (Nat.zero_le _)) fun _ => ?_
  refine .ite (fun hp => ?_) fun _ => ?_
  · obtain rfl := beq_iff_eq.mp hp
    exact (settles_endParagraph hb).mono (Nat.le_add_left _ _)
  refine .ite (fun _ => .ite (fun _ => hzero (b.shrinks_impliedExcept_close "li" "li"))
    fun _ => hzero hrefl) fun _ => ?_
  refine .ite (fun _ => .ite (fun _ => hzero (b.shrinks_impliedExcept_close name name))
    fun _ => hzero hrefl) fun _ => ?_
  refine .ite (fun _ => .ite (fun _ => hzero ?_) fun _ => hzero hrefl) fun _ => ?_
  · exact b.shrinks_implied.trans (.of_suffix (popThrough_suffix _ _))
  refine .ite (fun _ => (adopts_adopt hb name).settles.mono (Nat.le_add_right _ _)) fun _ => ?_
  refine .ite (fun _ => .ite (fun _ => hzero ?_) fun _ => hzero hrefl) fun _ => ?_
  · exact (b.shrinks_implied_close name).trans (shrinks_clearMarks _)
  refine .ite (fun hbr => ?_) fun _ => hzero (b.shrinks_closeGeneric name)
  obtain rfl := beq_iff_eq.mp hbr
  exact (((hrefl.settles hb).reopen).insertElement .html _).mono (Nat.le_add_left _ _)

/-- **Text and comments** in flow content. -/
theorem keeps_inBody (hb : b.shape.WellFormed) {token : Token} (htag : token.isTag = false) :
    b.shape.Keeps (b.inBody token).shape := by
  cases token with
  | char c =>
    have hreopen := keeps_reopenFormatting hb
    exact hreopen.trans (keeps_insertChar hreopen.wellFormed c)
  | null => exact .refl hb
  | remark => exact .refl hb
  | comment => exact keeps_insertOther hb
  | startTag tag selfClosing => cases htag
  | endTag name => cases htag

end Builder

end ArticleMarkup.Html
