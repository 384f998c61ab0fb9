import ArticleMarkup.Proofs.Html.Replaced
import ArticleMarkup.Proofs.Render.Ended
import ArticleMarkup.Proofs.Render.Safety

/-!
# Rendering again

A rendering that starts with a block passes through markdown as it is, but for the end of its last
line. If its document is regular, the parser reads this text as the document that was written, with
a newline behind it, and the passes over the tree find nothing to do.

## Main definitions

- `Renderer.Becomes` — the rendering that an HTML text is turned into

## Main statements

- `Renderer.exists_render_iff` — what a rendering takes
- `Renderer.rawLines_render` — a rendering that starts with a block is read as raw HTML
- `Renderer.exists_lower_rawHtml`, `Renderer.becomes_rawHtml_iff` — what is read then, and what the
  passes make of it
- `Renderer.rerender_iff` — the second rendering is the first one with its last line ended
-/

namespace ArticleMarkup

open Markdown (document exceedsDepth? htmlOf isSpaceOrTab linesOf rawHtml rawLines)

namespace Renderer

variable (r : Renderer)

/-- **The HTML text becomes the rendering** when it is parsed within the limits and the passes go
over its tree. -/
def Becomes (html : String) (out : Rendering) : Prop :=
  Html.checkBudget html r.config.maxElements = none ∧
    ∃ tree, Html.lower html r.config.maxNestingDepth = some tree ∧
      (r.finish (sanitize r.schema tree)).1.written = out.html ∧
      (r.finish (sanitize r.schema tree)).2.1 = out.headings

/-- **What a rendering takes**: an article within the limits, whose HTML becomes the rendering. -/
theorem exists_render_iff {request : RenderRequest} {out : Rendering}
    (hblank : Text.isBlank request.markdown = false) :
    (∃ events, r.render request = .ok (out, events)) ↔
      request.markdown.utf8ByteSize ≤ r.config.maxInputBytes ∧
      exceedsDepth? r.config.maxNestingDepth (document request.markdown) = none ∧
      r.Becomes (htmlOf (document request.markdown)) out := by
  unfold Becomes render tree? checkInputSize checkDepth checkElements lowerHtml Html.lower
  generalize document request.markdown = document
  by_cases hsize : r.config.maxInputBytes < request.markdown.utf8ByteSize
  · simp [hsize, bind, Except.bind]
  cases hdepth : exceedsDepth? r.config.maxNestingDepth document with
  | some depth => simp [hsize, hblank, hdepth, bind, Except.bind]
  | none =>
    cases hbudget : Html.checkBudget (htmlOf document) r.config.maxElements with
    | some estimate => simp [hsize, hblank, hdepth, hbudget, bind, Except.bind]
    | none =>
      cases htree : Html.lowered (htmlOf document) r.config.maxNestingDepth with
      | error e =>
        simp [hsize, hblank, hdepth, hbudget, htree, bind, Except.bind, Except.toOption]
      | ok tree =>
        obtain ⟨outHtml, outHeadings⟩ := out
        simp [hsize, hblank, hdepth, hbudget, htree, bind, Except.bind, pure, Except.pure,
          Except.toOption, Nat.not_lt.mp hsize]

/-- What an article renders to. -/
theorem render_of_tree? {request : RenderRequest} {tree : Forest} {out : Rendering}
    {events : List RenderEvent} (htree : r.tree? request.markdown = .ok (some tree))
    (h : r.render request = .ok (out, events)) :
    out.html = (r.passes tree).written ∧
      out.headings = (r.finish (sanitize r.schema tree)).2.1 := by
  unfold render at h
  rw [htree] at h
  cases h
  exact ⟨rfl, rfl⟩

/-- A blank article renders to nothing. -/
theorem render_of_isBlank {request : RenderRequest} {out : Rendering} {events : List RenderEvent}
    (hblank : Text.isBlank request.markdown = true) (h : r.render request = .ok (out, events)) :
    out = {} := by
  unfold render tree? checkInputSize at h
  by_cases hsize : r.config.maxInputBytes < request.markdown.utf8ByteSize
  · simp [hsize, bind, Except.bind] at h
  · simp [hsize, hblank, bind, Except.bind, pure, Except.pure] at h
    exact h.1.symm

/-- A document within depth zero holds nothing. -/
theorem eq_nil_of_exceedsDepth? {blocks : Markdown.Blocks Markdown.Inlines}
    (h : exceedsDepth? 0 blocks = none) : blocks = .nil := by
  cases blocks with
  | nil => rfl
  | leaf l rest => simp [exceedsDepth?, Markdown.Blocks.shape, Markdown.Shape.tooDeep?] at h
  | container k cs rest => simp [exceedsDepth?, Markdown.Blocks.shape, Markdown.Shape.tooDeep?] at h

/-- Only a limit that admits an element lets one through. -/
theorem one_le_maxNestingDepth {request : RenderRequest} {out : Rendering}
    {events : List RenderEvent} (h : r.render request = .ok (out, events)) (hne : out.html ≠ "") :
    1 ≤ r.config.maxNestingDepth := by
  by_contra hlt
  have hzero : r.config.maxNestingDepth = 0 := by omega
  cases hblank : Text.isBlank request.markdown with
  | true => exact hne (by rw [r.render_of_isBlank hblank h])
  | false =>
    obtain ⟨-, hdepth, -, tree, htree, hhtml, -⟩ := (r.exists_render_iff hblank).mp ⟨events, h⟩
    rw [hzero] at hdepth
    rw [eq_nil_of_exceedsDepth? hdepth] at htree
    have hnil : tree = .nil := (Option.some.inj htree).symm
    subst hnil
    refine hne (hhtml.symm.trans ?_)
    change (r.highlighter.highlight (r.headings .nil).1).written = ""
    unfold headings
    simp only
    split <;> rfl

/-- **A rendering that starts with a block is read as raw HTML** if it holds no carriage return and
does not end in a space or a tab. -/
theorem rawLines_render (hconfig : Schema.base.withOverrides r.config.overrides = .ok r.schema)
    {request : RenderRequest} {out : Rendering} {events : List RenderEvent}
    (h : r.render request = .ok (out, events)) (hstart : StartsBlock out.html.toList)
    (hr : '\r' ∉ out.html.toList)
    (hlast : ∀ c, out.html.toList.getLast? = some c → isSpaceOrTab c = false) :
    rawLines none (linesOf out.html.toList) = true := by
  have hblank : Text.isBlank request.markdown = false := by
    by_contra hblank
    obtain ⟨name, -, c, rest, -, hcs⟩ := hstart
    rw [r.render_of_isBlank (by simpa using hblank) h] at hcs
    simp at hcs
  obtain ⟨-, -, -, tree, -, hhtml, -⟩ := (r.exists_render_iff hblank).mp ⟨events, h⟩
  rw [← hhtml] at hstart hr hlast ⊢
  have hclean : ∀ tag ∈ (sanitize r.schema tree).tags, tag.Safe r.schema :=
    safe_of_mem_tags_sanitize (Schema.guarded_base.withOverrides hconfig)
  have hsafe := safe_of_mem_tags_finish hconfig hclean
  exact Forest.rawLines_written (fun tag htag => (hsafe tag htag).named.oneLine) hstart hr hlast

/-- Markdown ends the last line of a regular document that it reads as raw HTML. -/
theorem rawHtml_written {around : List String} {f : Forest} (hf : f.Regular around) :
    rawHtml f.written =
      if f.written.toList.getLast? = some '\n' then f.written else f.written ++ "\n" := by
  have hread : f.written.toList.map Markdown.readChar = f.written.toList := by
    refine (List.map_congr_left fun c hc => if_neg ?_).trans (List.map_id _)
    rintro rfl
    exact hf.nul_not_mem_written hc
  rw [rawHtml, hread, Markdown.endLine]
  split
  · exact String.ofList_toList
  · exact String.toList_injective (by simp)

/-- With a newline behind it, a regular document is written as markdown makes its text. -/
theorem written_endLine_eq_rawHtml {around : List String} {f : Forest} (hf : f.Regular around)
    (hstart : f.written.toList.head? = some '<')
    (hlast : ∀ c, f.written.toList.getLast? = some c → isSpaceOrTab c = false)
    (hend : f.written.toList.getLast? ≠ some '\n') : f.endLine.written = rawHtml f.written := by
  obtain ⟨cs, hcs⟩ := List.head?_eq_some_iff.mp hstart
  obtain ⟨c, hc⟩ : ∃ c, f.written.toList.getLast? = some c := by
    rw [hcs]
    exact ⟨_, List.getLast?_cons⟩
  have hline : c ≠ '\n' := by
    rintro rfl
    exact hend hc
  have hpush := Forest.written_endLine hf.oneLine hc (hlast c hc) hline
  rw [rawHtml_written hf, if_neg hend]
  exact String.toList_injective (by simpa using hpush)

section

variable {r} {tree : Forest} (hs : r.schema = Schema.base) (hcls : Text.IsWord r.config.anchorClass)
  (hd : ∀ tag ∈ tree.tags, tag.Distinct) (hregular : (r.passes tree).Regular [])
  (hhides : r.highlighter.hides (r.prepared tree) = false)
  (hstart : (r.passes tree).written.toList.head? = some '<')

include hs hcls hd hhides

/-- **The passes over their result** change nothing and record the same headings. -/
theorem finish_passes :
    r.passes (r.passes tree) = r.passes tree ∧
      (r.finish (sanitize r.schema (r.passes tree))).2.1 =
        (r.finish (sanitize r.schema tree)).2.1 := by
  rw [contents_finish hhides]
  exact finish_settled hs (r.textsApart_prepared tree) (settled_of_mem_tags_prepared hs hcls hd)
    (r.trimEdges_prepared tree) (assignHeadingIds_finish _)
    fun hlinked =>
      linkHeadings_passes hlinked (Highlight.Highlighter.hidesInHeading_of_hides hhides)

include hregular hstart

/-- **The passes over their result with its last line ended** do the same. -/
theorem finish_endLine_passes (hend : (r.passes tree).written.toList.getLast? ≠ some '\n') :
    r.passes (r.passes tree).endLine = (r.passes tree).endLine ∧
      (r.finish (sanitize r.schema (r.passes tree).endLine)).2.1 =
        (r.finish (sanitize r.schema tree)).2.1 := by
  have hsame : r.highlighter.highlight (r.prepared tree).endLine = (r.passes tree).endLine :=
    r.highlighter.highlight_endLine _
  have houtline : ∀ g : Forest,
      (r.highlighter.highlight g).trimEdges = r.highlighter.highlight g ↔ g.trimEdges = g := by
    intro g
    rw [Forest.trimEdges_eq_self_iff, Forest.trimEdges_eq_self_iff,
      r.highlighter.outline_highlight]
  have htrim : (r.prepared tree).endLine.trimEdges = (r.prepared tree).endLine := by
    rw [← houtline, hsame]
    exact Forest.trimEdges_endLine hregular.apart ((houtline _).mpr (r.trimEdges_prepared tree))
      (Forest.startsWithElement_of_written hregular.full hstart) hend
  have hids : assignHeadingIds (r.passes tree) = r.passes tree := assignHeadingIds_finish _
  obtain ⟨hpasses, hrecords⟩ := finish_settled hs
    (Forest.textsApart_endLine (r.textsApart_prepared tree))
    (by rw [Forest.tags_endLine]; exact settled_of_mem_tags_prepared hs hcls hd) htrim
    (by rw [hsame, assignHeadingIds_endLine, hids]) fun hlinked => by
      rw [hsame, linkHeadings_endLine,
        linkHeadings_passes hlinked (Highlight.Highlighter.hidesInHeading_of_hides hhides)]
  rw [hsame] at hpasses hrecords
  refine ⟨hpasses, ?_⟩
  rw [hrecords, collectHeadings_endLine, contents_finish hhides]

/-- **A regular document with its last line ended** is read as it is written, and the passes keep it
and its headings. -/
theorem exists_lower_rawHtml (hreturn : '\r' ∉ (r.passes tree).written.toList)
    (hlast : ∀ c, (r.passes tree).written.toList.getLast? = some c → isSpaceOrTab c = false)
    (limit : Nat) :
    ∃ document, Html.lower (rawHtml (r.passes tree).written) limit =
        (if (r.passes tree).depth ≤ limit then some document else none) ∧
      (r.passes document).written = rawHtml (r.passes tree).written ∧
      (r.finish (sanitize r.schema document)).2.1 = (r.finish (sanitize r.schema tree)).2.1 := by
  have hfirst := Forest.startsWithElement_of_written hregular.full hstart
  have hfeeds := hregular.onlyLineFeeds hreturn
  by_cases hend : (r.passes tree).written.toList.getLast? = some '\n'
  · obtain ⟨hpasses, hrecords⟩ := finish_passes hs hcls hd hhides
    refine ⟨r.passes tree, ?_, ?_, hrecords⟩
    · rw [rawHtml_written hregular, if_pos hend, Html.lower_regular hregular hfirst,
        Forest.reread_of_onlyLineFeeds hregular.full hfeeds]
    · rw [rawHtml_written hregular, if_pos hend, hpasses]
  · obtain ⟨hpasses, hrecords⟩ := finish_endLine_passes hs hcls hd hregular hhides hstart hend
    have hended := written_endLine_eq_rawHtml hregular hstart hlast hend
    refine ⟨(r.passes tree).endLine, ?_, by rw [hpasses, hended], hrecords⟩
    rw [← hended, Html.lower_regular hregular.endLine (Forest.startsWithElement_endLine hfirst),
      Forest.depth_endLine, Forest.reread_of_onlyLineFeeds hregular.endLine.full hfeeds.endLine]

/-- **What such a text becomes**: the text itself, with the headings of the document. -/
theorem becomes_rawHtml_iff (hreturn : '\r' ∉ (r.passes tree).written.toList)
    (hlast : ∀ c, (r.passes tree).written.toList.getLast? = some c → isSpaceOrTab c = false)
    {out : Rendering} :
    r.Becomes (rawHtml (r.passes tree).written) out ↔
      Html.checkBudget (rawHtml (r.passes tree).written) r.config.maxElements = none ∧
        (r.passes tree).depth ≤ r.config.maxNestingDepth ∧
        out = ⟨rawHtml (r.passes tree).written, (r.finish (sanitize r.schema tree)).2.1⟩ := by
  obtain ⟨document, hlower, hwritten, hrecords⟩ := exists_lower_rawHtml hs hcls hd hregular hhides
    hstart hreturn hlast r.config.maxNestingDepth
  obtain ⟨html, headings⟩ := out
  rw [Becomes, hlower, Rendering.mk.injEq]
  split
  · next hle =>
    constructor
    · rintro ⟨hbudget, _, ⟨rfl⟩, hhtml, hheadings⟩
      exact ⟨hbudget, hle, hhtml.symm.trans hwritten, hheadings.symm.trans hrecords⟩
    · rintro ⟨hbudget, -, hhtml, hheadings⟩
      exact ⟨hbudget, document, rfl, hwritten.trans hhtml.symm, hrecords.trans hheadings.symm⟩
  · next hle =>
    constructor
    · rintro ⟨-, _, hnone, -⟩
      cases hnone
    · rintro ⟨-, hdepth, -⟩
      exact absurd hdepth hle

end

/-- **When a rendering renders to itself.** Under the base schema, let the document behind the passes
be regular, with no heading hidden by highlighting, and its text start with a block, hold no carriage
return and not end in a space or a tab. Then it is rendered again exactly if it keeps the limits, to
itself with its last line ended and with the same headings. So it renders to itself exactly if its
last line is ended and it keeps the limits. -/
theorem rerender_iff (hs : r.schema = Schema.base) (hcls : Text.IsWord r.config.anchorClass)
    {request : RenderRequest} {tree : Forest} {out : Rendering} {events : List RenderEvent}
    (htree : r.tree? request.markdown = .ok (some tree)) (hd : ∀ tag ∈ tree.tags, tag.Distinct)
    (h : r.render request = .ok (out, events)) (hregular : (r.passes tree).Regular [])
    (hhides : r.highlighter.hides (r.prepared tree) = false)
    (hstart : StartsBlock out.html.toList) (hreturn : '\r' ∉ out.html.toList)
    (hlast : ∀ c, out.html.toList.getLast? = some c → isSpaceOrTab c = false) :
    let ended := if out.html.toList.getLast? = some '\n' then out.html else out.html ++ "\n"
    let keeps := out.html.utf8ByteSize ≤ r.config.maxInputBytes ∧
      Html.checkBudget ended r.config.maxElements = none ∧
      (r.passes tree).depth ≤ r.config.maxNestingDepth
    (∀ again, (∃ events', r.render { request with markdown := out.html } = .ok (again, events')) ↔
        keeps ∧ again = ⟨ended, out.headings⟩) ∧
      ((∃ events', r.render { request with markdown := out.html } = .ok (out, events')) ↔
        keeps ∧ out.html.toList.getLast? = some '\n') := by
  obtain ⟨hhtml, hheadings⟩ := r.render_of_tree? htree h
  rw [hhtml] at hstart hreturn hlast
  have hfirst : (r.passes tree).written.toList.head? = some '<' := by
    obtain ⟨name, -, c, rest, -, hcs⟩ := hstart
    rw [hcs]
    rfl
  have hne : out.html ≠ "" := by
    rintro hempty
    rw [← hhtml, hempty] at hfirst
    cases hfirst
  have hblank : Text.isBlank out.html = false := by
    obtain ⟨cs, hcs⟩ := List.head?_eq_some_iff.mp hfirst
    rw [hhtml, Text.isBlank, hcs]
    rfl
  have hraw := Forest.rawLines_written hregular.oneLine hstart hreturn hlast
  obtain ⟨hdepth, hmarkdown⟩ :=
    Markdown.htmlOf_document_of_rawLines hfirst hraw (r.one_le_maxNestingDepth h hne)
  intro ended keeps
  have hended : rawHtml (r.passes tree).written = ended := by
    rw [rawHtml_written hregular, ← hhtml]
  have hiff : ∀ again, (∃ events', r.render { request with markdown := out.html } =
      .ok (again, events')) ↔ keeps ∧ again = ⟨ended, out.headings⟩ := by
    intro again
    have hbecomes :=
      @becomes_rawHtml_iff r tree hs hcls hd hregular hhides hfirst hreturn hlast again
    rw [r.exists_render_iff hblank, hhtml, hmarkdown, hbecomes, hended, hdepth, ← hheadings]
    simp only [keeps, hhtml, true_and, and_assoc]
  refine ⟨hiff, (hiff out).trans (and_congr_right fun _ => ?_)⟩
  constructor
  · intro hsame
    by_contra hline
    have hopen : ended = out.html ++ "\n" := if_neg hline
    have hlength := congrArg (fun out : Rendering => out.html.length) hsame
    simp [hopen] at hlength
  · intro hline
    show out = ⟨if _ then _ else _, _⟩
    rw [if_pos hline]

end Renderer

/-- An article with a heading and a list. -/
def article : Forest :=
  .element ⟨"h2", []⟩ (.ofText "Title") <| .text "\n" <|
    .element ⟨"ul", []⟩
      (.text "\n" (.element ⟨"li", []⟩ (.text "a " (.single ⟨"em", []⟩ (.ofText "b")))
        (.ofText "\n")))
      (.ofText "\n")

/-- The article behind the passes: its heading has an id and a link to itself. -/
def linkedArticle : Forest :=
  .element ⟨"h2", [⟨"id", "title"⟩]⟩
    (.single ⟨"a", [⟨"class", "heading-anchor"⟩, ⟨"href", "#title"⟩]⟩ (.ofText "Title")) <|
    .text "\n" <|
    .element ⟨"ul", []⟩
      (.text "\n" (.element ⟨"li", []⟩ (.text "a " (.single ⟨"em", []⟩ (.ofText "b")))
        (.ofText "\n")))
      (.ofText "\n")

/-- What it is rendered to. -/
def renderedArticle : Rendering where
  html := "<h2 id=\"title\"><a class=\"heading-anchor\" href=\"#title\">Title</a></h2>\n" ++
    "<ul>\n<li>a <em>b</em></li>\n</ul>\n"
  headings := [⟨"title", "Title", 2⟩]

/-- The rendered article renders to itself. -/
theorem rerender_article :
    (∃ events, standardRenderer.render { markdown := "## Title\n\n- a *b*\n" } =
      .ok (renderedArticle, events)) ∧
    ∃ events, standardRenderer.render { markdown := renderedArticle.html } =
      .ok (renderedArticle, events) := by
  have htree : standardRenderer.tree? "## Title\n\n- a *b*\n" = .ok (some article) := by
    decide +kernel
  have hclean : sanitize standardRenderer.schema article = article := by
    decide +kernel
  have hfinish : standardRenderer.finish (sanitize standardRenderer.schema article) =
      (linkedArticle, renderedArticle.headings, []) := by
    rw [hclean]
    decide +kernel
  have h : standardRenderer.render { markdown := "## Title\n\n- a *b*\n" } =
      .ok (renderedArticle, [.rendered 103 1]) := by
    have hremovals : (standardRenderer.schema.removals article).isClean = true := by
      decide +kernel
    rw [Renderer.render, htree]
    simp only [bind, Except.bind, hfinish, hremovals]
    decide +kernel
  have hpasses : standardRenderer.passes article = linkedArticle := congrArg Prod.fst hfinish
  have hhides : standardRenderer.highlighter.hides (standardRenderer.prepared article) = false := by
    rw [Renderer.prepared, hclean]
    decide +kernel
  have hregular : linkedArticle.Regular [] :=
    ⟨by decide, by decide, by decide, by decide, by decide⟩
  have hlast : ∀ c, renderedArticle.html.toList.getLast? = some c → isSpaceOrTab c = false := by
    intro c hc
    obtain rfl : '\n' = c := Option.some.inj hc
    rfl
  have hiff := standardRenderer.rerender_iff rfl (by decide) htree (by decide) h
    (hpasses ▸ hregular) hhides ⟨"h2", by decide, ' ', _, .inl rfl, rfl⟩ (by decide)
    hlast
  exact ⟨⟨_, h⟩, hiff.2.mpr ⟨⟨by decide, by decide +kernel, hpasses ▸ by decide⟩, rfl⟩⟩

/-- An element without its end tag does not: its last line is ended only the second time. -/
theorem rerender_openDiv :
    (∃ events, standardRenderer.render { markdown := "<div>a" } =
      .ok (⟨"<div>a\n</div>", []⟩, events)) ∧
    ∃ events, standardRenderer.render { markdown := "<div>a\n</div>" } =
      .ok (⟨"<div>a\n</div>\n", []⟩, events) :=
  ⟨⟨[.rendered 13 0], by decide +kernel⟩, ⟨[.rendered 14 0], by decide +kernel⟩⟩

end ArticleMarkup
