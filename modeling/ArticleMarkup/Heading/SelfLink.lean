import ArticleMarkup.Forest

/-!
# Self-links

Every heading links to itself: its content is wrapped in an `a` element whose address is the id of
the heading. A heading that is wrapped already is brought up to date instead. Links cannot hold
links, so links within the content are unwrapped; and where a heading holds another heading, only
the runs of content around the inner one link to the outer one.

## Main definitions

- `Forest.unwrapLinks` — remove all `a` elements and keep what they hold
- `linkHeadings` — put the self-links into a document
-/

namespace ArticleMarkup

namespace Forest

/-- A heading at any depth. -/
def hasHeading (f : Forest) : Bool :=
  f.anyTag Tag.isHeading

/-- Remove all `a` elements and keep what they hold; texts that meet are merged. -/
def unwrapLinks : Forest → Forest
  | nil => nil
  | text s rest => rest.unwrapLinks.consText s
  | element tag cs rest =>
    if tag.name = "a" then cs.unwrapLinks.glue rest.unwrapLinks
    else element tag cs.unwrapLinks rest.unwrapLinks

end Forest

/-- The link of a heading around some content. -/
def selfLink (cls href : String) (content rest : Forest) : Forest :=
  .element ⟨"a", [⟨"class", cls⟩, ⟨"href", href⟩]⟩ content.unwrapLinks rest

/-- A run of content in a heading: linked, unless it is blank. -/
def linkRun (cls href : String) (run rest : Forest) : Forest :=
  if run.allBlank then run ++ rest else selfLink cls href run rest

/-- The content is one self-link around content without headings. -/
def isLinked (cls : String) : Forest → Bool
  | .element tag cs .nil => tag.name == "a" && tag.hasClass cls && !cs.hasHeading
  | _ => false

/-- The one link of a linked heading, brought up to date. -/
def refreshLink (href : String) : Forest → Forest
  | .element tag cs rest => .element (tag.setAttr "href" href) cs.unwrapLinks rest
  | f => f

/-- Where nodes stand while self-links are put in. -/
inductive Surroundings where
  /-- Not directly in a heading. -/
  | plain
  /-- Directly in a heading with this address that holds another heading; `run` is the content
  since the last inner heading. -/
  | heading (href : String) (run : Forest)

/-- **Put self-links** into all headings among the nodes and below them. A heading without an id is
left as it is. -/
def link (cls : String) : Surroundings → Forest → Forest
  | .plain, .nil => .nil
  | .plain, .text s rest => .text s (link cls .plain rest)
  | .plain, .element tag cs rest =>
    let content :=
      if tag.isHeading then
        match tag.attr? "id" with
        | none => cs
        | some id =>
          let href := "#" ++ id
          if isLinked cls cs then refreshLink href cs
          else if cs.hasHeading then link cls (.heading href .nil) cs
          else selfLink cls href cs .nil
      else link cls .plain cs
    .element tag content (link cls .plain rest)
  | .heading href run, .nil => linkRun cls href run .nil
  | .heading href run, .text s rest => link cls (.heading href (run ++ .ofText s)) rest
  | .heading href run, .element tag cs rest =>
    if tag.isHeading then
      let content :=
        match tag.attr? "id" with
        | none => cs
        | some id =>
          let inner := "#" ++ id
          if isLinked cls cs then refreshLink inner cs
          else if cs.hasHeading then link cls (.heading inner .nil) cs
          else selfLink cls inner cs .nil
      linkRun cls href run (.element tag content (link cls (.heading href .nil) rest))
    else if cs.hasHeading then
      linkRun cls href run
        (.element tag (link cls .plain cs) (link cls (.heading href .nil) rest))
    else link cls (.heading href (run ++ .single tag cs)) rest

/-- **Link every heading of a document to itself.** -/
def linkHeadings (cls : String) (document : Forest) : Forest :=
  link cls .plain document

end ArticleMarkup
