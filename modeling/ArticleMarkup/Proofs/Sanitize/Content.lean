import ArticleMarkup.Proofs.Forest.Events
import ArticleMarkup.Proofs.Sanitize.Conformance

/-!
# Content of sanitized documents

Sanitizing loses no content that it need not lose, and invents none. Read as a sequence of events, a
cleaned document is the document before without the subtrees that go, without the tags that are not
allowed, and with the texts merged that have become neighbours.

## Main definitions

- `Forest.Event.dropSubtrees` — events without the elements that go with everything in them
- `Schema.keepEvent?` — an event as it stays, unless its tag is not allowed

## Main statements

- `Schema.textsApart_clean` — in a cleaned document no two texts are neighbours
- `Schema.merge_events_clean` — the events of a cleaned document
- `content_sanitize` — the content of a sanitized document
-/

namespace ArticleMarkup

namespace Forest.Event

/-- **Remove the elements that go with everything in them**, from their opening to their closing tag.
`depth` is the number of elements that are open within such an element, itself included. -/
def dropSubtrees : Nat → List Event → List Event
  | _, [] => []
  | 0, .open tag :: es =>
    if isDroppedTag tag.name then dropSubtrees 1 es else .open tag :: dropSubtrees 0 es
  | 0, e :: es => e :: dropSubtrees 0 es
  | depth + 1, .open _ :: es => dropSubtrees (depth + 2) es
  | depth + 1, .text _ :: es => dropSubtrees (depth + 1) es
  | depth + 1, .close _ :: es => dropSubtrees depth es

theorem dropSubtrees_succ_open (depth : Nat) (tag : Tag) (es : List Event) :
    dropSubtrees (depth + 1) (.open tag :: es) = dropSubtrees (depth + 2) es := rfl

theorem dropSubtrees_succ_close (depth : Nat) (tag : Tag) (es : List Event) :
    dropSubtrees (depth + 1) (.close tag :: es) = dropSubtrees depth es := rfl

theorem dropSubtrees_zero_open (tag : Tag) (es : List Event) :
    dropSubtrees 0 (.open tag :: es) =
      if isDroppedTag tag.name then dropSubtrees 1 es else .open tag :: dropSubtrees 0 es := rfl

theorem dropSubtrees_zero_close (tag : Tag) (es : List Event) :
    dropSubtrees 0 (.close tag :: es) = .close tag :: dropSubtrees 0 es := rfl

/-- Within an element that goes, a whole forest goes. -/
theorem dropSubtrees_succ (depth : Nat) (f : Forest) (es : List Event) :
    dropSubtrees (depth + 1) (f.events ++ es) = dropSubtrees (depth + 1) es := by
  induction f generalizing depth es with
  | nil => rfl
  | text s rest ih => exact ih depth es
  | element tag cs rest ihcs ihrest =>
    simp only [events, List.cons_append, List.append_assoc, dropSubtrees_succ_open, ihcs,
      dropSubtrees_succ_close, ihrest]

/-- Outside such elements, the events of a forest are dealt with on their own. -/
theorem dropSubtrees_append (f : Forest) (es : List Event) :
    dropSubtrees 0 (f.events ++ es) = dropSubtrees 0 f.events ++ dropSubtrees 0 es := by
  induction f generalizing es with
  | nil => rfl
  | text s rest ih => exact congrArg (Event.text s :: ·) (ih es)
  | element tag cs rest ihcs ihrest =>
    simp only [events, List.cons_append, List.append_assoc, dropSubtrees_zero_open]
    split
    · simp only [dropSubtrees_succ, dropSubtrees_succ_close, ihrest]
    · simp only [ihcs, dropSubtrees_zero_close, ihrest, List.cons_append, List.append_assoc]

/-- **The events of an element** that goes, and of one that does not. -/
theorem dropSubtrees_element (tag : Tag) (cs rest : Forest) :
    dropSubtrees 0 (Forest.element tag cs rest).events =
      if isDroppedTag tag.name then dropSubtrees 0 rest.events
      else .open tag :: (dropSubtrees 0 cs.events ++ .close tag :: dropSubtrees 0 rest.events) := by
  rw [events, dropSubtrees_zero_open, dropSubtrees_succ, dropSubtrees_append]
  rfl

end Forest.Event

open Forest (Event)

namespace Schema

variable (schema : Schema)

/-- **An event as it stays**: texts do, and tags that are allowed, cleaned. -/
def keepEvent? : Event → Option Event
  | .open tag => if schema.allowsTag tag.name then some (.open (schema.cleanTag tag)) else none
  | .text s => some (.text s)
  | .close tag => if schema.allowsTag tag.name then some (.close (schema.cleanTag tag)) else none

/-- In a cleaned document no two texts are neighbours. -/
theorem textsApart_clean (f : Forest) : (schema.clean f).textsApart = true := by
  induction f with
  | nil => rfl
  | text s rest ih => exact Forest.textsApart_consText s ih
  | element tag cs rest ihcs ihrest =>
    unfold clean
    split
    · exact ihrest
    · split
      · exact Bool.and_eq_true_iff.mpr ⟨ihcs, ihrest⟩
      · exact Forest.textsApart_glue ihcs ihrest

/-- **The events of a cleaned document**, up to merging. -/
theorem merge_events_clean (f : Forest) :
    Event.merge (schema.clean f).events =
      Event.merge ((Event.dropSubtrees 0 f.events).filterMap schema.keepEvent?) := by
  induction f with
  | nil => rfl
  | text s rest ih =>
    rw [clean, Forest.events_consText, Event.merge_consText, ih]
    rfl
  | element tag cs rest ihcs ihrest =>
    rw [Event.dropSubtrees_element, clean]
    split
    · exact ihrest
    · split
      · next hallowed =>
        -- merging stops at the two tags, so inside and behind them it can be done first
        have hclose : Event.merge (.close (schema.cleanTag tag) :: (schema.clean rest).events) =
            Event.merge (.close (schema.cleanTag tag) ::
              (Event.dropSubtrees 0 rest.events).filterMap schema.keepEvent?) :=
          congrArg (Event.close (schema.cleanTag tag) :: ·) ihrest
        have hopen := congrArg (Event.open (schema.cleanTag tag) :: ·)
          (Event.merge_append_congr ihcs hclose)
        simpa [Forest.events, keepEvent?, hallowed] using hopen
      · next hallowed =>
        -- without its tags, the texts at the ends of an element find new neighbours
        rw [Forest.merge_events_glue]
        simpa [keepEvent?, hallowed] using Event.merge_append_congr ihcs ihrest

end Schema

/-- **Sanitizing loses and invents no content.** The events of a cleaned document are those of the
document, without the subtrees that go and the tags that are not allowed, and with neighbouring texts
merged; a tag that stays keeps its name. Then only the edges are trimmed, and no two texts of the
result are neighbours. -/
theorem content_sanitize (schema : Schema) (document : Forest) :
    (schema.clean document).events =
        Event.merge ((Event.dropSubtrees 0 document.events).filterMap schema.keepEvent?) ∧
      (∀ tag, (schema.cleanTag tag).name = tag.name) ∧
      Forest.EdgesTrimmed (schema.clean document) (sanitize schema document) ∧
      (sanitize schema document).textsApart = true := by
  have hapart := schema.textsApart_clean document
  refine ⟨?_, schema.name_cleanTag, Forest.edgesTrimmed_trimEdges _,
    Forest.textsApart_trimEdges hapart⟩
  rw [← schema.merge_events_clean, Forest.merge_events hapart]

end ArticleMarkup
