import ArticleMarkup.Proofs.Forest.Texts

/-!
# Forests as sequences of events

The events of a forest say what it holds and in which order. Merging texts is an operation on
events: what a merging operation on forests does is what appending and merging does to their events.

## Main definitions

- `Forest.Event.merge` — put neighbouring texts of a sequence together

## Main statements

- `Forest.Event.merge_append_congr` — merging may be done in parts first
- `Forest.merge_events_glue` — the events of forests that are glued together
- `Forest.merge_events` — a forest whose texts stand apart is merged already
-/

namespace ArticleMarkup.Forest

-- ════════════════════════════════════════════════════════════════════════
-- Merging texts
-- ════════════════════════════════════════════════════════════════════════

namespace Event

/-- Put a text in front; a text that is already there takes it up. -/
def consText (s : String) : List Event → List Event
  | .text t :: es => .text (s ++ t) :: es
  | es => .text s :: es

/-- **Put neighbouring texts together.** -/
def merge : List Event → List Event
  | [] => []
  | .text s :: es => consText s (merge es)
  | e :: es => e :: merge es

@[simp] theorem merge_text (s : String) (es : List Event) :
    merge (.text s :: es) = consText s (merge es) := rfl

@[simp] theorem merge_open (tag : Tag) (es : List Event) :
    merge (.open tag :: es) = .open tag :: merge es := rfl

@[simp] theorem merge_close (tag : Tag) (es : List Event) :
    merge (.close tag :: es) = .close tag :: merge es := rfl

/-- A text that is put in front may be merged later. -/
theorem merge_consText_append (s : String) (es es' : List Event) :
    merge (consText s es ++ es') = consText s (merge (es ++ es')) := by
  cases es with
  | nil => rfl
  | cons e es =>
    cases e with
    | «open» tag => rfl
    | close tag => rfl
    | text t =>
      simp only [consText, List.cons_append, merge_text]
      cases merge (es ++ es') with
      | nil => rfl
      | cons e' rest => cases e' <;> simp [String.append_assoc]

theorem merge_consText (s : String) (es : List Event) :
    merge (consText s es) = consText s (merge es) := by
  simpa using merge_consText_append s es []

theorem merge_merge_append (a b : List Event) : merge (merge a ++ b) = merge (a ++ b) := by
  induction a with
  | nil => rfl
  | cons e a ih =>
    cases e with
    | «open» tag => exact congrArg (Event.open tag :: ·) ih
    | close tag => exact congrArg (Event.close tag :: ·) ih
    | text s => rw [merge_text, merge_consText_append, ih, List.cons_append, merge_text]

theorem merge_append_merge (a b : List Event) : merge (a ++ merge b) = merge (a ++ b) := by
  induction a with
  | nil => simpa using merge_merge_append b []
  | cons e a ih => cases e <;> simp [ih]

/-- **Merging may be done in parts first.** -/
theorem merge_append_congr {a a' b b' : List Event} (ha : merge a = merge a')
    (hb : merge b = merge b') : merge (a ++ b) = merge (a' ++ b') := by
  rw [← merge_merge_append, ← merge_append_merge, ha, hb, merge_append_merge, merge_merge_append]

/-- Texts on the two sides of a closing tag are not merged. -/
theorem merge_append_close (a b : List Event) (tag : Tag) :
    merge (a ++ .close tag :: b) = merge a ++ .close tag :: merge b := by
  induction a with
  | nil => rfl
  | cons e a ih =>
    cases e with
    | «open» tag => exact congrArg (Event.open tag :: ·) ih
    | close tag => exact congrArg (Event.close tag :: ·) ih
    | text s =>
      rw [List.cons_append, merge_text, merge_text, ih]
      cases merge a with
      | nil => rfl
      | cons e' rest => cases e' <;> rfl

end Event

-- ════════════════════════════════════════════════════════════════════════
-- Events of merged forests
-- ════════════════════════════════════════════════════════════════════════

theorem events_consText (s : String) (f : Forest) :
    (f.consText s).events = Event.consText s f.events := by
  cases f <;> rfl

/-- **Gluing forests together** appends and merges their events. -/
theorem merge_events_glue (a b : Forest) :
    Event.merge (a.glue b).events = Event.merge (a.events ++ b.events) := by
  fun_induction glue a b with
  | case1 b => rfl
  | case2 s b => rw [events_consText, Event.merge_consText]; rfl
  | case3 s rest b _ ih => exact congrArg (Event.consText s) ih
  | case4 tag cs rest b ih =>
    have hclose : Event.merge (.close tag :: (rest.glue b).events) =
        Event.merge (.close tag :: (rest.events ++ b.events)) :=
      congrArg (Event.close tag :: ·) ih
    simpa [events] using Event.merge_append_congr (a := cs.events) rfl hclose

/-- **A forest whose texts stand apart** is merged already. -/
theorem merge_events {f : Forest} (h : f.textsApart = true) : Event.merge f.events = f.events := by
  induction f with
  | nil => rfl
  | text s rest ih =>
    simp only [textsApart, Bool.and_eq_true, Bool.not_eq_true'] at h
    rw [events, Event.merge_text, ih h.2]
    cases rest with
    | nil => rfl
    | text t rest => cases h.1
    | element tag cs rest => rfl
  | element tag cs rest ihcs ihrest =>
    simp only [textsApart, Bool.and_eq_true] at h
    have hmerge := Event.merge_append_close cs.events rest.events tag
    rw [ihcs h.1, ihrest h.2] at hmerge
    exact congrArg (Event.open tag :: ·) hmerge

end ArticleMarkup.Forest
