import ArticleMarkup.Forest.Written
import ArticleMarkup.Proofs.Forest.Tags
import ArticleMarkup.Schema.Override

/-!
# Markup in the written form

The written form of a forest is text in which every `<` opens a tag that the next `>` closes. This
module reads such tags back, with the values of their attributes, and shows that what stands between
the two is always a tag of the forest.

## Main definitions

- `unescape` — the characters that escaped text stands for
- `Markup`, `Markup.read?` — a start tag with its attributes or an end tag, read from its characters
- `Marked` — every `<` opens markup with a given property

## Main statements

- `Markup.read?_inside` — a start tag reads back as what was written
- `Marked.of_eq` — what stands between a `<` and the next `>` has the property
- `Forest.marked_written` — in a written form it is a tag of the forest
-/

namespace ArticleMarkup

-- ════════════════════════════════════════════════════════════════════════
-- Reading tags
-- ════════════════════════════════════════════════════════════════════════

/-- The characters that escaped text stands for. -/
def unescape : List Char → List Char
  | '&' :: 'a' :: 'm' :: 'p' :: ';' :: cs => '&' :: unescape cs
  | '&' :: 'q' :: 'u' :: 'o' :: 't' :: ';' :: cs => '"' :: unescape cs
  | '&' :: 'l' :: 't' :: ';' :: cs => '<' :: unescape cs
  | '&' :: 'g' :: 't' :: ';' :: cs => '>' :: unescape cs
  | '&' :: '#' :: '1' :: '0' :: ';' :: cs => '\n' :: unescape cs
  | '&' :: 'n' :: 'b' :: 's' :: 'p' :: ';' :: cs => '\u00a0' :: unescape cs
  | c :: cs => c :: unescape cs
  | [] => []

/-- A tag as it stands between `<` and `>`. -/
inductive Markup where
  /-- A start tag. -/
  | start (tag : Tag)
  /-- An end tag. -/
  | close (name : String)
deriving DecidableEq, Repr

/-- The attributes behind the name of a start tag, with the mark of a tag that closes itself. -/
def readAttributes (cs : List Char) : Option (List Attribute) :=
  match cs with
  | [] => some []
  | [' ', '/'] => some []
  | ' ' :: cs =>
    match _hname : cs.dropWhile (· != '=') with
    | '=' :: '"' :: value =>
      match _hvalue : value.dropWhile (· != '"') with
      | '"' :: rest =>
        (readAttributes rest).map fun attrs =>
          ⟨String.ofList (cs.takeWhile (· != '=')),
            String.ofList (unescape (value.takeWhile (· != '"')))⟩ :: attrs
      | _ => none
    | _ => none
  | _ => none
termination_by cs.length
decreasing_by
  have h1 := (List.dropWhile_sublist (l := cs) (· != '=')).length_le
  have h2 := (List.dropWhile_sublist (l := value) (· != '"')).length_le
  rw [_hname] at h1
  rw [_hvalue] at h2
  simp only [List.length_cons] at h1 h2 ⊢
  omega

/-- **Read markup** from the characters between `<` and `>`. -/
def Markup.read? : List Char → Option Markup
  | '/' :: name => some (.close (String.ofList name))
  | cs =>
    (readAttributes (cs.dropWhile (· != ' '))).map fun attrs =>
      .start ⟨String.ofList (cs.takeWhile (· != ' ')), attrs⟩

/-- The characters of a name that needs no quotes and ends nowhere inside. -/
def isNameChar (c : Char) : Bool :=
  Text.isAsciiAlnum c || c == '-' || c == '_' || c == ':' || c == '.'

/-- All characters of the name are such characters. -/
def isName (name : String) : Bool :=
  name.toList.all isNameChar

/-- The names of a tag and of its attributes are such names, and the tag's is not empty. -/
def Tag.WellNamed (tag : Tag) : Prop :=
  tag.name ≠ "" ∧ isName tag.name = true ∧ ∀ a ∈ tag.attrs, isName a.name = true

instance (tag : Tag) : Decidable tag.WellNamed :=
  inferInstanceAs (Decidable (_ ∧ _ ∧ ∀ a ∈ tag.attrs, isName a.name = true))

-- ════════════════════════════════════════════════════════════════════════
-- Tags read back
-- ════════════════════════════════════════════════════════════════════════

theorem takeWhile_append_cons {p : Char → Bool} {cs rest : List Char} {c : Char}
    (h : ∀ d ∈ cs, p d = true) (hc : p c = false) : (cs ++ c :: rest).takeWhile p = cs := by
  rw [List.takeWhile_append_of_pos h, List.takeWhile_cons_of_neg (by simp [hc]), List.append_nil]

theorem dropWhile_append_cons {p : Char → Bool} {cs rest : List Char} {c : Char}
    (h : ∀ d ∈ cs, p d = true) (hc : p c = false) : (cs ++ c :: rest).dropWhile p = c :: rest := by
  rw [List.dropWhile_append_of_pos h, List.dropWhile_cons_of_neg (by simp [hc])]

theorem unescape_cons_of_ne {c : Char} (h : c ≠ '&') (cs : List Char) :
    unescape (c :: cs) = c :: unescape cs := by
  rw [unescape] <;> intros <;> exact absurd ‹_› h

theorem unescape_valueChars_append (c : Char) (cs : List Char) :
    unescape (valueChars c ++ cs) = c :: unescape cs := by
  unfold valueChars
  split
  · next h => subst h; rfl
  · next hamp =>
    repeat' split
    all_goals first
      | (next h => subst h; rfl)
      | exact unescape_cons_of_ne hamp cs

/-- Escaping loses nothing. -/
theorem unescape_flatMap_valueChars (cs : List Char) :
    unescape (cs.flatMap valueChars) = cs := by
  induction cs with
  | nil => rfl
  | cons c cs ih => rw [List.flatMap_cons, unescape_valueChars_append, ih]

/-- An escaped value holds no character that could end it, or its tag. -/
theorem valueChars_plain (c : Char) :
    ∀ d ∈ valueChars c, d ≠ '<' ∧ d ≠ '>' ∧ d ≠ '"' := by
  have hall : (valueChars c).all (fun d => d != '<' && d != '>' && d != '"') = true := by
    unfold valueChars
    repeat' split
    all_goals first
      | rfl
      | simp_all
  intro d hd
  simpa [and_assoc] using List.all_eq_true.mp hall d hd

theorem isNameChar_ne {c : Char} (h : isNameChar c = true) :
    c ≠ '<' ∧ c ≠ '>' ∧ c ≠ ' ' ∧ c ≠ '=' ∧ c ≠ '/' := by
  refine ⟨?_, ?_, ?_, ?_, ?_⟩ <;> rintro rfl <;> exact absurd h (by decide)

theorem isName_ne {name : String} (h : isName name = true) {c : Char} (hc : c ∈ name.toList) :
    c ≠ '<' ∧ c ≠ '>' ∧ c ≠ ' ' ∧ c ≠ '=' ∧ c ≠ '/' :=
  isNameChar_ne (List.all_eq_true.mp h c hc)

/-- An attribute reads back as it was written. -/
theorem readAttributes_chars_append {a : Attribute} (ha : isName a.name = true) (rest : List Char) :
    readAttributes (a.chars ++ rest) = (readAttributes rest).map (a :: ·) := by
  have hname : ∀ c ∈ a.name.toList, (c != '=') = true := by
    intro c hc
    simpa using (isName_ne ha hc).2.2.2.1
  have hvalue : ∀ c ∈ a.value.toList.flatMap valueChars, (c != '"') = true := by
    intro c hc
    obtain ⟨d, -, hd⟩ := List.mem_flatMap.mp hc
    simpa using (valueChars_plain d c hd).2.2
  have hchars : a.chars ++ rest = ' ' :: (a.name.toList ++ '=' ::
      ('"' :: (a.value.toList.flatMap valueChars ++ '"' :: rest))) := by
    simp [Attribute.chars]
  have hback : (⟨String.ofList a.name.toList, String.ofList (unescape
      (a.value.toList.flatMap valueChars))⟩ : Attribute) = a := by
    rw [unescape_flatMap_valueChars]
    simp
  rw [hchars, readAttributes]
  · split
    · next value hdrop =>
      rw [dropWhile_append_cons hname (by decide)] at hdrop
      simp only [List.cons.injEq, true_and] at hdrop
      subst hdrop
      split
      · next rest' hdrop =>
        rw [dropWhile_append_cons hvalue (by decide)] at hdrop
        simp only [List.cons.injEq, true_and] at hdrop
        subst hdrop
        rw [takeWhile_append_cons hname (by decide), takeWhile_append_cons hvalue (by decide),
          hback]
      · next hno => exact absurd (dropWhile_append_cons hvalue (by decide)) (hno _)
    · next hno => exact absurd (dropWhile_append_cons hname (by decide)) (hno _)
  · intro h
    have := congrArg ('=' ∈ ·) h
    simp at this

/-- The characters of a start tag between `<` and `>`. -/
def Tag.inside (tag : Tag) : List Char :=
  tag.name.toList ++ (tag.attrs.flatMap Attribute.chars ++
    if voidTags.contains tag.name then [' ', '/'] else [])

theorem Tag.startChars_eq (tag : Tag) : tag.startChars = '<' :: (tag.inside ++ ['>']) := by
  unfold startChars inside
  split <;> simp

theorem readAttributes_flatMap_chars {attrs : List Attribute} {end' : List Char}
    (h : ∀ a ∈ attrs, isName a.name = true)
    (hend : readAttributes end' = some []) :
    readAttributes (attrs.flatMap Attribute.chars ++ end') = some attrs := by
  induction attrs with
  | nil => exact hend
  | cons a rest ih =>
    rw [List.flatMap_cons, List.append_assoc,
      readAttributes_chars_append (h a List.mem_cons_self),
      ih (fun b hb => h b (List.mem_cons_of_mem _ hb))]
    rfl

/-- What follows the name of a start tag is nothing or begins with a space. -/
theorem Tag.afterName_eq (tag : Tag) :
    (tag.attrs.flatMap Attribute.chars ++
      if voidTags.contains tag.name then [' ', '/'] else []) = [] ∨
    ∃ cs, (tag.attrs.flatMap Attribute.chars ++
      if voidTags.contains tag.name then [' ', '/'] else []) = ' ' :: cs := by
  cases tag.attrs with
  | cons a rest => exact .inr ⟨_, rfl⟩
  | nil =>
    split
    · exact .inr ⟨_, rfl⟩
    · exact .inl rfl

/-- **A start tag reads back** as what was written. -/
theorem Markup.read?_inside {tag : Tag} (h : tag.WellNamed) :
    Markup.read? tag.inside = some (.start tag) := by
  obtain ⟨hne, hname, hattrs⟩ := h
  have hspace : ∀ c ∈ tag.name.toList, (c != ' ') = true := by
    intro c hc
    simpa using (isName_ne hname hc).2.2.1
  have hend : readAttributes (if voidTags.contains tag.name then [' ', '/'] else []) = some [] := by
    split <;> rw [readAttributes]
  have hread := readAttributes_flatMap_chars hattrs hend
  have hdrop : tag.inside.dropWhile (· != ' ') = tag.attrs.flatMap Attribute.chars ++
      if voidTags.contains tag.name then [' ', '/'] else [] := by
    unfold Tag.inside
    rw [List.dropWhile_append_of_pos hspace]
    rcases tag.afterName_eq with hafter | ⟨cs, hafter⟩ <;> rw [hafter] <;> rfl
  have htake : tag.inside.takeWhile (· != ' ') = tag.name.toList := by
    unfold Tag.inside
    rw [List.takeWhile_append_of_pos hspace]
    rcases tag.afterName_eq with hafter | ⟨cs, hafter⟩ <;> rw [hafter] <;> simp
  unfold Markup.read?
  split
  · next name heq =>
    -- the name is not empty, so a slash in front would be part of it
    exfalso
    cases hcs : tag.name.toList with
    | nil => exact hne (by simpa using hcs)
    | cons c cs =>
      unfold Tag.inside at heq
      rw [hcs] at heq
      simp only [List.cons_append, List.cons.injEq] at heq
      exact (isName_ne hname (hcs ▸ List.mem_cons_self)).2.2.2.2 heq.1
  · rw [hdrop, htake, hread]
    simp

/-- An end tag reads back as its name. -/
theorem Markup.read?_close (name : String) :
    Markup.read? ('/' :: name.toList) = some (.close name) := by
  simp [Markup.read?]

-- ════════════════════════════════════════════════════════════════════════
-- Marked text
-- ════════════════════════════════════════════════════════════════════════

/-- **Marked text**: every `<` opens markup with the property, and the next `>` closes it. -/
inductive Marked (P : List Char → Prop) : List Char → Prop where
  /-- The end of the text. -/
  | nil : Marked P []
  /-- A character outside all tags. -/
  | plain {c : Char} {cs : List Char} : c ≠ '<' → c ≠ '>' → Marked P cs → Marked P (c :: cs)
  /-- A tag. -/
  | tag {body cs : List Char} : '<' ∉ body → '>' ∉ body → P body → Marked P cs →
      Marked P ('<' :: (body ++ '>' :: cs))

theorem Marked.plain_append {P : List Char → Prop} {cs rest : List Char}
    (h : cs.all (fun c => c != '<' && c != '>') = true) (hrest : Marked P rest) :
    Marked P (cs ++ rest) := by
  induction cs with
  | nil => exact hrest
  | cons c cs ih =>
    simp only [List.all_cons, Bool.and_eq_true, bne_iff_ne, ne_eq] at h
    exact .plain h.1.1 h.1.2 (ih h.2)

/-- Text up to the first `>` is determined. -/
theorem append_gt_inj {a b rest after : List Char} (ha : '>' ∉ a) (hb : '>' ∉ b)
    (h : a ++ '>' :: rest = b ++ '>' :: after) : a = b ∧ rest = after := by
  induction a generalizing b with
  | nil =>
    cases b with
    | nil => simpa using h
    | cons c b =>
      simp only [List.nil_append, List.cons_append, List.cons.injEq] at h
      exact absurd (h.1 ▸ List.mem_cons_self) hb
  | cons c a ih =>
    cases b with
    | nil =>
      simp only [List.nil_append, List.cons_append, List.cons.injEq] at h
      exact absurd (h.1 ▸ List.mem_cons_self) ha
    | cons d b =>
      simp only [List.cons_append, List.cons.injEq] at h
      obtain ⟨rfl, h⟩ := h
      obtain ⟨rfl, rfl⟩ := ih (fun hm => ha (List.mem_cons_of_mem _ hm))
        (fun hm => hb (List.mem_cons_of_mem _ hm)) h
      exact ⟨rfl, rfl⟩

/-- A `<` behind text that holds none lies in what follows that text. -/
theorem exists_append_of_lt {a before rest after : List Char} (ha : '<' ∉ a)
    (h : a ++ rest = before ++ '<' :: after) : ∃ before', rest = before' ++ '<' :: after := by
  induction a generalizing before with
  | nil => exact ⟨before, h⟩
  | cons c a ih =>
    cases before with
    | nil =>
      simp only [List.cons_append, List.nil_append, List.cons.injEq] at h
      exact absurd (h.1 ▸ List.mem_cons_self) ha
    | cons d before =>
      simp only [List.cons_append, List.cons.injEq] at h
      exact ih (fun hm => ha (List.mem_cons_of_mem _ hm)) h.2

/-- **What stands between a `<` and the next `>`** of a marked text has the property. -/
theorem Marked.of_eq {P : List Char → Prop} {cs before body after : List Char} (h : Marked P cs)
    (hcs : cs = before ++ '<' :: (body ++ '>' :: after)) (hbody : '>' ∉ body) : P body := by
  induction h generalizing before with
  | nil => simp at hcs
  | @plain c cs hlt _ _ ih =>
    cases before with
    | nil =>
      simp only [List.nil_append, List.cons.injEq] at hcs
      exact absurd hcs.1 hlt
    | cons d before =>
      simp only [List.cons_append, List.cons.injEq] at hcs
      exact ih hcs.2
  | @tag markup cs hlt hgt hP _ ih =>
    cases before with
    | nil =>
      simp only [List.nil_append, List.cons.injEq, true_and] at hcs
      exact (append_gt_inj hgt hbody hcs).1 ▸ hP
    | cons d before =>
      simp only [List.cons_append, List.cons.injEq] at hcs
      obtain ⟨before', hrest⟩ := exists_append_of_lt hlt hcs.2
      cases before' with
      | nil => simp at hrest
      | cons e before' =>
        simp only [List.cons_append, List.cons.injEq] at hrest
        exact ih hrest.2

-- ════════════════════════════════════════════════════════════════════════
-- Written forests
-- ════════════════════════════════════════════════════════════════════════

theorem Attribute.chars_plain {a : Attribute} (ha : isName a.name = true) :
    ∀ c ∈ a.chars, c ≠ '<' ∧ c ≠ '>' := by
  intro c hc
  simp only [Attribute.chars, List.mem_cons, List.mem_append, List.mem_flatMap] at hc
  rcases hc with rfl | hc | rfl | rfl | ⟨d, -, hc⟩ | hc
  · decide
  · exact ⟨(isName_ne ha hc).1, (isName_ne ha hc).2.1⟩
  · decide
  · decide
  · exact ⟨(valueChars_plain d c hc).1, (valueChars_plain d c hc).2.1⟩
  · simp only [List.not_mem_nil, or_false] at hc
    subst hc
    decide

/-- No tag begins or ends inside the tag of well-named things. -/
theorem Tag.WellNamed.inside_plain {tag : Tag} (h : tag.WellNamed) :
    ∀ c ∈ tag.inside, c ≠ '<' ∧ c ≠ '>' := by
  intro c hc
  simp only [Tag.inside, List.mem_append, List.mem_flatMap] at hc
  rcases hc with hc | ⟨a, ha, hc⟩ | hc
  · exact ⟨(isName_ne h.2.1 hc).1, (isName_ne h.2.1 hc).2.1⟩
  · exact Attribute.chars_plain (h.2.2 a ha) c hc
  · split at hc
    · simp only [List.mem_cons, List.not_mem_nil, or_false] at hc
      rcases hc with rfl | rfl <;> decide
    · cases hc

theorem Marked.startChars {P : List Char → Prop} {tag : Tag} {rest : List Char}
    (h : tag.WellNamed) (hP : P tag.inside) (hrest : Marked P rest) :
    Marked P (tag.startChars ++ rest) := by
  rw [Tag.startChars_eq, List.cons_append, List.append_assoc]
  exact .tag (fun hm => (h.inside_plain _ hm).1 rfl) (fun hm => (h.inside_plain _ hm).2 rfl) hP hrest

theorem Marked.endChars {P : List Char → Prop} {tag : Tag} {rest : List Char}
    (h : tag.WellNamed) (hP : P ('/' :: tag.name.toList)) (hrest : Marked P rest) :
    Marked P (tag.endChars ++ rest) := by
  have hplain : ∀ c ∈ '/' :: tag.name.toList, c ≠ '<' ∧ c ≠ '>' := by
    intro c hc
    rcases List.mem_cons.mp hc with rfl | hc
    · decide
    · exact ⟨(isName_ne h.2.1 hc).1, (isName_ne h.2.1 hc).2.1⟩
  have heq : tag.endChars ++ rest = '<' :: (('/' :: tag.name.toList) ++ '>' :: rest) := by
    simp [Tag.endChars]
  rw [heq]
  exact .tag (fun hm => (hplain _ hm).1 rfl) (fun hm => (hplain _ hm).2 rfl) hP hrest

/-- A newline is written without a tag, on a blank line and elsewhere. -/
theorem Marked.newline {P : List Char → Prop} {ps : List Piece}
    (h : ∀ blank, Marked P (Piece.layOut blank ps)) (blank : Bool) :
    Marked P (Piece.layOut blank (.newline :: ps)) := by
  unfold Piece.layOut
  split
  · exact Marked.plain_append rfl (h false)
  · exact .plain (by decide) (by decide) (h true)

/-- **A character of a text** is written as a newline, as a space or a tab, or as characters that
unescape to it and neither end a tag nor a line. -/
theorem textPiece_cases (c : Char) :
    (c = '\n' ∧ textPiece c = .newline) ∨ ((c = ' ' ∨ c = '\t') ∧ textPiece c = .space c) ∨
      ∃ ink, textPiece c = .ink ink ∧ (∀ d ∈ ink, d ≠ '<' ∧ d ≠ '>' ∧ d ≠ '\n') ∧
        ∀ cs, unescape (ink ++ cs) = c :: unescape cs := by
  unfold textPiece
  split
  · next h => exact .inl ⟨h, rfl⟩
  · next hn =>
    split
    · next h => exact .inr (.inl ⟨by simpa using h, rfl⟩)
    · refine .inr (.inr ?_)
      split
      · next h => exact ⟨_, rfl, by simp, fun _ => h ▸ rfl⟩
      · next hamp =>
        split
        · next h => exact ⟨_, rfl, by simp, fun _ => h ▸ rfl⟩
        · next hlt =>
          split
          · next h => exact ⟨_, rfl, by simp, fun _ => h ▸ rfl⟩
          · next hgt =>
            split
            · next h => exact ⟨_, rfl, by simp, fun _ => h ▸ rfl⟩
            · exact ⟨_, rfl, by simp [hlt, hgt, hn], unescape_cons_of_ne hamp⟩

theorem Marked.textPiece {P : List Char → Prop} {ps : List Piece}
    (h : ∀ blank, Marked P (Piece.layOut blank ps)) (c : Char) (blank : Bool) :
    Marked P (Piece.layOut blank (ArticleMarkup.textPiece c :: ps)) := by
  rcases textPiece_cases c with ⟨-, hpiece⟩ | ⟨hc, hpiece⟩ | ⟨ink, hpiece, hink, -⟩ <;> rw [hpiece]
  · exact .newline h blank
  · refine .plain ?_ ?_ (h blank) <;> rcases hc with rfl | rfl <;> decide
  · refine Marked.plain_append (List.all_eq_true.mpr fun d hd => ?_) (h false)
    simp [(hink d hd).1, (hink d hd).2.1]

/-- A text is written without a tag. -/
theorem Marked.text {P : List Char → Prop} {ps : List Piece}
    (h : ∀ blank, Marked P (Piece.layOut blank ps)) (cs : List Char) (blank : Bool) :
    Marked P (Piece.layOut blank (cs.map ArticleMarkup.textPiece ++ ps)) := by
  induction cs generalizing blank with
  | nil => exact h blank
  | cons c cs ih => exact .textPiece ih c blank

namespace Forest

/-- The pieces of a forest are marked by its tags, in front of whatever is marked. -/
theorem marked_pieces {P : List Char → Prop} {f : Forest}
    (hf : ∀ tag ∈ f.tags, tag.WellNamed ∧ P tag.inside ∧ P ('/' :: tag.name.toList))
    {ps : List Piece} (h : ∀ blank, Marked P (Piece.layOut blank ps)) (blank : Bool) :
    Marked P (Piece.layOut blank (f.pieces ++ ps)) := by
  induction f generalizing ps blank with
  | nil => exact h blank
  | text s rest ih =>
    simp only [pieces, List.append_assoc]
    exact .text (ih hf h) _ blank
  | element tag cs rest ihcs ihrest =>
    simp only [tags, List.mem_cons, List.mem_append] at hf
    obtain ⟨hnamed, hstart, hclose⟩ := hf tag (.inl rfl)
    have hrest := ihrest (fun t ht => hf t (.inr (.inr ht))) h
    have hend : ∀ blank, Marked P (Piece.layOut blank (.ink tag.endChars :: (rest.pieces ++ ps))) :=
      fun _ => .endChars hnamed hclose (hrest false)
    have hcs := ihcs (fun t ht => hf t (.inr (.inl ht))) hend
    unfold pieces
    split
    · exact .startChars hnamed hstart (hrest false)
    · simp only [List.cons_append, List.append_assoc]
      refine .startChars hnamed hstart ?_
      unfold leadPieces
      split
      · exact .newline hcs false
      · exact hcs false

/-- **A written forest is marked** by its tags. -/
theorem marked_written {P : List Char → Prop} {f : Forest}
    (hf : ∀ tag ∈ f.tags, tag.WellNamed ∧ P tag.inside ∧ P ('/' :: tag.name.toList)) :
    Marked P f.written.toList := by
  have h : Marked P (Piece.layOut false (f.pieces ++ [])) := marked_pieces hf (fun _ => .nil) false
  rw [List.append_nil] at h
  simpa [written] using h

end Forest

end ArticleMarkup
