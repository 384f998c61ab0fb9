import ArticleMarkup.Proofs.Attributes.Classes
import ArticleMarkup.Proofs.Text.TrimmedWords

/-!
# Class lists that grow

A class is added behind the trimmed class list. What trimming takes away may belong to a word, since
words end at ASCII white space only; then that word is lost. Everything else about the tag stays.

## Main definitions

- `Tag.TrimsAscii` — trimming the class list takes nothing but ASCII white space away

## Main statements

- `Tag.classes_addClass` — the words of the class list with one more class
- `Tag.getElem?_attrs_addClass` — the other attributes keep their places
- `Tag.addClass_keeps_iff` — **when adding a class loses none**
-/

namespace ArticleMarkup

/-- At every place with another attribute than the one that is set nothing changes. -/
theorem getElem?_setAttribute_of_ne {name : String} (value : String) {a : Attribute}
    (hne : a.name ≠ name) (attrs : List Attribute) (i : Nat) :
    (setAttribute name value attrs)[i]? = some a ↔ attrs[i]? = some a := by
  induction attrs generalizing i with
  | nil =>
    have hset : (⟨name, value⟩ : Attribute) ≠ a := fun h => hne (by rw [← h])
    cases i with
    | zero => simpa [setAttribute_nil] using hset
    | succ i => simp [setAttribute_nil]
  | cons b rest ih =>
    by_cases hb : b.name = name
    · have hset : (⟨b.name, value⟩ : Attribute) ≠ a := fun h => hne (by rw [← h, ← hb])
      have hold : b ≠ a := fun h => hne (by rw [← h, hb])
      rw [setAttribute_cons_of_eq hb]
      cases i with
      | zero => simp [hset, hold]
      | succ i => rfl
    · rw [setAttribute_cons_of_ne hb]
      cases i with
      | zero => rfl
      | succ i => exact ih i

namespace Tag

variable {tag : Tag} {cls : String}

/-- Trimming the class list takes nothing but ASCII white space away. -/
def TrimsAscii (tag : Tag) : Prop :=
  ∀ value, tag.attr? "class" = some value → Text.TrimsAscii value

theorem hasClass_iff {name : String} : tag.hasClass name = true ↔ name ∈ tag.classes := by
  simp [hasClass]

theorem classes_of_attr? {value : String} (h : tag.attr? "class" = some value) :
    tag.classes = Text.words value := by
  simp only [classes, h]

theorem classes_of_none (h : tag.attr? "class" = none) : tag.classes = [] := by
  simp only [classes, h]

theorem classes_setAttr (tag : Tag) (value : String) :
    (tag.setAttr "class" value).classes = Text.words value :=
  classes_of_attr? (by rw [attr?_setAttr, if_pos rfl])

/-- **The class list with one more class** holds the words of the trimmed list, and the class. -/
theorem classes_addClass (h : Text.IsWord cls) (hnew : ¬tag.hasClass cls = true) :
    (tag.addClass cls).classes =
      Text.words (Text.trim ((tag.attr? "class").getD "")) ++ [cls] := by
  have hone := Text.words_of_isWord h
  unfold addClass
  cases hv : tag.attr? "class" with
  | none => exact (tag.classes_setAttr cls).trans hone
  | some value =>
    have habsent : ¬(Text.words value).contains cls = true := by
      rwa [hasClass, classes_of_attr? hv] at hnew
    simp only [if_neg habsent, Option.getD_some]
    by_cases hblank : Text.isBlank value = true
    · rw [if_pos hblank, classes_setAttr, hone, Text.words_trim_of_isBlank hblank]
      rfl
    · rw [if_neg hblank, classes_setAttr, Text.words_append_space, hone]

/-- The words of the class list survive trimming exactly if nothing but ASCII white space goes. -/
theorem words_trim_class_eq_iff (tag : Tag) :
    Text.words (Text.trim ((tag.attr? "class").getD "")) = tag.classes ↔ tag.TrimsAscii := by
  unfold TrimsAscii
  cases hv : tag.attr? "class" with
  | none =>
    rw [classes_of_none hv]
    simp [Text.words_trim_of_isBlank (s := "") rfl]
  | some value =>
    rw [classes_of_attr? hv]
    simp [Text.words_trim_eq_iff]

/-- Every other attribute keeps its place and its value. -/
theorem getElem?_attrs_addClass (cls : String) {a : Attribute} (hne : a.name ≠ "class") (i : Nat) :
    (tag.addClass cls).attrs[i]? = some a ↔ tag.attrs[i]? = some a := by
  apply addClass_of_setAttr (P := fun t => t.attrs[i]? = some a ↔ tag.attrs[i]? = some a) cls Iff.rfl
  intro value
  exact getElem?_setAttribute_of_ne value hne tag.attrs i

/-- Adding a class keeps the list and appends the class exactly if it is there already or trimming the
list takes nothing but ASCII white space away. -/
theorem classes_addClass_iff (h : Text.IsWord cls) :
    (tag.addClass cls).classes =
        (if tag.hasClass cls = true then tag.classes else tag.classes ++ [cls]) ↔
      tag.hasClass cls = true ∨ tag.TrimsAscii := by
  by_cases hthere : tag.hasClass cls = true
  · simp [hthere, addClass_of_hasClass hthere]
  · rw [if_neg hthere, classes_addClass h hthere, List.append_cancel_right_eq,
      words_trim_class_eq_iff]
    simp [hthere]

/-- **When adding a class loses none.** The words of the class list stay, in order, with the class behind
them unless it is there already, exactly if it is there already or trimming the list takes nothing but
ASCII white space away; then the tag has every class that it had. Always the tag has the class
afterwards, adding it again changes nothing, and all other attributes keep their places and values. -/
theorem addClass_keeps_iff (tag : Tag) (h : Text.IsWord cls) :
    ((tag.addClass cls).classes =
          (if tag.hasClass cls = true then tag.classes else tag.classes ++ [cls]) ↔
        tag.hasClass cls = true ∨ tag.TrimsAscii) ∧
      (tag.hasClass cls = true ∨ tag.TrimsAscii →
        ∀ name, tag.hasClass name = true → (tag.addClass cls).hasClass name = true) ∧
      (¬tag.hasClass cls = true → (tag.addClass cls).classes =
        Text.words (Text.trim ((tag.attr? "class").getD "")) ++ [cls]) ∧
      (tag.addClass cls).hasClass cls = true ∧
      (tag.addClass cls).addClass cls = tag.addClass cls ∧
      ∀ (i : Nat) (a : Attribute), a.name ≠ "class" →
        ((tag.addClass cls).attrs[i]? = some a ↔ tag.attrs[i]? = some a) := by
  refine ⟨classes_addClass_iff h, fun hkept name hname => ?_, classes_addClass h,
    tag.hasClass_addClass h, tag.addClass_addClass h,
    fun i a hne => getElem?_attrs_addClass cls hne i⟩
  rw [hasClass_iff] at hname
  rw [hasClass_iff, (classes_addClass_iff h).mpr hkept]
  split
  · exact hname
  · exact List.mem_append_left _ hname

/-- A block with two classes between spaces. -/
def spacedBlock : Tag := ⟨"pre", [⟨"id", "x"⟩, ⟨"class", " \ta\u00a0b  c\n"⟩, ⟨"title", "t"⟩]⟩

/-- A space that does not break a line is a character like any other inside a class. -/
theorem addClass_keeps_spacedBlock :
    (spacedBlock.addClass "b").classes = ["a\u00a0b", "c", "b"] := by
  have hword : Text.IsWord "b" := by decide
  have htrims : spacedBlock.TrimsAscii := by
    intro value hvalue
    cases hvalue
    have haround : " \ta\u00a0b  c\n".toList =
        [' ', '\t'] ++ (Text.trim " \ta\u00a0b  c\n").toList ++ ['\n'] := by decide
    exact ⟨[' ', '\t'], ['\n'], haround, by simp [Text.isAsciiSpace], by simp [Text.isAsciiSpace]⟩
  exact (addClass_keeps_iff spacedBlock hword).1.mpr (.inr htrims)

/-- A block with one class, which begins with a space that does not break a line. -/
def nonBreakingBlock : Tag := ⟨"pre", [⟨"class", "\u00a0x"⟩]⟩

/-- The class is there before and not after another class is added. -/
theorem addClass_loses_nonBreakingBlock :
    ¬∀ (tag : Tag) (cls : String), Text.IsWord cls → (tag.addClass cls).classes =
      if tag.hasClass cls = true then tag.classes else tag.classes ++ [cls] := by
  intro hkeeps
  have hkept := hkeeps nonBreakingBlock "b" (by decide)
  have hlost : (nonBreakingBlock.addClass "b").classes = ["x", "b"] := by decide
  have hclasses : nonBreakingBlock.classes = ["\u00a0x"] ∧
      nonBreakingBlock.hasClass "b" = false := by decide
  rw [hlost, hclasses.1, hclasses.2] at hkept
  exact absurd hkept (by decide)

end Tag

end ArticleMarkup
