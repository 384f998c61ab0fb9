import ArticleMarkup.Proofs.Attributes
import ArticleMarkup.Proofs.Text.Words

/-!
# The class list of a tag

What adding a class does to a tag: the class is there afterwards, all other attributes are as they
were, and nothing is left to do for a second time.

## Main definitions

- `Tag.withoutClasses` — the tag without its class list

## Main statements

- `Tag.hasClass_addClass` — the class is there
- `Tag.withoutClasses_addClass` — the other attributes stay
- `Tag.addClass_addClass` — adding it twice is adding it once
-/

namespace ArticleMarkup.Tag

variable {tag : Tag} {cls : String}

/-- The tag without its class list. -/
def withoutClasses (tag : Tag) : Tag :=
  { tag with attrs := tag.attrs.filter (fun a => a.name ≠ "class") }

/-- **The cases of adding a class**: it is there, or the class list is written anew. -/
theorem addClass_cases (tag : Tag) (cls : String) :
    (tag.hasClass cls = true ∧ tag.addClass cls = tag) ∨
      ∃ value, tag.addClass cls = tag.setAttr "class" value ∧
        (value = cls ∨ ∃ old, value = Text.trim old ++ " " ++ cls) := by
  unfold addClass hasClass classes
  cases tag.attr? "class" with
  | none => exact .inr ⟨cls, rfl, .inl rfl⟩
  | some old =>
    by_cases hmem : (Text.words old).contains cls = true
    · exact .inl ⟨hmem, if_pos hmem⟩
    · simp only [hmem, Bool.false_eq_true, if_false]
      by_cases hblank : Text.isBlank old = true
      · exact .inr ⟨cls, if_pos hblank, .inl rfl⟩
      · exact .inr ⟨_, if_neg hblank, .inr ⟨old, rfl⟩⟩

/-- **What survives any class list** survives another class. -/
theorem addClass_of_setAttr {P : Tag → Prop} (cls : String) (h : P tag)
    (hset : ∀ value, P (tag.setAttr "class" value)) : P (tag.addClass cls) := by
  rcases tag.addClass_cases cls with ⟨-, heq⟩ | ⟨value, heq, -⟩
  · rw [heq]
    exact h
  · rw [heq]
    exact hset value

@[simp] theorem name_addClass (tag : Tag) (cls : String) : (tag.addClass cls).name = tag.name :=
  addClass_of_setAttr (P := fun t => t.name = tag.name) cls rfl fun _ => rfl

theorem attr?_addClass {name : String} (cls : String) (h : name ≠ "class") :
    (tag.addClass cls).attr? name = tag.attr? name := by
  apply addClass_of_setAttr (P := fun t => t.attr? name = tag.attr? name) cls rfl
  intro value
  rw [attr?_setAttr, if_neg h.symm]

theorem hasClass_setAttr {value : String} (h : cls ∈ Text.words value) :
    (tag.setAttr "class" value).hasClass cls = true := by
  simp [hasClass, classes, attr?_setAttr, h]

/-- A class that a tag has is not added again. -/
theorem addClass_of_hasClass (h : tag.hasClass cls = true) : tag.addClass cls = tag := by
  unfold hasClass classes at h
  unfold addClass
  cases hv : tag.attr? "class" with
  | none =>
    rw [hv] at h
    cases h
  | some value =>
    rw [hv] at h
    exact if_pos h

/-- **The class is there** once it is added. -/
theorem hasClass_addClass (tag : Tag) (h : Text.IsWord cls) :
    (tag.addClass cls).hasClass cls = true := by
  have hone := Text.words_of_isWord h
  rcases tag.addClass_cases cls with ⟨hthere, heq⟩ | ⟨value, heq, rfl | ⟨old, rfl⟩⟩
  · rw [heq]
    exact hthere
  · rw [heq]
    exact hasClass_setAttr (by simp [hone])
  · rw [heq]
    apply hasClass_setAttr
    rw [Text.words_append_space, hone]
    simp

/-- **Adding a class twice** is adding it once. -/
theorem addClass_addClass (tag : Tag) (h : Text.IsWord cls) :
    (tag.addClass cls).addClass cls = tag.addClass cls :=
  addClass_of_hasClass (tag.hasClass_addClass h)

/-- Apart from the class list nothing changes. -/
@[simp] theorem withoutClasses_addClass (tag : Tag) (cls : String) :
    (tag.addClass cls).withoutClasses = tag.withoutClasses := by
  apply addClass_of_setAttr (P := fun t => t.withoutClasses = tag.withoutClasses) cls rfl
  intro value
  have hothers : (setAttribute "class" value tag.attrs).filter (fun a => a.name ≠ "class") =
      tag.attrs.filter (fun a => a.name ≠ "class") :=
    filter_setAttribute (fun name => name ≠ "class") (by simp) value tag.attrs
  exact congrArg (Tag.mk tag.name) hothers

end ArticleMarkup.Tag
