import ArticleMarkup.Settings.Resolved

/-!
# The checks of settings

The settings that a draft asks for are checked one after the other, in a fixed order. Each check looks at
one setting, or at two for the range of heading levels, and the first that fails gives the fault.

## Main definitions

- `Asked` — the value that is asked for of each setting, with `Draft.asked`
- `SettingKey` — the names under which settings are checked, in order
- `Asked.Meets` — what a setting must be like
- `Asked.Violates` — what is wrong with it otherwise
- `Asked.Checked` — what a part of the checks answers
- `Settings.Holds` — the settings have the values that are asked for

## Main statements

- `Asked.Checked.met`, `Asked.Checked.step`, `Asked.Checked.throwIf`, `Asked.Checked.limit` — a rule for
  each form of check
- `Asked.Checked.exists_ok_iff` — success is that all settings are as they must be
- `Draft.checked_resolve` — **the checks of a draft**
-/

namespace ArticleMarkup

/-- **The names under which settings are checked.** -/
inductive SettingKey where
  | level
  | maxInputBytes
  | maxNestingDepth
  | maxElements
  | tocLevels
  | anchorClass
  | overrides
deriving DecidableEq, Repr

namespace SettingKey

/-- All names, in the order of the checks. Two things are asked of the limit on nesting, under one name. -/
def all : List SettingKey :=
  [level, maxInputBytes, maxNestingDepth, maxElements, tocLevels, anchorClass, overrides]

/-- The name as it is written. -/
def written : SettingKey → String
  | level => "logging.level"
  | maxInputBytes => "render.max_input_bytes"
  | maxNestingDepth => "render.max_nesting_depth"
  | maxElements => "render.max_elements"
  | tocLevels => "render.toc_levels"
  | anchorClass => "render.anchor_class"
  | overrides => "render.schema_overrides"

theorem mem_all (key : SettingKey) : key ∈ all := by
  cases key <;> decide

end SettingKey

/-- **The value that is asked for of each setting**, not yet checked. -/
structure Asked where
  /-- The log level, as text. -/
  level : String
  /-- Log lines are JSON. -/
  json : Bool
  /-- The largest article, in bytes. -/
  maxInputBytes : Nat
  /-- The deepest nesting. -/
  maxNestingDepth : Nat
  /-- The largest number of elements. -/
  maxElements : Nat
  /-- The first heading level of the table of contents. -/
  tocMinLevel : Nat
  /-- The last heading level of the table of contents. -/
  tocMaxLevel : Nat
  /-- Headings link to themselves. -/
  linksHeadings : Bool
  /-- The class of these links. -/
  anchorClass : String
  /-- What is allowed beyond the base schema. -/
  overrides : List Override

namespace Asked

/-- **What a setting must be like.** -/
def Meets (a : Asked) : SettingKey → Prop
  | .level => ∃ level, LogLevel.ofText? a.level = some level
  | .maxInputBytes => a.maxInputBytes ≠ 0
  | .maxNestingDepth => a.maxNestingDepth ≠ 0 ∧ a.maxNestingDepth ≤ 1024
  | .maxElements => a.maxElements ≠ 0
  | .tocLevels => 1 ≤ a.tocMinLevel ∧ a.tocMinLevel ≤ a.tocMaxLevel ∧ a.tocMaxLevel ≤ 6
  | .anchorClass => Text.trim a.anchorClass ≠ "" ∧
      ∀ c ∈ (Text.trim a.anchorClass).toList, Text.isBlankChar c = false
  | .overrides => ∃ schema, Schema.base.withOverrides a.overrides = .ok schema

/-- **What is wrong** with a setting that is not as it must be. -/
inductive Violates (a : Asked) : SettingKey → SettingsFault → Prop where
  | level (h : LogLevel.ofText? a.level = none) : Violates a .level .level
  | zeroBytes (h : a.maxInputBytes = 0) : Violates a .maxInputBytes (.zero .inputBytes)
  | zeroDepth (h : a.maxNestingDepth = 0) : Violates a .maxNestingDepth (.zero .nestingDepth)
  | deepNesting (h : 1024 < a.maxNestingDepth) : Violates a .maxNestingDepth .deepNesting
  | zeroElements (h : a.maxElements = 0) : Violates a .maxElements (.zero .elements)
  | tocLevels (h : ¬a.Meets .tocLevels) :
      Violates a .tocLevels (.tocLevels a.tocMinLevel a.tocMaxLevel)
  | anchorClass (h : ¬a.Meets .anchorClass) : Violates a .anchorClass .anchorClass
  | overrides {e} (h : Schema.base.withOverrides a.overrides = .error e) :
      Violates a .overrides (.overrides e)

variable {a : Asked}

/-- The fault names the setting, and the setting is not as it must be. -/
theorem Violates.not_meets {key : SettingKey} {fault : SettingsFault} (h : a.Violates key fault) :
    fault.key = key.written ∧ ¬a.Meets key := by
  cases h with
  | level h =>
    refine ⟨rfl, ?_⟩
    rintro ⟨level, hlevel⟩
    rw [h] at hlevel
    cases hlevel
  | zeroBytes h => exact ⟨rfl, fun hmeets => hmeets h⟩
  | zeroDepth h => exact ⟨rfl, fun hmeets => hmeets.1 h⟩
  | deepNesting h => exact ⟨rfl, fun hmeets => Nat.not_lt.mpr hmeets.2 h⟩
  | zeroElements h => exact ⟨rfl, fun hmeets => hmeets h⟩
  | tocLevels h => exact ⟨rfl, h⟩
  | anchorClass h => exact ⟨rfl, h⟩
  | overrides h =>
    refine ⟨rfl, ?_⟩
    rintro ⟨schema, hschema⟩
    rw [h] at hschema
    cases hschema

/-- **The fault of the first setting** among the keys that is not as it must be. -/
def FirstFault (a : Asked) (keys : List SettingKey) (fault : SettingsFault) : Prop :=
  ∃ before key after, keys = before ++ key :: after ∧ (∀ k ∈ before, a.Meets k) ∧
    a.Violates key fault

/-- **What the checks of some settings answer.** If all of them are as they must be, there is a value with
the property, and otherwise the fault of the first that is not. -/
inductive Checked (a : Asked) (keys : List SettingKey) {α : Type} (P : α → Prop) :
    Except SettingsFault α → Prop where
  | ok {value : α} (hmeets : ∀ key ∈ keys, a.Meets key) (hvalue : P value) :
      Checked a keys P (.ok value)
  | fault {fault : SettingsFault} (h : a.FirstFault keys fault) : Checked a keys P (.error fault)

namespace Checked

variable {key : SettingKey} {keys : List SettingKey} {α β : Type} {P : β → Prop}

/-- The next setting is not as it must be. -/
theorem fail {fault : SettingsFault} (h : a.Violates key fault) :
    a.Checked (key :: keys) P (.error fault) :=
  .fault ⟨[], key, keys, rfl, by simp, h⟩

/-- The next setting is as it must be, and the others are still to be checked. -/
theorem met {x : Except SettingsFault β} (hmeets : a.Meets key) (h : a.Checked keys P x) :
    a.Checked (key :: keys) P x := by
  cases h with
  | ok hkeys hvalue => exact .ok (List.forall_mem_cons.mpr ⟨hmeets, hkeys⟩) hvalue
  | fault h =>
    obtain ⟨before, first, after, rfl, hbefore, hviolates⟩ := h
    exact .fault ⟨key :: before, first, after, rfl, List.forall_mem_cons.mpr ⟨hmeets, hbefore⟩,
      hviolates⟩

/-- A step of the checks: what it refuses violates the next setting, and with what it gives the checks
go on. -/
theorem step {x : Except SettingsFault α} {f : α → Except SettingsFault β}
    (hrefuse : ∀ fault, x = .error fault → a.Violates key fault)
    (hgive : ∀ value, x = .ok value → a.Checked (key :: keys) P (f value)) :
    a.Checked (key :: keys) P (x >>= f) := by
  cases x with
  | error fault => exact .fail (hrefuse fault rfl)
  | ok value => exact hgive value rfl

/-- A fault that is thrown under a condition. -/
theorem throwIf {c : Prop} [Decidable c] {fault : SettingsFault}
    {f : PUnit → Except SettingsFault β} {x : Except SettingsFault β}
    (hrefuse : c → a.Violates key fault) (hgive : ¬c → a.Checked (key :: keys) P x) :
    a.Checked (key :: keys) P (if c then throw fault >>= f else x) := by
  by_cases hc : c
  · rw [if_pos hc]
    exact .fail (hrefuse hc)
  · rw [if_neg hc]
    exact hgive hc

/-- There is a value exactly if all settings are as they must be. -/
theorem exists_ok_iff {x : Except SettingsFault β} (h : a.Checked keys P x) :
    (∃ value, x = .ok value) ↔ ∀ key ∈ keys, a.Meets key := by
  cases h with
  | @ok value hmeets _ => exact ⟨fun _ => hmeets, fun _ => ⟨value, rfl⟩⟩
  | fault h =>
    obtain ⟨before, key, after, rfl, -, hviolates⟩ := h
    have hnot : ¬∀ k ∈ before ++ key :: after, a.Meets k := fun hall =>
      hviolates.not_meets.2 (hall key (by simp))
    simp only [reduceCtorEq, exists_false, false_iff]
    exact hnot

theorem of_eq_ok {x : Except SettingsFault β} (h : a.Checked keys P x) {value : β}
    (hx : x = .ok value) : P value := by
  subst hx
  cases h with
  | ok _ hvalue => exact hvalue

theorem of_eq_error {x : Except SettingsFault β} (h : a.Checked keys P x) {fault : SettingsFault}
    (hx : x = .error fault) : a.FirstFault keys fault := by
  subst hx
  cases h with
  | fault h => exact h

end Checked

end Asked

-- ════════════════════════════════════════════════════════════════════════
-- Each check for itself
-- ════════════════════════════════════════════════════════════════════════

theorem levelOr_spec (text : Option String) :
    (∀ fault, levelOr .info text = .error fault →
        fault = .level ∧ LogLevel.ofText? (text.getD "info") = none) ∧
      ∀ level, levelOr .info text = .ok level →
        LogLevel.ofText? (text.getD "info") = some level := by
  cases text with
  | none =>
    have hstandard : LogLevel.ofText? "info" = some .info := by decide
    simpa [levelOr] using hstandard
  | some text =>
    cases hlevel : LogLevel.ofText? text with
    | none => simp [levelOr, hlevel, eq_comm]
    | some level => simp [levelOr, hlevel]

/-- A limit is the value that is asked for, unless that is zero. -/
theorem Asked.Checked.limit {a : Asked} {key : SettingKey} {keys : List SettingKey} {β : Type}
    {P : β → Prop} {limit : Limit} {standard : Nat} {value : Option Nat}
    {f : Nat → Except SettingsFault β} (hstandard : standard ≠ 0)
    (hzero : value.getD standard = 0 → a.Violates key (.zero limit))
    (hgive : value.getD standard ≠ 0 → a.Checked (key :: keys) P (f (value.getD standard))) :
    a.Checked (key :: keys) P (limitOr limit standard value >>= f) := by
  rcases value with _ | _ | n
  · exact hgive hstandard
  · exact .fail (hzero rfl)
  · exact hgive (Nat.succ_ne_zero n)

theorem classOr_spec (name : Option String) :
    let cls := Text.trim (name.getD "heading-anchor")
    let oneWord := cls ≠ "" ∧ ∀ c ∈ cls.toList, Text.isBlankChar c = false
    (∀ fault, classOr "heading-anchor" name = .error fault → fault = .anchorClass ∧ ¬oneWord) ∧
      ∀ given, classOr "heading-anchor" name = .ok given → given = cls ∧ oneWord := by
  intro cls oneWord
  have hname : (name.map Text.trim).getD "heading-anchor" = cls := by
    cases name with
    | none =>
      show "heading-anchor" = Text.trim "heading-anchor"
      decide
    | some name => rfl
  have hword : oneWord ↔ ¬(cls.isEmpty || cls.toList.any Text.isBlankChar) = true := by
    simp [oneWord]
  unfold classOr
  simp only [hname]
  by_cases hbad : (cls.isEmpty || cls.toList.any Text.isBlankChar) = true
  · rw [if_pos hbad]
    simp [hword, hbad, eq_comm]
  · rw [if_neg hbad]
    simp [hword, hbad, eq_comm]

theorem Levels.of?_spec (min max : Nat) :
    (Levels.of? min max = none → ¬(1 ≤ min ∧ min ≤ max ∧ max ≤ 6)) ∧
      ∀ levels, Levels.of? min max = some levels →
        levels.min = min ∧ levels.max = max ∧ 1 ≤ min ∧ min ≤ max ∧ max ≤ 6 := by
  unfold Levels.of?
  by_cases h : 1 ≤ min ∧ min ≤ max ∧ max ≤ 6
  · simp only [dif_pos h]
    refine ⟨by simp, fun levels hlevels => ?_⟩
    cases hlevels
    exact ⟨rfl, rfl, h⟩
  · simp [h]

-- ════════════════════════════════════════════════════════════════════════
-- The checks of a draft
-- ════════════════════════════════════════════════════════════════════════

/-- **What a draft asks for**: what it says, and the standard value where it says nothing. -/
def Draft.asked (d : Draft) : Asked where
  level := d.level.getD "info"
  json := d.json.getD false
  maxInputBytes := d.maxInputBytes.getD 1048576
  maxNestingDepth := d.maxNestingDepth.getD 128
  maxElements := d.maxElements.getD 200000
  tocMinLevel := d.tocMinLevel.getD 2
  tocMaxLevel := d.tocMaxLevel.getD 4
  linksHeadings := d.linksHeadings.getD true
  anchorClass := d.anchorClass.getD "heading-anchor"
  overrides := d.overrides.getD []

/-- **The settings have the values that are asked for**, the level as a level and the class without
blank ends. -/
structure Settings.Holds (s : Settings) (a : Asked) : Prop where
  level : LogLevel.ofText? a.level = some s.level
  json : s.json = a.json
  maxInputBytes : s.render.maxInputBytes = a.maxInputBytes
  maxNestingDepth : s.render.maxNestingDepth = a.maxNestingDepth
  maxElements : s.render.maxElements = a.maxElements
  tocMinLevel : s.render.tocLevels.min = a.tocMinLevel
  tocMaxLevel : s.render.tocLevels.max = a.tocMaxLevel
  linksHeadings : s.render.linksHeadings = a.linksHeadings
  anchorClass : s.render.anchorClass = Text.trim a.anchorClass
  overrides : s.render.overrides = a.overrides

/-- **The checks of a draft** go through the settings in order. -/
theorem Draft.checked_resolve (d : Draft) :
    d.asked.Checked SettingKey.all (·.Holds d.asked) d.resolve := by
  unfold resolve
  refine Asked.Checked.step (fun fault h => ?_) fun level hlevel => ?_
  · obtain ⟨rfl, hnone⟩ := (levelOr_spec d.level).1 fault h
    exact .level hnone
  have hlevel : LogLevel.ofText? d.asked.level = some level := (levelOr_spec d.level).2 level hlevel
  refine .met ⟨level, hlevel⟩ ?_
  refine .limit (by decide) (fun hzero => .zeroBytes hzero) fun hbytes => .met hbytes ?_
  refine .limit (by decide) (fun hzero => .zeroDepth hzero) fun hdepth => ?_
  refine .throwIf (fun hdeep => .deepNesting hdeep) fun hdeep => ?_
  refine .met ⟨hdepth, Nat.not_lt.mp hdeep⟩ ?_
  refine .limit (by decide) (fun hzero => .zeroElements hzero) fun helements => .met helements ?_
  simp only
  split
  · next tocLevels hlevels =>
    obtain ⟨hmin, hmax, hrange⟩ := (Levels.of?_spec _ _).2 tocLevels hlevels
    refine .met hrange ?_
    rw [pure_bind]
    refine Asked.Checked.step (fun fault h => ?_) fun anchorClass hclass => ?_
    · obtain ⟨rfl, hword⟩ := (classOr_spec d.anchorClass).1 fault h
      exact .anchorClass hword
    obtain ⟨hclass, hword⟩ := (classOr_spec d.anchorClass).2 _ hclass
    refine .met hword ?_
    split
    · next e hmerged =>
      have hrefused : Schema.base.withOverrides d.asked.overrides = .error e := hmerged
      exact .fail (.overrides hrefused)
    · next schema hmerged =>
      refine .met ⟨schema, hmerged⟩ (.ok (by simp) ?_)
      exact ⟨hlevel, rfl, rfl, rfl, rfl, hmin, hmax, rfl, hclass, rfl⟩
  · next hlevels => exact .fail (.tocLevels ((Levels.of?_spec _ _).1 hlevels))

end ArticleMarkup
