import ArticleMarkup.Render.Config
import ArticleMarkup.Settings.Draft
import ArticleMarkup.Settings.Level
import ArticleMarkup.Text.Blank

/-!
# Settings

A draft becomes settings once every value in it is checked. Settings that a draft says nothing about
have their standard value, and the first bad value, in a fixed order, is reported.

## Main definitions

- `Settings` — checked settings
- `SettingsFault` — what is wrong with a draft, with `SettingsFault.key` and
  `SettingsFault.message`
- `Draft.resolve` — from a draft to settings
-/

namespace ArticleMarkup

/-- **Checked settings.** -/
structure Settings where
  /-- How much is logged. -/
  level : LogLevel := .info
  /-- Log lines are JSON. -/
  json : Bool := false
  /-- How articles are rendered. -/
  render : RenderConfig := {}
deriving DecidableEq, Repr

/-- The limits that must not be zero. -/
inductive Limit where
  /-- On the bytes of an article. -/
  | inputBytes
  /-- On nesting. -/
  | nestingDepth
  /-- On the number of elements. -/
  | elements
deriving DecidableEq, Repr

/-- **What is wrong** with a draft. -/
inductive SettingsFault where
  /-- There is no such log level. -/
  | level
  /-- A limit is zero. -/
  | zero (limit : Limit)
  /-- The limit on nesting is too large. -/
  | deepNesting
  /-- The heading levels are no range within 1 to 6. -/
  | tocLevels (min max : Nat)
  /-- The class of heading links is not one word. -/
  | anchorClass
  /-- The overrides are refused. -/
  | overrides (error : SchemaError)
deriving DecidableEq, Repr

/-- The largest limit on nesting that can be set. -/
def nestingCeiling : Nat := 1024

namespace SettingsFault

/-- The name of a limit. -/
def limitKey : Limit → String
  | .inputBytes => "render.max_input_bytes"
  | .nestingDepth => "render.max_nesting_depth"
  | .elements => "render.max_elements"

/-- The setting that is wrong. -/
def key : SettingsFault → String
  | .level => "logging.level"
  | .zero limit => limitKey limit
  | .deepNesting => limitKey .nestingDepth
  | .tocLevels _ _ => "render.toc_levels"
  | .anchorClass => "render.anchor_class"
  | .overrides _ => "render.schema_overrides"

/-- What is wrong with it. -/
def reason : SettingsFault → String
  | .level =>
    "failed to parse: error parsing level filter: expected one of " ++
      "\"off\", \"error\", \"warn\", \"info\", \"debug\", \"trace\", or a number 0-5"
  | .zero _ => "must be greater than zero"
  | .deepNesting => s!"must not exceed {nestingCeiling}"
  | .tocLevels min max =>
    s!"expected 1 <= toc_min_level <= toc_max_level <= 6, got {min}..={max}"
  | .anchorClass => "must be a single non-empty class name"
  | .overrides e => e.message

/-- The wording of a fault. -/
def message (fault : SettingsFault) : String :=
  s!"invalid configuration for \x60{fault.key}\x60: {fault.reason}"

end SettingsFault

/-- A limit that is set, or its standard value. Zero is no limit. -/
def limitOr (limit : Limit) (standard : Nat) : Option Nat → Except SettingsFault Nat
  | none => .ok standard
  | some 0 => .error (.zero limit)
  | some n => .ok n

/-- The log level that a text names, or the standard one. -/
def levelOr (standard : LogLevel) : Option String → Except SettingsFault LogLevel
  | none => .ok standard
  | some text =>
    match LogLevel.ofText? text with
    | some level => .ok level
    | none => .error .level

/-- A class name without blank ends, or the standard one. -/
def classOr (standard : String) (name : Option String) : Except SettingsFault String :=
  let name := (name.map Text.trim).getD standard
  if name.isEmpty || name.toList.any Text.isBlankChar then .error .anchorClass else .ok name

/-- **From a draft to settings**, or the first fault. -/
def Draft.resolve (draft : Draft) : Except SettingsFault Settings := do
  let standard : RenderConfig := {}
  let level ← levelOr .info draft.level
  let maxInputBytes ← limitOr .inputBytes standard.maxInputBytes draft.maxInputBytes
  let maxNestingDepth ← limitOr .nestingDepth standard.maxNestingDepth draft.maxNestingDepth
  if nestingCeiling < maxNestingDepth then throw .deepNesting
  let maxElements ← limitOr .elements standard.maxElements draft.maxElements
  let min := draft.tocMinLevel.getD standard.tocLevels.min
  let max := draft.tocMaxLevel.getD standard.tocLevels.max
  let tocLevels ←
    match Levels.of? min max with
    | some levels => pure levels
    | none => throw (.tocLevels min max)
  let anchorClass ← classOr standard.anchorClass draft.anchorClass
  let overrides := draft.overrides.getD []
  match Schema.base.withOverrides overrides with
  | .error e => throw (.overrides e)
  | .ok _ =>
    return {
      level, json := draft.json.getD false,
      render := { maxInputBytes, maxNestingDepth, maxElements, tocLevels,
                  linksHeadings := draft.linksHeadings.getD true, anchorClass, overrides } }

end ArticleMarkup
