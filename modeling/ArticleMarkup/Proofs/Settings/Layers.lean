import ArticleMarkup.Proofs.CommandLine.Flags
import ArticleMarkup.Proofs.Settings.Checks
import ArticleMarkup.Render.Renderer
import ArticleMarkup.Settings.Sources

/-!
# Layers of settings

Settings come from a draft, which the sources hold together, and from the flags of a command on top of it.
Of each setting the flag has its say first, then the draft, and then the standard value; only what comes
out of this is checked, setting by setting.

## Main definitions

- `layered` — the first of a flag, what a draft says, and the standard value
- `Flags.asked` — the values that the flags of a command and a draft ask for
- `Flags.Hides` — drafts that differ under the flags of a command only

## Main statements

- `Flags.asked_heeds_onTopOf` — flags and draft are layered field by field
- `Flags.resolve_layered` — **what settings come out of the layers**
- `loadSettings_eq_resolve` — the program takes its settings from these layers
-/

namespace ArticleMarkup.CommandLine

/-- **The value that stands**: the flag, else what the draft says, else the standard value. -/
def layered {α : Type} (flag said : Option α) (standard : α) : α :=
  match flag, said with
  | some value, _ => value
  | none, some value => value
  | none, none => standard

theorem getD_orElse {α : Type} (flag said : Option α) (standard : α) :
    (flag <|> said).getD standard = layered flag said standard := by
  cases flag with
  | some value => rfl
  | none => cases said <;> rfl

namespace Flags

/-- **The values that the flags of a command and a draft ask for.** There is no flag for the overrides,
and the flag for heading links only turns them off. The command that prints the schema has no flags but
those about logging. -/
def asked (flags : Flags) (command : Command) (said : Draft) : Asked :=
  match command with
  | .render _ =>
    { level := layered flags.level said.level "info"
      json := layered flags.json said.json false
      maxInputBytes := layered flags.maxInputBytes said.maxInputBytes 1048576
      maxNestingDepth := layered flags.maxNestingDepth said.maxNestingDepth 128
      maxElements := layered flags.maxElements said.maxElements 200000
      tocMinLevel := layered flags.tocMinLevel said.tocMinLevel 2
      tocMaxLevel := layered flags.tocMaxLevel said.tocMaxLevel 4
      linksHeadings := if flags.noHeadingAnchors then false else layered none said.linksHeadings true
      anchorClass := layered flags.anchorClass said.anchorClass "heading-anchor"
      overrides := layered none said.overrides [] }
  | .schema _ =>
    { level := layered flags.level said.level "info"
      json := layered flags.json said.json false
      maxInputBytes := layered none said.maxInputBytes 1048576
      maxNestingDepth := layered none said.maxNestingDepth 128
      maxElements := layered none said.maxElements 200000
      tocMinLevel := layered none said.tocMinLevel 2
      tocMaxLevel := layered none said.tocMaxLevel 4
      linksHeadings := layered none said.linksHeadings true
      anchorClass := layered none said.anchorClass "heading-anchor"
      overrides := layered none said.overrides [] }

/-- The two drafts say the same, wherever there is no flag. -/
structure HidesIn (flags : Flags) (a b : Draft) : Prop where
  level : flags.level = none → a.level = b.level
  json : flags.json = none → a.json = b.json
  maxInputBytes : flags.maxInputBytes = none → a.maxInputBytes = b.maxInputBytes
  maxNestingDepth : flags.maxNestingDepth = none → a.maxNestingDepth = b.maxNestingDepth
  maxElements : flags.maxElements = none → a.maxElements = b.maxElements
  tocMinLevel : flags.tocMinLevel = none → a.tocMinLevel = b.tocMinLevel
  tocMaxLevel : flags.tocMaxLevel = none → a.tocMaxLevel = b.tocMaxLevel
  linksHeadings : flags.noHeadingAnchors = false → a.linksHeadings = b.linksHeadings
  anchorClass : flags.anchorClass = none → a.anchorClass = b.anchorClass
  overrides : a.overrides = b.overrides

/-- **Two drafts differ under the flags of a command only.** -/
def Hides (flags : Flags) (command : Command) (a b : Draft) : Prop :=
  match command with
  | .render _ => flags.HidesIn a b
  | .schema _ => HidesIn { level := flags.level, json := flags.json } a b

variable (flags : Flags) (said : Draft)

/-- Flags on top of a draft ask for the value that stands of each setting. -/
theorem asked_heeds_onTopOf (command : Command) :
    ((command.heeds flags.draft).onTopOf said).asked = flags.asked command said := by
  have hlinks : layered (if flags.noHeadingAnchors then some false else none) said.linksHeadings true =
      if flags.noHeadingAnchors then false else layered none said.linksHeadings true := by
    cases flags.noHeadingAnchors <;> cases said.linksHeadings <;> rfl
  cases command with
  | render arguments =>
    simp only [Draft.asked, Draft.onTopOf, Command.heeds, draft, getD_orElse, hlinks]
    rfl
  | schema pretty =>
    simp only [Draft.asked, Draft.onTopOf, Command.heeds, Draft.loggingOnly, draft, getD_orElse]
    rfl

theorem onTopOf_congr {flags : Flags} {a b : Draft} (h : flags.HidesIn a b) :
    flags.draft.onTopOf a = flags.draft.onTopOf b := by
  have hsame {α : Type} {flag said said' : Option α} (h : flag = none → said = said') :
      (flag <|> said) = (flag <|> said') := by
    cases flag with
    | none => rw [h rfl]
    | some value => rfl
  have hlinks : (if flags.noHeadingAnchors then some false else none) = none →
      a.linksHeadings = b.linksHeadings := fun hnone => h.linksHeadings (by simpa using hnone)
  simp only [Draft.onTopOf, draft, hsame h.level, hsame h.json, hsame h.maxInputBytes,
    hsame h.maxNestingDepth, hsame h.maxElements, hsame h.tocMinLevel, hsame h.tocMaxLevel,
    hsame hlinks, hsame h.anchorClass, h.overrides]

/-- What a draft says under a flag makes no difference. -/
theorem heeds_onTopOf_congr {flags : Flags} {command : Command} {a b : Draft}
    (h : flags.Hides command a b) :
    (command.heeds flags.draft).onTopOf a = (command.heeds flags.draft).onTopOf b := by
  cases command with
  | render arguments => exact onTopOf_congr h
  | schema pretty =>
    have hlogging : Flags.HidesIn { level := flags.level, json := flags.json } a b := h
    exact onTopOf_congr hlogging

/-- Overrides that pass the check make a renderer. -/
theorem exists_renderer {settings : Settings} {a : Asked} (hholds : settings.Holds a)
    (hmeets : a.Meets .overrides) : ∃ r, Renderer.ofConfig settings.render = .ok r := by
  obtain ⟨schema, hschema⟩ := hmeets
  rw [← hholds.overrides] at hschema
  exact ⟨{ schema, config := settings.render }, by rw [Renderer.ofConfig, hschema]⟩

/-- **What settings come out of the layers.** For every command, all flags and every draft, take of each
setting the flag if the command has it, else what the draft says, else the standard value. There are
settings exactly if each of these values is as it must be. They hold these values, and there is a
renderer for them. Otherwise the fault names the first setting that is not as it must be, in the order of
the checks, and tells what is wrong with it. What the draft says under a flag makes no difference. -/
theorem resolve_layered (flags : Flags) (command : Command) (said : Draft) :
    let asked := flags.asked command said
    let resolved := ((command.heeds flags.draft).onTopOf said).resolve
    ((∃ settings, resolved = .ok settings) ↔ ∀ key, asked.Meets key) ∧
      (∀ settings, resolved = .ok settings →
        settings.Holds asked ∧ ∃ r, Renderer.ofConfig settings.render = .ok r) ∧
      (∀ fault, resolved = .error fault →
        ∃ before key after, SettingKey.all = before ++ key :: after ∧
          (∀ k ∈ before, asked.Meets k) ∧ ¬asked.Meets key ∧ asked.Violates key fault ∧
          fault.key = key.written) ∧
      ∀ other, flags.Hides command said other →
        ((command.heeds flags.draft).onTopOf other).resolve = resolved := by
  intro asked resolved
  have hchecked : asked.Checked SettingKey.all (·.Holds asked) resolved := by
    have hdraft := Draft.checked_resolve ((command.heeds flags.draft).onTopOf said)
    rwa [asked_heeds_onTopOf] at hdraft
  have hok := hchecked.exists_ok_iff
  refine ⟨⟨fun h key => hok.mp h key key.mem_all, fun h => hok.mpr fun key _ => h key⟩, ?_, ?_, ?_⟩
  · intro settings hsettings
    have hholds : settings.Holds asked := hchecked.of_eq_ok hsettings
    have hmeets : asked.Meets .overrides := hok.mp ⟨settings, hsettings⟩ _ (SettingKey.mem_all _)
    exact ⟨hholds, exists_renderer hholds hmeets⟩
  · intro fault hfault
    obtain ⟨before, key, after, hkeys, hbefore, hviolates⟩ := hchecked.of_eq_error hfault
    obtain ⟨hkey, hnot⟩ := hviolates.not_meets
    exact ⟨before, key, after, hkeys, hbefore, hnot, hviolates, hkey⟩
  · intro other hhides
    rw [← heeds_onTopOf_congr hhides]

/-- A range of heading levels from two layers. -/
example : (((draft { tocMinLevel := some 1 }).onTopOf
    { tocMinLevel := some 9, tocMaxLevel := some 2 }).resolve.toOption.map (·.render.tocLevels)) =
      some { min := 1, max := 2 } := rfl

/-- Nesting that is too deep is found before a limit of zero elements. -/
example : ((draft { maxElements := some 0 }).onTopOf { maxNestingDepth := some 2000 }).resolve =
    .error .deepNesting := rfl

end Flags

/-- **The program takes its settings from these layers**: the draft that the sources hold together is
under the flags among the arguments of the command that is asked for. -/
theorem loadSettings_eq_resolve {files : String → Option String}
    {environment : List (String × String)} {words : List String} {invocation : Invocation} {said : Draft}
    (h : Invocation.ofArguments environment words = .ok invocation)
    (hsources : draftOfSources files environment invocation.settingsFile = .ok said) :
    ∃ given, givenOf words = .ok given ∧
      loadSettings files environment invocation.settingsFile invocation.settings =
        ((invocation.command.heeds (Flags.ofGiven given).draft).onTopOf said).resolve.mapError
          .invalid := by
  obtain ⟨given, hgiven, hsettings, -⟩ := Invocation.settings_eq h
  refine ⟨given, hgiven, ?_⟩
  rw [loadSettings, hsources, ← hsettings]
  simp only
  cases (invocation.settings.onTopOf said).resolve with
  | error fault => rfl
  | ok settings => rfl

end ArticleMarkup.CommandLine
