import ArticleMarkup.CommandLine.Invocation

/-!
# Flags

What the command line says about settings. The command that renders an article has a flag for each
setting except the overrides, and the command that prints the schema has those about logging only; a
command line with any other word is not carried out.

## Main definitions

- `Flags` — the flags about settings, with `Flags.draft`, what they say
- `Flags.ofGiven` — the flags among the arguments that were given
- `givenOf` — the arguments of the command among the words of a command line

## Main statements

- `CommandSpec.parse_within` — the arguments of a command are among its options and words
- `Invocation.settings_eq` — an invocation says what the flags among its arguments say
-/

namespace ArticleMarkup.CommandLine

/-- **The flags about settings.** -/
structure Flags where
  /-- The log level, as text. -/
  level : Option String := none
  /-- Log lines are JSON. -/
  json : Option Bool := none
  /-- The largest article, in bytes. -/
  maxInputBytes : Option Nat := none
  /-- The deepest nesting. -/
  maxNestingDepth : Option Nat := none
  /-- The largest number of elements. -/
  maxElements : Option Nat := none
  /-- The first heading level of the table of contents. -/
  tocMinLevel : Option Nat := none
  /-- The last heading level of the table of contents. -/
  tocMaxLevel : Option Nat := none
  /-- Headings do not link to themselves. -/
  noHeadingAnchors : Bool := false
  /-- The class of heading links. -/
  anchorClass : Option String := none

namespace Flags

/-- What flags say about settings. -/
def draft (flags : Flags) : Draft where
  level := flags.level
  json := flags.json
  maxInputBytes := flags.maxInputBytes
  maxNestingDepth := flags.maxNestingDepth
  maxElements := flags.maxElements
  tocMinLevel := flags.tocMinLevel
  tocMaxLevel := flags.tocMaxLevel
  linksHeadings := if flags.noHeadingAnchors then some false else none
  anchorClass := flags.anchorClass

/-- The flags among the arguments that were given. -/
def ofGiven (given : Given) : Flags where
  level := given.value? "log-level"
  json := (given.value? "log-json").bind boolOfWord?
  maxInputBytes := (given.value? "max-input-bytes").bind natOfWord?
  maxNestingDepth := (given.value? "max-nesting-depth").bind natOfWord?
  maxElements := (given.value? "max-elements").bind natOfWord?
  tocMinLevel := (given.value? "toc-min-level").bind byteOfWord?
  tocMaxLevel := (given.value? "toc-max-level").bind byteOfWord?
  noHeadingAnchors := given.has "no-heading-anchors"
  anchorClass := given.value? "anchor-class"

theorem draft_ofGiven (given : Given) : (ofGiven given).draft = draftOf given := rfl

end Flags

-- ════════════════════════════════════════════════════════════════════════
-- The arguments of a command
-- ════════════════════════════════════════════════════════════════════════

/-- The arguments that were given, and the last one, have names among these. -/
structure Within (names : List String) (given : Given) (pending : Option Pending) : Prop where
  given : ∀ e ∈ given, e.1 ∈ names
  pending : ∀ p ∈ pending, p.spec.name ∈ names

variable {names : List String} {given : Given} {pending : Option Pending}

theorem Given.value?_eq_none {name : String} (h : ∀ e ∈ given, e.1 ∈ names) (hname : name ∉ names) :
    given.value? name = none := by
  have hnone : given.find? (fun e => e.1 = name) = none := by
    rw [List.find?_eq_none]
    intro e he heq
    exact hname (of_decide_eq_true heq ▸ h e he)
  rw [value?, hnone]
  rfl

theorem accept_within {spec : ArgumentSpec} {value : String} {given' : Given}
    (hgiven : ∀ e ∈ given, e.1 ∈ names) (hspec : spec.name ∈ names)
    (h : accept given spec value = .ok given') : ∀ e ∈ given', e.1 ∈ names := by
  unfold accept at h
  split at h
  · cases h
  · split at h
    · cases h
    · cases h
      exact List.forall_mem_append.mpr ⟨hgiven, by simpa using hspec⟩

theorem Within.settle {given' : Given} (h : Within names given pending)
    (hsettle : settle given pending = .ok given') : ∀ e ∈ given', e.1 ∈ names := by
  match pending, hsettle with
  | none, hsettle =>
    cases hsettle
    exact h.given
  | some ⟨spec, some value⟩, hsettle =>
    exact accept_within h.given (h.pending ⟨spec, some value⟩ rfl) hsettle

theorem Within.waiting {o : ArgumentSpec} (h : Within names given pending)
    (hwaiting : waiting? pending = some o) : o.name ∈ names := by
  unfold waiting? at hwaiting
  split at hwaiting
  · next spec =>
    cases hwaiting
    exact h.pending ⟨o, none⟩ rfl
  · cases hwaiting

/-- A computation that gives a result has given one to its last step. -/
theorem bind_eq_ok {ε α β : Type} {x : Except ε α} {f : α → Except ε β} {b : β} :
    (x >>= f) = .ok b ↔ ∃ a, x = .ok a ∧ f a = .ok b := by
  cases x with
  | error e => simp [bind, Except.bind]
  | ok a => simp [bind, Except.bind]

theorem Within.readLong {spec : CommandSpec} (hspec : ∀ o ∈ spec.options, o.name ∈ names)
    (h : Within names given pending) {word : List Char} {after : Given × Option Pending}
    (hread : readLong spec given pending word = .ok after) : Within names after.1 after.2 := by
  unfold CommandLine.readLong at hread
  simp only at hread
  split at hread
  · -- a request for help or for the version, which is never carried out
    split at hread
    · cases hread
    · obtain ⟨given', -, hread⟩ := bind_eq_ok.mp hread
      cases hread
  · split at hread
    · cases hread
    · next o hfound _ =>
      have ho := hspec o (List.mem_of_find?_eq_some hfound)
      obtain ⟨given', hsettle, hread⟩ := bind_eq_ok.mp hread
      have hgiven := h.settle hsettle
      split at hread
      · cases hread
        exact ⟨hgiven, by simpa using ho⟩
      · obtain ⟨given'', haccept, hread⟩ := bind_eq_ok.mp hread
        cases hread
        exact ⟨accept_within hgiven ho haccept, by simp⟩
    · next o value hfound _ =>
      have ho := hspec o (List.mem_of_find?_eq_some hfound)
      split at hread
      · cases hread
      · obtain ⟨given', hsettle, hread⟩ := bind_eq_ok.mp hread
        obtain ⟨given'', haccept, hread⟩ := bind_eq_ok.mp hread
        cases hread
        exact ⟨accept_within (h.settle hsettle) ho haccept, by simp⟩

/-- **The arguments of a command** are among its options and its words. -/
theorem CommandSpec.parse_within {spec : CommandSpec} (hspec : ∀ o ∈ spec.options, o.name ∈ names)
    {words : List String} {literal : Bool} {expected : List ArgumentSpec} {parsed : Parsed}
    (hexpected : ∀ o ∈ expected, o.name ∈ names) (h : Within names given pending)
    (hparse : spec.parse literal expected given pending words = .ok parsed) :
    Within names parsed.given parsed.pending := by
  induction words generalizing literal expected given pending with
  | nil =>
    cases hparse
    exact h
  | cons word rest ih =>
    unfold CommandSpec.parse at hparse
    extract_lets plain at hparse
    -- a word without a dash
    have hplain (hword : plain = .ok parsed) : Within names parsed.given parsed.pending := by
      subst plain
      cases expected with
      | nil => cases hword
      | cons next expected =>
        obtain ⟨hnext, hexpected⟩ := List.forall_mem_cons.mp hexpected
        simp only at hword
        split at hword
        · cases hword
        · next given' hsettle =>
          exact ih hexpected ⟨h.settle hsettle, by simpa using hnext⟩ hword
    split at hparse
    · exact hplain hparse
    · split at hparse
      · split at hparse
        · cases hparse
        · cases hparse
          exact h
      · split at hparse
        · exact ih hexpected h hparse
        · split at hparse
          · cases hparse
          · next hread => exact ih hexpected (h.readLong hspec hread) hparse
        · cases hparse
        · next o _ _ hwaiting =>
          have ho := h.waiting hwaiting
          exact ih hexpected ⟨h.given, by simpa using ho⟩ hparse
        · exact hplain hparse

theorem argumentsOf_within {spec : CommandSpec} (hspec : ∀ o ∈ spec.options, o.name ∈ names)
    (hwords : ∀ o ∈ spec.words, o.name ∈ names) {words : List String}
    (h : argumentsOf spec words = .ok given) : ∀ e ∈ given, e.1 ∈ names := by
  obtain ⟨parsed, hparse, hsettle⟩ := bind_eq_ok.mp h
  have hstart : Within names [] none := ⟨by simp, by simp⟩
  exact (CommandSpec.parse_within hspec hwords hstart hparse).settle hsettle

-- ════════════════════════════════════════════════════════════════════════
-- The flags of an invocation
-- ════════════════════════════════════════════════════════════════════════

/-- Printing the schema has flags about logging only. -/
theorem draftOf_schema {words : List String} (h : argumentsOf schemaSpec words = .ok given) :
    draftOf given = (draftOf given).loggingOnly := by
  have hnames : ∀ e ∈ given, e.1 ∈ ["log-level", "log-json", "pretty"] :=
    argumentsOf_within (by decide) (by decide) h
  have habsent : ∀ name ∉ ["log-level", "log-json", "pretty"], given.value? name = none :=
    fun name hname => Given.value?_eq_none hnames hname
  unfold draftOf Draft.loggingOnly Given.has
  rw [habsent "max-input-bytes" (by decide), habsent "max-nesting-depth" (by decide),
    habsent "max-elements" (by decide), habsent "toc-min-level" (by decide),
    habsent "toc-max-level" (by decide), habsent "no-heading-anchors" (by decide),
    habsent "anchor-class" (by decide)]
  rfl

/-- **The arguments of the command** among the words of a command line. -/
def givenOf (words : List String) : Except UsageFault Given := do
  let parsed ← programSpec.parse false [] [] none words
  match parsed.subcommand with
  | some (name, rest) => argumentsOf (if name = "render" then renderSpec else schemaSpec) rest
  | none => throw .missingSubcommand

/-- No flag of a command is passed over. -/
theorem exists_given_of_commandOf {name : String} {words : List String} {command : Command}
    {settings : Draft} (h : commandOf name words = .ok (command, settings)) :
    ∃ given, argumentsOf (if name = "render" then renderSpec else schemaSpec) words = .ok given ∧
      settings = command.heeds (Flags.ofGiven given).draft ∧
      settings = (Flags.ofGiven given).draft := by
  unfold commandOf at h
  split at h
  · next hname =>
    obtain ⟨given, hgiven, h⟩ := bind_eq_ok.mp h
    split at h
    · cases h
    · cases h
      exact ⟨given, by rw [if_pos hname, hgiven], rfl, rfl⟩
  · next hname =>
    obtain ⟨given, hgiven, h⟩ := bind_eq_ok.mp h
    cases h
    exact ⟨given, by rw [if_neg hname, hgiven], rfl, (draftOf_schema hgiven).symm⟩

/-- **An invocation says what the flags among its arguments say** about settings: those that its command
takes notice of, and it has no others. -/
theorem Invocation.settings_eq {environment : List (String × String)} {words : List String}
    {invocation : Invocation} (h : Invocation.ofArguments environment words = .ok invocation) :
    ∃ given, givenOf words = .ok given ∧
      invocation.settings = invocation.command.heeds (Flags.ofGiven given).draft ∧
      invocation.settings = (Flags.ofGiven given).draft := by
  obtain ⟨parsed, hparsed, h⟩ := bind_eq_ok.mp h
  simp only at h
  split at h
  · next name rest hsub =>
    obtain ⟨found, hfound, h⟩ := bind_eq_ok.mp h
    obtain ⟨given, -, h⟩ := bind_eq_ok.mp h
    obtain ⟨given', -, h⟩ := bind_eq_ok.mp h
    cases hcommand : commandOf name rest with
    | error fault =>
      rw [hcommand] at hfound
      cases hfound
    | ok result =>
      rw [hcommand] at hfound
      cases hfound
      cases h
      obtain ⟨arguments, harguments, hsettings⟩ := exists_given_of_commandOf hcommand
      refine ⟨arguments, bind_eq_ok.mpr ⟨parsed, hparsed, ?_⟩, hsettings⟩
      rw [hsub]
      exact harguments
  · -- no command at all
    obtain ⟨found, hfound, h⟩ := bind_eq_ok.mp h
    cases hfound
    obtain ⟨given, -, h⟩ := bind_eq_ok.mp h
    obtain ⟨given', -, h⟩ := bind_eq_ok.mp h
    cases h

end ArticleMarkup.CommandLine
