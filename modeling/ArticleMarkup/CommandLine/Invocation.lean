import ArticleMarkup.CommandLine.Arguments
import ArticleMarkup.Settings.Draft
import ArticleMarkup.Settings.Reading
import ArticleMarkup.Text.Numeral

/-!
# Invocations

What the program can be asked to do, and how it is asked.

## Main definitions

- `Invocation` — a command, with the settings file that is named
- `Invocation.ofArguments` — the invocation that a command line stands for
-/

namespace ArticleMarkup.CommandLine

/-- What is printed of a rendered article. -/
inductive OutputFormat where
  /-- The HTML. -/
  | html
  /-- The HTML and the headings. -/
  | json
  /-- The table of contents. -/
  | toc
deriving DecidableEq, Repr

/-- The format that a word names. -/
def OutputFormat.ofName? : String → Option OutputFormat
  | "html" => some .html
  | "json" => some .json
  | "toc" => some .toc
  | _ => none

/-- How an article is to be rendered. -/
structure RenderArguments where
  /-- Where the article is: a file, or a dash for standard input. -/
  input : String
  /-- What is printed. -/
  format : OutputFormat := .html
  /-- Nothing is removed from the article. -/
  unsanitized : Bool := false
  /-- The title of the table of contents. -/
  tocTitle : Option String := none
  /-- What reports call the article. -/
  label : Option String := none
deriving DecidableEq, Repr

/-- A command. -/
inductive Command where
  /-- Render an article. -/
  | render (arguments : RenderArguments)
  /-- Print the schema, on several lines or on one. -/
  | schema (pretty : Bool)
deriving DecidableEq, Repr

/-- **The flags that a command takes notice of**: for rendering all of them, and for the schema those
about logging. -/
def Command.heeds (command : Command) (flags : Draft) : Draft :=
  match command with
  | .render _ => flags
  | .schema _ => flags.loggingOnly

/-- **A command with its surroundings.** -/
structure Invocation where
  /-- A settings file that is named. -/
  settingsFile : Option String
  /-- What the command line says about settings. -/
  settings : Draft
  /-- The command. -/
  command : Command
deriving DecidableEq, Repr

/-! ## Values -/

/-- The words for true and false on a command line. -/
def boolOfWord? (word : String) : Option Bool :=
  let word := Reading.smallLetters word
  if ["y", "yes", "t", "true", "on", "1"].contains word then some true
  else if ["n", "no", "f", "false", "off", "0"].contains word then some false
  else none

/-- A number of eight bits. -/
def byteOfWord? (word : String) : Option Nat :=
  match Text.signed? word with
  | some n => if 0 ≤ n ∧ n < 256 then some n.toNat else none
  | none => none

/-- A number of sixty-four bits. -/
def natOfWord? (word : String) : Option Nat :=
  Text.unsigned? Reading.natLimit word

/-- A value has to be readable. -/
def needs {α : Type} (read : String → Option α) (word : String) : Option UsageFault :=
  if (read word).isSome then none else some .malformedValue

/-- A path must not be empty. -/
def needsPath (word : String) : Option UsageFault :=
  if word.isEmpty then some .invalidValue else none

/-- A value has to be listed. -/
def needsFormat (word : String) : Option UsageFault :=
  if (OutputFormat.ofName? word).isSome then none else some .invalidValue

/-! ## Commands -/

/-- The options about logging. -/
def loggingOptions : List ArgumentSpec :=
  [{ name := "log-level" }, { name := "log-json", check := needs boolOfWord? }]

/-- The options about settings for rendering. -/
def settingsOptions : List ArgumentSpec :=
  [{ name := "max-input-bytes", check := needs natOfWord? },
   { name := "max-nesting-depth", check := needs natOfWord? },
   { name := "max-elements", check := needs natOfWord? },
   { name := "toc-min-level", check := needs byteOfWord? },
   { name := "toc-max-level", check := needs byteOfWord? },
   { name := "no-heading-anchors", takesValue := false },
   { name := "anchor-class" }]

/-- The article to render. -/
def inputWord : ArgumentSpec := { name := "INPUT", check := needsPath }

/-- The settings file. -/
def settingsFileOption : ArgumentSpec := { name := "config-file", check := needsPath }

/-- The program itself. -/
def programSpec : CommandSpec where
  options := [settingsFileOption]
  subcommands := ["render", "schema", "help"]
  hasVersion := true

/-- The command that renders an article. -/
def renderSpec : CommandSpec where
  options := loggingOptions ++ settingsOptions ++
    [{ name := "format", check := needsFormat },
     { name := "no-sanitize", takesValue := false },
     { name := "toc-title" }, { name := "label" }]
  words := [inputWord]

/-- The command that prints the schema. -/
def schemaSpec : CommandSpec where
  options := loggingOptions ++ [{ name := "pretty", takesValue := false }]

/-- What the arguments say about settings. -/
def draftOf (given : Given) : Draft where
  level := given.value? "log-level"
  json := (given.value? "log-json").bind boolOfWord?
  maxInputBytes := (given.value? "max-input-bytes").bind natOfWord?
  maxNestingDepth := (given.value? "max-nesting-depth").bind natOfWord?
  maxElements := (given.value? "max-elements").bind natOfWord?
  tocMinLevel := (given.value? "toc-min-level").bind byteOfWord?
  tocMaxLevel := (given.value? "toc-max-level").bind byteOfWord?
  linksHeadings := if given.has "no-heading-anchors" then some false else none
  anchorClass := given.value? "anchor-class"

/-- Take all words of a command apart that has no subcommands. -/
def argumentsOf (spec : CommandSpec) (words : List String) : Except UsageFault Given := do
  let parsed ← spec.parse false spec.words [] none words
  settle parsed.given parsed.pending

/-- The command for its name and the words behind it, with what they say about settings. -/
def commandOf (name : String) (words : List String) : Except UsageFault (Command × Draft) := do
  if name = "render" then
    let given ← argumentsOf renderSpec words
    match given.value? inputWord.name with
    | none => throw .missingArgument
    | some input =>
      let command : Command := .render {
        input
        format := ((given.value? "format").bind OutputFormat.ofName?).getD .html
        unsanitized := given.has "no-sanitize"
        tocTitle := given.value? "toc-title"
        label := given.value? "label" }
      return (command, command.heeds (draftOf given))
  else
    let given ← argumentsOf schemaSpec words
    let command : Command := .schema (given.has "pretty")
    return (command, command.heeds (draftOf given))

/-- The variable that names a settings file. -/
def settingsFileVariable : String := "INKPRESS_CONFIG_FILE"

/-- The settings file that is named: on the command line, else in the environment. -/
def withSettingsFile (environment : List (String × String)) (given : Given) :
    Except UsageFault Given :=
  if given.has settingsFileOption.name then .ok given
  else
    match Given.value? environment settingsFileVariable with
    | none => .ok given
    | some path => accept given settingsFileOption path

/-- **The invocation that a command line stands for.** -/
def Invocation.ofArguments (environment : List (String × String)) (words : List String) :
    Except UsageFault Invocation := do
  let parsed ← programSpec.parse false [] [] none words
  let command ← match parsed.subcommand with
    | some (name, rest) => some <$> commandOf name rest
    | none => pure none
  let given ← settle parsed.given parsed.pending
  let given ← withSettingsFile environment given
  match command with
  | some (command, settings) =>
    return { settingsFile := given.value? settingsFileOption.name, settings, command }
  | none => throw (if given.isEmpty then .helpOnNothing else .missingSubcommand)

end ArticleMarkup.CommandLine
