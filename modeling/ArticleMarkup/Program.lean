import ArticleMarkup.CommandLine.Invocation
import ArticleMarkup.Data.Json.Printer
import ArticleMarkup.Render.Renderer
import ArticleMarkup.Settings.Sources

/-!
# The program

What a run of the program comes to: what it prints, the status it ends with, and the error that it
reports.

## Main definitions

- `World` — what a run can see
- `Outcome` — what a run comes to
- `runProgram` — a whole run

## Design notes

A run looks at files only through a function, so it is a pure function of what the function answers.
-/

namespace ArticleMarkup

open CommandLine

/-- Why a file cannot be read. -/
inductive FileFault where
  /-- There is no such file. -/
  | missing
  /-- A part of the path is a file and no directory. -/
  | notDirectory
  /-- It is a directory. -/
  | directory
  /-- The name is too long. -/
  | nameTooLong
  /-- It holds bytes that are no text. -/
  | notText
  /-- Anything else. -/
  | other (reason : String)
deriving DecidableEq, Repr

/-- The wording of a fault with a file. -/
def FileFault.message : FileFault → String
  | .missing => "No such file or directory (os error 2)"
  | .notDirectory => "Not a directory (os error 20)"
  | .directory => "Is a directory (os error 21)"
  | .nameTooLong => "File name too long (os error 36)"
  | .notText => "stream did not contain valid UTF-8"
  | .other reason => reason

/-- **What a run can see.** -/
structure World where
  /-- The words of the command line. -/
  arguments : List String
  /-- The variables of the environment. -/
  environment : List (String × String)
  /-- The text of a file. -/
  file : String → Except FileFault String
  /-- All of standard input. -/
  input : String

/-- Why a run fails once its command line is understood. -/
inductive ProgramError where
  /-- There are no settings. -/
  | settings (error : LoadError)
  /-- There is no renderer. -/
  | renderer (error : ConfigError)
  /-- The article cannot be rendered. -/
  | render (error : RenderError)
  /-- The article cannot be read. -/
  | file (fault : FileFault)
deriving DecidableEq, Repr

/-- The wording of an error. -/
def ProgramError.message : ProgramError → String
  | .settings e => e.message
  | .renderer e => e.message
  | .render e => e.message
  | .file fault => "io error: " ++ fault.message

/-- The status that a run ends with: 2 for wrong settings, 1 for any other error. -/
def ProgramError.status : ProgramError → Nat
  | .settings _ => 2
  | .renderer _ => 2
  | .render _ => 1
  | .file _ => 1

/-- **What a run comes to.** -/
structure Outcome where
  /-- The status that the run ends with. -/
  status : Nat
  /-- What is printed. -/
  output : String := ""
  /-- The error that is reported. -/
  report : Option String := none
  /-- Why the command line is not carried out. -/
  usage : Option UsageFault := none
deriving DecidableEq, Repr

/-! ## Reports as data -/

/-- The headings of a rendered article as data. -/
def HeadingRecord.toValue (r : HeadingRecord) : Value :=
  .table [("id", .text r.id), ("text", .text r.text), ("level", .integer r.level)]

/-- A rendered article as data. -/
def Rendering.toValue (r : Rendering) : Value :=
  .table [("html", .text r.html), ("headings", .list (r.headings.map HeadingRecord.toValue))]

/-- A pattern as data. -/
def Pattern.toValue : Pattern → Value
  | .any => .table [("kind", .text "any")]
  | .oneOf values => .table [("kind", .text "one_of"), ("values", .list (values.map .text))]
  | .startingWith starts =>
    .table [("kind", .text "prefix"), ("prefixes", .list (starts.map .text))]
  | .url schemes => .table [("kind", .text "url"), ("schemes", .list (schemes.map .text))]

/-- The rule for a tag as data. -/
def TagRule.toValue (rule : TagRule) : Value :=
  let attributes := rule.attributes.map fun (name, p) => (name, .table [("pattern", p.toValue)])
  let required := rule.required.map fun (name, value) => (name, .text value)
  .table (("attributes", .table attributes) ::
    if required.isEmpty then [] else [("required", .table required)])

/-- A schema as data. -/
def Schema.toValue (schema : Schema) : Value :=
  .table [("tags", .table (schema.tags.map fun (name, rule) => (name, rule.toValue)))]

/-! ## Runs -/

/-- The version of the program. -/
def versionText : String := "inkpress 0.1.0\n"

/-- What is printed when help is asked for. -/
def helpText : String :=
  "Render Markdown into sanitised HTML with heading anchors\n\n" ++
    "Usage: inkpress [OPTIONS] <COMMAND>\n\n" ++
    "Commands:\n" ++
    "  render  Render a Markdown file (or \x60-\x60 for stdin) and print the result\n" ++
    "  schema  Print the effective sanitization schema as JSON\n" ++
    "  help    Print this message or the help of the given subcommand(s)\n"

/-- A text that ends its last line. -/
def withNewline (text : String) : String :=
  if text.toList.getLast? = some '\n' then text else text ++ "\n"

/-- The article that is asked for. -/
def readArticle (world : World) (input : String) : Except ProgramError String :=
  if input = "-" then .ok world.input else (world.file input).mapError .file

/-- What is printed for a command. -/
def printed (world : World) (r : Renderer) : Command → Except ProgramError String
  | .schema pretty =>
    let v := r.schema.toValue
    .ok (if pretty then Json.pretty 0 v else Json.compact v)
  | .render arguments => do
    let markdown ← readArticle world arguments.input
    let request : RenderRequest := { markdown, label := arguments.label }
    if arguments.unsanitized then
      return (← (r.renderUnsanitized request).mapError .render).1
    let (rendering, _) ← (r.render request).mapError .render
    match arguments.format with
    | .html => return rendering.html
    | .json => return Json.pretty 0 rendering.toValue
    | .toc =>
      return contentsHtml (arguments.tocTitle.getD standardContentsTitle) rendering.headings

/-- A failed run. Once the settings are known, errors are reported only if anything is logged. -/
def failed (level : LogLevel) (e : ProgramError) : Outcome :=
  { status := e.status, report := if level = .off then none else some e.message }

/-- A run with a command line that is not carried out. -/
def refused (fault : UsageFault) : Outcome :=
  match fault with
  | .help => { status := 0, output := helpText, usage := some fault }
  | .version => { status := 0, output := versionText, usage := some fault }
  | _ => { status := 2, usage := some fault }

/-- **A whole run.** -/
def runProgram (world : World) : Outcome :=
  match Invocation.ofArguments world.environment world.arguments with
  | .error fault => refused fault
  | .ok invocation =>
    let files (path : String) : Option String := (world.file path).toOption
    match loadSettings files world.environment invocation.settingsFile invocation.settings with
    | .error e => failed .error (.settings e)
    | .ok settings =>
      match Renderer.ofConfig settings.render with
      | .error e => failed settings.level (.renderer e)
      | .ok r =>
        match printed world r invocation.command with
        | .error e => failed settings.level e
        | .ok text => { status := 0, output := withNewline text }

end ArticleMarkup
