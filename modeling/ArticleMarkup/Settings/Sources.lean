import ArticleMarkup.Data.Json.Reader
import ArticleMarkup.Data.Toml.Reader
import ArticleMarkup.Settings.Reading
import ArticleMarkup.Settings.Resolved

/-!
# Sources of settings

Settings come from files and from the environment. Later sources are put over earlier ones: the
general file, the local file, a file named by the user, and the environment. What they hold together
is read as a draft, and the command line has the last word.

## Main definitions

- `findSource?` — the file that a name without an extension stands for
- `environmentValue` — what the environment says
- `draftOfSources` — the draft that all sources hold together
- `loadSettings` — from the sources and a draft on top of them to settings
-/

namespace ArticleMarkup

/-- The formats of settings files. -/
inductive FileFormat where
  /-- Tables in brackets. -/
  | toml
  /-- Objects in braces. -/
  | json
deriving DecidableEq, Repr

/-- The formats by the extension of a file's name. -/
def fileFormats : List (String × FileFormat) := [("toml", .toml), ("json", .json)]

/-- The value that a text stands for in a format. -/
def FileFormat.read? : FileFormat → String → Option Value
  | .toml, text => Toml.read? text
  | .json, text => Json.read? text

/-- The extension of a file's name: what follows the last dot, unless the name begins with it. -/
def extension? (path : String) : Option String :=
  let name := (path.splitOn "/").getLast?.getD ""
  match (name.splitOn ".").reverse with
  | ext :: stem :: more => if more.isEmpty && stem.isEmpty then none else some ext
  | _ => none

/-- A file that was found. -/
inductive Found where
  /-- A file in a known format. -/
  | file (format : FileFormat) (text : String)
  /-- A file in no known format. -/
  | unknownFormat
deriving Repr

/-- The first file that is there among a name with each of the extensions. -/
def withExtension? (files : String → Option String) (name : String) :
    List (String × FileFormat) → Option Found
  | [] => none
  | (ext, format) :: rest =>
    match files (name ++ "." ++ ext) with
    | some text => some (.file format text)
    | none => withExtension? files name rest

/-- **The file that a name stands for**: the file of exactly this name, else one with an extension
added. -/
def findSource? (files : String → Option String) (name : String) : Option Found :=
  match files name with
  | some text =>
    match (extension? name).bind (lookup? · fileFormats) with
    | some format => some (.file format text)
    | none => some .unknownFormat
  | none => withExtension? files name fileFormats

/-- The paths at which a file for a name is looked for. -/
def sourcePaths (name : String) : List String :=
  name :: fileFormats.map (fun f => name ++ "." ++ f.1)

/-- The file with settings for all users. -/
def generalSource : String := "config/default"

/-- The file with settings for this place. -/
def localSource : String := "inkpress"

/-- Why the sources hold no settings. -/
inductive SourceFault where
  /-- A file that was asked for is missing or in no known format. -/
  | noFile (name : String)
  /-- A file does not follow its format. -/
  | malformed (name : String)
  /-- A value is of the wrong kind. -/
  | wrongKind
deriving DecidableEq, Repr

/-- What is wrong with the sources. -/
def SourceFault.reason : SourceFault → String
  | .noFile name => s!"configuration file \"{name}\" not found"
  | .malformed name => s!"cannot read \"{name}\""
  | .wrongKind => "a value is of the wrong kind"

/-- A text without a mark of the byte order at its start. -/
def dropByteOrderMark (text : String) : String :=
  match text.toList with
  | '\ufeff' :: rest => String.ofList rest
  | _ => text

/-- What a file says. A file that need not be there says nothing when it is missing or in no known
format. -/
def fileValue (files : String → Option String) (required : Bool) (name : String) :
    Except SourceFault Value :=
  match findSource? files name with
  | some (.file format text) =>
    match format.read? (dropByteOrderMark text) with
    | some (.table es) => .ok (.table es)
    | _ => .error (.malformed name)
  | _ => if required then .error (.noFile name) else .ok (.table [])

/-- What the names of variables with settings begin with. -/
def variableStart : String := "inkpress__"

/-- **What the environment says**: a variable sets the entry at the path that its name spells, where
two underscores separate the parts. -/
def environmentValue (environment : List (String × String)) : Value :=
  .table (environment.filterMap fun (name, value) =>
    (Text.dropStart? variableStart.toList (Reading.smallLetters name).toList).map fun rest =>
      (Text.joinWith "." ((String.ofList rest).splitOn "__"), Value.text value))

/-- **The draft that all sources hold together.** -/
def draftOfSources (files : String → Option String) (environment : List (String × String))
    (named : Option String) : Except SourceFault Draft := do
  let general ← fileValue files false generalSource
  let loc ← fileValue files false localSource
  let own ← match named with
    | some name => fileValue files true name
    | none => pure (.table [])
  let all := [general, loc, own, environmentValue environment]
  match Draft.ofValue? .loose (all.foldl (fun v s => s.putSource v) (.table [])) with
  | some draft => return draft
  | none => throw .wrongKind

/-- Why there are no settings. -/
inductive LoadError where
  /-- The sources cannot be read. -/
  | source (fault : SourceFault)
  /-- A setting is bad. -/
  | invalid (fault : SettingsFault)
deriving DecidableEq, Repr

/-- What every message about the loading of settings begins with. -/
def LoadError.stem : String := "failed to load configuration: "

/-- The wording of a loading error. -/
def LoadError.message : LoadError → String
  | .source fault => stem ++ "failed to build configuration: " ++ fault.reason
  | .invalid fault => stem ++ fault.message

/-- **From the sources to settings**, with a draft on top of them. -/
def loadSettings (files : String → Option String) (environment : List (String × String))
    (named : Option String) (top : Draft) : Except LoadError Settings :=
  match draftOfSources files environment named with
  | .error fault => .error (.source fault)
  | .ok draft =>
    match (top.onTopOf draft).resolve with
    | .error fault => .error (.invalid fault)
    | .ok settings => .ok settings

end ArticleMarkup
