import ArticleMarkup.Text.Ascii

/-!
# Arguments

The general rules by which the words of a command line are taken apart: options with and without a
value, words without a dash, and subcommands.

## Main definitions

- `UsageFault` — why a command line is not carried out
- `CommandSpec` — the words that a command understands
- `CommandSpec.parse` — take the words of a command apart

## Design notes

The value of an option is looked at only when the next word has been understood. So a word that is
not understood is reported before a bad value in front of it, and a request for help only after it.
-/

namespace ArticleMarkup.CommandLine

/-- **Why a command line is not carried out.** -/
inductive UsageFault where
  /-- Help is asked for. -/
  | help
  /-- Nothing is asked for, so help is shown. -/
  | helpOnNothing
  /-- The version is asked for. -/
  | version
  /-- There is no such subcommand. -/
  | invalidSubcommand
  /-- A subcommand is needed. -/
  | missingSubcommand
  /-- A word is not understood. -/
  | unknownArgument
  /-- An option has no value, or one that is not listed. -/
  | invalidValue
  /-- A value is malformed. -/
  | malformedValue
  /-- An option that takes no value has one. -/
  | superfluousValue
  /-- An option stands twice. -/
  | repeatedArgument
  /-- A word is missing. -/
  | missingArgument
deriving DecidableEq, Repr

/-- An option, or a word without a dash. -/
structure ArgumentSpec where
  /-- Its name. -/
  name : String
  /-- It takes a value. -/
  takesValue : Bool := true
  /-- What is wrong with a value. -/
  check : String → Option UsageFault := fun _ => none

/-- **The words that a command understands.** -/
structure CommandSpec where
  /-- The options. -/
  options : List ArgumentSpec
  /-- The words without a dash, in order. -/
  words : List ArgumentSpec := []
  /-- The subcommands. -/
  subcommands : List String := []
  /-- The version can be asked for. -/
  hasVersion : Bool := false

/-- The arguments that were given, each with its value. -/
abbrev Given := List (String × String)

/-- The value of an argument that was given. -/
def Given.value? (given : Given) (name : String) : Option String :=
  (given.find? (fun e => e.1 = name)).map (·.2)

/-- The argument was given. -/
def Given.has (given : Given) (name : String) : Bool :=
  (given.value? name).isSome

/-- An argument whose value is still to be looked at, if it has one already. -/
structure Pending where
  /-- The argument. -/
  spec : ArgumentSpec
  /-- Its value. -/
  value : Option String

/-- Take a value for an argument, unless the argument was given before or the value is bad. -/
def accept (given : Given) (spec : ArgumentSpec) (value : String) : Except UsageFault Given :=
  if given.has spec.name then .error .repeatedArgument
  else
    match spec.check value with
    | some fault => .error fault
    | none => .ok (given ++ [(spec.name, value)])

/-- Look at the value of the last argument. -/
def settle (given : Given) : Option Pending → Except UsageFault Given
  | none => .ok given
  | some ⟨_, none⟩ => .error .invalidValue
  | some ⟨spec, some value⟩ => accept given spec value

/-- What the words of a command come to. -/
structure Parsed where
  /-- The arguments that were given. -/
  given : Given
  /-- The last of them, still to be looked at. -/
  pending : Option Pending
  /-- The subcommand with the words behind it. -/
  subcommand : Option (String × List String)

/-- The name and the value of an option that is written with two dashes. -/
def splitLong (word : List Char) : String × Option String :=
  match word.dropWhile (· != '=') with
  | [] => (String.ofList word, none)
  | _ :: value => (String.ofList (word.takeWhile (· != '=')), some (String.ofList value))

/-- A word with two dashes in front, without them. -/
def longOption? (word : String) : Option (List Char) :=
  Text.dropStart? ['-', '-'] word.toList

/-- The letters of a word with one dash in front. -/
def shortOptions? (word : String) : Option (List Char) :=
  match word.toList with
  | '-' :: c :: cs => some (c :: cs)
  | _ => none

/-- A word with two dashes in front: the arguments after it, and the one that is pending. -/
def readLong (spec : CommandSpec) (given : Given) (pending : Option Pending) (word : List Char) :
    Except UsageFault (Given × Option Pending) := do
  let (name, value) := splitLong word
  let answer : Option UsageFault :=
    if name = "help" then some .help
    else if name = "version" ∧ spec.hasVersion then some .version
    else none
  match answer with
  | some fault =>
    if value.isSome then throw .superfluousValue
    let _ ← settle given pending
    throw fault
  | none =>
    match spec.options.find? (fun o => o.name = name), value with
    | none, _ => throw .unknownArgument
    | some o, none =>
      let given ← settle given pending
      if o.takesValue then return (given, some ⟨o, none⟩)
      return (← accept given o "", none)
    | some o, some value =>
      if !o.takesValue then throw .superfluousValue
      let given ← settle given pending
      return (← accept given o value, none)

/-- Letters behind a single dash: only help and the version can be asked for in this way. -/
def readShort (spec : CommandSpec) (given : Given) (pending : Option Pending)
    (letters : List Char) : UsageFault :=
  let answer : Option UsageFault :=
    match letters with
    | 'h' :: _ => some .help
    | 'V' :: _ => if spec.hasVersion then some .version else none
    | _ => none
  match answer with
  | none => .unknownArgument
  | some fault =>
    match settle given pending with
    | .ok _ => fault
    | .error earlier => earlier

/-- Help on subcommands: each word has to name a subcommand of the one before. -/
def helpOn (spec : CommandSpec) : List String → UsageFault
  | [] => .help
  | [word] => if spec.subcommands.contains word then .help else .invalidSubcommand
  | _ => .invalidSubcommand

/-- A word that stands where none is expected. -/
def unexpected (spec : CommandSpec) (literal : Bool) (word : String) : UsageFault :=
  if spec.subcommands.isEmpty then .unknownArgument
  else if literal && spec.subcommands.contains word then .unknownArgument
  else .invalidSubcommand

/-- The option that waits for its value, if one does. -/
def waiting? : Option Pending → Option ArgumentSpec
  | some ⟨spec, none⟩ => some spec
  | _ => none

/-- **Take the words of a command apart.** `literal` says that two dashes have been met, behind
which no word is an option; `expected` are the words without a dash that may still come. -/
def CommandSpec.parse (spec : CommandSpec) (literal : Bool) (expected : List ArgumentSpec)
    (given : Given) (pending : Option Pending) : List String → Except UsageFault Parsed
  | [] => .ok ⟨given, pending, none⟩
  | word :: rest =>
    let plain : Except UsageFault Parsed :=
      match expected with
      | [] => .error (unexpected spec literal word)
      | next :: expected =>
        match settle given pending with
        | .error fault => .error fault
        | .ok given => spec.parse literal expected given (some ⟨next, some word⟩) rest
    if literal then plain
    else if (waiting? pending).isNone && spec.subcommands.contains word then
      if word = "help" then .error (helpOn spec rest) else .ok ⟨given, pending, some (word, rest)⟩
    else
      match longOption? word, shortOptions? word, waiting? pending with
      | some [], _, _ => spec.parse true expected given pending rest
      | some option, _, _ =>
        match readLong spec given pending option with
        | .error fault => .error fault
        | .ok (given, pending) => spec.parse false expected given pending rest
      | none, some letters, _ => .error (readShort spec given pending letters)
      | none, none, some option => spec.parse false expected given (some ⟨option, some word⟩) rest
      | none, none, none => plain

end ArticleMarkup.CommandLine
