import ArticleMarkup.Program

/-!
# The command line

The outer layer of the program: it gathers what a run can see, and shows what the run comes to.
-/

namespace ArticleMarkup.CommandLine

/-- The reason why a file could not be read. -/
def faultOf (e : IO.Error) : FileFault :=
  match e with
  | .noFileOrDirectory .. => .missing
  | .inappropriateType .. => .directory
  | e => .other (toString e)

/-- Read one file. -/
def readPath (path : String) : IO (Except FileFault String) := do
  try
    match String.fromUTF8? (← IO.FS.readBinFile path) with
    | some text => return .ok text
    | none => return .error .notText
  catch e => return .error (faultOf e)

/-- The variables that can hold a setting, and the one that names a settings file. -/
def variableNames : List String :=
  settingsFileVariable :: ["INKPRESS__LOGGING__LEVEL", "INKPRESS__LOGGING__JSON"] ++
    renderNames.map (fun name => "INKPRESS__RENDER__" ++ Text.upperAscii name)

/-- The files that a run may look at. -/
def neededPaths (environment : List (String × String)) (arguments : List String) : List String :=
  match Invocation.ofArguments environment arguments with
  | .error _ => []
  | .ok invocation =>
    let sources := [generalSource, localSource] ++ invocation.settingsFile.toList
    let article :=
      match invocation.command with
      | .render arguments => if arguments.input = "-" then [] else [arguments.input]
      | .schema _ => []
    sources.flatMap sourcePaths ++ article

/-- The run takes its article from standard input. -/
def needsInput (environment : List (String × String)) (arguments : List String) : Bool :=
  match Invocation.ofArguments environment arguments with
  | .ok { command := .render arguments, .. } => arguments.input == "-"
  | _ => false

/-- Gather what a run can see. -/
def gather (arguments : List String) : IO World := do
  let environment ← variableNames.filterMapM fun name => do
    return (← IO.getEnv name).map (name, ·)
  let files ← (neededPaths environment arguments).mapM fun path => do
    return (path, ← readPath path)
  let input ← if needsInput environment arguments then (← IO.getStdin).readToEnd else pure ""
  return { arguments, environment, input,
           file := fun path => (lookup? path files).getD (.error .missing) }

/-- Show what a run comes to, and give its status. -/
def present (outcome : Outcome) : IO UInt32 := do
  let out ← IO.getStdout
  out.putStr outcome.output
  out.flush
  match outcome.report, outcome.usage with
  | some message, _ => IO.eprintln s!"ERROR application error error={message}"
  | none, some fault => if outcome.status ≠ 0 then IO.eprintln s!"error: {repr fault}"
  | none, none => pure ()
  return outcome.status.toUInt32

end ArticleMarkup.CommandLine

open ArticleMarkup ArticleMarkup.CommandLine in
/-- Run the program. -/
def main (arguments : List String) : IO UInt32 := do
  present (runProgram (← gather arguments))
