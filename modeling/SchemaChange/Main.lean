import SchemaChange.StandardHost

/-! # The program

Reads the arguments, the environment and the script's file, and hands them to the command.
-/
open SchemaChange

/-- The settings found in the environment, in the usual spellings of their names. -/
def environmentSettings : IO (List (String × String)) := do
  let fields := ["ENVIRONMENT", "LOG_LEVEL", "JSON_LOGS", "OUTPUT_FORMAT"]
  let names := fields.map ("SCHEMADIFF_" ++ ·) ++ fields.map fun field => lowerCase ("SCHEMADIFF_" ++ field)
  let values ← names.mapM fun name => do
    return (← IO.getEnv name).map fun value => (name, Text.ofPlain value)
  return values.filterMap id

/-- The text of a file; none if there is no file to read. -/
def openFile (path : String) : IO (Option (Except ReadFault String)) := do
  try
    let bytes ← IO.FS.readBinFile (Text.toPlain path)
    match String.fromUTF8? bytes with
    | some text => return some (.ok (Text.ofPlain text))
    | none => return some (.error ⟨.encoding, "the file is not encoded in UTF-8"⟩)
  catch _ => return none

def breakdownText : Breakdown → String
  | .settings problems =>
    "invalid settings: " ++ ", ".intercalate (problems.map fun problem => problem.kind.title)
  | .logLevel _ text => "unknown log level: " ++ text
  | .reading fault => fault.text
  | .markup (.closesNothing tag) => "closing tag [" ++ tag ++ "] closes nothing"
  | .markup (.badParameters parameters) => "parameters that are no value: " ++ parameters
  | .markup .noNumber => "a component of a colour that is no number"
  | .halfCharacter => "a text with half of a surrogate pair"
  | .nulInPath => "a path with a NUL"

def runAnalyze (args : List String) : IO UInt32 := do
  match Arguments.read args with
  | .error _ => return 2
  | .ok parsed =>
    let opened ← openFile parsed.script
    let host := Host.standard fun path => if path = parsed.script then opened else none
    let outcome := CommandLine.run host args (← environmentSettings)
    for line in outcome.log do
      IO.eprintln (Text.toPlain line)
    IO.print (Text.toPlain outcome.output)
    match outcome.breakdown with
    | some breakdown => IO.eprintln (Text.toPlain (breakdownText breakdown))
    | none => pure ()
    return UInt32.ofNat outcome.exit

def main (args : List String) : IO UInt32 :=
  match args with
  | "analyze" :: rest => runAnalyze (rest.map Text.ofPlain)
  | _ => do
    IO.eprintln "usage: analyze [OPTIONS] SCRIPT"
    return 2
