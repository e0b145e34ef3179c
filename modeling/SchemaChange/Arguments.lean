import SchemaChange.Settings

/-! # Arguments

The arguments are options with values, flags and positions, in any order. Two dashes end the options. Of a repeated
option the last value counts, and the script has to be the only position.
-/
namespace SchemaChange

inductive UsageError where
  | unknownOption (name : String)
  | missingValue (name : String)
  | unexpectedValue (name : String)
  | badChoice (name value : String)
  | missingScript
  | extraArgument (value : String)
  | noSuchFile (path : String)
  deriving DecidableEq, Repr

inductive ValueOption where
  | format | logLevel
  deriving DecidableEq, Repr

def ValueOption.title : ValueOption → String
  | format => "--format"
  | logLevel => "--log-level"

inductive Flag where
  | forceColors | verbose
  deriving DecidableEq, Repr

def Flag.title : Flag → String
  | forceColors => "--force-colors"
  | verbose => "--verbose"

/-- What one argument says by itself. -/
inductive Word where
  | endOfOptions
  | flag (flag : Flag)
  | option (option : ValueOption)
  | optionValue (option : ValueOption) (value : String)
  | position (text : String)
  | refused (error : UsageError)
  deriving DecidableEq, Repr

namespace Word

def splitValue (arg : String) : String × Option String :=
  let name := arg.toList.takeWhile (· ≠ '=')
  match arg.toList.drop name.length with
  | _ :: value => (String.ofList name, some (String.ofList value))
  | [] => (arg, none)

def isOption (arg : String) : Bool :=
  match arg.toList with
  | '-' :: _ :: _ => true
  | _ => false

/-- Whether an argument is a group of the short flag `-v`. -/
def isShortVerbose (arg : String) : Bool :=
  match arg.toList with
  | '-' :: 'v' :: flags => flags.all (· = 'v')
  | _ => false

def ofOption (arg : String) : Word :=
  let (name, value) := splitValue arg
  match [ValueOption.format, .logLevel].find? (·.title = name), [Flag.forceColors, .verbose].find? (·.title = name),
    value with
  | some opt, _, some value => optionValue opt value
  | some opt, _, none => option opt
  | none, some _, some _ => refused (.unexpectedValue name)
  | none, some f, none => flag f
  | none, none, _ => if isShortVerbose arg then flag .verbose else refused (.unknownOption arg)

def ofArgument (arg : String) : Word :=
  if arg = "--" then endOfOptions
  else if isOption arg then ofOption arg
  else position arg

end Word

/-- The arguments sorted into options and positions. Of a repeated option the last value is kept. -/
structure RawArguments where
  format : Option String
  logLevel : Option String
  forceColors : Bool
  verbose : Bool
  positions : List String
  deriving DecidableEq, Repr

namespace RawArguments

def empty : RawArguments := ⟨none, none, false, false, []⟩

def setOption (raw : RawArguments) (value : String) : ValueOption → RawArguments
  | .format => { raw with format := some value }
  | .logLevel => { raw with logLevel := some value }

def setFlag (raw : RawArguments) : Flag → RawArguments
  | .forceColors => { raw with forceColors := true }
  | .verbose => { raw with verbose := true }

def addPositions (raw : RawArguments) (texts : List String) : RawArguments :=
  { raw with positions := raw.positions ++ texts }

/-- Reads the arguments from the left; an option without a value in its own argument takes the whole next one. -/
def read (raw : RawArguments) (waiting : Option ValueOption) : List String → Except UsageError RawArguments
  | [] =>
    match waiting with
    | some opt => .error (.missingValue opt.title)
    | none => .ok raw
  | arg :: rest =>
    match waiting with
    | some opt => read (raw.setOption arg opt) none rest
    | none =>
      match Word.ofArgument arg with
      | .endOfOptions => .ok (raw.addPositions rest)
      | .flag f => read (raw.setFlag f) none rest
      | .option opt => read raw (some opt) rest
      | .optionValue opt value => read (raw.setOption value opt) none rest
      | .position text => read (raw.addPositions [text]) none rest
      | .refused error => .error error

end RawArguments

/-- The arguments of the command: the path of the script, further positions, and the options. -/
structure Arguments where
  script : String
  others : List String
  format : Option OutputFormat
  logLevel : Option String
  forceColors : Bool
  verbose : Bool
  deriving DecidableEq, Repr

namespace Arguments

/-- One of some choices, compared in folded form. -/
def choice {α : Type} (name : String) (ofTitle? : String → Option α) :
    Option String → Except UsageError (Option α)
  | none => .ok none
  | some text =>
    match ofTitle? (Text.folded text) with
    | some a => .ok (some a)
    | none => .error (.badChoice name text)

def logLevel? (text : String) : Option String :=
  ["DEBUG", "INFO", "WARNING", "ERROR"].find? (Text.folded · = text)

def read (args : List String) : Except UsageError Arguments := do
  let raw ← RawArguments.empty.read none args
  let format ← choice "--format" OutputFormat.ofTitle? raw.format
  let logLevel ← choice "--log-level" logLevel? raw.logLevel
  match raw.positions with
  | [] => .error .missingScript
  | script :: others => .ok ⟨script, others, format, logLevel, raw.forceColors, raw.verbose⟩

/-- What the file of the script holds. The script has to be the only position. -/
def content {α : Type} (args : Arguments) (file? : String → Option α) : Except UsageError α :=
  match args.others, file? args.script with
  | extra :: _, _ => .error (.extraArgument extra)
  | [], none => .error (.noSuchFile args.script)
  | [], some content => .ok content

end Arguments

end SchemaChange
