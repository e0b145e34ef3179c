import SchemaChange.Script.Resolve
import SchemaChange.Text.Blank

/-! # Loading of edit scripts

A file becomes the inputs of an analysis in steps: it is opened and decoded, its text is read as a value, the value has
to be a mapping that passes validation, and the document has to resolve. Each step has an error of its own. A fault of
the first two is an error of loading only if the system or the format of the text is to blame; others are passed on.
-/
namespace SchemaChange

/-- The kinds of faults in which opening, decoding and reading a file can end. -/
inductive ReadFaultKind where
  /-- The system does not give the bytes of the file. -/
  | system
  /-- The bytes are no text. -/
  | encoding
  /-- The text is not in the format. -/
  | format
  /-- A part of the text has the form of its type, and no value. -/
  | value
  | index | key | attribute | type | overflow | recursion
  deriving DecidableEq, Repr

structure ReadFault where
  kind : ReadFaultKind
  text : String
  deriving DecidableEq, Repr

def ReadFault.isLoadError (fault : ReadFault) : Bool := fault.kind = .system || fault.kind = .format

theorem ReadFault.isLoadError_iff {fault : ReadFault} :
    fault.isLoadError = true ↔ fault.kind = .system ∨ fault.kind = .format := by
  simp [isLoadError]

/-- Why a file gives no script. What is known of a failed validation is up to the validation. -/
inductive LoadError (ι : Type) where
  | unreadable (path text : String)
  | notMapping
  | invalid (error : ι)
  | unresolved (error : ResolveError)
  deriving DecidableEq, Repr

/-- The text of an error, given the one of a failed validation. -/
def LoadError.message {ι : Type} (textOf : ι → String) : LoadError ι → String
  | unreadable path text => "Failed to read edit script " ++ path ++ ": " ++ text
  | notMapping => "Edit script must be a mapping at the top level"
  | invalid error => "Invalid edit script: " ++ textOf error
  | unresolved error => error.message

/-- Why a file gives no inputs: an error of loading, or a fault of reading that is passed on. -/
inductive FileError (ι : Type) where
  | load (error : LoadError ι)
  | fault (fault : ReadFault)
  deriving DecidableEq, Repr

/-- A path without empty parts and dots; two slashes at its start are kept, more are one. -/
def pathText (path : String) : String :=
  let chars := path.toList
  let slashes := (chars.takeWhile (· = '/')).length
  let root := if slashes = 2 then "//" else if slashes = 0 then "" else "/"
  let parts := (Text.splitWith (· = '/') chars).filter fun part => !part.isEmpty && part ≠ ['.']
  let text := root ++ "/".intercalate (parts.map String.ofList)
  if text.isEmpty then "." else text

def Validator.document (validator : Validator) (entries : Entries) : Checked Document :=
  validator.check Document.shape (.map entries)

namespace Inputs

variable {ι : Type}

def ofDocument (document : Document) : Except (LoadError ι) Inputs :=
  document.resolve.mapError .unresolved

/-- The inputs that a value stands for, if it is a mapping that a validation makes a document of. -/
def parse (validate : Entries → Except ι Document) : Value → Except (LoadError ι) Inputs
  | .map entries =>
    match validate entries with
    | .ok document => ofDocument document
    | .error error => .error (.invalid error)
  | _ => .error .notMapping

def ofValue : Value → Except (LoadError (List Problem)) Inputs := parse Document.ofEntries

/-- The inputs in a file, given what opening and decoding it gave and how texts are read as values. -/
def load (readValue : String → Except ReadFault Value) (validate : Entries → Except ι Document) (path : String)
    (opened : Except ReadFault String) : Except (FileError ι) Inputs :=
  match opened >>= readValue with
  | .ok value => (parse validate value).mapError .load
  | .error fault =>
    .error (if fault.isLoadError then .load (.unreadable (pathText path) fault.text) else .fault fault)

end Inputs

end SchemaChange
