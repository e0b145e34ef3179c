import SchemaChange.Analysis.Pass

/-! # Runs of an analysis

A pass enters its finding about each operation in turn and stops at the first failure; the passes run one after the
other over the same operations. A run keeps the events that were logged, whether it ended with a report or a failure.
-/
namespace SchemaChange

/-- The events of an analysis, and its report or the failure that ended it. -/
structure Run where
  events : List Event
  result : Except Failure Report

namespace Pass

/-- One operation of a pass: its finding, and the ledgers with the finding entered. -/
def step (pass : Pass) (inputs : Inputs) (ledgers : Ledgers) (op : EditOperation) :
    Except Failure (Finding × Ledgers) := do
  let finding ← pass.judge inputs ledgers op
  let after ← ledgers.enter op finding
  .ok (finding, after)

/-- The skips of a pass over some operations, and the ledgers after it or the failure that ended it. -/
def walk (pass : Pass) (inputs : Inputs) : Ledgers → List EditOperation →
    List Skip × Except Failure Ledgers
  | ledgers, [] => ([], .ok ledgers)
  | ledgers, op :: rest =>
    match pass.step inputs ledgers op with
    | .error failure => ([], .error failure)
    | .ok (finding, after) =>
      let (skips, result) := pass.walk inputs after rest
      ((finding.skip? op).toList ++ skips, result)

/-- The fault that a failure is logged as. -/
def fault? : Except Failure Ledgers → Option Fault
  | .ok _ => none
  | .error failure => some ⟨failure.message, Failure.type⟩

def run (pass : Pass) (inputs : Inputs) (ledgers : Ledgers) : List Event × Except Failure Ledgers :=
  let (skips, result) := pass.walk inputs ledgers inputs.operations
  (PassLog.events ⟨pass.title, true, skips, fault? result⟩, result)

/-- Passes one after the other, up to the first failure. -/
def runAll (inputs : Inputs) : Ledgers → List Pass → List Event × Except Failure Ledgers
  | ledgers, [] => ([], .ok ledgers)
  | ledgers, pass :: rest =>
    match pass.run inputs ledgers with
    | (events, .error failure) => (events, .error failure)
    | (events, .ok after) =>
      let (later, result) := runAll inputs after rest
      (events ++ later, result)

end Pass

def Inputs.analyze (inputs : Inputs) : Run :=
  match Pass.runAll inputs Ledgers.empty Pass.all with
  | (events, .error failure) => ⟨events, .error failure⟩
  | (events, .ok ledgers) =>
    ⟨events ++ [.analysisCompleted inputs.operations.length ledgers.sizes], .ok ledgers.toReport⟩

/-- An analyzer of two graphs, which can be used once. -/
structure Analyzer where
  oldGraph : SchemaGraph
  newGraph : SchemaGraph
  used : Bool

namespace Analyzer

def create (oldGraph newGraph : SchemaGraph) : Analyzer := ⟨oldGraph, newGraph, false⟩

/-- The run of an analyzer, and the analyzer afterwards. A failing run uses it up too. -/
def analyze (analyzer : Analyzer) (operations : List EditOperation) (matching : Matching) : Run × Analyzer :=
  let after := { analyzer with used := true }
  if analyzer.used then (⟨[], .error ⟨.alreadyUsed, none⟩⟩, after)
  else (Inputs.analyze ⟨analyzer.oldGraph, analyzer.newGraph, matching, operations⟩, after)

end Analyzer

end SchemaChange
