import SchemaChange.Proofs.Admission
import SchemaChange.Proofs.Command.Arguments
import SchemaChange.Proofs.Command.Output
import SchemaChange.Proofs.Console.Unstyled
import SchemaChange.Proofs.Resolution
import SchemaChange.StandardHost

/-! # How the command ends

On any host a call without flags ends with the report, with the line of a load error, with the line of a failure, or
with nothing but a fault of reading that loading passes on. The exit code tells which, nothing else is printed, and the
log level changes neither; it says which events are logged.
-/
namespace SchemaChange

open Console

theorem OutputFormat.ofTitle?_eq_some_iff {text : String} {format : OutputFormat} :
    ofTitle? text = some format ↔ text = format.title := by
  have hTitles : OutputFormat.json.title ≠ OutputFormat.table.title := by decide
  rw [ofTitle?, List.find?_cons, List.find?_singleton]
  by_cases hTable : OutputFormat.table.title = text
  · subst hTable
    cases format <;> simp [hTitles.symm]
  · by_cases hJson : OutputFormat.json.title = text
    · subst hJson
      cases format <;> simp [hTitles, hTable]
    · cases format <;> simp [hTable, hJson, Ne.symm hTable, Ne.symm hJson]

namespace Settings

variable {env : List (String × String)} {settings : Settings}

theorem checkField_eq_ok_iff {α : Type} {field : String} {default a : α} {problem : ProblemKind}
    {read? : String → Option α} : checkField env field default problem read? = .ok a ↔
      (valueOf? env field = none ∧ a = default) ∨ ∃ text, valueOf? env field = some text ∧ read? text = some a := by
  rw [checkField]
  cases valueOf? env field with
  | none => simp [eq_comm]
  | some text => cases hRead : read? text <;> simp [hRead, Checked.fail]

theorem outputFormat_eq_json_iff (h : ofEnvironment env = .ok settings) :
    settings.outputFormat = .json ↔ valueOf? env "output_format" = some "json" := by
  have hField : checkField env "output_format" .table .notChoice OutputFormat.ofTitle? = .ok settings.outputFormat := by
    obtain ⟨fields, hFields, rfl⟩ := map_eq_ok_iff.mp h
    simp only [Checked.both_eq_ok_iff] at hFields
    exact hFields.2.2.2
  obtain ⟨hNone, hDefault⟩ | ⟨text, hText, hFormat⟩ := checkField_eq_ok_iff.mp hField
  · simp [hNone, hDefault]
  · rw [OutputFormat.ofTitle?_eq_some_iff] at hFormat
    have hTitles : OutputFormat.table.title ≠ "json" ∧ OutputFormat.json.title = "json" := by decide
    rw [hText, hFormat]
    cases settings.outputFormat <;> simp [hTitles]

end Settings

/-- What is assumed of a host. -/
structure Host.Documented {ι : Type} (host : Host ι) : Prop where
  outputFormat {env : List (String × String)} {settings : Settings} (h : host.settings env = .ok settings) :
    settings.outputFormat = .json ↔ Settings.valueOf? env "output_format" = some "json"
  display (env : List (String × String)) : (host.display env).Documented

theorem Host.documented_standard (file? : String → Option (Except ReadFault String)) : (standard file?).Documented where
  outputFormat := Settings.outputFormat_eq_json_iff
  display _ := Display.documented_unstyled

/-- A call of the command without flags: options with known values, and an environment that is accepted and has a known
log level. -/
structure Call {ι : Type} (host : Host ι) where
  args : List String
  env : List (String × String)
  values : List (ValueOption × String)
  script : String
  settings : Settings
  spells : Spells values [script] args
  settings_eq : host.settings env = .ok settings
  level_known : ∃ rank, LogName.ofText settings.logLevel = .level rank
  format_known : ∀ text, lastValue values .format = some text → Text.folded text ∈ ["table", "json"]
  logLevel_known : ∀ text, lastValue values .logLevel = some text →
    Text.folded text ∈ ["debug", "info", "warning", "error"]

namespace Call

variable {ι : Type} {host : Host ι} (call : Call host)

/-- The last format says JSON, ignoring case, or without one the environment does. -/
def WantsJson : Prop :=
  match lastValue call.values .format with
  | some text => Text.folded text = "json"
  | none => Settings.valueOf? call.env "output_format" = some "json"

/-- The last log level, or without one that of the environment, has a rank. -/
def LogsFrom (rank : Nat) : Prop :=
  match lastValue call.values .logLevel with
  | some text => ∃ name, Arguments.logLevel? (Text.folded text) = some name ∧ LogName.ofText name = .level rank
  | none => LogName.ofText call.settings.logLevel = .level rank

def display : Display := host.display call.env

def loaded (opened : Except ReadFault String) : Except (FileError ι) Inputs :=
  Inputs.load host.readValue host.validate call.script opened

/-- The lines of a log that starts at some rank. -/
def logLines (rank : Nat) (opened : Except ReadFault String) : List String :=
  Log.lines ⟨rank, call.settings.logRenderer, [("script", .text call.script)]⟩ host.renderLog
    (CommandLine.events host call.script (call.loaded opened))

theorem exists_format (hHost : host.Documented) : ∃ format,
    Arguments.choice "--format" OutputFormat.ofTitle? (lastValue call.values .format) = .ok format ∧
      (format.getD call.settings.outputFormat = .json ↔ call.WantsJson) := by
  rw [WantsJson]
  cases hLast : lastValue call.values .format with
  | none => exact ⟨none, rfl, hHost.outputFormat call.settings_eq⟩
  | some text =>
    obtain ⟨format, hTitle⟩ : ∃ format : OutputFormat, Text.folded text = format.title := by
      have hKnown := call.format_known text hLast
      simp only [List.mem_cons, List.not_mem_nil, or_false] at hKnown
      exact hKnown.elim (⟨.table, ·⟩) (⟨.json, ·⟩)
    refine ⟨some format, ?_, ?_⟩
    · rw [Arguments.choice, OutputFormat.ofTitle?_eq_some_iff.mpr hTitle]
    · have hTitles : OutputFormat.table.title ≠ "json" ∧ OutputFormat.json.title = "json" := by decide
      change _ ↔ Text.folded text = "json"
      rw [hTitle]
      cases format <;> simp [hTitles]

theorem exists_logLevel : ∃ logLevel rank,
    Arguments.choice "--log-level" Arguments.logLevel? (lastValue call.values .logLevel) = .ok logLevel ∧
      LogName.ofText (logLevel.getD call.settings.logLevel) = .level rank ∧ call.LogsFrom rank := by
  simp only [LogsFrom]
  cases hLast : lastValue call.values .logLevel with
  | none =>
    obtain ⟨rank, hRank⟩ := call.level_known
    exact ⟨none, rank, rfl, hRank, hRank⟩
  | some text =>
    have hAll : ∀ folded ∈ ["debug", "info", "warning", "error"], ∃ level ∈ logLevels,
        Arguments.logLevel? folded = some level.1 ∧ LogName.ofText level.1 = .level level.2 := by decide +kernel
    obtain ⟨level, -, hName, hLevel⟩ := hAll _ (call.logLevel_known text hLast)
    refine ⟨some level.1, level.2, ?_, hLevel, level.1, hName, hLevel⟩
    rw [Arguments.choice, hName]

theorem exists_read (hHost : host.Documented) : ∃ format logLevel rank,
    Arguments.read call.args = .ok ⟨call.script, [], format, logLevel, false, false⟩ ∧
      (format.getD call.settings.outputFormat = .json ↔ call.WantsJson) ∧
      LogName.ofText (logLevel.getD call.settings.logLevel) = .level rank ∧ call.LogsFrom rank := by
  obtain ⟨format, hFormat, hJson⟩ := call.exists_format hHost
  obtain ⟨logLevel, rank, hLogLevel, hLevel⟩ := call.exists_logLevel
  refine ⟨format, logLevel, rank, ?_, hJson, hLevel⟩
  have hRaw := RawArguments.read_eq_ok_iff.mpr ⟨call.values, call.spells, rfl, rfl⟩
  simp only [Arguments.read, hRaw, bind, Except.bind, hFormat, hLogLevel]

end Call

section

variable {ι : Type} (invalidText : ι → String) (display : Display) (script : String)
  (loaded : Except (FileError ι) Inputs) (wantsJson : Prop)

/-- How the command ends with what was loaded: its exit code, its output, and what stopped it, if anything did. -/
inductive Ending : Nat → String → Option Breakdown → Prop
  | json {inputs : Inputs} {report : Report} : loaded = .ok inputs → inputs.analyze.result = .ok report → wantsJson →
    Ending 0 (report.toJson.render ++ "\n") none
  | table {inputs : Inputs} {report : Report} : loaded = .ok inputs → inputs.analyze.result = .ok report →
    ¬ wantsJson → display.isTerminal = false → Ending 0 (CommandLine.plainText display report script) none
  | boxed {inputs : Inputs} {report : Report} {output : String} : loaded = .ok inputs →
    inputs.analyze.result = .ok report → ¬ wantsJson → display.isTerminal = true →
    CommandLine.boxedOutput display report script = ⟨output, none⟩ → Ending 0 output none
  | loadError {e : LoadError ι} {output : String} : loaded = .error (.load e) →
    CommandLine.ErrorLine display CommandLine.loadErrorWords (e.message invalidText) output → Ending 2 output none
  | failure {inputs : Inputs} {failure : Failure} {output : String} : loaded = .ok inputs →
    inputs.analyze.result = .error failure →
    CommandLine.ErrorLine display CommandLine.failureWords failure.message output → Ending 3 output none
  | fault {fault : ReadFault} : loaded = .error (.fault fault) → Ending 1 "" (some (.reading fault))

/-- Outside of JSON nothing stops the printing. -/
structure Writable : Prop where
  table {inputs : Inputs} {report : Report} (hInputs : loaded = .ok inputs) (hReport : inputs.analyze.result = .ok report)
    (hTable : ¬ wantsJson) (hPlain : display.isTerminal = false) :
    Text.hasHalf (CommandLine.plainText display report script).toList = false
  boxed {inputs : Inputs} {report : Report} (hInputs : loaded = .ok inputs) (hReport : inputs.analyze.result = .ok report)
    (hTable : ¬ wantsJson) (hTerminal : display.isTerminal = true) :
    (CommandLine.boxedOutput display report script).stop = none
  line {exit : Nat} {output : String} (h : Ending invalidText display script loaded wantsJson exit output none)
    (hExit : exit ≠ 0) : Text.hasHalf output.toList = false

end

namespace Ending

variable {ι : Type} {invalidText : ι → String} {display : Display} {script output : String}
  {loaded : Except (FileError ι) Inputs} {wantsJson : Prop} {exit : Nat} {stop : Option Breakdown}

theorem result_unique {inputs inputs' : Inputs} {result result' : Except Failure Report} (hInputs : loaded = .ok inputs)
    (hResult : inputs.analyze.result = result) (hInputs' : loaded = .ok inputs')
    (hResult' : inputs'.analyze.result = result') : result = result' := by
  cases hInputs.symm.trans hInputs'
  exact hResult.symm.trans hResult'

/-- What was loaded, the format and the display say how the command ends. -/
theorem unique {exit' : Nat} {output' : String} {stop' : Option Breakdown}
    (h : Ending invalidText display script loaded wantsJson exit output stop)
    (h' : Ending invalidText display script loaded wantsJson exit' output' stop') :
    exit' = exit ∧ output' = output ∧ stop' = stop := by
  cases h with
  | json hInputs hReport hJson =>
    cases h' with
    | json hInputs' hReport' =>
      cases result_unique hInputs hReport hInputs' hReport'
      exact ⟨rfl, rfl, rfl⟩
    | table _ _ hTable | boxed _ _ hTable => exact absurd hJson hTable
    | loadError hLoad | fault hLoad => cases hInputs.symm.trans hLoad
    | failure hInputs' hFailure => cases result_unique hInputs hReport hInputs' hFailure
  | table hInputs hReport hTable hPlain =>
    cases h' with
    | json _ _ hJson => exact absurd hJson hTable
    | table hInputs' hReport' =>
      cases result_unique hInputs hReport hInputs' hReport'
      exact ⟨rfl, rfl, rfl⟩
    | boxed _ _ _ hTerminal => cases hPlain.symm.trans hTerminal
    | loadError hLoad | fault hLoad => cases hInputs.symm.trans hLoad
    | failure hInputs' hFailure => cases result_unique hInputs hReport hInputs' hFailure
  | boxed hInputs hReport hTable hTerminal hOutput =>
    cases h' with
    | json _ _ hJson => exact absurd hJson hTable
    | table _ _ _ hPlain => cases hPlain.symm.trans hTerminal
    | boxed hInputs' hReport' _ _ hOutput' =>
      cases result_unique hInputs hReport hInputs' hReport'
      cases hOutput.symm.trans hOutput'
      exact ⟨rfl, rfl, rfl⟩
    | loadError hLoad | fault hLoad => cases hInputs.symm.trans hLoad
    | failure hInputs' hFailure => cases result_unique hInputs hReport hInputs' hFailure
  | loadError hLoad hLine =>
    cases h' with
    | json hOther | table hOther | boxed hOther | failure hOther | fault hOther => cases hLoad.symm.trans hOther
    | loadError hLoad' hLine' =>
      cases hLoad.symm.trans hLoad'
      exact ⟨rfl, hLine.unique hLine', rfl⟩
  | failure hInputs hFailure hLine =>
    cases h' with
    | json hInputs' hReport | table hInputs' hReport | boxed hInputs' hReport =>
      cases result_unique hInputs hFailure hInputs' hReport
    | loadError hLoad | fault hLoad => cases hInputs.symm.trans hLoad
    | failure hInputs' hFailure' hLine' =>
      cases result_unique hInputs hFailure hInputs' hFailure'
      exact ⟨rfl, hLine.unique hLine', rfl⟩
  | fault hLoad =>
    cases h' with
    | json hOther | table hOther | boxed hOther | failure hOther | loadError hOther => cases hLoad.symm.trans hOther
    | fault hLoad' =>
      cases hLoad.symm.trans hLoad'
      exact ⟨rfl, rfl, rfl⟩

theorem exit_eq_zero_iff (h : Ending invalidText display script loaded wantsJson exit output stop) : exit = 0 ↔
    ∃ inputs report, loaded = .ok inputs ∧ inputs.analyze.result = .ok report := by
  cases h with
  | json hInputs hReport | table hInputs hReport | boxed hInputs hReport =>
    exact ⟨fun _ => ⟨_, _, hInputs, hReport⟩, fun _ => rfl⟩
  | loadError hLoad | fault hLoad => simp [hLoad]
  | failure hInputs hFailure => simp [hInputs, hFailure]

theorem exit_eq_two_iff (h : Ending invalidText display script loaded wantsJson exit output stop) : exit = 2 ↔
    ∃ e, loaded = .error (.load e) := by
  cases h with
  | json hInputs | table hInputs | boxed hInputs | failure hInputs => simp [hInputs]
  | loadError hLoad | fault hLoad => simp [hLoad]

theorem exit_eq_three_iff (h : Ending invalidText display script loaded wantsJson exit output stop) : exit = 3 ↔
    ∃ inputs failure, loaded = .ok inputs ∧ inputs.analyze.result = .error failure := by
  cases h with
  | json hInputs hReport | table hInputs hReport | boxed hInputs hReport => simp [hInputs, hReport]
  | loadError hLoad | fault hLoad => simp [hLoad]
  | failure hInputs hFailure => simp [hInputs, hFailure]

end Ending

namespace CommandLine

variable {ι : Type} {host : Host ι} {opened : Except ReadFault String}

theorem ofPrinting_ofText {output : String} (h : Text.hasHalf output.toList = false) (exit : Nat) (log : List String) :
    Outcome.ofPrinting exit log (.ofText output) = ⟨exit, output, log, none⟩ := by
  rw [Printing.ofText_of_not_hasHalf h]
  rfl

theorem failureOutput_none (display : Display) (message : String) :
    failureOutput display none message = errorLine display failureWords message := Printing.andThen_nothing _

theorem reportOutput_of_json {display : Display} (hDisplay : display.Documented) {args : Arguments} {settings : Settings}
    (h : args.format.getD settings.outputFormat = .json) (report : Report) :
    reportOutput display args settings report = ⟨report.toJson.render ++ "\n", none⟩ := by
  simp only [reportOutput, h]
  exact jsonOutput_eq hDisplay.toStripsLines report

theorem reportOutput_of_table {display : Display} {args : Arguments} {settings : Settings}
    (hColors : args.forceColors = false) (h : args.format.getD settings.outputFormat = .table) (report : Report) :
    reportOutput display args settings report =
      if display.isTerminal then boxedOutput display report args.script
      else plainOutput display report args.script := by
  simp only [reportOutput, h, tableOutput, hColors, Bool.false_or]

theorem analyzeFile_ends {display : Display} (hDisplay : display.Documented) (args : Arguments) (settings : Settings)
    (log : Log) {wantsJson : Prop} (hColors : args.forceColors = false) (hVerbose : args.verbose = false)
    (hJson : args.format.getD settings.outputFormat = .json ↔ wantsJson)
    {loaded : Except (FileError ι) Inputs} (hLoaded : Inputs.load host.readValue host.validate args.script opened = loaded)
    (hWritable : Writable host.invalidText display args.script loaded wantsJson) :
    ∃ exit output stop, Ending host.invalidText display args.script loaded wantsJson exit output stop ∧
      analyzeFile host display args settings log opened =
        ⟨exit, output, log.lines host.renderLog (events host args.script loaded), stop⟩ := by
  simp only [analyzeFile, hLoaded]
  cases loaded with
  | error error =>
    cases error with
    | fault fault => exact ⟨1, "", _, .fault rfl, rfl⟩
    | load e =>
      obtain ⟨output, hLine⟩ := exists_errorLine hDisplay List.mem_cons_self (e.message host.invalidText)
      have hEnding : Ending host.invalidText display args.script _ wantsJson 2 output none := .loadError rfl hLine
      refine ⟨2, output, none, hEnding, ?_⟩
      simp only [hLine.errorLine_eq]
      exact ofPrinting_ofText (hWritable.line hEnding nofun) 2 _
  | ok inputs =>
    cases hResult : inputs.analyze.result with
    | error failure =>
      obtain ⟨output, hLine⟩ := exists_errorLine hDisplay (.tail _ List.mem_cons_self) failure.message
      have hEnding : Ending host.invalidText display args.script (.ok inputs) wantsJson 3 output none :=
        .failure rfl hResult hLine
      refine ⟨3, output, none, hEnding, ?_⟩
      simp only [hResult, hVerbose]
      rw [if_neg Bool.false_ne_true, failureOutput_none, hLine.errorLine_eq]
      exact ofPrinting_ofText (hWritable.line hEnding nofun) 3 _
    | ok report =>
      cases hFormat : args.format.getD settings.outputFormat with
      | json =>
        refine ⟨0, _, none, .json rfl hResult (hJson.mp hFormat), ?_⟩
        simp only [hResult, reportOutput_of_json hDisplay hFormat]
        rfl
      | table =>
        have hTable : ¬ wantsJson := fun hWants => by
          rw [hJson.mpr hWants] at hFormat
          cases hFormat
        simp only [hResult, reportOutput_of_table hColors hFormat]
        cases hTerminal : display.isTerminal with
        | true =>
          have hStop := hWritable.boxed rfl hResult hTable hTerminal
          refine ⟨0, (boxedOutput display report args.script).text, none, .boxed rfl hResult hTable hTerminal ?_, ?_⟩
          · rw [← hStop]
          · rw [if_pos rfl, Outcome.ofPrinting, hStop]
        | false =>
          refine ⟨0, _, none, .table rfl hResult hTable hTerminal, ?_⟩
          rw [if_neg Bool.false_ne_true, plainOutput_of_not_hasHalf (hWritable.table rfl hResult hTable hTerminal)]
          rfl

theorem run_ends (hHost : host.Documented) (call : Call host) (hPath : pathFault? call.script = none)
    (hFile : host.file? call.script = some opened)
    (hWritable : Writable host.invalidText call.display call.script (call.loaded opened) call.WantsJson) :
    ∃ exit output stop rank, call.LogsFrom rank ∧
      Ending host.invalidText call.display call.script (call.loaded opened) call.WantsJson exit output stop ∧
      run host call.args call.env = ⟨exit, output, call.logLines rank opened, stop⟩ := by
  obtain ⟨format, logLevel, rank, hRead, hJson, hLevel, hLogs⟩ := call.exists_read hHost
  obtain ⟨exit, output, stop, hEnding, hAnalyze⟩ := analyzeFile_ends (hHost.display call.env)
    ⟨call.script, [], format, logLevel, false, false⟩ call.settings
    ⟨rank, call.settings.logRenderer, [("script", .text call.script)]⟩ rfl rfl hJson rfl hWritable
  refine ⟨exit, output, stop, rank, hLogs, hEnding, ?_⟩
  rw [run, hRead]
  simp only [hPath, Arguments.content, hFile, runFile, call.settings_eq, hLevel]
  exact hAnalyze

/-- A call that names a file ends with 0 exactly if loading and analysis succeed, with 2 on a load error and with 3 on a
failure of the analysis. The output is then the report in the format that the call wants, or only the line of the
error. Another call for the file, the format and the display, at whatever log levels, ends in the same way; each logs
the events from its own rank on. -/
theorem run_of_call (hHost : host.Documented) (call : Call host) (hPath : pathFault? call.script = none)
    (hFile : host.file? call.script = some opened)
    (hWritable : Writable host.invalidText call.display call.script (call.loaded opened) call.WantsJson) :
    ∃ exit output stop rank, call.LogsFrom rank ∧
      run host call.args call.env = ⟨exit, output, call.logLines rank opened, stop⟩ ∧
      Ending host.invalidText call.display call.script (call.loaded opened) call.WantsJson exit output stop ∧
      (exit = 0 ↔ ∃ inputs report, call.loaded opened = .ok inputs ∧ inputs.analyze.result = .ok report) ∧
      (exit = 2 ↔ ∃ e, call.loaded opened = .error (.load e)) ∧
      (exit = 3 ↔ ∃ inputs failure, call.loaded opened = .ok inputs ∧ inputs.analyze.result = .error failure) ∧
      ∀ other : Call host, other.script = call.script → (other.WantsJson ↔ call.WantsJson) →
        other.display = call.display → ∃ rank, other.LogsFrom rank ∧
          run host other.args other.env = ⟨exit, output, other.logLines rank opened, stop⟩ := by
  obtain ⟨exit, output, stop, rank, hLogs, hEnding, hRun⟩ := run_ends hHost call hPath hFile hWritable
  refine ⟨exit, output, stop, rank, hLogs, hRun, hEnding, hEnding.exit_eq_zero_iff, hEnding.exit_eq_two_iff,
    hEnding.exit_eq_three_iff, ?_⟩
  intro other hScript hJson hDisplay
  have hWants : other.WantsJson = call.WantsJson := propext hJson
  have hLoaded : other.loaded opened = call.loaded opened := by rw [Call.loaded, Call.loaded, hScript]
  obtain ⟨exit', output', stop', rank', hLogs', hEnding', hRun'⟩ := run_ends hHost other (hScript ▸ hPath)
    (hScript ▸ hFile) (by rwa [hDisplay, hScript, hLoaded, hWants])
  rw [hDisplay, hScript, hLoaded, hWants] at hEnding'
  obtain ⟨rfl, rfl, rfl⟩ := hEnding.unique hEnding'
  exact ⟨rank', hLogs', hRun'⟩

end CommandLine

namespace Sample

/-- A standard host with one text in all files, whose value is given. -/
def hostOf (text : String) (value : Value) : Host (List Problem) :=
  { Host.standard fun _ => some (.ok text) with readValue := fun _ => .ok value }

theorem documented_hostOf (text : String) (value : Value) : (hostOf text value).Documented where
  outputFormat := Settings.outputFormat_eq_json_iff
  display _ := Display.documented_unstyled

def entriesText : String :=
  "old_graph:\n  vertices:\n" ++
  "  - id: Q\n    kind: Object\n    name: Query\n" ++
  "  - id: Q.a\n    kind: Field\n    name: a\n" ++
  "  - id: Int\n    kind: Scalar\n    name: Int\n" ++
  "  edges:\n" ++
  "  - from: Q\n    to: Q.a\n    label: ''\n" ++
  "  - from: Q.a\n    to: Int\n    label: type=Int;defaultValue=\n" ++
  "new_graph:\n  vertices:\n" ++
  "  - id: Q\n    kind: Object\n    name: Query\n" ++
  "  - id: Q.b\n    kind: Field\n    name: b\n" ++
  "  - id: Int\n    kind: Scalar\n    name: Int\n" ++
  "  edges:\n" ++
  "  - from: Q\n    to: Q.b\n    label: ''\n" ++
  "  - from: Q.b\n    to: Int\n    label: type=Int!;defaultValue=\n" ++
  "mapping:\n" ++
  "- source: Q\n  target: Q\n" ++
  "- source: Q.a\n  target: Q.b\n" ++
  "- source: Q\n  target: Q\n" ++
  "edit_operations:\n" ++
  "- operation: change_vertex\n  source: Q.a\n  target: Q.b\n" ++
  "- operation: delete_edge\n  source: [Q.a, Int]\n" ++
  "- operation: insert_edge\n  target: [Q.b, Int]\n"

def host : Host (List Problem) := hostOf entriesText (.map entries)

/-- The options say a format twice and a log level, the environment another log level. -/
def call : Call host where
  args := ["--log-level", "debug", "edits.yaml", "--format=json", "--format", "Table"]
  env := [("SCHEMADIFF_LOG_LEVEL", "info")]
  values := [(.logLevel, "debug"), (.format, "json"), (.format, "Table")]
  script := "edits.yaml"
  settings := ⟨.development, "info", false, .table⟩
  spells := by
    have hJoined : "--format=json" = ValueOption.format.title ++ "=" ++ "json" := by decide
    rw [hJoined]
    exact .apart .logLevel "debug" (.position rfl (.joined .format "json" (.apart .format "Table" .nil)))
  settings_eq := by decide +kernel
  level_known := ⟨20, by decide +kernel⟩
  format_known := by
    rintro text ⟨⟩
    decide +kernel
  logLevel_known := by
    rintro text ⟨⟩
    decide +kernel

def callReport : Report := Report.empty.set .object [("Query", ⟨.object, "Query",
  .modified [.member .object (.fieldRenamed "a" "b"), .member .object (.fieldRetyped "b" "Int" "Int!")]⟩)]

theorem exists_loaded_call : ∃ inputs, call.loaded (.ok entriesText) = .ok inputs ∧
    inputs.analyze.result = .ok callReport := by
  have hResult : (call.loaded (.ok entriesText)).map (·.analyze.result) = .ok (.ok callReport) := by decide +kernel
  obtain ⟨inputs, hInputs, hReport⟩ := map_eq_ok_iff.mp hResult
  exact ⟨inputs, hInputs, hReport.symm⟩

theorem writable_call :
    Writable host.invalidText call.display call.script (call.loaded (.ok entriesText)) call.WantsJson where
  table hInputs hReport _ _ := by
    obtain ⟨inputs, hLoaded, hResult⟩ := exists_loaded_call
    rw [hLoaded] at hInputs
    cases hInputs
    rw [hResult] at hReport
    cases hReport
    decide +kernel
  boxed _ _ _ hTerminal := by cases hTerminal
  line h hExit := by
    obtain ⟨inputs, hLoaded, hResult⟩ := exists_loaded_call
    exact absurd (h.exit_eq_zero_iff.mpr ⟨inputs, _, hLoaded, hResult⟩) hExit

end Sample

/-- The last format of the sample is no JSON: its report is printed as a table. -/
theorem CommandLine.run_of_call_sample : ¬ Sample.call.WantsJson ∧ ∃ rank, Sample.call.LogsFrom rank ∧
    run Sample.host Sample.call.args Sample.call.env = ⟨0, plainText .unstyled Sample.callReport "edits.yaml",
      Sample.call.logLines rank (.ok Sample.entriesText), none⟩ := by
  have hTable : ¬ Sample.call.WantsJson := by
    change Text.folded "Table" ≠ "json"
    decide +kernel
  obtain ⟨inputs, hInputs, hReport⟩ := Sample.exists_loaded_call
  obtain ⟨exit, output, stop, rank, hLogs, hRun, hEnds, -⟩ := run_of_call (Sample.documented_hostOf _ _) Sample.call
    (by decide +kernel) rfl Sample.writable_call
  obtain ⟨rfl, rfl, rfl⟩ := (Ending.table hInputs hReport hTable rfl).unique hEnds
  exact ⟨hTable, rank, hLogs, hRun⟩

namespace Sample

/-- A document that adds an enum with some name. -/
def enumDocument (name : String) : Value := .map [
  (.string "old_graph", .map []),
  (.string "new_graph", .map [(.string "vertices", .list [vertexValue "v0" "Enum" name])]),
  (.string "edit_operations", .list [.map [(.string "operation", .string "insert_vertex"),
    (.string "target", .string "v0")]])]

/-- The text of such a document, with the name as it is quoted. -/
def enumText (quoted : String) : String :=
  "old_graph: \x7b\x7d\nnew_graph:\n  vertices:\n  - id: v0\n    kind: Enum\n    name: " ++ quoted ++
    "\nedit_operations:\n- operation: insert_vertex\n  target: v0\n"

/-- The name has a control sequence that makes it red on a terminal. -/
def redHost : Host (List Problem) := hostOf (enumText "\"E\\e[31mred\\e[0m\"") (enumDocument "E\x1b[31mred\x1b[0m")

/-- The name is the first half of a surrogate pair. -/
def halfHost : Host (List Problem) :=
  hostOf (enumText "\"\\ud800\"") (enumDocument (String.ofList (Text.charsOf 0xD800)))

def emptyHost : Host (List Problem) :=
  hostOf "old_graph: \x7b\x7d\nnew_graph: \x7b\x7d\n" (.map [(.string "old_graph", .map []), (.string "new_graph", .map [])])

/-- The output is taken for a terminal's. -/
def terminalHost : Host (List Problem) :=
  { emptyHost with display := fun _ => { Display.unstyled with isTerminal := true } }

def enumReport (name : String) : Report := Report.empty.set .enum [(name, ⟨.enum, name, .added⟩)]

/-- A control sequence in a name is not printed, half of a surrogate pair in a name stops the printing, and a terminal
does not get the plain line of an empty report. -/
theorem run_printedOtherwise :
    (Inputs.ofValue (enumDocument "E\x1b[31mred\x1b[0m")).map (·.analyze.result) =
      .ok (.ok (enumReport "E\x1b[31mred\x1b[0m")) ∧
    CommandLine.run redHost ["edits.yaml"] [] = ⟨0, "Enums:\n  Ered: added\n", [], none⟩ ∧
    String.join ((CommandLine.plainLines (enumReport "E\x1b[31mred\x1b[0m") "edits.yaml").map (· ++ "\n")) =
      "Enums:\n  E\x1b[31mred\x1b[0m: added\n" ∧
    CommandLine.run halfHost ["edits.yaml"] [] = ⟨1, "Enums:\n", [], some .halfCharacter⟩ ∧
    CommandLine.run emptyHost ["edits.yaml"] [] = ⟨0, "No schema differences in edits.yaml\n", [], none⟩ ∧
    CommandLine.run terminalHost ["edits.yaml"] [] = ⟨0, "✅ No schema differences in edits.yaml\n", [], none⟩ := by
  refine ⟨?_, ?_, ?_, ?_, ?_, ?_⟩ <;> decide +kernel

end Sample

end SchemaChange
