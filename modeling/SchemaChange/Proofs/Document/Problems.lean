import SchemaChange.Proofs.Document.Grammar
import SchemaChange.Proofs.RenamedDocument

/-! # The problems of a document

Each part of a document has its list of problems, put together from those of its fields, keys and elements in order. The
checks of a part read what its grammar writes, and where nothing is written they report these problems, all of them.
-/
namespace SchemaChange

namespace Checked

variable {α β : Type}

/-- A check finds the one result that is meant; if there is none, it reports problems. -/
inductive Decides (Means : α → Prop) : List Problem → Checked α → Prop where
  | ok {a : α} (hMeans : ∀ b, Means b ↔ b = a) : Decides Means [] (.ok a)
  | error {problems : List Problem} (hSome : problems ≠ []) (hNone : ∀ a, ¬ Means a) :
      Decides Means problems (.error problems)

namespace Decides

variable {M : α → Prop} {N : β → Prop} {problems problems' : List Problem} {x : Checked α} {y : Checked β}

theorem eq_ok_iff (h : Decides M problems x) {a : α} : x = .ok a ↔ M a := by
  cases h with
  | ok hMeans => rw [hMeans, Except.ok.injEq, eq_comm]
  | error _ hNone => simpa using hNone a

theorem eq_error_iff (h : Decides M problems x) {reported : List Problem} :
    x = .error reported ↔ reported = problems ∧ ¬ ∃ a, M a := by
  cases h with
  | @ok a hMeans => simp [hMeans]
  | error _ hNone => simp [hNone, eq_comm]

theorem congr (h : Decides M problems x) {M' : α → Prop} (hMeans : ∀ a, M' a ↔ M a) : Decides M' problems x := by
  obtain rfl : M' = M := funext fun a => propext (hMeans a)
  exact h

theorem fail (kind : ProblemKind) (h : ∀ a, ¬ M a) : Decides M [⟨[], kind⟩] (Checked.fail kind) :=
  .error (by simp) h

theorem map (h : Decides M problems x) {f : α → β} (hTo : ∀ a, M a → N (f a)) (hFrom : ∀ b, N b → ∃ a, M a ∧ f a = b) :
    Decides N problems (x.map f) := by
  cases h with
  | @ok a hMeans =>
    refine .ok fun b => ⟨fun hb => ?_, ?_⟩
    · obtain ⟨a', ha', rfl⟩ := hFrom b hb
      rw [(hMeans a').mp ha']
    · rintro rfl
      exact hTo a ((hMeans a).mpr rfl)
  | error hSome hNone =>
    refine .error hSome fun b hb => ?_
    obtain ⟨a, ha, _⟩ := hFrom b hb
    exact hNone a ha

theorem both (hx : Decides M problems x) (hy : Decides N problems' y) :
    Decides (fun pair => M pair.1 ∧ N pair.2) (problems ++ problems') (Checked.both x y) := by
  cases hx with
  | ok hM =>
    cases hy with
    | ok hN => exact .ok fun pair => by rw [hM, hN, Prod.ext_iff]
    | error hSome hNone => exact .error hSome fun pair h => hNone pair.2 h.2
  | error hSome hNone =>
    cases hy with
    | ok _ =>
      rw [List.append_nil]
      exact .error hSome fun pair h => hNone pair.1 h.1
    | error _ _ => exact .error (by simp [hSome]) fun pair h => hNone pair.1 h.1

end Decides

end Checked

theorem VertexKind.hasHalf_title (kind : VertexKind) : Text.hasHalf kind.title.toList = false :=
  have hAll : ∀ kind ∈ all, Text.hasHalf kind.title.toList = false := by decide +kernel
  hAll kind kind.mem_all

theorem OperationKind.hasHalf_title (kind : OperationKind) : Text.hasHalf kind.title.toList = false :=
  have hAll : ∀ kind ∈ all, Text.hasHalf kind.title.toList = false := by decide +kernel
  hAll kind kind.mem_all

namespace Problems

open Value

def located (step : Step) (problems : List Problem) : List Problem :=
  problems.map fun p => { p with location := step :: p.location }

def text : Value → List Problem
  | .string _ => []
  | _ => [⟨[], .notText⟩]

/-- A text that is no proper one is not compared with the titles. -/
def title (titles : List String) : Value → List Problem
  | .string text =>
    if Text.hasHalf text.toList then [⟨[], .brokenText⟩]
    else if text ∈ titles then [] else [⟨[], .notInEnum⟩]
  | _ => [⟨[], .notInEnum⟩]

def items (item : Value → List Problem) : Value → List Problem
  | .list items => (items.mapIdx fun i value => located (.index i) (item value)).flatten
  | _ => [⟨[], .notList⟩]

def mapping (fields : Entries → List Problem) : Value → List Problem
  | .map entries => fields entries
  | _ => [⟨[], .notObject⟩]

/-- A key that is no proper text hides all other problems of its mapping. -/
def keyed (fields : Entries → List Problem) : Value → List Problem :=
  mapping fun entries =>
    if entries.any fun entry => isBrokenKey entry.1 then [⟨[], .brokenText⟩] else fields entries

section Entries

variable (entries : Entries)

def required (name : String) (field : Value → List Problem) : List Problem :=
  located (.key name) ((lookup? entries name).elim [⟨[], .missing⟩] field)

def optional (name : String) (field : Value → List Problem) : List Problem :=
  (lookup? entries name).elim [] fun value => located (.key name) (field value)

def unknown (known : List String) : List Problem :=
  entries.flatMap fun entry =>
    match entry.1 with
    | .string name => if name ∈ known then [] else [⟨[.key name], .unknownKey⟩]
    | _ => []

end Entries

def vertex : Value → List Problem :=
  keyed fun entries =>
    required entries "id" text ++ required entries "kind" (title (VertexKind.all.map (·.title)))
      ++ required entries "name" text ++ unknown entries ["id", "kind", "name"]

/-- Where both names of an end are used, the second one is an unknown key. -/
def edge : Value → List Problem :=
  keyed fun entries =>
    let source := spelling entries "from" "from_id"
    let target := spelling entries "to" "to_id"
    required entries source text ++ required entries target text ++ optional entries "label" text
      ++ unknown entries [source, target, "label"]

def graph : Value → List Problem :=
  mapping fun entries => optional entries "vertices" (items vertex) ++ optional entries "edges" (items edge)

def matchEntry : Value → List Problem :=
  mapping fun entries => required entries "source" text ++ required entries "target" text

def pair : Value → List Problem
  | .list values =>
    if values.length > 2 then [⟨[], .tooLong⟩]
    else [0, 1].flatMap fun (i : Nat) => located (.index i) (values[i]?.elim [⟨[], .missing⟩] text)
  | _ => [⟨[], .notPair⟩]

/-- What is neither an id nor a pair of ids has the problems of both. -/
def ref : Value → List Problem
  | .null => []
  | .string _ => []
  | value =>
    if pair value = [] then [] else located (.key "str") (text value) ++ located (.key "tuple[str, str]") (pair value)

def operation : Value → List Problem :=
  keyed fun entries =>
    required entries "operation" (title (OperationKind.all.map (·.title))) ++ optional entries "source" ref
      ++ optional entries "target" ref ++ unknown entries ["operation", "source", "target"]

def document : Value → List Problem :=
  mapping fun entries =>
    required entries "old_graph" graph ++ required entries "new_graph" graph
      ++ optional entries "mapping" (items matchEntry) ++ optional entries "edit_operations" (items operation)

end Problems

namespace Document

open Checked Value

variable {α : Type}

/-- A check decides what a writing writes, for every value of a JSON text. -/
def Reads (check : Value → Checked α) (problems : Value → List Problem) (writing : Writing α) : Prop :=
  ∀ value, value.IsJson → Decides (writing value) (problems value) (check value)

theorem decides_under {M : α → Prop} {problems : List Problem} {x : Checked α} (step : Step)
    (h : Decides M problems x) : Decides M (Problems.located step problems) (under step x) := by
  cases h with
  | ok hMeans => exact .ok hMeans
  | error hSome hNone => exact .error (by simpa [Problems.located] using hSome) hNone

theorem decides_all {check : Value → Checked α} {problems : Value → List Problem} {writing : Writing α}
    {items : List Value} (h : ∀ item ∈ items, Decides (writing item) (problems item) (check item)) (step : Nat → Step) :
    Decides (List.Forall₂ writing items) (items.mapIdx fun i item => Problems.located (step i) (problems item)).flatten
      (all (items.mapIdx fun i item => under (step i) (check item))) := by
  induction items generalizing step with
  | nil => exact .ok fun xs => List.forall₂_nil_left_iff
  | cons item items ih =>
    obtain ⟨hItem, hItems⟩ := List.forall_mem_cons.mp h
    -- The items after the first stand one position later, so the claim is for any steps.
    rw [List.mapIdx_cons, List.mapIdx_cons, List.flatten_cons]
    refine ((decides_under (step 0) hItem).both (ih hItems fun i => step (i + 1))).map ?_ ?_
    · rintro ⟨x, xs⟩ ⟨hx, hxs⟩
      exact .cons hx hxs
    · rintro _ (_ | ⟨hx, hxs⟩)
      exact ⟨(_, _), ⟨hx, hxs⟩, rfl⟩

theorem reads_text : Reads checkText Problems.text Writing.text := by
  intro value hJson
  cases hJson with
  | string text => exact .ok fun other => by simp [Writing.text, eq_comm]
  | _ => exact .fail .notText (by simp [Writing.text])

/-- The names of an enumeration are found by search, and each of them is its own name. -/
theorem reads_title {ofTitle? : String → Option α} {titleOf : α → String} {names : List α}
    (hFind : ∀ text, ofTitle? text = names.find? (titleOf · = text)) (hTitle : ∀ a, ofTitle? (titleOf a) = some a)
    (hProper : ∀ a, Text.hasHalf (titleOf a).toList = false) :
    Reads (checkName ofTitle?) (Problems.title (names.map titleOf)) (Writing.title titleOf) := by
  intro value hJson
  cases hJson with
  | string text =>
    have hWritten : ∀ a, Writing.title titleOf (.string text) a ↔ ofTitle? text = some a := by
      intro a
      constructor
      · rintro ⟨⟩
        exact hTitle a
      · intro hFound
        rw [hFind] at hFound
        simpa [Writing.title, eq_comm] using List.find?_some hFound
    simp only [checkName, checkText, Problems.title]
    split
    next hBroken =>
      refine .fail .brokenText ?_
      rintro a ⟨⟩
      exact absurd hBroken (by simp [hProper a])
    cases hFound : ofTitle? text with
    | some a =>
      obtain ⟨⟩ := (hWritten a).mpr hFound
      rw [if_pos (List.mem_map_of_mem (List.mem_of_find?_eq_some (hFind _ ▸ hTitle a)))]
      exact .ok fun b => by rw [hWritten, hFound, Option.some.injEq, eq_comm]
    | none =>
      have hNone : ∀ a, ¬ Writing.title titleOf (.string text) a := fun a => by simp [hWritten, hFound]
      have hOther : text ∉ names.map titleOf := by
        rintro hMem
        obtain ⟨a, _, rfl⟩ := List.mem_map.mp hMem
        exact hNone a rfl
      rw [if_neg hOther]
      exact .fail .notInEnum hNone
  | _ => exact .fail .notInEnum (by simp [Writing.title])

theorem Reads.list {check : Value → Checked α} {problems : Value → List Problem} {writing : Writing α}
    (h : Reads check problems writing) : Reads (checkList check) (Problems.items problems) (Writing.items writing) := by
  intro value hJson
  cases value with
  | list items =>
    exact (decides_all (fun item hMem => h item (isJson_list_iff.mp hJson item hMem)) fun i => .index i).congr fun xs => by
      simp [Writing.items]
  | set => cases hJson
  | _ => exact .fail .notList (by simp [Writing.items])

section Fields

variable {entries : Entries} {check : Value → Checked α} {problems : Value → List Problem} {writing : Writing α}

theorem Reads.required (h : Reads check problems writing) (hJson : (Value.map entries).IsJson) (name : String) :
    Decides (Writing.required entries name writing) (Problems.required entries name problems)
      (requiredField entries name check) := by
  refine decides_under (.key name) ?_
  cases hFound : lookup? entries name with
  | some value => exact (h value (hJson.of_lookup? hFound)).congr fun a => by simp [Writing.required, hFound]
  | none => exact .fail .missing fun a => by simp [Writing.required, hFound]

theorem Reads.optional (h : Reads check problems writing) (hJson : (Value.map entries).IsJson) (name : String)
    (default : α) : Decides (Writing.optional entries name default writing) (Problems.optional entries name problems)
      (optionalField entries name default check) := by
  rw [optionalField, Problems.optional]
  cases hFound : lookup? entries name with
  | some value =>
    exact (decides_under (.key name) (h value (hJson.of_lookup? hFound))).congr fun a => by simp [Writing.optional, hFound]
  | none => exact .ok fun a => by simp [Writing.optional, hFound]

theorem decides_checkKey (name : String) (known : List String) :
    Decides (fun _ => name ∈ known) (if name ∈ known then [] else [⟨[.key name], .unknownKey⟩])
      (checkKey known (.string name)) := by
  simp only [checkKey, List.contains_iff_mem]
  split
  · exact .ok (by simpa)
  · exact .error (by simp) (by simpa)

theorem checkKeys_cons (known : List String) (entry : Value × Value) :
    checkKeys known (entry :: entries) = (both (checkKey known entry.1) (checkKeys known entries)).map fun _ => () := by
  rw [checkKeys, checkKeys, List.map_cons, all, both_map_right, map_map, map_map]

theorem decides_checkKeys (hJson : (Value.map entries).IsJson) (known : List String) :
    Decides (fun _ => Writing.HasOnly entries known) (Problems.unknown entries known) (checkKeys known entries) := by
  induction entries with
  | nil => exact .ok (by simp [Writing.HasOnly])
  | cons entry entries ih =>
    obtain ⟨⟨⟨name, hName⟩, _⟩, hRest⟩ := List.forall_mem_cons.mp (isJson_map_iff.mp hJson)
    obtain ⟨key, value⟩ := entry
    obtain rfl : key = .string name := hName
    rw [checkKeys_cons]
    refine ((decides_checkKey name known).both (ih (isJson_map_iff.mpr hRest))).map ?_ ?_
    · rintro _ ⟨hMem, hOnly⟩
      exact List.forall_mem_cons.mpr ⟨⟨name, hMem, rfl⟩, hOnly⟩
    · intro _ hOnly
      obtain ⟨⟨_, hMem, ⟨⟩⟩, hOnly⟩ := List.forall_mem_cons.mp hOnly
      exact ⟨((), ()), ⟨hMem, hOnly⟩, rfl⟩

theorem reads_mapping {fields : Entries → Checked α} {problems : Entries → List Problem} {Written : Entries → α → Prop}
    (h : ∀ entries, (Value.map entries).IsJson → Decides (Written entries) (problems entries) (fields entries)) :
    Reads (fun value => checkEntries value >>= fields) (Problems.mapping problems) (Writing.mapping Written) := by
  intro value hJson
  cases value with
  | map entries => exact (h entries hJson).congr fun a => by simp [Writing.mapping]
  | _ => exact .fail .notObject (by simp [Writing.mapping])

/-- A mapping with a broken key is never written, since the names that are known are proper texts. -/
theorem reads_keyed {fields : Entries → Checked α} {problems : Entries → List Problem} {Written : Entries → α → Prop}
    {known : List String} (hKnown : ∀ name ∈ known, Text.hasHalf name.toList = false)
    (hKeys : ∀ entries a, Written entries a → Writing.HasOnly entries known)
    (h : ∀ entries, (Value.map entries).IsJson → Decides (Written entries) (problems entries) (fields entries)) :
    Reads (fun value => checkKeyedEntries value >>= fields) (Problems.keyed problems) (Writing.mapping Written) := by
  intro value hJson
  cases value with
  | map entries =>
    have hMeans : ∀ a, Writing.mapping Written (.map entries) a ↔ Written entries a := by simp [Writing.mapping]
    change Decides _ (Problems.keyed problems (.map entries)) (checkKeyedEntries (.map entries) >>= fields)
    rw [checkKeyedEntries_map, Problems.keyed, Problems.mapping]
    split
    next hBroken =>
      refine .fail .brokenText fun a hWritten => ?_
      obtain ⟨entry, hMem, hKey⟩ := List.any_eq_true.mp hBroken
      obtain ⟨name, hName, hEq⟩ := hKeys entries a ((hMeans a).mp hWritten) entry hMem
      rw [hEq, isBrokenKey, hKnown name hName] at hKey
      cases hKey
    next => exact (h entries hJson).congr hMeans
  | _ => exact .fail .notObject (by simp [Writing.mapping])

end Fields

theorem reads_vertex : Reads checkVertex Problems.vertex Writing.vertex := by
  rw [funext checkVertex_eq]
  refine reads_keyed (by decide +kernel) (fun _ _ h => h.keys) fun entries hJson => ?_
  have hId := reads_text.required hJson "id"
  have hKind := (reads_title (fun _ => rfl) VertexKind.ofTitle?_title VertexKind.hasHalf_title).required hJson "kind"
  have hName := reads_text.required hJson "name"
  have hKeys := decides_checkKeys hJson ["id", "kind", "name"]
  rw [List.append_assoc, List.append_assoc]
  refine (hId.both (hKind.both (hName.both hKeys))).map ?_ ?_
  · rintro ⟨id, kind, name, _⟩ ⟨hId, hKind, hName, hKeys⟩
    exact ⟨hId, hKind, hName, hKeys⟩
  · intro spec h
    exact ⟨(spec.id, spec.kind, spec.name, ()), ⟨h.id, h.kind, h.name, h.keys⟩, rfl⟩

section Ends

variable {entries : Entries} {name alternative id : String}

theorem either_iff (hne : name ≠ alternative) : Writing.either entries name alternative id ↔
    Writing.required entries (spelling entries name alternative) Writing.text id ∧
      ∀ other ∈ [name, alternative], other ≠ spelling entries name alternative → lookup? entries other = none := by
  cases hName : lookup? entries name <;> cases hAlternative : lookup? entries alternative <;>
    simp [Writing.either, Writing.required, Writing.text, spelling, hName, hAlternative, hne.symm]

/-- Beside the names that are used for the ends, those that are not used are unknown. -/
theorem hasOnly_ends_iff {source target : String} (hSource : source = "from" ∨ source = "from_id")
    (hTarget : target = "to" ∨ target = "to_id") : Writing.HasOnly entries [source, target, "label"] ↔
      (∀ other ∈ ["from", "from_id"], other ≠ source → lookup? entries other = none) ∧
        (∀ other ∈ ["to", "to_id"], other ≠ target → lookup? entries other = none) ∧
        Writing.HasOnly entries ["from", "from_id", "to", "to_id", "label"] := by
  constructor
  · intro h
    refine ⟨fun other hMem hne => h.lookup?_eq_none ?_, fun other hMem hne => h.lookup?_eq_none ?_, h.mono ?_⟩
    · obtain rfl | rfl := hTarget <;> revert other <;> obtain rfl | rfl := hSource <;> decide
    · obtain rfl | rfl := hSource <;> revert other <;> obtain rfl | rfl := hTarget <;> decide
    · obtain rfl | rfl := hSource <;> obtain rfl | rfl := hTarget <;> decide
  · rintro ⟨hSources, hTargets, h⟩ entry hMem
    obtain ⟨name, hName, hKey⟩ := h entry hMem
    have hUsed : lookup? entries name ≠ none := fun hNone => Writing.lookup?_eq_none_iff.mp hNone entry hMem hKey
    have hCases : name ∈ ["from", "from_id"] ∨ name ∈ ["to", "to_id"] ∨ name = "label" := by
      simpa [or_assoc] using hName
    refine ⟨name, ?_, hKey⟩
    obtain hEnd | hEnd | rfl := hCases
    · simp [not_imp_comm.mp (hSources name hEnd) hUsed]
    · simp [not_imp_comm.mp (hTargets name hEnd) hUsed]
    · simp

end Ends

theorem reads_edge : Reads checkEdge Problems.edge Writing.edge := by
  rw [funext checkEdge_eq]
  refine reads_keyed (by decide +kernel) (fun _ _ h => h.keys) fun entries hJson => ?_
  have hSource := reads_text.required hJson (spelling entries "from" "from_id")
  have hTarget := reads_text.required hJson (spelling entries "to" "to_id")
  have hLabel := reads_text.optional hJson "label" ""
  have hKeys := decides_checkKeys hJson
    [spelling entries "from" "from_id", spelling entries "to" "to_id", "label"]
  have hOnly : Writing.HasOnly entries [spelling entries "from" "from_id", spelling entries "to" "to_id", "label"] ↔ _ :=
    hasOnly_ends_iff (spelling_eq entries "from" "from_id") (spelling_eq entries "to" "to_id")
  simp only [List.append_assoc]
  refine (hSource.both (hTarget.both (hLabel.both hKeys))).map ?_ ?_
  · rintro ⟨source, target, label, _⟩ ⟨hSource, hTarget, hLabel, hKeys⟩
    obtain ⟨hSources, hTargets, hKeys⟩ := hOnly.mp hKeys
    exact ⟨(either_iff (by decide)).mpr ⟨hSource, hSources⟩, (either_iff (by decide)).mpr ⟨hTarget, hTargets⟩, hLabel, hKeys⟩
  · intro spec h
    obtain ⟨hSource, hSources⟩ := (either_iff (by decide)).mp h.source
    obtain ⟨hTarget, hTargets⟩ := (either_iff (by decide)).mp h.target
    exact ⟨(spec.source, spec.target, spec.label, ()),
      ⟨hSource, hTarget, h.label, hOnly.mpr ⟨hSources, hTargets, h.keys⟩⟩, rfl⟩

theorem reads_graph : Reads checkGraph Problems.graph Writing.graph := by
  rw [funext checkGraph_eq]
  refine reads_mapping fun entries hJson => ?_
  refine ((reads_vertex.list.optional hJson "vertices" []).both (reads_edge.list.optional hJson "edges" [])).map ?_ ?_
  · rintro ⟨vertices, edges⟩ ⟨hVertices, hEdges⟩
    exact ⟨hVertices, hEdges⟩
  · intro spec h
    exact ⟨(spec.vertices, spec.edges), ⟨h.vertices, h.edges⟩, rfl⟩

theorem reads_match : Reads checkMatch Problems.matchEntry Writing.matchEntry := by
  rw [funext checkMatch_eq]
  refine reads_mapping fun entries hJson => ?_
  refine ((reads_text.required hJson "source").both (reads_text.required hJson "target")).map ?_ ?_
  · rintro ⟨source, target⟩ ⟨hSource, hTarget⟩
    exact ⟨hSource, hTarget⟩
  · intro spec h
    exact ⟨(spec.source, spec.target), ⟨h.source, h.target⟩, rfl⟩

theorem decides_checkElement {items : List Value} (hJson : (Value.list items).IsJson) (i : Nat) :
    Decides (fun id => items[i]? = some (.string id))
      (Problems.located (.index i) (items[i]?.elim [⟨[], .missing⟩] Problems.text)) (checkElement checkText items i) := by
  refine decides_under (.index i) ?_
  cases hItem : items[i]? with
  | some item =>
    have hText := reads_text item (isJson_list_iff.mp hJson item (List.mem_of_getElem? hItem))
    exact hText.congr fun id => by simp [Writing.text]
  | none => exact .fail .missing (by simp)

theorem reads_pair : Reads (checkPair checkText checkText) Problems.pair Writing.pair := by
  intro value hJson
  cases value with
  | list items =>
    change Decides _ (Problems.pair (.list items))
      (if items.length > 2 then fail .tooLong else both (checkElement checkText items 0) (checkElement checkText items 1))
    rw [Problems.pair]
    split
    next hLong =>
      refine .fail .tooLong fun ids hPair => ?_
      cases hPair
      simp at hLong
    next hShort =>
      have hItems := (decides_checkElement hJson 0).both (decides_checkElement hJson 1)
      simp only [List.flatMap_cons, List.flatMap_nil, List.append_nil]
      refine hItems.congr fun ids => ?_
      match items, hShort with
      | [], _ | [_], _ | [_, _], _ => simp [Writing.pair]
      | _ :: _ :: _ :: _, hShort => simp at hShort
  | set => cases hJson
  | _ => exact .fail .notPair (by simp [Writing.pair])

/-- A side that is there and no id has to be a pair of ids. -/
theorem decides_refOf {value : Value} (hNull : value ≠ .null) (hText : ∀ id, value ≠ .string id)
    {problems : List Problem} {checked : Checked (String × String)} (hPair : Decides (Writing.pair value) problems checked)
    (first : List Problem) : Decides (Writing.ref value)
      (if problems = [] then [] else first ++ Problems.located (.key "tuple[str, str]") problems)
      ((eitherReading ElementRef.vertex (fun pair : String × String => .edge pair.1 pair.2) (.error first)
        (under (.key "tuple[str, str]") checked)).map some) := by
  have hRef : ∀ side, Writing.ref value side ↔ ∃ ids, Writing.pair value ids ∧ some (.edge ids.1 ids.2) = side := by
    intro side
    constructor
    · rintro (_ | id | hIds)
      · exact absurd rfl hNull
      · exact absurd rfl (hText id)
      · exact ⟨_, hIds, rfl⟩
    · rintro ⟨ids, hIds, rfl⟩
      exact .edge hIds
  cases hPair with
  | ok hMeans => exact .ok fun side => by simp [hRef, hMeans, eq_comm]
  | error hSome hNone =>
    rw [if_neg hSome]
    exact .error (by simpa [Problems.located] using fun _ => hSome) fun side => by simp [hRef, hNone]

theorem reads_ref : Reads checkRef Problems.ref Writing.ref := by
  intro value hJson
  have hPair := reads_pair value hJson
  cases hJson with
  | null =>
    refine .ok fun side => ⟨?_, ?_⟩
    · rintro (_ | _ | ⟨⟨⟩⟩)
      rfl
    · rintro rfl
      exact .none
  | string id =>
    refine .ok fun side => ⟨?_, ?_⟩
    · rintro (_ | _ | ⟨⟨⟩⟩)
      rfl
    · rintro rfl
      exact .vertex id
  | _ =>
    rw [checkRef_of_ne_null (by simp)]
    exact decides_refOf (by simp) (by simp) hPair _

theorem reads_operation : Reads checkOperation Problems.operation Writing.operation := by
  rw [funext checkOperation_eq]
  refine reads_keyed (by decide +kernel) (fun _ _ h => h.keys) fun entries hJson => ?_
  have hTitle := reads_title (fun _ => rfl) OperationKind.ofTitle?_title OperationKind.hasHalf_title
  have hKind := hTitle.required hJson "operation"
  have hSource := reads_ref.optional hJson "source" none
  have hTarget := reads_ref.optional hJson "target" none
  have hKeys := decides_checkKeys hJson ["operation", "source", "target"]
  rw [List.append_assoc, List.append_assoc]
  refine (hKind.both (hSource.both (hTarget.both hKeys))).map ?_ ?_
  · rintro ⟨kind, source, target, _⟩ ⟨hKind, hSource, hTarget, hKeys⟩
    exact ⟨hKind, hSource, hTarget, hKeys⟩
  · intro spec h
    exact ⟨(spec.kind, spec.source, spec.target, ()), ⟨h.kind, h.source, h.target, h.keys⟩, rfl⟩

/-- A document is read exactly as its grammar says, and its problems are those of its parts. -/
theorem decides_ofEntries {entries : Entries} (hJson : (Value.map entries).IsJson) :
    Decides (Writing.document (.map entries)) (Problems.document (.map entries)) (ofEntries entries) := by
  have hReads : Reads (fun value => checkEntries value >>= ofEntries) Problems.document Writing.document := by
    rw [funext ofEntries_eq]
    refine reads_mapping fun entries hJson => ?_
    have hOld := reads_graph.required hJson "old_graph"
    have hNew := reads_graph.required hJson "new_graph"
    have hMatching := reads_match.list.optional hJson "mapping" []
    have hOperations := reads_operation.list.optional hJson "edit_operations" []
    rw [List.append_assoc, List.append_assoc]
    refine (hOld.both (hNew.both (hMatching.both hOperations))).map ?_ ?_
    · rintro ⟨oldGraph, newGraph, matching, operations⟩ ⟨hOld, hNew, hMatching, hOperations⟩
      exact ⟨hOld, hNew, hMatching, hOperations⟩
    · intro document h
      exact ⟨(document.oldGraph, document.newGraph, document.matching, document.operations),
        ⟨h.oldGraph, h.newGraph, h.matching, h.operations⟩, rfl⟩
  exact hReads (.map entries) hJson

end Document

end SchemaChange
