import SchemaChange.Analysis.Ledger
import SchemaChange.Proofs.Distinct

/-! # What a ledger records

A ledger is determined by its names, in the order in which they were first recorded, and by the change of each name.
A journal lists details with the names they are recorded under; `Records` says what a journal makes of a ledger: every
name keeps its place and its class, a modification gains its details at the end, and each new name becomes a
modification behind the earlier ones.
-/
namespace SchemaChange

namespace Change

/-- A change with details recorded for its name afterwards; additions and removals take none. -/
def extend : Change → List Detail → Change
  | modified earlier, more => modified (earlier ++ more)
  | change, _ => change

def extend? : Option Change → List Detail → Option Change
  | some change, details => some (change.extend details)
  | none, [] => none
  | none, details => some (modified details)

@[simp] theorem extend_nil (change : Change) : change.extend [] = change := by
  cases change <;> simp [extend]

@[simp] theorem extend?_nil (change : Option Change) : extend? change [] = change := by
  cases change <;> simp [extend?]

theorem extend_append (change : Change) (first second : List Detail) :
    change.extend (first ++ second) = (change.extend first).extend second := by
  cases change <;> simp [extend]

theorem extend?_append (change : Option Change) (first second : List Detail) :
    extend? change (first ++ second) = extend? (extend? change first) second := by
  cases change with
  | some change => simp [extend?, extend_append]
  | none =>
    cases first with
    | nil => rfl
    | cons detail first => simp [extend?, extend]

theorem extend?_none_of_ne_nil {details : List Detail} (h : details ≠ []) :
    extend? none details = some (modified details) := by
  cases details with
  | nil => exact absurd rfl h
  | cons detail details => rfl

@[simp] theorem extend?_eq_added_iff (change : Option Change) (details : List Detail) :
    extend? change details = some added ↔ change = some added := by
  cases change with
  | some change => cases change <;> simp [extend?, extend]
  | none => cases details <;> simp [extend?]

@[simp] theorem extend?_eq_removed_iff (change : Option Change) (details : List Detail) :
    extend? change details = some removed ↔ change = some removed := by
  cases change with
  | some change => cases change <;> simp [extend?, extend]
  | none => cases details <;> simp [extend?]

end Change

namespace Ledger

variable {l before after : Ledger} {name : String} {change : Change} {details : List Detail}

def names (l : Ledger) : List String := l.entries.map Prod.fst

theorem nodup_names (l : Ledger) : l.names.Nodup := l.names_nodup

theorem change?_eq_none_iff : l.change? name = none ↔ name ∉ l.names := by
  refine ⟨name_not_mem_of_change?, fun h => ?_⟩
  refine Option.map_eq_none_iff.mpr (List.find?_eq_none.mpr fun entry hEntry => ?_)
  have hName : entry.1 ≠ name := fun hEq => h (hEq ▸ List.mem_map_of_mem hEntry)
  simpa using hName

theorem change?_eq_some_iff : l.change? name = some change ↔ (name, change) ∈ l.entries := by
  constructor
  · intro h
    obtain ⟨entry, hFind, rfl⟩ := Option.map_eq_some_iff.mp h
    have hName : entry.1 = name := by simpa using List.find?_some hFind
    exact hName ▸ List.mem_of_find?_eq_some hFind
  · intro h
    exact Option.map_eq_some_iff.mpr ⟨_, find?_eq_some_of_nodup l.names_nodup h, rfl⟩

theorem mem_names_iff : name ∈ l.names ↔ ∃ change, l.change? name = some change := by
  rw [← Option.ne_none_iff_exists', ne_eq, change?_eq_none_iff, Decidable.not_not]

@[simp] theorem change?_empty : empty.change? name = none := rfl

@[simp] theorem names_empty : empty.names = [] := rfl

@[simp] theorem wasAdded_iff : l.wasAdded name = true ↔ l.change? name = some .added := by
  simp [wasAdded]

@[simp] theorem wasRemoved_iff : l.wasRemoved name = true ↔ l.change? name = some .removed := by
  simp [wasRemoved]

@[simp] theorem names_insert (h : l.change? name = none) : (l.insert name change h).names = l.names ++ [name] := by
  simp [names, insert]

theorem change?_insert (h : l.change? name = none) (other : String) :
    (l.insert name change h).change? other = if other = name then some change else l.change? other := by
  by_cases hName : other = name
  · subst hName
    have hFind : l.entries.find? (·.1 = other) = none := Option.map_eq_none_iff.mp h
    simp [change?, insert, List.find?_append, hFind]
  · have hOther : ¬ name = other := fun hEq => hName hEq.symm
    simp [change?, insert, List.find?_append, hName, hOther]

theorem seed_eq_ok_iff : l.seed name change = .ok after ↔ ∃ h : l.change? name = none, after = l.insert name change h := by
  unfold seed
  split
  · rename_i existing hSome
    simp [hSome]
  · rename_i hNone
    constructor
    · intro h
      cases h
      exact ⟨hNone, rfl⟩
    · rintro ⟨_, rfl⟩
      rfl

theorem seed_eq_error_iff (e : LedgerError) :
    l.seed name change = .error e ↔ ∃ existing, l.change? name = some existing ∧ e = .alreadyRecorded existing change := by
  unfold seed
  split
  · rename_i existing hSome
    simp [hSome, eq_comm]
  · rename_i hNone
    simp [hNone]

/-- Details may be recorded for a name that has no change yet or a modification. -/
def Open (l : Ledger) (name : String) : Prop := l.change? name ≠ some .added ∧ l.change? name ≠ some .removed

@[simp] theorem names_replace (l : Ledger) (name : String) (change : Change) :
    (l.replace name change).names = l.names := by
  simp only [names, replace, List.map_map]
  apply List.map_congr_left
  intro entry _
  simp only [Function.comp]
  split <;> rfl

theorem change?_replace (h : name ∈ l.names) (other : String) :
    (l.replace name change).change? other = if other = name then some change else l.change? other := by
  by_cases hName : other = name
  · subst hName
    obtain ⟨earlier, hEarlier⟩ := mem_names_iff.mp h
    rw [if_pos rfl, change?_eq_some_iff]
    exact List.mem_map.mpr ⟨_, change?_eq_some_iff.mp hEarlier, by simp⟩
  · rw [if_neg hName]
    apply Option.ext
    intro found
    rw [change?_eq_some_iff, change?_eq_some_iff]
    constructor
    · intro hMem
      obtain ⟨entry, hEntry, hEq⟩ := List.mem_map.mp hMem
      split at hEq
      · rename_i hFirst
        cases hEq
        exact absurd hFirst hName
      · rwa [hEq] at hEntry
    · intro hMem
      exact List.mem_map.mpr ⟨_, hMem, by simp [hName]⟩

theorem amend_of_none (h : l.change? name = none) (details : List Detail) :
    l.amend name details = .ok (l.insert name (.modified details) h) := by
  unfold amend
  split
  · rfl
  · rename_i hModified
    cases h.symm.trans hModified
  · rename_i hFound
    cases h.symm.trans hFound

theorem amend_of_modified {earlier : List Detail} (h : l.change? name = some (.modified earlier)) (details : List Detail) :
    l.amend name details = .ok (l.replace name (.modified (earlier ++ details))) := by
  unfold amend
  split
  · rename_i hNone
    cases h.symm.trans hNone
  · rename_i hModified
    cases h.symm.trans hModified
    rfl
  · rename_i hNot hFound
    cases h.symm.trans hFound
    exact absurd rfl (hNot earlier)

theorem exists_amend_iff : (∃ after, l.amend name details = .ok after) ↔ l.Open name := by
  unfold amend Open
  split
  · rename_i hNone
    simp [hNone]
  · rename_i earlier hModified
    simp [hModified]
  · rename_i found hFound hSome
    cases found with
    | added => simp [hSome]
    | removed => simp [hSome]
    | modified earlier => exact absurd rfl (hFound earlier)

theorem amend_eq_error_iff (e : LedgerError) :
    l.amend name details = .error e ↔
      ∃ found, l.change? name = some found ∧ ¬ l.Open name ∧ e = .notModified found := by
  unfold amend Open
  split
  · rename_i hNone
    simp [hNone]
  · rename_i earlier hModified
    simp [hModified]
  · rename_i found hFound hSome
    cases found with
    | added => simp [hSome, eq_comm]
    | removed => simp [hSome, eq_comm]
    | modified earlier => exact absurd rfl (hFound earlier)

theorem ext_entries {l l' : Ledger} (h : l.entries = l'.entries) : l = l' := by
  cases l
  cases l'
  cases h
  rfl

theorem replace_insert (h : l.change? name = none) (first second : Change) :
    (l.insert name first h).replace name second = l.insert name second h := by
  apply ext_entries
  have hEntries : l.entries.map (fun entry => if entry.1 = name then (entry.1, second) else entry) = l.entries := by
    refine (List.map_congr_left fun entry hEntry => if_neg ?_).trans (List.map_id _)
    rintro rfl
    exact change?_eq_none_iff.mp h (List.mem_map_of_mem hEntry)
  simp [replace, insert, hEntries]

theorem replace_replace (l : Ledger) (name : String) (first second : Change) :
    (l.replace name first).replace name second = l.replace name second := by
  apply ext_entries
  simp only [replace, List.map_map]
  apply List.map_congr_left
  intro entry _
  by_cases hName : entry.1 = name <;> simp [hName]

/-- Details that are recorded together are recorded one part after the other. -/
theorem amend_append (l : Ledger) (name : String) (first second : List Detail) :
    l.amend name (first ++ second) = l.amend name first >>= fun after => after.amend name second := by
  cases h : l.change? name with
  | none =>
    have hAfter : (l.insert name (.modified first) h).change? name = some (.modified first) := by
      rw [change?_insert, if_pos rfl]
    rw [amend_of_none h, amend_of_none h]
    refine Eq.trans ?_ (amend_of_modified hAfter second).symm
    rw [replace_insert]
  | some change =>
    cases change with
    | modified earlier =>
      have hMem : name ∈ l.names := mem_names_iff.mpr ⟨_, h⟩
      have hAfter : (l.replace name (.modified (earlier ++ first))).change? name = some (.modified (earlier ++ first)) := by
        rw [change?_replace hMem, if_pos rfl]
      rw [amend_of_modified h, amend_of_modified h]
      refine Eq.trans ?_ (amend_of_modified hAfter second).symm
      rw [replace_replace, List.append_assoc]
    | added | removed =>
      have hRefused : ∀ details, l.amend name details = .error (.notModified _) :=
        fun details => (amend_eq_error_iff _).mpr ⟨_, h, by simp [Open, h], rfl⟩
      rw [hRefused, hRefused]
      rfl

end Ledger

/-- Details in the order in which they were recorded, each with the name it was recorded under. -/
abbrev Journal := List (String × Detail)

def Journal.detailsOf (journal : Journal) (name : String) : List Detail :=
  (journal.filter (·.1 = name)).map Prod.snd

namespace Journal

@[simp] theorem detailsOf_nil (name : String) : detailsOf [] name = [] := rfl

@[simp] theorem detailsOf_append (first second : Journal) (name : String) :
    detailsOf (first ++ second) name = first.detailsOf name ++ second.detailsOf name := by
  simp [detailsOf]

@[simp] theorem detailsOf_map_mk (name other : String) (details : List Detail) :
    detailsOf (details.map (name, ·)) other = if name = other then details else [] := by
  by_cases h : name = other <;> simp [detailsOf, List.filter_map, Function.comp_def, h]

theorem mem_detailsOf_iff {journal : Journal} {name : String} {detail : Detail} :
    detail ∈ journal.detailsOf name ↔ (name, detail) ∈ journal := by
  simp [detailsOf]

theorem detailsOf_ne_nil_iff {journal : Journal} {name : String} :
    journal.detailsOf name ≠ [] ↔ ∃ detail, (name, detail) ∈ journal := by
  simp only [← mem_detailsOf_iff]
  refine ⟨List.exists_mem_of_ne_nil _, ?_⟩
  rintro ⟨detail, hDetail⟩
  exact List.ne_nil_of_mem hDetail

theorem detailsOf_eq_nil_iff {journal : Journal} {name : String} :
    journal.detailsOf name = [] ↔ name ∉ journal.map Prod.fst := by
  simp only [detailsOf, List.map_eq_nil_iff, List.filter_eq_nil_iff, List.mem_map, decide_eq_true_eq]
  constructor
  · rintro h ⟨entry, hEntry, hName⟩
    exact h entry hEntry hName
  · intro h entry hEntry hName
    exact h ⟨entry, hEntry, hName⟩

end Journal

namespace Ledger

/-- The second ledger is the first one with the details of a journal recorded in it. -/
structure Records (before : Ledger) (journal : Journal) (after : Ledger) : Prop where
  opened : ∀ entry ∈ journal, before.Open entry.1
  names_eq : after.names = (before.names ++ journal.map Prod.fst).eraseDups
  change?_eq : ∀ name, after.change? name = Change.extend? (before.change? name) (journal.detailsOf name)

namespace Records

variable {l before middle after : Ledger} {journal first second : Journal}

theorem refl (l : Ledger) : l.Records [] l where
  opened := by simp
  names_eq := by rw [List.map_nil, List.append_nil, eraseDups_eq_self l.nodup_names]
  change?_eq := by simp

theorem open_iff (h : before.Records journal after) (name : String) : after.Open name ↔ before.Open name := by
  simp [Open, h.change?_eq]

theorem trans (h₁ : before.Records first middle) (h₂ : middle.Records second after) :
    before.Records (first ++ second) after where
  opened entry hEntry := by
    rcases List.mem_append.mp hEntry with hFirst | hSecond
    · exact h₁.opened entry hFirst
    · exact (h₁.open_iff entry.1).mp (h₂.opened entry hSecond)
  names_eq := by
    rw [h₂.names_eq, h₁.names_eq, eraseDups_append_eraseDups, List.map_append, List.append_assoc]
  change?_eq name := by
    rw [h₂.change?_eq, h₁.change?_eq, Journal.detailsOf_append, Change.extend?_append]

theorem change?_eq_added_iff (h : before.Records journal after) (name : String) :
    after.change? name = some .added ↔ before.change? name = some .added := by
  rw [h.change?_eq, Change.extend?_eq_added_iff]

theorem change?_eq_removed_iff (h : before.Records journal after) (name : String) :
    after.change? name = some .removed ↔ before.change? name = some .removed := by
  rw [h.change?_eq, Change.extend?_eq_removed_iff]

theorem detailsOf_eq_nil_of_not_open (h : before.Records journal after) {name : String} (hOpen : ¬ before.Open name) :
    journal.detailsOf name = [] := by
  rw [Journal.detailsOf_eq_nil_iff]
  intro hMem
  obtain ⟨entry, hEntry, rfl⟩ := List.mem_map.mp hMem
  exact hOpen (h.opened entry hEntry)

theorem details_eq (h : before.Records journal after) (name : String) :
    after.details name = before.details name ++ journal.detailsOf name := by
  simp only [details, h.change?_eq]
  cases hBefore : before.change? name with
  | none => cases journal.detailsOf name <;> rfl
  | some change =>
    cases change with
    | added =>
      rw [h.detailsOf_eq_nil_of_not_open (fun hOpen => hOpen.1 hBefore)]
      rfl
    | removed =>
      rw [h.detailsOf_eq_nil_of_not_open (fun hOpen => hOpen.2 hBefore)]
      rfl
    | modified earlier => rfl

/-- However many details are recorded for a name, it is a name once, in its old place or the last one. -/
theorem names_eq_of_ne_nil (l : Ledger) (name : String) {details : List Detail} (h : details ≠ []) :
    (l.names ++ (details.map (name, ·)).map Prod.fst).eraseDups =
      if name ∈ l.names then l.names else l.names ++ [name] := by
  have hNames : (details.map (name, ·)).map Prod.fst = List.replicate details.length name := by
    rw [List.map_map, ← List.map_const']
    rfl
  obtain ⟨count, hCount⟩ := Nat.exists_eq_succ_of_ne_zero (fun hLength => h (List.length_eq_zero_iff.mp hLength))
  rw [eraseDups_append_of_nodup l.nodup_names, hNames, hCount]
  by_cases hMem : name ∈ l.names
  · simp [hMem]
  · simp [hMem, List.replicate_succ, List.eraseDups_cons]

theorem of_amend {name : String} {details : List Detail} (h : l.amend name details = .ok after)
    (hDetails : details ≠ []) : l.Records (details.map (name, ·)) after := by
  have hOpen : l.Open name := exists_amend_iff.mp ⟨after, h⟩
  have hOpened : ∀ entry ∈ details.map (name, ·), l.Open entry.1 := by
    intro entry hEntry
    obtain ⟨detail, _, rfl⟩ := List.mem_map.mp hEntry
    exact hOpen
  unfold amend at h
  split at h
  · rename_i hNone
    cases h
    have hMem : ¬ name ∈ l.names := change?_eq_none_iff.mp hNone
    refine ⟨hOpened, ?_, fun other => ?_⟩
    · rw [names_eq_of_ne_nil l name hDetails, if_neg hMem, names_insert]
    · rw [change?_insert, Journal.detailsOf_map_mk]
      by_cases hName : other = name
      · rw [if_pos hName, if_pos hName.symm, hName, hNone, Change.extend?_none_of_ne_nil hDetails]
      · rw [if_neg hName, if_neg (Ne.symm hName), Change.extend?_nil]
  · rename_i earlier hModified
    cases h
    have hMem : name ∈ l.names := mem_names_iff.mpr ⟨_, hModified⟩
    refine ⟨hOpened, ?_, fun other => ?_⟩
    · rw [names_eq_of_ne_nil l name hDetails, if_pos hMem, names_replace]
    · rw [change?_replace hMem, Journal.detailsOf_map_mk]
      by_cases hName : other = name
      · rw [if_pos hName, if_pos hName.symm, hName, hModified]
        rfl
      · rw [if_neg hName, if_neg (Ne.symm hName), Change.extend?_nil]
  · cases h

end Records

end Ledger

end SchemaChange
