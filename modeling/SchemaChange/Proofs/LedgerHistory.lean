import SchemaChange.Proofs.Stores.LedgerObjects

/-! # Histories of a ledger

Calls record changes for names or ask for the list of details of a name, and a list that was handed out may be appended
to at any later time. Some calls are refused. A list of details is there exactly for the names with a modification, no
call finds one missing, and a record that was made stays. So what a ledger comes to in the end is known from the calls
that were not refused: each name once, where it was first recorded, with the details appended to its list.
-/
namespace SchemaChange

open History

/-- The classes of changes, as a call records them for a name. -/
inductive ChangeClass where
  | added
  | removed
  | modified
  deriving DecidableEq, Repr

def ChangeClass.change : ChangeClass → List Detail → Change
  | added, _ => .added
  | removed, _ => .removed
  | modified, details => .modified details

@[simp] theorem ChangeClass.bare_change (cls : ChangeClass) (details : List Detail) :
    (cls.change details).bare = cls.change [] := by
  cases cls <;> rfl

structure LedgerMark where
  name : String
  cls : ChangeClass
  deriving DecidableEq, Repr

/-- Each mark once, in the order of first occurrences, with the details that a journal has for its name. -/
def LedgerMark.entries (marks : List LedgerMark) (journal : Journal) : List (String × Change) :=
  marks.eraseDups.map fun mark => (mark.name, mark.cls.change (journal.detailsOf mark.name))

/-- A ledger, and the names whose lists of details were handed out, each as often as it was. -/
structure LedgerSession where
  ledger : Ledger
  handles : List String
  handles_subset : handles ⊆ ledger.modifiedNames

inductive LedgerCall where
  | seed (cls : ChangeClass) (name : String)
  | handOut (name : String)
  /-- Appends to the list that was handed out as the one with this number, counted from zero. -/
  | append (handle : Nat) (detail : Detail)
  deriving DecidableEq, Repr

namespace LedgerSession

def empty : LedgerSession := ⟨.empty, [], List.nil_subset _⟩

/-- The session with the ledger that an entry leaves. -/
def enter (handles : List String) : (entered : Except LedgerError Ledger) →
    (∀ after, entered = .ok after → handles ⊆ after.modifiedNames) → Except LedgerError LedgerSession
  | .ok after, h => .ok ⟨after, handles, h after rfl⟩
  | .error error, _ => .error error.bare

theorem subset_of_seed {s : LedgerSession} {name : String} {change : Change} {after : Ledger}
    (h : s.ledger.seed name change = .ok after) : s.handles ⊆ after.modifiedNames := by
  rw [Ledger.modifiedNames_of_seed h]
  split
  · exact List.subset_append_of_subset_left _ s.handles_subset
  · exact s.handles_subset

theorem subset_of_amend {s : LedgerSession} {name : String} {details : List Detail} {after : Ledger}
    (h : s.ledger.amend name details = .ok after) : s.handles ++ [name] ⊆ after.modifiedNames := by
  rw [Ledger.modifiedNames_of_amend h]
  split
  · rename_i hMem
    exact List.append_subset.mpr ⟨s.handles_subset, by simpa using hMem⟩
  · have hKept : s.handles ⊆ s.ledger.modifiedNames ++ [name] := List.subset_append_of_subset_left _ s.handles_subset
    exact List.append_subset.mpr ⟨hKept, List.subset_append_right ..⟩

def apply (s : LedgerSession) : LedgerCall → Except LedgerError LedgerSession
  | .seed cls name => enter s.handles (s.ledger.seed name (cls.change [])) fun _ => subset_of_seed
  | .handOut name => enter (s.handles ++ [name]) (s.ledger.amend name []) fun _ => subset_of_amend
  | .append handle detail =>
    match s.handles[handle]? with
    | some name => enter s.handles (s.ledger.amend name [detail]) fun _ h => (List.append_subset.mp (subset_of_amend h)).1
    | none => .ok s

section Apply

variable {s : LedgerSession} {cls : ChangeClass} {name : String} {change : Change} {handle : Nat} {earlier : List Detail}

theorem enter_of_ok {handles : List String} {entered : Except LedgerError Ledger} {after : Ledger}
    {h : ∀ after, entered = .ok after → handles ⊆ after.modifiedNames} (hEntered : entered = .ok after) :
    enter handles entered h = .ok ⟨after, handles, h after hEntered⟩ := by
  subst hEntered
  rfl

theorem enter_of_error {handles : List String} {entered : Except LedgerError Ledger} {error : LedgerError}
    {h : ∀ after, entered = .ok after → handles ⊆ after.modifiedNames} (hEntered : entered = .error error) :
    enter handles entered h = .error error.bare := by
  subst hEntered
  rfl

theorem apply_seed_of_some (h : s.ledger.change? name = some change) :
    s.apply (.seed cls name) = .error (.alreadyRecorded change.bare (cls.change [])) :=
  enter_of_error ((Ledger.seed_eq_error_iff _).mpr ⟨change, h, rfl⟩)

theorem apply_seed_of_none (cls : ChangeClass) (h : s.ledger.change? name = none) : ∃ hSubset,
    s.apply (.seed cls name) = .ok ⟨s.ledger.insert name (cls.change []) h, s.handles, hSubset⟩ :=
  ⟨_, enter_of_ok (Ledger.seed_eq_ok_iff.mpr ⟨h, rfl⟩)⟩

theorem apply_handOut_of_none (h : s.ledger.change? name = none) : ∃ hSubset,
    s.apply (.handOut name) = .ok ⟨s.ledger.insert name (.modified []) h, s.handles ++ [name], hSubset⟩ :=
  ⟨_, enter_of_ok (Ledger.amend_of_none h [])⟩

theorem apply_handOut_of_modified (h : s.ledger.change? name = some (.modified earlier)) : ∃ hSubset,
    s.apply (.handOut name) = .ok ⟨s.ledger, s.handles ++ [name], hSubset⟩ :=
  ⟨_, enter_of_ok (Ledger.amend_nil_of_modified h)⟩

theorem apply_handOut_of_final (h : s.ledger.change? name = some change) (hFinal : change.isModified = false) :
    s.apply (.handOut name) = .error (.notModified change.bare) := by
  refine enter_of_error ((Ledger.amend_eq_error_iff _).mpr ⟨change, h, ?_, rfl⟩)
  cases change with
  | added | removed => simp [Ledger.Open, h]
  | modified earlier => cases hFinal

theorem apply_append_of_some (hHandle : s.handles[handle]? = some name)
    (h : s.ledger.change? name = some (.modified earlier)) (detail : Detail) : ∃ hSubset,
    s.apply (.append handle detail) =
      .ok ⟨s.ledger.replace name (.modified (earlier ++ [detail])), s.handles, hSubset⟩ := by
  have hAmend := Ledger.amend_of_modified h [detail]
  refine ⟨(List.append_subset.mp (subset_of_amend hAmend)).1, ?_⟩
  simp only [apply, hHandle]
  exact enter_of_ok hAmend

theorem apply_append_of_none (hHandle : s.handles[handle]? = none) (detail : Detail) :
    s.apply (.append handle detail) = .ok s := by
  simp only [apply, hHandle]

/-- A list that was handed out is that of a modification. -/
theorem modified_of_handle (hHandle : s.handles[handle]? = some name) :
    ∃ earlier, s.ledger.change? name = some (.modified earlier) :=
  Ledger.mem_modifiedNames_iff.mp (s.handles_subset (List.mem_of_getElem? hHandle))

end Apply

end LedgerSession

open LedgerSession

/-- The objects that hold the ledger of a session. -/
def LedgerObjects.ofSession (kind : TypeKind) (s : LedgerSession) : LedgerObjects := .ofLedger kind s.ledger s.handles

namespace LedgerCall

def inPlace : LedgerCall → Procedure LedgerObjects LedgerError Unit
  | seed cls name => LedgerObjects.seed name (cls.change [])
  | handOut name => LedgerObjects.handOut name
  | append handle detail => LedgerObjects.append handle detail

/-- The calls in place answer as those on a ledger do. None of them stops halfway, and no list is missing. -/
theorem mirrors_inPlace (kind : TypeKind) : Mirrors inPlace LedgerSession.apply (.ofSession kind) := by
  rintro s (⟨cls, name⟩ | name | ⟨handle, detail⟩)
  · cases h : s.ledger.change? name with
    | some existing =>
      rw [next_of_error (apply_seed_of_some h), apply_seed_of_some h]
      exact LedgerObjects.perform_seed_ofLedger_of_some h
    | none =>
      obtain ⟨_, hApply⟩ := apply_seed_of_none cls h
      rw [next_of_ok hApply, hApply]
      exact LedgerObjects.perform_seed_ofLedger_of_none h (cls.bare_change []) s.handles_subset
  · cases h : s.ledger.change? name with
    | none =>
      obtain ⟨_, hApply⟩ := apply_handOut_of_none h
      rw [next_of_ok hApply, hApply]
      exact LedgerObjects.perform_handOut_ofLedger_of_none h s.handles_subset
    | some change =>
      cases change with
      | modified earlier =>
        obtain ⟨_, hApply⟩ := apply_handOut_of_modified h
        rw [next_of_ok hApply, hApply]
        exact LedgerObjects.perform_handOut_ofLedger_of_modified h
      | added | removed =>
        have hApply := apply_handOut_of_final h rfl
        rw [next_of_error hApply, hApply]
        exact LedgerObjects.perform_handOut_ofLedger_of_final h rfl
  · cases hHandle : s.handles[handle]? with
    | none =>
      have hApply := apply_append_of_none hHandle detail
      rw [next_of_ok hApply, hApply]
      exact LedgerObjects.perform_append_ofLedger_of_none hHandle detail
    | some name =>
      obtain ⟨earlier, h⟩ := modified_of_handle hHandle
      obtain ⟨_, hApply⟩ := apply_append_of_some hHandle h detail
      rw [next_of_ok hApply, hApply]
      exact LedgerObjects.perform_append_ofLedger_of_some hHandle h detail

/-- The class that a call records for its name, if it is the first one for this name. -/
def mark? : LedgerCall → Option LedgerMark
  | seed cls name => some ⟨name, cls⟩
  | handOut name => some ⟨name, .modified⟩
  | append _ _ => none

def marks (calls : List LedgerCall) : List LedgerMark := calls.filterMap mark?

def handedOut? : LedgerCall → Option String
  | seed _ _ => none
  | handOut name => some name
  | append _ _ => none

/-- The names whose lists the calls hand out, in order. -/
def handedOut (calls : List LedgerCall) : List String := calls.filterMap handedOut?

/-- The detail that a call appends, with the name of its list among those handed out before. -/
def appended (handles : List String) : LedgerCall → Journal
  | seed _ _ => []
  | handOut _ => []
  | append handle detail => (handles[handle]?.map (·, detail)).toList

/-- The details that calls append, given the lists handed out before them. -/
def journal : List String → List LedgerCall → Journal
  | _, [] => []
  | handles, call :: rest => appended handles call ++ journal (handles ++ call.handedOut?.toList) rest

section

variable (calls : List LedgerCall) (call : LedgerCall)

theorem marks_concat : marks (calls ++ [call]) = marks calls ++ call.mark?.toList := by
  rw [marks, List.filterMap_append]
  cases call <;> rfl

theorem handedOut_cons : handedOut (call :: calls) = call.handedOut?.toList ++ handedOut calls := by
  cases call <;> rfl

theorem handedOut_concat : handedOut (calls ++ [call]) = handedOut calls ++ call.handedOut?.toList := by
  rw [handedOut, List.filterMap_append]
  cases call <;> rfl

theorem journal_concat (handles : List String) : journal handles (calls ++ [call]) =
    journal handles calls ++ appended (handles ++ handedOut calls) call := by
  induction calls generalizing handles with
  | nil => simp [journal, handedOut]
  | cons first rest ih =>
    rw [List.cons_append, journal, journal, ih, List.append_assoc, List.append_assoc, handedOut_cons]

end

theorem mem_marks_of_handedOut {calls : List LedgerCall} {name : String} (h : name ∈ handedOut calls) :
    ⟨name, .modified⟩ ∈ marks calls := by
  obtain ⟨call, hCall, hName⟩ := List.mem_filterMap.mp h
  cases call with
  | seed cls name | append handle detail => cases hName
  | handOut other =>
    cases hName
    exact List.mem_filterMap.mpr ⟨_, hCall, rfl⟩

/-- Details are appended only to lists that were handed out. -/
theorem mem_handedOut_of_journal {calls : List LedgerCall} {handles : List String} {entry : String × Detail}
    (h : entry ∈ journal handles calls) : entry.1 ∈ handles ++ handedOut calls := by
  induction calls generalizing handles with
  | nil => cases h
  | cons call rest ih =>
    rw [journal, List.mem_append] at h
    rcases h with hFirst | hRest
    · cases call with
      | seed cls name | handOut name => cases hFirst
      | append handle detail =>
        obtain ⟨name, hHandle, rfl⟩ : ∃ name, handles[handle]? = some name ∧ (name, detail) = entry := by
          simpa [appended] using hFirst
        exact List.mem_append_left _ (List.mem_of_getElem? hHandle)
    · rw [handedOut_cons, ← List.append_assoc]
      exact ih hRest

end LedgerCall

open LedgerCall

namespace LedgerSession

/-- What calls that were not refused make of an empty ledger: each name once, where it was first recorded, and in the
class recorded then, with the details appended to its list. -/
structure MadeOf (calls : List LedgerCall) (s : LedgerSession) : Prop where
  handles_eq : s.handles = handedOut calls
  entries_eq : s.ledger.entries = LedgerMark.entries (marks calls) (journal [] calls)

namespace MadeOf

variable {calls : List LedgerCall} {call : LedgerCall} {s s' : LedgerSession} {name : String} {cls : ChangeClass}
  {earlier : List Detail}

theorem change?_of_mark (h : MadeOf calls s) (hMark : ⟨name, cls⟩ ∈ marks calls) :
    s.ledger.change? name = some (cls.change ((journal [] calls).detailsOf name)) := by
  rw [Ledger.change?_eq_some_iff, h.entries_eq]
  exact List.mem_map.mpr ⟨⟨name, cls⟩, List.mem_eraseDups.mpr hMark, rfl⟩

theorem exists_mark (h : MadeOf calls s) {change : Change} (hChange : s.ledger.change? name = some change) :
    ∃ cls, ⟨name, cls⟩ ∈ marks calls ∧ change = cls.change ((journal [] calls).detailsOf name) := by
  rw [Ledger.change?_eq_some_iff, h.entries_eq] at hChange
  obtain ⟨⟨_, cls⟩, hMark, hEntry⟩ := List.mem_map.mp hChange
  cases hEntry
  exact ⟨cls, List.mem_eraseDups.mp hMark, rfl⟩

theorem modified_mark (h : MadeOf calls s) (hModified : s.ledger.change? name = some (.modified earlier)) :
    ⟨name, .modified⟩ ∈ marks calls := by
  obtain ⟨cls, hMark, hChange⟩ := h.exists_mark hModified
  cases cls with
  | added | removed => cases hChange
  | modified => exact hMark

theorem detailsOf_eq_nil (h : MadeOf calls s) (hNone : s.ledger.change? name = none) :
    (journal [] calls).detailsOf name = [] := by
  rw [Journal.detailsOf_eq_nil_iff]
  intro hMem
  obtain ⟨entry, hEntry, rfl⟩ := List.mem_map.mp hMem
  have hMark := mem_marks_of_handedOut (mem_handedOut_of_journal hEntry)
  cases hNone.symm.trans (h.change?_of_mark hMark)

/-- The first call for a name makes the last entry. -/
theorem entries_insert (h : MadeOf calls s) (cls : ChangeClass) (hNone : s.ledger.change? name = none) :
    (s.ledger.insert name (cls.change []) hNone).entries =
      LedgerMark.entries (marks calls ++ [⟨name, cls⟩]) (journal [] calls) := by
  have hFresh : ⟨name, cls⟩ ∉ marks calls := fun hMem => by cases hNone.symm.trans (h.change?_of_mark hMem)
  rw [LedgerMark.entries, eraseDups_concat, if_neg hFresh, List.map_append, List.map_singleton, h.detailsOf_eq_nil hNone]
  exact congrArg (· ++ [(name, cls.change [])]) h.entries_eq

/-- A detail that is appended to the list of a modification becomes its last one. -/
theorem entries_replace (h : MadeOf calls s) (hModified : s.ledger.change? name = some (.modified earlier))
    (detail : Detail) : (s.ledger.replace name (.modified (earlier ++ [detail]))).entries =
      LedgerMark.entries (marks calls) (journal [] calls ++ [(name, detail)]) := by
  refine (congrArg (List.map _) h.entries_eq).trans ?_
  rw [LedgerMark.entries, List.map_map]
  apply List.map_congr_left
  rintro ⟨other, cls⟩ hMark
  have hChange := h.change?_of_mark (List.mem_eraseDups.mp hMark)
  by_cases hSame : other = name
  · subst hSame
    cases cls with
    | added | removed => cases hModified.symm.trans hChange
    | modified =>
      cases hModified.symm.trans hChange
      simp [ChangeClass.change, Journal.detailsOf]
  · simp [hSame, Journal.detailsOf, Ne.symm hSame]

/-- A mark that was made before makes no difference. -/
theorem entries_of_mark (h : MadeOf calls s) {mark : LedgerMark} (hMark : mark ∈ marks calls) :
    s.ledger.entries = LedgerMark.entries (marks calls ++ [mark]) (journal [] calls) := by
  rw [LedgerMark.entries, eraseDups_concat, if_pos hMark]
  exact h.entries_eq

theorem of_call (h : MadeOf calls s) (hHandles : s'.handles = s.handles ++ call.handedOut?.toList)
    (hEntries : s'.ledger.entries =
      LedgerMark.entries (marks calls ++ call.mark?.toList) (journal [] calls ++ appended s.handles call)) :
    MadeOf (calls ++ [call]) s' where
  handles_eq := by rw [hHandles, h.handles_eq, handedOut_concat]
  entries_eq := by rw [hEntries, marks_concat, journal_concat, h.handles_eq, List.nil_append]

theorem concat (h : MadeOf calls s) (hCall : s.apply call = .ok s') : MadeOf (calls ++ [call]) s' := by
  cases call with
  | seed cls name =>
    cases hChange : s.ledger.change? name with
    | some change => cases (apply_seed_of_some hChange).symm.trans hCall
    | none =>
      obtain ⟨_, hApply⟩ := apply_seed_of_none cls hChange
      cases hApply.symm.trans hCall
      exact h.of_call (by simp [handedOut?]) (by simpa [mark?, appended] using h.entries_insert cls hChange)
  | handOut name =>
    cases hChange : s.ledger.change? name with
    | none =>
      obtain ⟨_, hApply⟩ := apply_handOut_of_none hChange
      cases hApply.symm.trans hCall
      have hEntries := h.entries_insert .modified hChange
      exact h.of_call rfl (by simpa [mark?, appended, ChangeClass.change] using hEntries)
    | some change =>
      cases change with
      | added | removed => cases (apply_handOut_of_final hChange rfl).symm.trans hCall
      | modified earlier =>
        obtain ⟨_, hApply⟩ := apply_handOut_of_modified hChange
        cases hApply.symm.trans hCall
        have hEntries := h.entries_of_mark (h.modified_mark hChange)
        exact h.of_call rfl (by simpa [mark?, appended] using hEntries)
  | append handle detail =>
    cases hHandle : s.handles[handle]? with
    | none =>
      cases (apply_append_of_none hHandle detail).symm.trans hCall
      exact h.of_call (by simp [handedOut?]) (by simpa [mark?, appended, hHandle] using h.entries_eq)
    | some name =>
      obtain ⟨earlier, hChange⟩ := modified_of_handle hHandle
      obtain ⟨_, hApply⟩ := apply_append_of_some hHandle hChange detail
      cases hApply.symm.trans hCall
      have hEntries := h.entries_replace hChange detail
      exact h.of_call (by simp [handedOut?]) (by simpa [mark?, appended, hHandle] using hEntries)

end MadeOf

theorem madeOf_empty : MadeOf [] empty := ⟨rfl, rfl⟩

/-- The session that calls make of an empty ledger. -/
def after (calls : List LedgerCall) : LedgerSession := state apply empty calls

def acceptedCalls (calls : List LedgerCall) : List LedgerCall := accepted apply empty calls

theorem madeOf_after (calls : List LedgerCall) : MadeOf (acceptedCalls calls) (after calls) :=
  made_accepted madeOf_empty MadeOf.concat calls

/-- What is recorded for a name first stays where it is as the calls go on. -/
theorem marks_prefix_append (calls later : List LedgerCall) :
    (marks (acceptedCalls calls)).eraseDups <+: (marks (acceptedCalls (calls ++ later))).eraseDups := by
  rw [acceptedCalls, acceptedCalls, accepted_append, marks, marks, List.filterMap_append, List.eraseDups_append]
  exact List.prefix_append ..

end LedgerSession

namespace LedgerObjects

/-- The answers to calls on the objects of a new ledger, and the objects after them. -/
def history (kind : TypeKind) (calls : List LedgerCall) : List (Guarded LedgerError Unit) × LedgerObjects :=
  attempts LedgerCall.inPlace (empty kind) calls

variable {kind : TypeKind} {calls : List LedgerCall} {s : LedgerSession}

theorem history_eq (kind : TypeKind) (calls : List LedgerCall) :
    history kind calls = ((answers apply LedgerSession.empty calls).map .plain, ofSession kind (after calls)) :=
  (mirrors_inPlace kind).attempts_eq LedgerSession.empty calls

theorem records_of_madeOf (h : MadeOf calls s) : (ofSession kind s).records =
    (marks calls).eraseDups.map fun mark => (mark.name, ⟨kind, mark.name, mark.cls.change []⟩) := by
  rw [ofSession, ofLedger, h.entries_eq, LedgerMark.entries, List.map_map]
  simp [Function.comp_def]

theorem modifiedNames_of_madeOf (h : MadeOf calls s) : s.ledger.modifiedNames =
    ((marks calls).eraseDups.filter (·.cls = .modified)).map (·.name) := by
  have hClass : ∀ mark : LedgerMark,
      (mark.cls.change ((journal [] calls).detailsOf mark.name)).isModified = decide (mark.cls = .modified) := by
    rintro ⟨name, cls⟩
    cases cls <;> rfl
  rw [Ledger.modifiedNames, h.entries_eq, LedgerMark.entries, List.filter_map, List.map_map]
  simp [Function.comp_def, hClass]

/-- As the calls go on, no record is replaced or removed, and new ones come behind. -/
theorem records_prefix_append (kind : TypeKind) (calls later : List LedgerCall) :
    (history kind calls).2.records <+: (history kind (calls ++ later)).2.records := by
  rw [history_eq, history_eq, records_of_madeOf (madeOf_after calls), records_of_madeOf (madeOf_after (calls ++ later))]
  exact (marks_prefix_append calls later).map _

/-- As the calls go on, a name keeps its list. -/
theorem places_prefix_append (kind : TypeKind) (calls later : List LedgerCall) :
    (history kind calls).2.places <+: (history kind (calls ++ later)).2.places := by
  have hNames : (after calls).ledger.modifiedNames <+: (after (calls ++ later)).ledger.modifiedNames := by
    rw [modifiedNames_of_madeOf (madeOf_after calls), modifiedNames_of_madeOf (madeOf_after (calls ++ later))]
    exact ((marks_prefix_append calls later).filter _).map _
  obtain ⟨new, hNew⟩ := hNames
  rw [history_eq, history_eq, ofSession, ofSession, ofLedger, ofLedger, ← hNew, Table.places_append]
  exact List.prefix_append ..

end LedgerObjects

namespace Ledger

open LedgerObjects

/-- What calls on a new ledger leave, and how it goes on from there. -/
structure WellKept (kind : TypeKind) (calls : List LedgerCall) : Prop where
  /-- The objects answer as the ledger does and hold it; no call finds a list missing. -/
  history_eq : history kind calls =
    ((answers apply LedgerSession.empty calls).map .plain, ofSession kind (after calls))
  contents_eq : (history kind calls).2.contents = .ofLedger kind (after calls).ledger
  /-- A list is there exactly for the names whose record is a modification, and each of them has its own. -/
  exists_place_iff : ∀ name, (∃ place, (history kind calls).2.places.get? name = some place) ↔
    ∃ record, (history kind calls).2.records.get? name = some record ∧
      (history kind calls).2.isModification record = true
  places_nodup : ((history kind calls).2.places.map Prod.snd).Nodup
  /-- Whoever was handed out a list for a name still holds the list of that name. -/
  handles_eq_place : ∀ (handle : Nat) (name : String), (handedOut (acceptedCalls calls))[handle]? = some name →
    (history kind calls).2.handles[handle]? = (history kind calls).2.places.get? name
  /-- No name has two records, and later calls neither replace nor remove one. -/
  records_nodup : ((history kind calls).2.records.map Prod.fst).Nodup
  records_prefix_append : ∀ later, (history kind calls).2.records <+: (history kind (calls ++ later)).2.records
  places_prefix_append : ∀ later, (history kind calls).2.places <+: (history kind (calls ++ later)).2.places
  change?_final : ∀ later name change, change.isModified = false →
    (after calls).ledger.change? name = some change → (after (calls ++ later)).ledger.change? name = some change
  seed_stops_iff : ∀ cls name halt,
    (perform (LedgerCall.seed cls name).inPlace (history kind calls).2).1 = .error halt ↔
      ∃ record, (history kind calls).2.records.get? name = some record ∧
        halt = .raised (.alreadyRecorded record.change (cls.change []))
  handOut_stops_iff : ∀ name halt,
    (perform (LedgerCall.handOut name).inPlace (history kind calls).2).1 = .error halt ↔
      ∃ record, (history kind calls).2.records.get? name = some record ∧
        (history kind calls).2.isModification record = false ∧ halt = .raised (.notModified record.change)
  append_answers : ∀ handle detail,
    (perform (LedgerCall.append handle detail).inPlace (history kind calls).2).1 = .ok ()
  /-- A call that stops has changed nothing, and the later calls go as if it had not been made. -/
  stopped : ∀ call later halt objects,
    perform call.inPlace (history kind calls).2 = (.error halt, objects) →
      objects = (history kind calls).2 ∧
      (history kind (calls ++ call :: later)).2 = (history kind (calls ++ later)).2 ∧
      ∃ rest, (history kind (calls ++ later)).1 = (history kind calls).1 ++ rest ∧
        (history kind (calls ++ call :: later)).1 = (history kind calls).1 ++ .error halt :: rest
  freeze_eq : ∀ ε : Type, (history kind calls).2.freeze =
    (.ok ((after calls).ledger.toRecords kind) : Guarded ε SchemaChange.Records)
  /-- Each name once, where it was first recorded and in the class recorded then; a modification has the details that
  were appended to its list. -/
  toRecords_eq : (after calls).ledger.toRecords kind =
    (marks (acceptedCalls calls)).eraseDups.map fun mark => (mark.name, ⟨kind, mark.name,
      mark.cls.change ((journal [] (acceptedCalls calls)).detailsOf mark.name)⟩)
  names_nodup : (((after calls).ledger.toRecords kind).map Prod.fst).Nodup

theorem change?_final {calls later : List LedgerCall} {name : String} {change : Change}
    (hFinal : change.isModified = false) (h : (after calls).ledger.change? name = some change) :
    (after (calls ++ later)).ledger.change? name = some change := by
  obtain ⟨cls, hMark, rfl⟩ := (madeOf_after calls).exists_mark h
  have hLater : ⟨name, cls⟩ ∈ marks (acceptedCalls (calls ++ later)) :=
    List.mem_eraseDups.mp ((marks_prefix_append calls later).subset (List.mem_eraseDups.mpr hMark))
  rw [(madeOf_after (calls ++ later)).change?_of_mark hLater]
  cases cls with
  | added | removed => rfl
  | modified => cases hFinal

/-- Every history of calls on a new ledger leaves it well kept. -/
theorem wellKept_of_calls (kind : TypeKind) (calls : List LedgerCall) : WellKept kind calls where
  history_eq := LedgerObjects.history_eq kind calls
  contents_eq := by rw [LedgerObjects.history_eq, ofSession, contents_ofLedger]
  exists_place_iff name := by
    rw [LedgerObjects.history_eq]
    exact LedgerObjects.exists_place_iff
  places_nodup := by
    rw [LedgerObjects.history_eq]
    exact Table.nodup_places _ (nodup_modifiedNames _)
  handles_eq_place handle name h := by
    rw [LedgerObjects.history_eq]
    exact LedgerObjects.handles_eq_place (after calls).handles_subset ((madeOf_after calls).handles_eq ▸ h)
  records_nodup := by
    rw [LedgerObjects.history_eq, ofSession, ofLedger, List.map_map]
    exact (after calls).ledger.nodup_names
  records_prefix_append := LedgerObjects.records_prefix_append kind calls
  places_prefix_append := LedgerObjects.places_prefix_append kind calls
  change?_final _ _ _ := change?_final
  seed_stops_iff cls name halt := by
    rw [LedgerCall.inPlace, perform_seed]
    cases (history kind calls).2.records.get? name <;> simp [eq_comm]
  handOut_stops_iff name halt := by
    rw [LedgerObjects.history_eq]
    exact perform_handOut_stops_iff (after calls).handles_subset
  append_answers _ _ := rfl
  stopped _ _ _ _ := (mirrors_inPlace kind).attempts_of_stopped (s := LedgerSession.empty)
  freeze_eq ε := by rw [LedgerObjects.history_eq, freeze, ofSession, contents_ofLedger, LedgerStore.freeze_ofLedger]
  toRecords_eq := by
    rw [toRecords, (madeOf_after calls).entries_eq, LedgerMark.entries, List.map_map]
    rfl
  names_nodup := by
    rw [toRecords, List.map_map]
    exact (after calls).ledger.nodup_names

end Ledger

end SchemaChange
