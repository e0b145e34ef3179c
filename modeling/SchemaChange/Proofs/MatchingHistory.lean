import SchemaChange.Proofs.Histories
import SchemaChange.Proofs.ResolvedGraphs
import SchemaChange.Proofs.Stores.Table

/-! # Histories of a matching

Pairs are put into a matching one after the other, and a pair that gives a vertex a second partner is refused. Two tables
hold a matching, one for each direction, and both are changed by a put; after every history they are inverse to each
other. Whether all pairs of a sequence are taken does not depend on their order, and neither does what is found then.
-/
namespace SchemaChange

open History

structure MatchingStore where
  targets : Table Vertex Vertex
  sources : Table Vertex Vertex

namespace MatchingStore

def empty : MatchingStore := ⟨[], []⟩

def target? (s : MatchingStore) (source : Vertex) : Option Vertex := s.targets.get? source

def source? (s : MatchingStore) (target : Vertex) : Option Vertex := s.sources.get? target

def containsSource (s : MatchingStore) (source : Vertex) : Bool := s.targets.any (·.1 = source)

def containsTarget (s : MatchingStore) (target : Vertex) : Bool := s.sources.any (·.1 = target)

def size (s : MatchingStore) : Nat := s.targets.length

/-- Both directions are looked up before one of them is changed. -/
def put (source target : Vertex) : Procedure MatchingStore MatchingConflict Unit := do
  let partner := (← get).target? source
  let origin := (← get).source? target
  if partner.any (· ≠ target) || origin.any (· ≠ source) then throw (.raised ⟨source, target⟩)
  modify fun s => { s with targets := s.targets.set source target }
  modify fun s => { s with sources := s.sources.set target source }

def putPair (pair : Vertex × Vertex) : Procedure MatchingStore MatchingConflict Unit := put pair.1 pair.2

def ofMatching (m : Matching) : MatchingStore := ⟨m.pairs, m.pairs.map Prod.swap⟩

variable {m : Matching} {source target : Vertex}

@[simp] theorem target?_ofMatching : (ofMatching m).target? source = m.target? source := rfl

@[simp] theorem source?_ofMatching : (ofMatching m).source? target = m.source? target :=
  Table.get?_ofList m.pairs Prod.snd Prod.fst target

theorem containsSource_ofMatching : (ofMatching m).containsSource source = true ↔
    ∃ target, m.target? source = some target := by
  simp [containsSource, ofMatching, Matching.target?_eq_some_iff]

theorem containsTarget_ofMatching : (ofMatching m).containsTarget target = true ↔
    ∃ source, m.source? target = some source := by
  simp [containsTarget, ofMatching, Matching.source?_eq_some_iff]

end MatchingStore

namespace Matching

def putPair (m : Matching) (pair : Vertex × Vertex) : Except MatchingConflict Matching := m.put pair.1 pair.2

variable {m m' : Matching} {source target : Vertex}

theorem put_of_mem (h : (source, target) ∈ m.pairs) : m.put source target = .ok m := by
  have hTarget := target?_eq_some_iff.mpr h
  unfold put
  split
  · rename_i hNone _
    cases hNone.symm.trans hTarget
  · rename_i partner hPartner
    cases hPartner.symm.trans hTarget
    exact if_pos rfl
  · rename_i hNone _
    cases hNone.symm.trans hTarget

theorem exists_put_of_none (hTarget : m.target? source = none) (hSource : m.source? target = none) :
    ∃ m', m.put source target = .ok m' ∧ m'.pairs = m.pairs ++ [(source, target)] := by
  unfold put
  split
  · exact ⟨_, rfl, rfl⟩
  · rename_i hSome
    cases hTarget.symm.trans hSome
  · rename_i hSome
    cases hSource.symm.trans hSome

theorem exists_put_error_iff : (∃ error, m.put source target = .error error) ↔
    ¬ ∀ pair ∈ m.pairs, pair.1 = source ↔ pair.2 = target := by
  rw [← exists_put_iff]
  cases m.put source target <;> simp

theorem eq_of_put_error {error : MatchingConflict} (h : m.put source target = .error error) : error = ⟨source, target⟩ := by
  unfold put at h
  split at h
  · cases h
  · split at h
    · cases h
    · cases h
      rfl
  · cases h
    rfl

theorem exists_put_error_iff_partner : (∃ error, m.put source target = .error error) ↔
    (∃ partner, m.target? source = some partner ∧ partner ≠ target) ∨
      ∃ origin, m.source? target = some origin ∧ origin ≠ source := by
  simp only [exists_put_error_iff, target?_eq_some_iff, source?_eq_some_iff, not_forall, exists_prop, Prod.exists]
  constructor
  · rintro ⟨origin, partner, hMem, hDiffer⟩
    by_cases hSource : origin = source
    · subst hSource
      exact .inl ⟨partner, hMem, fun hTarget => hDiffer ⟨fun _ => hTarget, fun _ => rfl⟩⟩
    · by_cases hTarget : partner = target
      · subst hTarget
        exact .inr ⟨origin, hMem, hSource⟩
      · exact absurd ⟨fun h => absurd h hSource, fun h => absurd h hTarget⟩ hDiffer
  · rintro (⟨partner, hMem, hne⟩ | ⟨origin, hMem, hne⟩)
    · exact ⟨source, partner, hMem, fun h => hne (h.mp rfl)⟩
    · exact ⟨origin, target, hMem, fun h => hne (h.mpr rfl)⟩

end Matching

namespace MatchingStore

variable {m m' : Matching} {source target : Vertex}

theorem perform_put_ofMatching (source target : Vertex) : perform (put source target) (ofMatching m) =
    if (m.target? source).any (· ≠ target) || (m.source? target).any (· ≠ source) then
      (.error (.raised ⟨source, target⟩), ofMatching m)
    else (.ok (), ⟨Table.set m.pairs source target, Table.set (m.pairs.map Prod.swap) target source⟩) := by
  simp only [put, perform_get_bind, target?_ofMatching, source?_ofMatching]
  split <;> rfl

/-- What a put leaves in the tables: a pair that is there already stays where it is. -/
theorem set_ofMatching (h : m.put source target = .ok m') :
    ofMatching m' = ⟨Table.set m.pairs source target, Table.set (m.pairs.map Prod.swap) target source⟩ := by
  have hSwap : (m.pairs.map Prod.swap).map Prod.fst = m.pairs.map Prod.snd := by simp
  -- A pair that is there is set in its place in both tables; otherwise both ends are free, and it comes last.
  by_cases hMem : (source, target) ∈ m.pairs
  · cases (Matching.put_of_mem hMem).symm.trans h
    have hTarget : Table.get? m.pairs source = some target := Matching.target?_eq_some_iff.mpr hMem
    have hSource : Table.get? (m.pairs.map Prod.swap) target = some source :=
      source?_ofMatching.trans (Matching.source?_eq_some_iff.mpr hMem)
    rw [Table.set_of_get? m.sources_nodup hTarget, Table.set_of_get? (hSwap ▸ m.targets_nodup) hSource]
    rfl
  · have hAgree := Matching.exists_put_iff.mp ⟨m', h⟩
    have hTarget : m.target? source = none := by
      rw [Option.eq_none_iff_forall_ne_some]
      intro partner hPartner
      have hPair := Matching.target?_eq_some_iff.mp hPartner
      exact hMem ((hAgree _ hPair).mp rfl ▸ hPair)
    have hSource : m.source? target = none := by
      rw [Option.eq_none_iff_forall_ne_some]
      intro origin hOrigin
      have hPair := Matching.source?_eq_some_iff.mp hOrigin
      exact hMem ((hAgree _ hPair).mpr rfl ▸ hPair)
    obtain ⟨made, hPut, hPairs⟩ := Matching.exists_put_of_none hTarget hSource
    cases hPut.symm.trans h
    have hSwapped : Table.get? (m.pairs.map Prod.swap) target = none := source?_ofMatching.trans hSource
    rw [Table.set_of_none hTarget, Table.set_of_none hSwapped, ofMatching, hPairs, List.map_append]
    rfl

theorem mirrors_putPair : Mirrors putPair Matching.putPair ofMatching := by
  rintro m ⟨source, target⟩
  have hRefused : ((m.target? source).any (· ≠ target) || (m.source? target).any (· ≠ source)) = true ↔
      ∃ error, m.put source target = .error error := by
    rw [Matching.exists_put_error_iff_partner]
    simp [Option.any_eq_true]
  rw [putPair, Matching.putPair, next, Matching.putPair, perform_put_ofMatching]
  cases hPut : m.put source target with
  | ok m' =>
    rw [if_neg (mt hRefused.mp (by simp [hPut])), set_ofMatching hPut]
    rfl
  | error error =>
    rw [if_pos (hRefused.mpr ⟨error, hPut⟩), Matching.eq_of_put_error hPut]
    rfl

/-- The answers to puts on empty tables, and the tables after them. -/
def history (puts : List (Vertex × Vertex)) : List (Guarded MatchingConflict Unit) × MatchingStore :=
  attempts putPair empty puts

end MatchingStore

namespace Matching

/-- No vertex has two partners among the pairs. -/
def Agree (pairs : List (Vertex × Vertex)) : Prop := ∀ p ∈ pairs, ∀ q ∈ pairs, p.1 = q.1 ↔ p.2 = q.2

theorem Agree.of_subset {pairs pairs' : List (Vertex × Vertex)} (h : Agree pairs) (hSub : pairs' ⊆ pairs) : Agree pairs' :=
  fun p hp q hq => h p (hSub hp) q (hSub hq)

/-- The matching has the pairs that were put, and no others. -/
structure MadeOf (puts : List (Vertex × Vertex)) (m : Matching) : Prop where
  agree : Agree puts
  mem_pairs_iff : ∀ pair, pair ∈ m.pairs ↔ pair ∈ puts

theorem admits_putPair : Admits putPair Agree MadeOf where
  agree hMade := hMade.agree
  agree_left hAgree := hAgree.of_subset (List.subset_append_left _ _)
  admitted {puts m pair} hMade hAgree := by
    refine exists_put_iff.mpr fun earlier hEarlier => ?_
    exact hAgree earlier (List.mem_append_left _ ((hMade.mem_pairs_iff earlier).mp hEarlier)) pair (by simp)
  made {puts m pair m'} hMade hPut := by
    have hEach : ∀ earlier ∈ puts, earlier.1 = pair.1 ↔ earlier.2 = pair.2 := fun earlier hEarlier =>
      exists_put_iff.mp ⟨m', hPut⟩ earlier ((hMade.mem_pairs_iff earlier).mpr hEarlier)
    constructor
    · simp only [Agree, List.forall_mem_append, List.forall_mem_singleton]
      refine ⟨fun p hp => ⟨hMade.agree p hp, hEach p hp⟩, fun q hq => ?_, trivial⟩
      rw [eq_comm, hEach q hq, eq_comm]
    · intro earlier
      rw [mem_pairs_of_put hPut, hMade.mem_pairs_iff, List.mem_append, List.mem_singleton]

theorem madeOf_empty : MadeOf [] empty := ⟨by simp [Agree], by simp [empty]⟩

def after (puts : List (Vertex × Vertex)) : Matching := state putPair empty puts

def acceptedPuts (puts : List (Vertex × Vertex)) : List (Vertex × Vertex) := accepted putPair empty puts

theorem madeOf_after (puts : List (Vertex × Vertex)) : MadeOf (acceptedPuts puts) (after puts) :=
  made_accepted madeOf_empty admits_putPair.made puts

theorem after_target?_eq_some_iff {puts : List (Vertex × Vertex)} {source target : Vertex} :
    (after puts).target? source = some target ↔ (source, target) ∈ acceptedPuts puts :=
  target?_eq_some_iff.trans ((madeOf_after puts).mem_pairs_iff _)

theorem after_source?_eq_some_iff {puts : List (Vertex × Vertex)} {source target : Vertex} :
    (after puts).source? target = some source ↔ (source, target) ∈ acceptedPuts puts :=
  source?_eq_some_iff.trans ((madeOf_after puts).mem_pairs_iff _)

theorem size_after (puts : List (Vertex × Vertex)) : (after puts).size = (acceptedPuts puts).eraseDups.length := by
  refine List.Perm.length_eq ((List.perm_ext_iff_of_nodup (after puts).sources_nodup.of_map (nodup_eraseDups _)).mpr ?_)
  intro pair
  rw [(madeOf_after puts).mem_pairs_iff, List.mem_eraseDups]

/-- All puts are accepted exactly if no vertex has two partners among their pairs. -/
theorem forall_answers_iff_agree {puts : List (Vertex × Vertex)} :
    (∀ answer ∈ answers putPair empty puts, answer = .ok ()) ↔ Agree puts := by
  rw [forall_answers_iff]
  exact admits_putPair.exists_foldlM_iff madeOf_empty puts

theorem acceptedPuts_eq_self {puts : List (Vertex × Vertex)} (h : ∀ answer ∈ answers putPair empty puts, answer = .ok ()) :
    acceptedPuts puts = puts := by
  obtain ⟨last, hLoop⟩ := forall_answers_iff.mp h
  exact (foldlM_eq_ok_iff.mp hLoop).1

/-- The same lookups succeed, with the same answers. -/
structure SameLookups (m m' : Matching) : Prop where
  target?_eq : ∀ source, m'.target? source = m.target? source
  source?_eq : ∀ target, m'.source? target = m.source? target
  size_eq : m'.size = m.size

theorem sameLookups_of_perm {puts puts' : List (Vertex × Vertex)} (hPerm : puts.Perm puts')
    (h : ∀ answer ∈ answers putPair empty puts, answer = .ok ())
    (h' : ∀ answer ∈ answers putPair empty puts', answer = .ok ()) : SameLookups (after puts) (after puts') := by
  have hMem : ∀ pair, pair ∈ acceptedPuts puts' ↔ pair ∈ acceptedPuts puts := by
    intro pair
    rw [acceptedPuts_eq_self h, acceptedPuts_eq_self h', hPerm.mem_iff]
  constructor
  · intro source
    ext target
    rw [after_target?_eq_some_iff, after_target?_eq_some_iff, hMem]
  · intro target
    ext source
    rw [after_source?_eq_some_iff, after_source?_eq_some_iff, hMem]
  · refine List.Perm.length_eq ((List.perm_ext_iff_of_nodup (after puts').sources_nodup.of_map
      (after puts).sources_nodup.of_map).mpr fun pair => ?_)
    rw [(madeOf_after puts').mem_pairs_iff, (madeOf_after puts).mem_pairs_iff, hMem]

/-- What puts on an empty matching leave, and how the matching goes on from there. -/
structure OneToOne (puts : List (Vertex × Vertex)) : Prop where
  history_eq : MatchingStore.history puts = ((answers putPair empty puts).map .plain, .ofMatching (after puts))
  lookups_eq : ∀ v, (MatchingStore.history puts).2.target? v = (after puts).target? v ∧
    (MatchingStore.history puts).2.source? v = (after puts).source? v
  target?_iff_source? : ∀ source target,
    (after puts).target? source = some target ↔ (after puts).source? target = some source
  target?_iff_accepted : ∀ source target,
    (after puts).target? source = some target ↔ (source, target) ∈ acceptedPuts puts
  source_unique : ∀ source source' target, (after puts).target? source = some target →
    (after puts).target? source' = some target → source = source'
  target_unique : ∀ source target target', (after puts).source? target = some source →
    (after puts).source? target' = some source → target = target'
  containsSource_iff : ∀ source, (MatchingStore.history puts).2.containsSource source = true ↔
    ∃ target, (after puts).target? source = some target
  containsTarget_iff : ∀ target, (MatchingStore.history puts).2.containsTarget target = true ↔
    ∃ source, (after puts).source? target = some source
  /-- Both tables have an entry for each pair that was accepted, and for a pair that came again only one. -/
  size_eq : (after puts).size = (acceptedPuts puts).eraseDups.length ∧
    (MatchingStore.history puts).2.targets.length = (acceptedPuts puts).eraseDups.length ∧
    (MatchingStore.history puts).2.sources.length = (acceptedPuts puts).eraseDups.length
  put_error_iff : ∀ source target, (∃ error, (after puts).put source target = .error error) ↔
    (∃ partner, (after puts).target? source = some partner ∧ partner ≠ target) ∨
      ∃ origin, (after puts).source? target = some origin ∧ origin ≠ source
  stopped : ∀ pair halt tables,
    perform (MatchingStore.putPair pair) (MatchingStore.history puts).2 = (.error halt, tables) →
      tables = (MatchingStore.history puts).2
  put_again : ∀ pair ∈ acceptedPuts puts, perform (MatchingStore.putPair pair) (MatchingStore.history puts).2 =
    (.ok (), (MatchingStore.history puts).2)
  perm : (∀ answer ∈ answers putPair empty puts, answer = .ok ()) → ∀ puts', puts.Perm puts' →
    (∀ answer ∈ answers putPair empty puts', answer = .ok ()) ∧ SameLookups (after puts) (after puts')

theorem history_eq (puts : List (Vertex × Vertex)) :
    MatchingStore.history puts = ((answers putPair empty puts).map .plain, .ofMatching (after puts)) :=
  MatchingStore.mirrors_putPair.attempts_eq empty puts

/-- Every history of puts on an empty matching leaves one that gives no vertex two partners. -/
theorem oneToOne_of_puts (puts : List (Vertex × Vertex)) : OneToOne puts where
  history_eq := history_eq puts
  lookups_eq v := by simp [history_eq]
  target?_iff_source? source target := after_target?_eq_some_iff.trans after_source?_eq_some_iff.symm
  target?_iff_accepted source target := after_target?_eq_some_iff
  source_unique source source' target h h' := by
    have hSource := source?_eq_some_iff.mpr (target?_eq_some_iff.mp h)
    have hSource' := source?_eq_some_iff.mpr (target?_eq_some_iff.mp h')
    exact Option.some.inj (hSource.symm.trans hSource')
  target_unique source target target' h h' := by
    have hTarget := target?_eq_some_iff.mpr (source?_eq_some_iff.mp h)
    have hTarget' := target?_eq_some_iff.mpr (source?_eq_some_iff.mp h')
    exact Option.some.inj (hTarget.symm.trans hTarget')
  containsSource_iff source := by rw [history_eq, MatchingStore.containsSource_ofMatching]
  containsTarget_iff target := by rw [history_eq, MatchingStore.containsTarget_ofMatching]
  size_eq := by
    rw [history_eq, ← size_after]
    exact ⟨rfl, rfl, List.length_map _⟩
  put_error_iff source target := exists_put_error_iff_partner
  stopped pair halt tables hStopped := by
    rw [history_eq] at hStopped ⊢
    exact (MatchingStore.mirrors_putPair.eq_of_stopped hStopped).1
  put_again pair hPair := by
    have hPut : (after puts).putPair pair = .ok (after puts) := put_of_mem (((madeOf_after puts).mem_pairs_iff pair).mpr hPair)
    rw [history_eq, MatchingStore.mirrors_putPair, next_of_ok hPut, hPut]
    rfl
  perm h puts' hPerm := by
    have hAgree : Agree puts' := (forall_answers_iff_agree.mp h).of_subset hPerm.symm.subset
    have h' := forall_answers_iff_agree.mpr hAgree
    exact ⟨h', sameLookups_of_perm hPerm h h'⟩

end Matching

end SchemaChange
