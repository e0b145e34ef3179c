import SchemaChange.Proofs.Admission
import SchemaChange.Proofs.Guarded.Halt

/-! # Histories of calls

A history is a sequence of calls on one state, some of which may be refused. A refused call leaves the state that was
there, so the state is made from the calls that were not refused. A procedure changes a state in place, and where it
stops the changes made so far remain; procedures that mirror the steps of a state leave what the steps leave, and none
of them stops halfway.
-/
namespace SchemaChange

namespace History

variable {ε α σ τ : Type}

section Steps

variable (step : σ → α → Except ε σ)

def next (s : σ) (call : α) : σ :=
  match step s call with
  | .ok s' => s'
  | .error _ => s

def state (s : σ) (calls : List α) : σ := calls.foldl (next step) s

/-- The calls that are not refused, in order. -/
def accepted (s : σ) : List α → List α
  | [] => []
  | call :: rest =>
    match step s call with
    | .ok s' => call :: accepted s' rest
    | .error _ => accepted s rest

/-- What each call answers: that it was done, or why it was refused. -/
def answers (s : σ) : List α → List (Except ε Unit)
  | [] => []
  | call :: rest => (step s call).map (fun _ => ()) :: answers (next step s call) rest

end Steps

variable {step : σ → α → Except ε σ} {s s' : σ} {call : α}

theorem next_of_ok (h : step s call = .ok s') : next step s call = s' := by
  rw [next, h]

theorem next_of_error {error : ε} (h : step s call = .error error) : next step s call = s := by
  rw [next, h]

theorem state_cons (rest : List α) : state step s (call :: rest) = state step (next step s call) rest := rfl

theorem state_append (calls later : List α) :
    state step s (calls ++ later) = state step (state step s calls) later :=
  List.foldl_append

theorem accepted_append (calls later : List α) :
    accepted step s (calls ++ later) = accepted step s calls ++ accepted step (state step s calls) later := by
  induction calls generalizing s with
  | nil => rfl
  | cons call rest ih =>
    rw [List.cons_append, accepted, accepted, state_cons, next]
    cases step s call with
    | error error => exact ih
    | ok s' => exact congrArg _ ih

theorem answers_append (calls later : List α) :
    answers step s (calls ++ later) = answers step s calls ++ answers step (state step s calls) later := by
  induction calls generalizing s with
  | nil => rfl
  | cons call rest ih => exact congrArg _ ih

/-- The state comes from the accepted calls alone, and none of these is refused. -/
theorem foldlM_accepted (calls : List α) : (accepted step s calls).foldlM step s = .ok (state step s calls) := by
  induction calls generalizing s with
  | nil => rfl
  | cons call rest ih =>
    rw [accepted, state_cons, next]
    cases h : step s call with
    | error error => exact ih
    | ok s' =>
      simp only [List.foldlM_cons, h]
      exact ih

theorem foldlM_eq_ok_iff {calls : List α} {last : σ} :
    calls.foldlM step s = .ok last ↔ accepted step s calls = calls ∧ state step s calls = last := by
  constructor
  · intro h
    induction calls generalizing s with
    | nil =>
      cases h
      exact ⟨rfl, rfl⟩
    | cons call rest ih =>
      rw [List.foldlM_cons, bind_eq_ok_iff] at h
      obtain ⟨s', hStep, hRest⟩ := h
      obtain ⟨hAccepted, hState⟩ := ih hRest
      simp only [accepted, hStep, hAccepted, state_cons, next_of_ok hStep, hState, and_self]
  · rintro ⟨hAccepted, rfl⟩
    have h : (accepted step s calls).foldlM step s = .ok (state step s calls) := foldlM_accepted calls
    rwa [hAccepted] at h

theorem forall_answers_iff {calls : List α} :
    (∀ answer ∈ answers step s calls, answer = .ok ()) ↔ ∃ last, calls.foldlM step s = .ok last := by
  induction calls generalizing s with
  | nil => simp [answers, pure, Except.pure]
  | cons call rest ih =>
    rw [answers, List.forall_mem_cons, next]
    simp only [List.foldlM_cons, bind_eq_ok_iff]
    cases h : step s call with
    | error error => simp [Except.map]
    | ok s' => simp [Except.map, ih]

/-- What every accepted call keeps of the calls before it and the state, a history keeps. -/
theorem made_accepted {Made : List α → σ → Prop} (hStart : Made [] s)
    (hStep : ∀ {calls s call s'}, Made calls s → step s call = .ok s' → Made (calls ++ [call]) s') (calls : List α) :
    Made (accepted step s calls) (state step s calls) :=
  made_of_steps hStep hStart (foldlM_accepted calls)

/-- A procedure that changes a state in place. Where it stops, what it has changed so far remains changed. -/
abbrev Procedure (τ ε α : Type) := ExceptT (Halt ε) (StateM τ) α

def perform (procedure : Procedure τ ε Unit) (t : τ) : Guarded ε Unit × τ := procedure.run.run t

section Perform

variable {t : τ}

/-- What is looked up has to be there; if it is not, the procedure breaks. -/
def require (defect : Defect) : Option α → Procedure τ ε α
  | some a => pure a
  | none => throw (.broken defect)

@[simp] theorem require_some (defect : Defect) (a : α) : (require defect (some a) : Procedure τ ε α) = pure a := rfl

@[simp] theorem perform_pure_bind (a : α) (rest : α → Procedure τ ε Unit) :
    perform (pure a >>= rest) t = perform (rest a) t := rfl

@[simp] theorem perform_get_bind (rest : τ → Procedure τ ε Unit) : perform (get >>= rest) t = perform (rest t) t := rfl

@[simp] theorem perform_modify (f : τ → τ) : perform (modify f : Procedure τ ε Unit) t = (.ok (), f t) := rfl

@[simp] theorem perform_modify_bind (f : τ → τ) (rest : Unit → Procedure τ ε Unit) :
    perform (modify f >>= rest) t = perform (rest ()) (f t) := rfl

@[simp] theorem perform_throw (halt : Halt ε) : perform (throw halt : Procedure τ ε Unit) t = (.error halt, t) := rfl

@[simp] theorem perform_throw_bind (halt : Halt ε) (rest : α → Procedure τ ε Unit) :
    perform (throw halt >>= rest) t = (.error halt, t) := rfl

end Perform

/-- Calls one after the other. One that stops does not keep the later ones from being made. -/
def attempts (exec : α → Procedure τ ε Unit) (t : τ) : List α → List (Guarded ε Unit) × τ
  | [] => ([], t)
  | call :: rest =>
    let (answer, t') := perform (exec call) t
    let (later, last) := attempts exec t' rest
    (answer :: later, last)

/-- On the states that stand for those of the steps, procedures answer as the steps do and leave what these leave. -/
def Mirrors (exec : α → Procedure τ ε Unit) (step : σ → α → Except ε σ) (embed : σ → τ) : Prop :=
  ∀ s call, perform (exec call) (embed s) =
    (.plain ((step s call).map fun _ => ()), embed (next step s call))

namespace Mirrors

variable {exec : α → Procedure τ ε Unit} {embed : σ → τ} (h : Mirrors exec step embed)
include h

theorem attempts_eq (s : σ) (calls : List α) : attempts exec (embed s) calls =
    ((answers step s calls).map .plain, embed (state step s calls)) := by
  induction calls generalizing s with
  | nil => rfl
  | cons call rest ih => simp only [attempts, h s call, ih, answers, List.map_cons, state_cons]

/-- A procedure that stops mirrors a refused call, so it has changed nothing. -/
theorem eq_of_stopped {halt : Halt ε} {t : τ} (hStopped : perform (exec call) (embed s) = (.error halt, t)) :
    t = embed s ∧ next step s call = s ∧ (Guarded.plain ((step s call).map fun _ => ()) = .error halt) := by
  rw [h] at hStopped
  obtain ⟨hAnswer, rfl⟩ := Prod.mk.inj hStopped
  cases hStep : step s call with
  | ok s' =>
    rw [hStep] at hAnswer
    cases hAnswer
  | error error =>
    rw [next_of_error hStep]
    exact ⟨rfl, rfl, hStep ▸ hAnswer⟩

/-- The later calls go as if the call that stopped had not been made. -/
theorem attempts_of_stopped {calls later : List α} {halt : Halt ε} {t : τ}
    (hStopped : perform (exec call) (attempts exec (embed s) calls).2 = (.error halt, t)) :
    t = (attempts exec (embed s) calls).2 ∧
      (attempts exec (embed s) (calls ++ call :: later)).2 = (attempts exec (embed s) (calls ++ later)).2 ∧
      ∃ rest, (attempts exec (embed s) (calls ++ later)).1 = (attempts exec (embed s) calls).1 ++ rest ∧
        (attempts exec (embed s) (calls ++ call :: later)).1 =
          (attempts exec (embed s) calls).1 ++ .error halt :: rest := by
  simp only [h.attempts_eq] at hStopped ⊢
  obtain ⟨hSame, hNext, hAnswer⟩ := h.eq_of_stopped hStopped
  refine ⟨hSame, ?_, (answers step (state step s calls) later).map .plain, ?_, ?_⟩
  · rw [state_append, state_append, state_cons, hNext]
  · rw [answers_append, List.map_append]
  · rw [answers_append, List.map_append, answers, List.map_cons, hNext, hAnswer]

end Mirrors

end History

end SchemaChange
