import Mathlib.Tactic

/-!
# Labelled transition systems

The states that runs reach, where a run may be restricted to steps that meet a condition,
and the rule that an invariant holds in all of them.
-/

namespace Transition

variable {σ α : Type*}

/-- The states that are reached from a start state by steps. -/
inductive Reachable (start : σ → Prop) (step : σ → α → σ → Prop) : σ → Prop
  | start {s : σ} (hstart : start s) : Reachable start step s
  | step {s t : σ} {a : α} (hreach : Reachable start step s) (hstep : step s a t) :
      Reachable start step t

/-- The steps that meet a condition on the state before them and their label. -/
def Restrict (step : σ → α → σ → Prop) (condition : σ → α → Prop) (s : σ) (a : α) (t : σ) : Prop :=
  step s a t ∧ condition s a

variable {start : σ → Prop} {step : σ → α → σ → Prop}

/-- A state reaches itself. -/
theorem Reachable.self (s : σ) : Reachable (· = s) step s := .start rfl

/-- What holds at the start and is preserved by steps holds in every reachable state. -/
theorem Reachable.invariant {inv : σ → Prop} {s : σ} (hreach : Reachable start step s)
    (hstart : ∀ s, start s → inv s) (hstep : ∀ s a t, inv s → step s a t → inv t) : inv s := by
  induction hreach with
  | start h => exact hstart _ h
  | step _ h ih => exact hstep _ _ _ ih h

/-- More steps reach more states. -/
theorem Reachable.mono {step' : σ → α → σ → Prop} {s : σ} (hreach : Reachable start step s)
    (hstep : ∀ s a t, step s a t → step' s a t) : Reachable start step' s := by
  induction hreach with
  | start h => exact .start h
  | step _ h ih => exact .step ih (hstep _ _ _ h)

section Functions

variable {apply : α → σ → σ} {condition : σ → α → Bool}

/-- The steps of a function. -/
def StepOf (apply : α → σ → σ) (s : σ) (a : α) (t : σ) : Prop := apply a s = t

/-- The state after a sequence of acts. -/
def run (apply : α → σ → σ) (acts : List α) (s : σ) : σ := acts.foldl (fun s a => apply a s) s

theorem run_nil {s : σ} : run apply [] s = s := rfl

theorem run_cons {a : α} {acts : List α} {s : σ} :
    run apply (a :: acts) s = run apply acts (apply a s) := rfl

theorem run_append {first second : List α} {s : σ} :
    run apply (first ++ second) s = run apply second (run apply first s) := List.foldl_append

/-- Every act of a sequence meets a condition on the state before it. -/
def meets (apply : α → σ → σ) (condition : σ → α → Bool) : List α → σ → Bool
  | [], _ => true
  | a :: acts, s => condition s a && meets apply condition acts (apply a s)

/-- A sequence of acts reaches a state. -/
theorem Reachable.run {s : σ} (hreach : Reachable start (StepOf apply) s) (acts : List α) :
    Reachable start (StepOf apply) (run apply acts s) := by
  induction acts generalizing s with
  | nil => exact hreach
  | cons a acts ih => exact ih (hreach.step (a := a) rfl)

/-- A sequence of acts that meet the condition reaches a state by restricted steps. -/
theorem Reachable.run_restrict {s : σ} {acts : List α}
    (hreach : Reachable start (Restrict (StepOf apply) fun s a => condition s a = true) s)
    (hmeets : meets apply condition acts s = true) :
    Reachable start (Restrict (StepOf apply) fun s a => condition s a = true)
      (Transition.run apply acts s) := by
  induction acts generalizing s with
  | nil => exact hreach
  | cons a acts ih =>
    rw [meets, Bool.and_eq_true] at hmeets
    exact ih (hreach.step (a := a) ⟨rfl, hmeets.1⟩) hmeets.2

end Functions

section Conditions

variable {apply : α → σ → σ} {P Q : σ → α → Prop}

/-- Every act of a sequence meets a condition on the state before it. -/
def Along (apply : α → σ → σ) (P : σ → α → Prop) : List α → σ → Prop
  | [], _ => True
  | a :: acts, s => P s a ∧ Along apply P acts (apply a s)

/-- Two conditions on acts hold along the same sequences when they agree in the states of an
invariant that the acts keep that meet them. -/
theorem along_iff {inv : σ → Prop} (hagree : ∀ s a, inv s → (P s a ↔ Q s a))
    (hkeep : ∀ s a, inv s → P s a → inv (apply a s)) {acts : List α} {s : σ} (hs : inv s) :
    Along apply P acts s ↔ Along apply Q acts s := by
  induction acts generalizing s with
  | nil => exact Iff.rfl
  | cons a acts ih =>
    constructor
    · rintro ⟨hact, hrest⟩
      exact ⟨(hagree s a hs).mp hact, (ih (hkeep s a hs hact)).mp hrest⟩
    · rintro ⟨hact, hrest⟩
      have hmeets := (hagree s a hs).mpr hact
      exact ⟨hmeets, (ih (hkeep s a hs hmeets)).mpr hrest⟩

/-- What the acts of a sequence do that meet a condition, where the condition keeps an invariant. -/
theorem Along.of_invariant {inv : σ → Prop} (hstep : ∀ s a, inv s → Q s a → P s a ∧ inv (apply a s))
    {acts : List α} {s : σ} (hs : inv s) (h : Along apply Q acts s) : Along apply P acts s := by
  induction acts generalizing s with
  | nil => trivial
  | cons a acts ih =>
    obtain ⟨hact, hkeep⟩ := hstep s a hs h.1
    exact ⟨hact, ih hkeep h.2⟩

end Conditions

end Transition
