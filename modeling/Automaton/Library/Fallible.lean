import Mathlib.Tactic.Common

/-!
# Computations that may fail

What it means that a sequence of checks and fallible steps succeeds: every check
passes, and every step returns the value that the next one uses.
-/

namespace Fallible

universe u v

variable {ε : Type u} {α β : Type v}

/-- A sequence succeeds exactly when both parts do. -/
theorem bind_eq_ok {x : Except ε α} {f : α → Except ε β} {b : β} :
    x >>= f = .ok b ↔ ∃ a, x = .ok a ∧ f a = .ok b := by
  cases x with
  | error e => simp [bind, Except.bind]
  | ok a => simp [bind, Except.bind]

/-- A sequence fails with the first part, or with the second one after it. -/
theorem bind_eq_error {x : Except ε α} {f : α → Except ε β} {e : ε} :
    x >>= f = .error e ↔ x = .error e ∨ ∃ a, x = .ok a ∧ f a = .error e := by
  cases x with
  | error e => simp [bind, Except.bind]
  | ok a => simp [bind, Except.bind]

/-- The image of a success is the image of its value. -/
theorem map_eq_ok {x : Except ε α} {f : α → β} {b : β} :
    x.map f = .ok b ↔ ∃ a, x = .ok a ∧ f a = b := by
  cases x with
  | error e => simp [Except.map]
  | ok a => simp [Except.map]

/-- Nothing runs after an error. -/
theorem throw_bind (e : ε) (f : α → Except ε β) : (throw e : Except ε α) >>= f = .error e := rfl

/-- An error is not a success. -/
theorem throw_eq_ok {e : ε} {a : α} : (throw e : Except ε α) = .ok a ↔ False :=
  ⟨nofun, False.elim⟩

/-- A returned value is the result. -/
theorem pure_eq_ok {a b : α} : (pure a : Except ε α) = .ok b ↔ a = b :=
  ⟨fun h => Except.ok.inj h, fun h => h ▸ rfl⟩

/-- A check that passes is left behind. -/
theorem ite_error_eq_ok {c : Prop} [Decidable c] {e : ε} {x : Except ε α} {a : α} :
    (if c then .error e else x) = .ok a ↔ ¬ c ∧ x = .ok a := by
  by_cases hc : c <;> simp [hc]

/-- A check fails, or what follows it. -/
theorem ite_error_eq_error {c : Prop} [Decidable c] {e e' : ε} {x : Except ε α} :
    (if c then .error e else x) = .error e' ↔ (c ∧ e = e') ∨ (¬ c ∧ x = .error e') := by
  by_cases hc : c <;> simp [hc]

/-- A success is not changed by what is done to errors. -/
theorem mapError_eq_ok {ε' : Type u} {x : Except ε α} {f : ε → ε'} {a : α} :
    x.mapError f = .ok a ↔ x = .ok a := by
  cases x <;> simp [Except.mapError]

/-- A loop of checks passes when each of them does. -/
theorem of_forM {γ : Type*} {check : γ → Except ε PUnit} {items : List γ}
    (h : items.forM check = .ok ⟨⟩) : ∀ item ∈ items, check item = .ok ⟨⟩ := by
  induction items with
  | nil => simp
  | cons item items ih =>
    obtain ⟨⟨⟩, hitem, h⟩ := bind_eq_ok.mp h
    rw [List.forall_mem_cons]
    exact ⟨hitem, ih h⟩

/-- The value of a success. -/
theorem toOption_eq_some {x : Except ε α} {a : α} : x.toOption = some a ↔ x = .ok a := by
  cases x with
  | error e => simp [Except.toOption]
  | ok b => simp [Except.toOption]

/-- The parts of a list that is mapped are images. -/
theorem exists_of_mapM {f : α → Except ε β} {inputs : List α} {outputs : List β}
    (h : inputs.mapM f = .ok outputs) : ∀ output ∈ outputs, ∃ input, f input = .ok output := by
  induction inputs generalizing outputs with
  | nil =>
    obtain rfl := Except.ok.inj h
    simp
  | cons input inputs ih =>
    rw [List.mapM_cons] at h
    obtain ⟨output, houtput, h⟩ := bind_eq_ok.mp h
    obtain ⟨rest, hrest, heq⟩ := bind_eq_ok.mp h
    obtain rfl := Except.ok.inj heq
    rw [List.forall_mem_cons]
    exact ⟨⟨input, houtput⟩, ih hrest⟩

/-- A list of images is the image of what they are images of. -/
theorem mapM_eq_self {f : α → Except ε β} {back : β → α} {outputs : List β}
    (h : ∀ output ∈ outputs, f (back output) = .ok output) :
    (outputs.map back).mapM f = .ok outputs := by
  induction outputs with
  | nil => rfl
  | cons output outputs ih =>
    rw [List.forall_mem_cons] at h
    rw [List.map_cons, List.mapM_cons, h.1, ih h.2]
    rfl

/-- All of a list is mapped when each of its elements is. -/
theorem isOk_mapM {f : α → Except ε β} {inputs : List α} :
    (inputs.mapM f).isOk = true ↔ ∀ input ∈ inputs, (f input).isOk = true := by
  induction inputs with
  | nil => simp [pure, Except.pure, Except.isOk, Except.toBool]
  | cons input inputs ih =>
    rw [List.mapM_cons, List.forall_mem_cons, ← ih]
    cases f input with
    | error error => simp [bind, Except.bind, Except.isOk, Except.toBool]
    | ok output =>
      cases inputs.mapM f with
      | error error => simp [bind, Except.bind, Except.isOk, Except.toBool]
      | ok outputs => simp [bind, Except.bind, pure, Except.pure, Except.isOk, Except.toBool]

theorem isOk_iff_exists {x : Except ε α} : x.isOk = true ↔ ∃ a, x = .ok a := by
  cases x with
  | error e => simp [Except.isOk, Except.toBool]
  | ok a => simp [Except.isOk, Except.toBool]

theorem isOk_map {f : α → β} {x : Except ε α} : (x.map f).isOk = x.isOk := by
  cases x <;> rfl

end Fallible
