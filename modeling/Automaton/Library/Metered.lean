import Automaton.Library.Fallible

/-!
# Computations that count their calls

A computation asks others, and counts how often it has asked. It may fail at any time; the calls
that it made before count.
-/

/-- A computation from the number of calls that were made before it. -/
def Metered (ε α : Type) : Type := ℕ → Except ε α × ℕ

namespace Metered

variable {ε α β : Type}

/-- Continues with the value of a computation. -/
protected def bind (m : Metered ε α) (f : α → Metered ε β) : Metered ε β := fun n =>
  match m n with
  | (.ok a, calls) => f a calls
  | (.error error, calls) => (.error error, calls)

instance : Monad (Metered ε) where
  pure a := fun n => (.ok a, n)
  bind := Metered.bind

/-- A failure. -/
def fail (error : ε) : Metered ε α := fun n => (.error error, n)

/-- A computation without calls. -/
def lift (result : Except ε α) : Metered ε α := fun n => (result, n)

/-- What is seen without a call, when so many calls were made. -/
def observe (view : ℕ → α) : Metered ε α := fun n => (.ok (view n), n)

/-- A call, whose reply depends on how many were made before. -/
def ask (reply : ℕ → Except ε α) : Metered ε α := fun n => (reply n, n + 1)

/-- A computation whose failure is replaced by a value. -/
def recover (m : Metered ε α) (default : α) : Metered ε α := fun n =>
  (.ok ((m n).1.toOption.getD default), (m n).2)

section Results

variable {m : Metered ε α} {f : α → Metered ε β} {n : ℕ} {a : α} {b : β} {error : ε}
  {result : Except ε α}

@[simp] theorem pure_apply : (pure a : Metered ε α) n = (.ok a, n) := rfl

@[simp] theorem fail_apply : (fail error : Metered ε α) n = (.error error, n) := rfl

@[simp] theorem lift_apply : lift result n = (result, n) := rfl

@[simp] theorem observe_apply {view : ℕ → α} :
    (observe view : Metered ε α) n = (.ok (view n), n) := rfl

@[simp] theorem ask_apply {reply : ℕ → Except ε α} : ask reply n = (reply n, n + 1) := rfl

/-- A computation succeeds when its parts do. -/
theorem bind_eq_ok {calls : ℕ} :
    (m >>= f) n = (.ok b, calls) ↔ ∃ a before, m n = (.ok a, before) ∧
      f a before = (.ok b, calls) := by
  change Metered.bind m f n = _ ↔ _
  unfold Metered.bind
  cases hm : m n with
  | mk result before =>
    cases result with
    | error error => simp
    | ok a =>
      constructor
      · exact fun h => ⟨a, before, rfl, h⟩
      · rintro ⟨a', before', heq, h⟩
        obtain ⟨ha, rfl⟩ := Prod.mk.inj heq
        obtain rfl := Except.ok.inj ha
        exact h

theorem bind_of_ok {calls : ℕ} (h : m n = (.ok a, calls)) : (m >>= f) n = f a calls := by
  change Metered.bind m f n = _
  rw [Metered.bind, h]

theorem bind_of_error {calls : ℕ} (h : m n = (.error error, calls)) :
    (m >>= f) n = (.error error, calls) := by
  change Metered.bind m f n = _
  rw [Metered.bind, h]

theorem lift_eq_ok {calls : ℕ} : lift result n = (.ok a, calls) ↔ result = .ok a ∧ n = calls := by
  rw [lift_apply, Prod.mk.injEq]

theorem ask_eq_ok {reply : ℕ → Except ε α} {calls : ℕ} :
    ask reply n = (.ok a, calls) ↔ reply n = .ok a ∧ n + 1 = calls := by
  rw [ask_apply, Prod.mk.injEq]

theorem observe_eq_ok {view : ℕ → α} {calls : ℕ} :
    (observe view : Metered ε α) n = (.ok a, calls) ↔ view n = a ∧ n = calls := by
  rw [observe_apply, Prod.mk.injEq, Except.ok.injEq]

theorem pure_eq_ok {a' : α} {calls : ℕ} :
    (pure a' : Metered ε α) n = (.ok a, calls) ↔ a' = a ∧ n = calls := by
  rw [pure_apply, Prod.mk.injEq, Except.ok.injEq]

theorem fail_eq_ok {calls : ℕ} : (fail error : Metered ε α) n = (.ok a, calls) ↔ False := by
  simp

/-- A check that passes is left behind. -/
theorem ite_fail_eq_ok {c : Prop} [Decidable c] {calls : ℕ} :
    (if c then fail error else m) n = (.ok a, calls) ↔ ¬ c ∧ m n = (.ok a, calls) := by
  by_cases hc : c <;> simp [hc]

end Results

section Bounds

/-- A computation makes at most so many calls. -/
def Within (calls : ℕ) (m : Metered ε α) : Prop := ∀ n, (m n).2 ≤ n + calls

variable {m : Metered ε α} {f : α → Metered ε β} {j k : ℕ}

theorem Within.mono (h : Within j m) (hle : j ≤ k) : Within k m := by
  intro n
  have hm := h n
  omega

theorem within_pure (a : α) : Within k (pure a : Metered ε α) := fun n => Nat.le_add_right n k

theorem within_fail (error : ε) : Within k (fail error : Metered ε α) :=
  fun n => Nat.le_add_right n k

theorem within_lift (result : Except ε α) : Within k (lift result) :=
  fun n => Nat.le_add_right n k

theorem within_observe (view : ℕ → α) : Within k (observe view : Metered ε α) :=
  fun n => Nat.le_add_right n k

theorem within_ask (reply : ℕ → Except ε α) : Within 1 (ask reply) := fun _ => Nat.le_refl _

/-- The calls of a sequence are those of its parts. -/
theorem Within.bind (hm : Within j m) (hf : ∀ a, Within k (f a)) : Within (j + k) (m >>= f) := by
  intro n
  have hfirst := hm n
  cases hrun : m n with
  | mk result calls =>
    rw [hrun] at hfirst
    cases result with
    | error error =>
      rw [bind_of_error hrun]
      dsimp only at hfirst ⊢
      omega
    | ok a =>
      rw [bind_of_ok hrun]
      have hsecond := hf a calls
      dsimp only at hfirst
      omega

/-- What has no calls adds none. -/
theorem Within.lift_bind {result : Except ε α} (hf : ∀ a, Within k (f a)) :
    Within k (lift result >>= f) := by
  have hnone : Within 0 (lift result) := within_lift result
  have hbind := hnone.bind hf
  rwa [Nat.zero_add] at hbind

theorem Within.ask_bind {reply : ℕ → Except ε α} (hf : ∀ a, Within k (f a)) :
    Within (k + 1) (ask reply >>= f) := by
  have hbind := (within_ask reply).bind hf
  rwa [Nat.add_comm] at hbind

theorem Within.observe_bind {view : ℕ → α} (hf : ∀ a, Within k (f a)) :
    Within k (observe view >>= f) := by
  have hnone : Within 0 (observe view : Metered ε α) := within_observe view
  have hbind := hnone.bind hf
  rwa [Nat.zero_add] at hbind

/-- What is done with a value without calls adds none. -/
theorem Within.bind_free (hm : Within k m) (hf : ∀ a, Within 0 (f a)) : Within k (m >>= f) :=
  hm.bind hf

theorem Within.recover (hm : Within k m) (default : α) : Within k (m.recover default) := hm

end Bounds

end Metered
