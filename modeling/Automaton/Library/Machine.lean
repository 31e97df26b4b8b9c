import Mathlib.Tactic

/-!
# Unsigned machine integers

Unsigned machine integers are natural numbers with an explicit largest value.
Saturating subtraction is truncated subtraction on `ℕ`; the other operations
that a width changes are written out here.
-/

namespace Machine

/-- The largest 32-bit unsigned value. -/
def u32Max : ℕ := 2 ^ 32 - 1

/-- The largest 64-bit unsigned value. -/
def u64Max : ℕ := 2 ^ 64 - 1

/-- The largest 128-bit unsigned value. -/
def u128Max : ℕ := 2 ^ 128 - 1

/-- The largest 256-bit unsigned value. -/
def u256Max : ℕ := 2 ^ 256 - 1

/-- Addition that wraps around beyond the largest value. -/
def wrappingAdd (largest a b : ℕ) : ℕ := (a + b) % (largest + 1)

/-- Addition that stops at the largest value. -/
def saturatingAdd (largest a b : ℕ) : ℕ := min (a + b) largest

/-- Multiplication that stops at the largest value. -/
def saturatingMul (largest a b : ℕ) : ℕ := min (a * b) largest

/-- Addition that fails beyond the largest value. -/
def checkedAdd (largest a b : ℕ) : Option ℕ := if a + b ≤ largest then some (a + b) else none

/-- A saturating counter that has counted some events counts one more. -/
theorem saturatingAdd_min {largest n : ℕ} :
    saturatingAdd largest (min n largest) 1 = min (n + 1) largest := by
  unfold saturatingAdd
  omega

/-- A wrapping sum is the sum, when it fits. -/
theorem wrappingAdd_of_le {largest a b : ℕ} (h : a + b ≤ largest) :
    wrappingAdd largest a b = a + b :=
  Nat.mod_eq_of_lt (Nat.lt_succ_of_le h)

/-- Of two values that fit, a sum that does not fit wraps once. -/
theorem wrappingAdd_of_lt {largest a b : ℕ} (ha : a ≤ largest) (hb : b ≤ largest)
    (h : largest < a + b) : wrappingAdd largest a b + (largest + 1) = a + b := by
  unfold wrappingAdd
  rw [Nat.mod_eq_sub_mod h, Nat.mod_eq_of_lt (by omega)]
  omega

/-- A checked sum is the sum, when it fits. -/
theorem checkedAdd_eq_some {largest a b c : ℕ} :
    checkedAdd largest a b = some c ↔ a + b ≤ largest ∧ a + b = c := by
  simp [checkedAdd]

/-- The two builds of a crate: the canister and the host. -/
inductive Target
  | wasm32
  | native64
  deriving DecidableEq

/-- The number of bytes of a `usize`. -/
def Target.usizeBytes : Target → ℕ
  | .wasm32 => 4
  | .native64 => 8

/-- `usize::MAX` of a build. -/
def Target.usizeMax : Target → ℕ
  | .wasm32 => 2 ^ 32 - 1
  | .native64 => 2 ^ 64 - 1

/-- `isize::MAX` of a build, which bounds the length of every vector of bytes. -/
def Target.isizeMax : Target → ℕ
  | .wasm32 => 2 ^ 31 - 1
  | .native64 => 2 ^ 63 - 1

end Machine
