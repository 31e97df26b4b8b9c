import Mathlib.Data.List.GetD
import Mathlib.Tactic

/-!
# Keccak

The permutation of 1600 bits in 24 rounds and the sponge over it, bit by bit as the standard has
them: a state is five by five lanes of 64 bits, the offsets of the rotations come from a walk over
the lanes, and the round constants from a shift register.
-/

namespace Keccak

/-- A state: the bit at each place of each lane. -/
abbrev State := Fin 5 → Fin 5 → Fin 64 → Bool

section Steps

/-- The parity of a column. -/
def columnParity (A : State) (x : Fin 5) (z : Fin 64) : Bool :=
  A x 0 z ^^ A x 1 z ^^ A x 2 z ^^ A x 3 z ^^ A x 4 z

/-- Each bit is added to the parities of two columns. -/
def theta (A : State) : State := fun x y z =>
  A x y z ^^ (columnParity A (x - 1) z ^^ columnParity A (x + 1) (z - 1))

/-- The lanes other than the first one in the order of their rotations. -/
def walk : ℕ → Fin 5 × Fin 5
  | 0 => (1, 0)
  | t + 1 => ((walk t).2, 2 * (walk t).1 + 3 * (walk t).2)

/-- By how much a lane is rotated. -/
def offset (x y : Fin 5) : Fin 64 :=
  ((List.range 24).find? fun t => walk t = (x, y)).elim 0 fun t =>
    Fin.ofNat 64 ((t + 1) * (t + 2) / 2)

/-- The lanes are rotated. -/
def rho (A : State) : State := fun x y z => A x y (z - offset x y)

/-- The lanes change places. -/
def pi (A : State) : State := fun x y z => A (x + 3 * y) x z

/-- The only step that is not linear. -/
def chi (A : State) : State := fun x y z =>
  A x y z ^^ (!A (x + 1) y z && A (x + 2) y z)

/-- The shift register of the round constants. -/
def register : ℕ → List Bool
  | 0 => [true, false, false, false, false, false, false, false]
  | t + 1 =>
    let bits := register t
    let last := bits.getD 7 false
    [last, bits.getD 0 false, bits.getD 1 false, bits.getD 2 false, bits.getD 3 false ^^ last,
      bits.getD 4 false ^^ last, bits.getD 5 false ^^ last, bits.getD 6 false]

/-- A bit of the round constants. -/
def roundBit (t : ℕ) : Bool := (register (t % 255)).getD 0 false

/-- The constant of a round: seven of its bits may be set. -/
def roundConstant (i : ℕ) (z : Fin 64) : Bool :=
  (List.range 7).any fun j => z.val = 2 ^ j - 1 && roundBit (j + 7 * i)

/-- The constant of a round is added to the first lane. -/
def iota (i : ℕ) (A : State) : State := fun x y z =>
  A x y z ^^ (x = 0 && y = 0 && roundConstant i z)

/-- A round. -/
def round (i : ℕ) (A : State) : State := iota i (chi (pi (rho (theta A))))

/-- The permutation. -/
def permutation (A : State) : State := (List.range 24).foldl (fun A i => round i A) A

end Steps

section Sponge

/-- The padding of a message: ones around the least number of zeros that fills a block. -/
def padding (rate length : ℕ) : List Bool :=
  true :: List.replicate ((-(length : ℤ) - 2) % rate).toNat false ++ [true]

/-- A block is added to the first bits of a state. -/
def addBlock (A : State) (block : List Bool) : State := fun x y z =>
  A x y z ^^ block.getD (64 * (5 * y + x) + z) false

/-- The state after the blocks of a padded message. -/
def absorb (rate : ℕ) (padded : List Bool) : State :=
  (List.range (padded.length / rate)).foldl
    (fun A i => permutation (addBlock A ((padded.drop (rate * i)).take rate)))
    fun _ _ _ => false

/-- A bit of a state by its number. -/
def bitAt (A : State) (i : ℕ) : Bool :=
  A (Fin.ofNat 5 (i / 64)) (Fin.ofNat 5 (i / 320)) (Fin.ofNat 64 i)

/-- The first bits of a state. -/
def squeeze (A : State) (count : ℕ) : List Bool := (List.range count).map (bitAt A)

/-- A message with its padding. -/
def padded (rate : ℕ) (message : List Bool) : List Bool := message ++ padding rate message.length

/-- The digest of 256 bits at the rate of 1088 bits, without a suffix for a domain. -/
def keccak256 (message : List Bool) : List Bool := squeeze (absorb 1088 (padded 1088 message)) 256

end Sponge

section Bytes

/-- The bits of bytes, the least significant one of each byte first. -/
def bitsOf (bytes : List UInt8) : List Bool :=
  bytes.flatMap fun byte => (List.range 8).map fun i => byte.toNat.testBit i

variable {bytes others : List UInt8}

theorem bitsOf_cons (byte : UInt8) (bytes : List UInt8) : bitsOf (byte :: bytes) =
    (List.range 8).map (fun i => byte.toNat.testBit i) ++ bitsOf bytes :=
  List.flatMap_cons

theorem bitsOf_append : bitsOf (bytes ++ others) = bitsOf bytes ++ bitsOf others :=
  List.flatMap_append

@[simp] theorem length_bitsOf : (bitsOf bytes).length = 8 * bytes.length := by
  induction bytes with
  | nil => rfl
  | cons byte bytes ih =>
    rw [bitsOf_cons, List.length_append, ih, List.length_map, List.length_range, List.length_cons]
    omega

/-- A bit by its number. -/
theorem getD_bitsOf (i : ℕ) :
    (bitsOf bytes).getD i false = (bytes.getD (i / 8) 0).toNat.testBit (i % 8) := by
  induction bytes generalizing i with
  | nil => simp [bitsOf]
  | cons byte bytes ih =>
    rw [bitsOf_cons]
    by_cases hfirst : i < 8
    · rw [List.getD_append _ _ _ _ (by simpa using hfirst), Nat.div_eq_of_lt hfirst,
        Nat.mod_eq_of_lt hfirst]
      simp [hfirst]
    · have hdiv : i / 8 = (i - 8) / 8 + 1 := by omega
      have hmod : i % 8 = (i - 8) % 8 := by omega
      rw [List.getD_append_right _ _ _ _ (by simpa using hfirst), List.length_map,
        List.length_range, ih, hdiv, hmod, List.getD_cons_succ]

theorem bitsOf_drop (n : ℕ) : (bitsOf bytes).drop (8 * n) = bitsOf (bytes.drop n) := by
  induction n generalizing bytes with
  | zero => rfl
  | succ n ih =>
    cases bytes with
    | nil => simp [bitsOf]
    | cons byte bytes =>
      rw [bitsOf_cons, List.drop_succ_cons, ← ih, show 8 * (n + 1) = 8 + 8 * n by omega,
        ← List.drop_drop]
      rfl

theorem bitsOf_take (n : ℕ) : (bitsOf bytes).take (8 * n) = bitsOf (bytes.take n) := by
  induction n generalizing bytes with
  | zero => rfl
  | succ n ih =>
    cases bytes with
    | nil => simp [bitsOf]
    | cons byte bytes =>
      rw [bitsOf_cons, List.take_succ_cons, bitsOf_cons, ← ih, List.take_append,
        List.take_of_length_le (by simp), List.length_map, List.length_range,
        show 8 * (n + 1) - 8 = 8 * n by omega]

theorem bitsOf_replicate_zero (n : ℕ) :
    bitsOf (List.replicate n 0) = List.replicate (8 * n) false := by
  induction n with
  | zero => rfl
  | succ n ih =>
    rw [List.replicate_succ, bitsOf_cons, ih, show 8 * (n + 1) = 8 + 8 * n by omega,
      List.replicate_add]
    rfl

/-- Bytes are given by their bits. -/
theorem bitsOf_injective : Function.Injective bitsOf := by
  intro bytes others h
  have hlength : bytes.length = others.length := by
    have := congrArg List.length h
    rw [length_bitsOf, length_bitsOf] at this
    omega
  refine List.ext_getElem hlength fun i hi hi' => ?_
  refine UInt8.toNat_inj.mp (Nat.eq_of_testBit_eq fun j => ?_)
  by_cases hj : j < 8
  · have hbit := congrArg (fun bits : List Bool => bits.getD (8 * i + j) false) h
    simp only [getD_bitsOf] at hbit
    rw [show (8 * i + j) / 8 = i by omega, show (8 * i + j) % 8 = j by omega] at hbit
    simpa only [List.getD_eq_getElem?_getD, List.getElem?_eq_getElem hi,
      List.getElem?_eq_getElem hi', Option.getD_some] using hbit
  · have hlarge : 2 ^ 8 ≤ 2 ^ j := Nat.pow_le_pow_right (by decide) (not_lt.mp hj)
    rw [Nat.testBit_lt_two_pow ((UInt8.toNat_lt _).trans_le hlarge),
      Nat.testBit_lt_two_pow ((UInt8.toNat_lt _).trans_le hlarge)]

end Bytes

end Keccak
