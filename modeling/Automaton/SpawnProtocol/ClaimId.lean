import Automaton.Library.Hex
import Automaton.Library.Keccak

/-!
# Claim identifiers

A claim is identified by the digest of the session's identifier, which the shared package computes
itself. Its permutation and its sponge are those of the standard. Its padding is not, for messages
one byte short of a block: there the standard has the first and the last bit of the padding in one
byte, and the package fills a block more.
-/

namespace Automaton.SpawnProtocol

/-- `KECCAK_ROUND_CONSTANTS`. -/
def keccakRoundConstants : List ℕ := [
  0x0000000000000001,
  0x0000000000008082,
  0x800000000000808a,
  0x8000000080008000,
  0x000000000000808b,
  0x0000000080000001,
  0x8000000080008081,
  0x8000000000008009,
  0x000000000000008a,
  0x0000000000000088,
  0x0000000080008009,
  0x000000008000000a,
  0x000000008000808b,
  0x800000000000008b,
  0x8000000000008089,
  0x8000000000008003,
  0x8000000000008002,
  0x8000000000000080,
  0x000000000000800a,
  0x800000008000000a,
  0x8000000080008081,
  0x8000000000008080,
  0x0000000080000001,
  0x8000000080008008]

/-- `KECCAK_ROTATION_OFFSETS`. -/
def keccakRotationOffsets : List ℕ := [
  0, 1, 62, 28, 27,
  36, 44, 6, 55, 20,
  3, 10, 43, 25, 39,
  41, 45, 15, 21, 8,
  18, 2, 61, 56, 14]

/-- `KECCAK_RATE_BYTES`. -/
def keccakRateBytes : ℕ := 136

/-- `KECCAK_MASK_64`. -/
def keccakMask64 : ℕ := 2 ^ 64 - 1

/-- `rotateLeft64`. -/
def rotateLeft64 (value shift : ℕ) : ℕ :=
  if shift = 0 then value &&& keccakMask64
  else ((value <<< shift) ||| (value >>> (64 - shift))) &&& keccakMask64

/-- The complement of a lane, `~lane & KECCAK_MASK_64`. -/
def complement64 (lane : ℕ) : ℕ := (lane ^^^ keccakMask64) &&& keccakMask64

/-- The places that the loops over `x` and `y` go through. -/
def places : List (ℕ × ℕ) := (List.range 5).flatMap fun x => (List.range 5).map fun y => (x, y)

/-- Assignments to the elements of an array, one after the other. -/
def assign (array : List ℕ) (writes : List (ℕ × ℕ)) : List ℕ :=
  writes.foldl (fun array write => array.set write.1 write.2) array

/-- The loop over `columnParity`. -/
def columnParity (state : List ℕ) : List ℕ :=
  (List.range 5).map fun x =>
    state.getD x 0 ^^^ state.getD (x + 5) 0 ^^^ state.getD (x + 10) 0 ^^^ state.getD (x + 15) 0 ^^^
      state.getD (x + 20) 0

/-- The loop over `columnDelta`. -/
def columnDelta (columnParity : List ℕ) : List ℕ :=
  (List.range 5).map fun x =>
    columnParity.getD ((x + 4) % 5) 0 ^^^ rotateLeft64 (columnParity.getD ((x + 1) % 5) 0) 1

/-- The loop that adds `columnDelta` to the state. -/
def addDelta (state columnDelta : List ℕ) : List ℕ :=
  assign state (places.map fun (x, y) =>
    (x + 5 * y, state.getD (x + 5 * y) 0 ^^^ columnDelta.getD x 0))

/-- The loop that writes `lanes`. -/
def rotatedLanes (lanes state : List ℕ) : List ℕ :=
  assign lanes (places.map fun (x, y) =>
    let source := x + 5 * y
    let destination := y + 5 * ((2 * x + 3 * y) % 5)
    (destination, rotateLeft64 (state.getD source 0) (keccakRotationOffsets.getD source 0)))

/-- The loop that writes `lanes` back to the state. -/
def combineLanes (state lanes : List ℕ) : List ℕ :=
  assign state (places.map fun (x, y) =>
    let index := x + 5 * y
    (index, lanes.getD index 0 ^^^ (complement64 (lanes.getD ((x + 1) % 5 + 5 * y) 0) &&&
      lanes.getD ((x + 2) % 5 + 5 * y) 0)))

/-- A round of `keccakF1600`, of the state and the array `lanes`. -/
def keccakRound (arrays : List ℕ × List ℕ) (roundConstant : ℕ) : List ℕ × List ℕ :=
  let mixed := addDelta arrays.1 (columnDelta (columnParity arrays.1))
  let lanes := rotatedLanes arrays.2 mixed
  let state := combineLanes mixed lanes
  (state.set 0 (state.getD 0 0 ^^^ roundConstant), lanes)

/-- `keccakF1600`. -/
def keccakF1600 (state : List ℕ) : List ℕ :=
  (keccakRoundConstants.foldl keccakRound (state, List.replicate 25 0)).1

/-- The loop of `padKeccak`. It ends within a block. -/
def fillBlock : ℕ → List UInt8 → List UInt8
  | 0, padded => padded
  | fuel + 1, padded =>
    if padded.length % keccakRateBytes = keccakRateBytes - 1 then padded
    else fillBlock fuel (padded ++ [0])

/-- `padKeccak`. -/
def padKeccak (bytes : List UInt8) : List UInt8 :=
  fillBlock keccakRateBytes (bytes ++ [0x01]) ++ [0x80]

/-- `readLane`. -/
def readLane (bytes : List UInt8) (offset : ℕ) : ℕ :=
  (List.range 8).foldl
    (fun lane index => lane ||| (bytes.getD (offset + index) 0).toNat <<< (8 * index)) 0

/-- The loop that adds a block to the state. -/
def absorbBlock (state : List ℕ) (block : List UInt8) : List ℕ :=
  assign state ((List.range (keccakRateBytes / 8)).map fun laneIndex =>
    (laneIndex, state.getD laneIndex 0 ^^^ readLane block (laneIndex * 8)))

/-- The state after the blocks of the padded bytes. -/
def absorbBlocks (padded : List UInt8) : List ℕ :=
  (List.range ((padded.length + keccakRateBytes - 1) / keccakRateBytes)).foldl
    (fun state block => keccakF1600
      (absorbBlock state ((padded.drop (block * keccakRateBytes)).take keccakRateBytes)))
    (List.replicate 25 0)

/-- The loop that writes `output`. -/
def outputBytes (state : List ℕ) : List UInt8 :=
  (List.range 4).flatMap fun laneIndex =>
    (List.range 8).map fun byteIndex =>
      UInt8.ofNat ((state.getD laneIndex 0 >>> (8 * byteIndex)) &&& 0xff)

/-- `keccak256`. -/
def keccak256 (bytes : List UInt8) : String :=
  "0x" ++ Hex.encode (outputBytes (absorbBlocks (padKeccak bytes)))

/-- `deriveClaimId`. -/
def deriveClaimId (sessionId : String) : String := keccak256 sessionId.toUTF8.data.toList

section Arrays

variable {array : List ℕ} {writes : List (ℕ × ℕ)}

@[simp] theorem length_assign : (assign array writes).length = array.length := by
  unfold assign
  induction writes generalizing array with
  | nil => rfl
  | cons write writes ih => rw [List.foldl_cons, ih, List.length_set]

/-- An element that is not written stays. -/
theorem getD_assign_of_not_mem {i : ℕ} (h : i ∉ writes.map (·.1)) :
    (assign array writes).getD i 0 = array.getD i 0 := by
  unfold assign
  induction writes generalizing array with
  | nil => rfl
  | cons write writes ih =>
    rw [List.map_cons, List.mem_cons, not_or] at h
    rw [List.foldl_cons, ih h.2]
    simp [List.getD_eq_getElem?_getD, Ne.symm h.1]

/-- Of writes to different elements each is found afterwards. -/
theorem getD_assign {i value : ℕ} (hnodup : (writes.map (·.1)).Nodup)
    (h : (i, value) ∈ writes) (hi : i < array.length) : (assign array writes).getD i 0 = value := by
  induction writes generalizing array with
  | nil => exact absurd h List.not_mem_nil
  | cons write writes ih =>
    obtain ⟨hwrite, hrest⟩ := List.nodup_cons.mp hnodup
    rcases List.mem_cons.mp h with rfl | h
    · have hother := @getD_assign_of_not_mem (array.set i value) _ _ hwrite
      simpa [assign, List.getD_eq_getElem?_getD, hi] using hother
    · exact ih hrest h (by rwa [List.length_set])

/-- The writes of a loop over the places. -/
theorem getD_assign_places (index value : ℕ × ℕ → ℕ) (hnodup : (places.map index).Nodup)
    (hlength : array.length = 25) {place : ℕ × ℕ} (hplace : place ∈ places)
    (hindex : index place < 25) :
    (assign array (places.map fun place => (index place, value place))).getD (index place) 0 =
      value place := by
  refine getD_assign ?_ (List.mem_map.mpr ⟨place, hplace, rfl⟩) (by rwa [hlength])
  rwa [List.map_map]

theorem mem_places (x y : Fin 5) : ((x : ℕ), (y : ℕ)) ∈ places := by
  revert x y
  decide

theorem nodup_lanes : (places.map fun place => place.1 + 5 * place.2).Nodup := by decide

theorem nodup_destinations :
    (places.map fun place => place.2 + 5 * ((2 * place.1 + 3 * place.2) % 5)).Nodup := by
  decide

/-- The writes of a loop to the element of each place. -/
theorem getD_assign_lanes (value : ℕ × ℕ → ℕ) (hlength : array.length = 25) (x y : Fin 5) :
    (assign array (places.map fun place => (place.1 + 5 * place.2, value place))).getD
      (x + 5 * y) 0 = value ((x : ℕ), (y : ℕ)) := by
  have hindex : (x : ℕ) + 5 * y < 25 := by omega
  have hwritten := getD_assign_places (fun place => place.1 + 5 * place.2) value nodup_lanes
    hlength (mem_places x y)
  exact hwritten hindex

end Arrays

section Lanes

/-- The bit of a lane at any place; there are none from the 64th on. -/
def laneBit (lane : Fin 64 → Bool) (z : ℕ) : Bool := if h : z < 64 then lane ⟨z, h⟩ else false

/-- A number has the bits of a lane. -/
def IsLane (value : ℕ) (lane : Fin 64 → Bool) : Prop := ∀ z, value.testBit z = laneBit lane z

variable {value other : ℕ} {lane otherLane : Fin 64 → Bool}

theorem IsLane.xor (h : IsLane value lane) (h' : IsLane other otherLane) :
    IsLane (value ^^^ other) fun z => lane z ^^ otherLane z := by
  intro z
  rw [Nat.testBit_xor, h, h']
  unfold laneBit
  split <;> rfl

theorem IsLane.and (h : IsLane value lane) (h' : IsLane other otherLane) :
    IsLane (value &&& other) fun z => lane z && otherLane z := by
  intro z
  rw [Nat.testBit_and, h, h']
  unfold laneBit
  split <;> rfl

theorem testBit_keccakMask64 (z : ℕ) : keccakMask64.testBit z = decide (z < 64) := by
  unfold keccakMask64
  exact Nat.testBit_two_pow_sub_one 64 z

theorem IsLane.complement (h : IsLane value lane) :
    IsLane (complement64 value) fun z => !lane z := by
  intro z
  rw [complement64, Nat.testBit_and, Nat.testBit_xor, testBit_keccakMask64, h]
  unfold laneBit
  by_cases hz : z < 64 <;> simp [hz]

theorem IsLane.rotate (h : IsLane value lane) {shift : ℕ} (hshift : shift < 64) :
    IsLane (rotateLeft64 value shift) fun z => lane (z - Fin.ofNat 64 shift) := by
  intro z
  unfold laneBit
  by_cases hz : z < 64
  · have hplace : ((⟨z, hz⟩ - Fin.ofNat 64 shift : Fin 64) : ℕ) = (64 - shift + z) % 64 := by
      rw [Fin.sub_def]
      simp [Nat.mod_eq_of_lt hshift]
    rw [dif_pos hz]
    dsimp only
    by_cases hzero : shift = 0
    · have hsame : (⟨z, hz⟩ - Fin.ofNat 64 shift : Fin 64) = ⟨z, hz⟩ := by
        refine Fin.ext ?_
        rw [hplace, hzero]
        dsimp only
        omega
      rw [rotateLeft64, if_pos hzero, Nat.testBit_and, testBit_keccakMask64, h, hsame, laneBit,
        dif_pos hz, decide_eq_true hz, Bool.and_true]
    · rw [rotateLeft64, if_neg hzero, Nat.testBit_and, Nat.testBit_or, Nat.testBit_shiftLeft,
        Nat.testBit_shiftRight, testBit_keccakMask64, h, h, decide_eq_true hz, Bool.and_true]
      by_cases hwrap : z < shift
      · -- the bit comes from the end of the lane
        have hin : 64 - shift + z < 64 := by omega
        have hindex : (⟨z, hz⟩ - Fin.ofNat 64 shift : Fin 64) = ⟨64 - shift + z, hin⟩ := by
          refine Fin.ext ?_
          rw [hplace]
          dsimp only
          omega
        have hbefore : ¬ z ≥ shift := by omega
        rw [hindex, decide_eq_false hbefore, Bool.false_and, Bool.false_or, laneBit, dif_pos hin]
      · have hin : z - shift < 64 := by omega
        have hout : ¬ 64 - shift + z < 64 := by omega
        have hindex : (⟨z, hz⟩ - Fin.ofNat 64 shift : Fin 64) = ⟨z - shift, hin⟩ := by
          refine Fin.ext ?_
          rw [hplace]
          dsimp only
          omega
        have hafter : z ≥ shift := by omega
        rw [hindex, decide_eq_true hafter, Bool.true_and, laneBit, laneBit, dif_pos hin,
          dif_neg hout, Bool.or_false]
  · rw [dif_neg hz, rotateLeft64]
    split <;> rw [Nat.testBit_and, testBit_keccakMask64, decide_eq_false hz, Bool.and_false]

theorem isLane_zero : IsLane 0 fun _ => false := by
  intro z
  rw [Nat.zero_testBit, laneBit]
  split <;> rfl

end Lanes

section Permutation

/-- An array has the lanes of a state. -/
structure Represents (state : List ℕ) (A : Keccak.State) : Prop where
  length : state.length = 25
  lane : ∀ x y : Fin 5, IsLane (state.getD ((x : ℕ) + 5 * (y : ℕ)) 0) (A x y)

variable {state lanes : List ℕ} {A : Keccak.State}

theorem getD_map_range {n i : ℕ} {f : ℕ → ℕ} (h : i < n) :
    ((List.range n).map f).getD i 0 = f i := by
  simp [List.getD_eq_getElem?_getD, h]

theorem Represents.columnParity (h : Represents state A) (x : Fin 5) :
    IsLane ((columnParity state).getD x 0) (Keccak.columnParity A x) := by
  rw [SpawnProtocol.columnParity, getD_map_range x.isLt]
  exact ((((h.lane x 0).xor (h.lane x 1)).xor (h.lane x 2)).xor (h.lane x 3)).xor (h.lane x 4)

theorem Represents.columnDelta (h : Represents state A) (x : Fin 5) :
    IsLane ((columnDelta (SpawnProtocol.columnParity state)).getD x 0) fun z =>
      Keccak.columnParity A (x - 1) z ^^ Keccak.columnParity A (x + 1) (z - 1) := by
  have hbefore : ((x : ℕ) + 4) % 5 = ((x - 1 : Fin 5) : ℕ) := by
    revert x
    decide
  have hafter : ((x : ℕ) + 1) % 5 = ((x + 1 : Fin 5) : ℕ) := by
    revert x
    decide
  rw [SpawnProtocol.columnDelta, getD_map_range x.isLt, hbefore, hafter]
  exact (h.columnParity (x - 1)).xor ((h.columnParity (x + 1)).rotate (by decide))

/-- The loops over columns are `theta`. -/
theorem Represents.addDelta (h : Represents state A) :
    Represents (addDelta state (SpawnProtocol.columnDelta (SpawnProtocol.columnParity state)))
      (Keccak.theta A) where
  length := by rw [SpawnProtocol.addDelta, length_assign, h.length]
  lane x y := by
    have hwrites := getD_assign_lanes (fun place => state.getD (place.1 + 5 * place.2) 0 ^^^
      (SpawnProtocol.columnDelta (SpawnProtocol.columnParity state)).getD place.1 0) h.length x y
    have hloop : SpawnProtocol.addDelta state
        (SpawnProtocol.columnDelta (SpawnProtocol.columnParity state)) =
      assign state (places.map fun place => (place.1 + 5 * place.2,
        state.getD (place.1 + 5 * place.2) 0 ^^^
          (SpawnProtocol.columnDelta (SpawnProtocol.columnParity state)).getD place.1 0)) := rfl
    rw [hloop, hwrites]
    exact (h.lane x y).xor (h.columnDelta x)

theorem offset_eq (x y : Fin 5) : Fin.ofNat 64 (keccakRotationOffsets.getD (x + 5 * y) 0) =
    Keccak.offset x y ∧ keccakRotationOffsets.getD (x + 5 * y) 0 < 64 := by
  revert x y
  decide

/-- The loop over the lanes is `rho` and `pi`. -/
theorem Represents.rotatedLanes (h : Represents state A) (hlanes : lanes.length = 25) :
    Represents (rotatedLanes lanes state) (Keccak.pi (Keccak.rho A)) where
  length := by rw [SpawnProtocol.rotatedLanes, length_assign, hlanes]
  lane x y := by
    have hsource : ((x : ℕ) + 5 * (y : ℕ)) = ((x : ℕ) + 5 * ((2 * ((x + 3 * y : Fin 5) : ℕ) +
        3 * (x : ℕ)) % 5)) := by
      revert x y
      decide
    have hdestination : (x : ℕ) + 5 * ((2 * ((x + 3 * y : Fin 5) : ℕ) + 3 * (x : ℕ)) % 5) < 25 := by
      omega
    have hwrites := getD_assign_places
      (fun place => place.2 + 5 * ((2 * place.1 + 3 * place.2) % 5))
      (fun place => rotateLeft64 (state.getD (place.1 + 5 * place.2) 0)
        (keccakRotationOffsets.getD (place.1 + 5 * place.2) 0))
      nodup_destinations hlanes (mem_places (x + 3 * y) x)
    have hlane := hwrites hdestination
    have hloop : SpawnProtocol.rotatedLanes lanes state =
      assign lanes (places.map fun place => (place.2 + 5 * ((2 * place.1 + 3 * place.2) % 5),
        rotateLeft64 (state.getD (place.1 + 5 * place.2) 0)
          (keccakRotationOffsets.getD (place.1 + 5 * place.2) 0))) := rfl
    rw [hloop, hsource, hlane]
    have hoffset := offset_eq (x + 3 * y) x
    have hrotated := (h.lane (x + 3 * y) x).rotate hoffset.2
    rw [hoffset.1] at hrotated
    exact hrotated

/-- The loop over the rows is `chi`. -/
theorem Represents.combineLanes (h : Represents lanes A) (hstate : state.length = 25) :
    Represents (combineLanes state lanes) (Keccak.chi A) where
  length := by rw [SpawnProtocol.combineLanes, length_assign, hstate]
  lane x y := by
    have hnext : ((x : ℕ) + 1) % 5 = ((x + 1 : Fin 5) : ℕ) := by
      revert x
      decide
    have hafter : ((x : ℕ) + 2) % 5 = ((x + 2 : Fin 5) : ℕ) := by
      revert x
      decide
    have hwrites := getD_assign_lanes (fun place => lanes.getD (place.1 + 5 * place.2) 0 ^^^
      (complement64 (lanes.getD ((place.1 + 1) % 5 + 5 * place.2) 0) &&&
        lanes.getD ((place.1 + 2) % 5 + 5 * place.2) 0)) hstate x y
    have hloop : SpawnProtocol.combineLanes state lanes =
      assign state (places.map fun place => (place.1 + 5 * place.2,
        lanes.getD (place.1 + 5 * place.2) 0 ^^^
          (complement64 (lanes.getD ((place.1 + 1) % 5 + 5 * place.2) 0) &&&
            lanes.getD ((place.1 + 2) % 5 + 5 * place.2) 0))) := rfl
    rw [hloop, hwrites]
    dsimp only
    rw [hnext, hafter]
    exact (h.lane x y).xor ((h.lane (x + 1) y).complement.and (h.lane (x + 2) y))

theorem roundConstant_bits : ∀ i < 24, keccakRoundConstants.getD i 0 < 2 ^ 64 ∧
    ∀ z : Fin 64, (keccakRoundConstants.getD i 0).testBit z = Keccak.roundConstant i z := by
  decide +kernel

theorem isLane_roundConstant {i : ℕ} (hi : i < 24) :
    IsLane (keccakRoundConstants.getD i 0) (Keccak.roundConstant i) := by
  obtain ⟨hlt, hbits⟩ := roundConstant_bits i hi
  intro z
  unfold laneBit
  split
  · next hz => exact hbits ⟨z, hz⟩
  · next hz =>
    exact Nat.testBit_lt_two_pow (hlt.trans_le (Nat.pow_le_pow_right (by decide) (not_lt.mp hz)))

/-- The constant of a round changes the first lane. -/
theorem Represents.iota (h : Represents state A) {i : ℕ} (hi : i < 24) :
    Represents (state.set 0 (state.getD 0 0 ^^^ keccakRoundConstants.getD i 0))
      (Keccak.iota i A) where
  length := by rw [List.length_set, h.length]
  lane x y := by
    have hlength := h.length
    by_cases hfirst : x = 0 ∧ y = 0
    · obtain ⟨rfl, rfl⟩ := hfirst
      have hset : (state.set 0 (state.getD 0 0 ^^^ keccakRoundConstants.getD i 0)).getD 0 0 =
          state.getD 0 0 ^^^ keccakRoundConstants.getD i 0 := by
        simp [List.getD_eq_getElem?_getD, hlength]
      have hlane : Keccak.iota i A 0 0 = fun z => A 0 0 z ^^ Keccak.roundConstant i z := by
        funext z
        simp [Keccak.iota]
      change IsLane ((state.set 0 _).getD 0 0) _
      rw [hset, hlane]
      exact (h.lane 0 0).xor (isLane_roundConstant hi)
    · have hindex : (x : ℕ) + 5 * (y : ℕ) ≠ 0 := by
        intro hzero
        refine hfirst ⟨Fin.ext ?_, Fin.ext ?_⟩
        · change (x : ℕ) = 0
          omega
        · change (y : ℕ) = 0
          omega
      have hset : (state.set 0 (state.getD 0 0 ^^^ keccakRoundConstants.getD i 0)).getD
          ((x : ℕ) + 5 * (y : ℕ)) 0 = state.getD ((x : ℕ) + 5 * (y : ℕ)) 0 := by
        simp [List.getD_eq_getElem?_getD, Ne.symm hindex]
      have hlane : Keccak.iota i A x y = A x y := by
        funext z
        have hplace : (decide (x = 0) && decide (y = 0)) = false := by
          rw [← Bool.decide_and]
          exact decide_eq_false hfirst
        rw [Keccak.iota, hplace, Bool.false_and, Bool.xor_false]
      rw [hset, hlane]
      exact h.lane x y

/-- A round of the arrays is a round of the state. -/
theorem Represents.round {arrays : List ℕ × List ℕ} (h : Represents arrays.1 A)
    (hlanes : arrays.2.length = 25) {i : ℕ} (hi : i < 24) :
    Represents (keccakRound arrays (keccakRoundConstants.getD i 0)).1 (Keccak.round i A) ∧
      (keccakRound arrays (keccakRoundConstants.getD i 0)).2.length = 25 := by
  have hmixed := h.addDelta
  have hrotated := hmixed.rotatedLanes hlanes
  have hcombined := (hrotated.combineLanes hmixed.length).iota hi
  unfold keccakRound Keccak.round
  dsimp only
  exact ⟨hcombined, hrotated.length⟩

/-- Rounds of the arrays are rounds of the state. -/
theorem Represents.rounds {arrays : List ℕ × List ℕ} (h : Represents arrays.1 A)
    (hlanes : arrays.2.length = 25) (rounds : List ℕ) (hrounds : ∀ i ∈ rounds, i < 24) :
    Represents (rounds.foldl
        (fun arrays i => keccakRound arrays (keccakRoundConstants.getD i 0)) arrays).1
      (rounds.foldl (fun A i => Keccak.round i A) A) := by
  induction rounds generalizing arrays A with
  | nil => exact h
  | cons i rounds ih =>
    obtain ⟨hround, hnext⟩ := h.round hlanes (hrounds i List.mem_cons_self)
    rw [List.foldl_cons, List.foldl_cons]
    exact ih hround hnext fun i hi => hrounds i (List.mem_cons_of_mem _ hi)

/-- `keccakF1600` is the permutation of the standard. -/
theorem Represents.keccakF1600 (h : Represents state A) :
    Represents (keccakF1600 state) (Keccak.permutation A) := by
  have hconstants : keccakRoundConstants =
      (List.range 24).map fun i => keccakRoundConstants.getD i 0 := by decide
  rw [SpawnProtocol.keccakF1600, hconstants, List.foldl_map]
  have hlanes : ((state, List.replicate 25 0) : List ℕ × List ℕ).2.length = 25 :=
    List.length_replicate
  exact h.rounds hlanes (List.range 24) fun i hi => List.mem_range.mp hi

end Permutation

section Blocks

variable {state : List ℕ} {A : Keccak.State} {bytes block padded : List UInt8}

theorem byte_testBit_of_le {byte : UInt8} {i : ℕ} (h : 8 ≤ i) : byte.toNat.testBit i = false :=
  Nat.testBit_lt_two_pow ((UInt8.toNat_lt byte).trans_le (Nat.pow_le_pow_right (by decide) h))

/-- A lane that is read has the bits of its bytes. -/
theorem testBit_readLane (offset z : ℕ) : (readLane bytes offset).testBit z =
    (decide (z < 64) && (bytes.getD (offset + z / 8) 0).toNat.testBit (z % 8)) := by
  have hread : ∀ n : ℕ, ((List.range n).foldl (fun lane index =>
      lane ||| (bytes.getD (offset + index) 0).toNat <<< (8 * index)) 0).testBit z =
      (decide (z < 8 * n) && (bytes.getD (offset + z / 8) 0).toNat.testBit (z % 8)) := by
    intro n
    induction n with
    | zero => simp
    | succ n ih =>
      rw [List.range_succ, List.foldl_append, List.foldl_cons, List.foldl_nil, Nat.testBit_or, ih,
        Nat.testBit_shiftLeft]
      by_cases hbefore : z < 8 * n
      · have hnot : ¬ z ≥ 8 * n := not_le.mpr hbefore
        have hin : z < 8 * (n + 1) := by omega
        rw [decide_eq_true hbefore, decide_eq_false hnot, decide_eq_true hin, Bool.false_and,
          Bool.or_false]
      · have hafter : z ≥ 8 * n := not_lt.mp hbefore
        rw [decide_eq_false hbefore, decide_eq_true hafter, Bool.false_and, Bool.false_or,
          Bool.true_and]
        by_cases hin : z < 8 * (n + 1)
        · rw [decide_eq_true hin, Bool.true_and, show z / 8 = n by omega,
            show z % 8 = z - 8 * n by omega]
        · rw [decide_eq_false hin, Bool.false_and, byte_testBit_of_le (by omega)]
  exact hread 8

/-- A lane that is read is one of the bits of the block. -/
theorem isLane_readLane (i : ℕ) :
    IsLane (readLane bytes (i * 8)) fun z => (Keccak.bitsOf bytes).getD (64 * i + z) false := by
  intro z
  rw [testBit_readLane]
  unfold laneBit
  by_cases hz : z < 64
  · rw [dif_pos hz, decide_eq_true hz, Bool.true_and]
    dsimp only
    rw [Keccak.getD_bitsOf, show (64 * i + z) / 8 = i * 8 + z / 8 by omega,
      show (64 * i + z) % 8 = z % 8 by omega]
  · rw [dif_neg hz, decide_eq_false hz, Bool.false_and]

/-- A block is added to the state as in the standard. -/
theorem Represents.absorbBlock (h : Represents state A) (hblock : block.length = 136) :
    Represents (absorbBlock state block) (Keccak.addBlock A (Keccak.bitsOf block)) where
  length := by rw [SpawnProtocol.absorbBlock, length_assign, h.length]
  lane x y := by
    have hindex : 5 * (y : ℕ) + (x : ℕ) = (x : ℕ) + 5 * (y : ℕ) := Nat.add_comm _ _
    have hlane : Keccak.addBlock A (Keccak.bitsOf block) x y = fun z =>
        A x y z ^^ (Keccak.bitsOf block).getD (64 * ((x : ℕ) + 5 * (y : ℕ)) + z) false := by
      funext z
      rw [Keccak.addBlock, hindex]
    rw [SpawnProtocol.absorbBlock, hlane]
    by_cases hread : (x : ℕ) + 5 * (y : ℕ) < 17
    · have hwritten : (assign state ((List.range 17).map fun laneIndex => (laneIndex,
          state.getD laneIndex 0 ^^^ readLane block (laneIndex * 8)))).getD
          ((x : ℕ) + 5 * (y : ℕ)) 0 = state.getD ((x : ℕ) + 5 * (y : ℕ)) 0 ^^^
            readLane block (((x : ℕ) + 5 * (y : ℕ)) * 8) := by
        refine getD_assign ?_ ?_ (by rw [h.length]; omega)
        · rw [List.map_map]
          exact (List.map_id (List.range 17)).symm ▸ List.nodup_range
        · exact List.mem_map.mpr ⟨_, List.mem_range.mpr hread, rfl⟩
      have hrate : keccakRateBytes / 8 = 17 := rfl
      rw [hrate, hwritten]
      exact (h.lane x y).xor (isLane_readLane _)
    · have hunwritten : (x : ℕ) + 5 * (y : ℕ) ∉ (((List.range (keccakRateBytes / 8)).map
          fun laneIndex => (laneIndex,
            state.getD laneIndex 0 ^^^ readLane block (laneIndex * 8))).map (·.1)) := by
        rw [List.map_map]
        intro hmem
        obtain ⟨i, hi, hsame⟩ := List.mem_map.mp hmem
        have hsmall : i < 17 := List.mem_range.mp hi
        have hindex : i = (x : ℕ) + 5 * (y : ℕ) := hsame
        omega
      have houtside : (fun z : Fin 64 => A x y z ^^
          (Keccak.bitsOf block).getD (64 * ((x : ℕ) + 5 * (y : ℕ)) + z) false) = A x y := by
        funext z
        rw [List.getD_eq_default _ _ (by rw [Keccak.length_bitsOf, hblock]; omega),
          Bool.xor_false]
      rw [getD_assign_of_not_mem hunwritten, houtside]
      exact h.lane x y

/-- The state after the blocks is that of the standard. -/
theorem represents_absorbBlocks {blocks : ℕ} (hlength : padded.length = 136 * blocks) :
    Represents (absorbBlocks padded) (Keccak.absorb 1088 (Keccak.bitsOf padded)) := by
  have hzero : Represents (List.replicate 25 0) fun _ _ _ => false := by
    refine ⟨List.length_replicate, fun x y => ?_⟩
    have hlane : (List.replicate 25 0).getD ((x : ℕ) + 5 * (y : ℕ)) 0 = 0 := by
      revert x y
      decide
    rw [hlane]
    exact isLane_zero
  have hblocks : ∀ count ≤ blocks, Represents
      ((List.range count).foldl (fun state block => keccakF1600 (SpawnProtocol.absorbBlock state
        ((padded.drop (block * keccakRateBytes)).take keccakRateBytes))) (List.replicate 25 0))
      ((List.range count).foldl (fun A i => Keccak.permutation (Keccak.addBlock A
        (((Keccak.bitsOf padded).drop (1088 * i)).take 1088))) fun _ _ _ => false) := by
    intro count
    induction count with
    | zero => exact fun _ => hzero
    | succ count ih =>
      intro hcount
      have hblock : ((padded.drop (count * keccakRateBytes)).take keccakRateBytes).length =
          136 := by
        rw [List.length_take, List.length_drop, hlength]
        unfold keccakRateBytes
        omega
      have hbits : ((Keccak.bitsOf padded).drop (1088 * count)).take 1088 =
          Keccak.bitsOf ((padded.drop (count * keccakRateBytes)).take keccakRateBytes) := by
        rw [← Keccak.bitsOf_take, ← Keccak.bitsOf_drop]
        unfold keccakRateBytes
        congr 2
        omega
      rw [List.range_succ, List.foldl_append, List.foldl_append, List.foldl_cons, List.foldl_nil,
        List.foldl_cons, List.foldl_nil, hbits]
      exact ((ih (by omega)).absorbBlock hblock).keccakF1600
  have hcount : (padded.length + keccakRateBytes - 1) / keccakRateBytes = blocks := by
    rw [hlength]
    unfold keccakRateBytes
    omega
  have hcountBits : (Keccak.bitsOf padded).length / 1088 = blocks := by
    rw [Keccak.length_bitsOf, hlength]
    omega
  rw [absorbBlocks, Keccak.absorb, hcount, hcountBits]
  exact hblocks blocks (le_refl blocks)

/-- A range in pieces of one length. -/
theorem map_range_mul {α : Type*} (f : ℕ → α) (pieces length : ℕ) :
    (List.range (length * pieces)).map f =
      (List.range pieces).flatMap fun i => (List.range length).map fun j => f (length * i + j) := by
  induction pieces with
  | zero => simp
  | succ pieces ih =>
    rw [Nat.mul_succ, List.range_add, List.map_append, ih, List.range_succ, List.flatMap_append,
      List.map_map]
    simp [Function.comp_def]

/-- A byte of a lane has eight of its bits. -/
theorem testBit_byteOf (lane byteIndex : ℕ) {i : ℕ} (hi : i < 8) :
    (UInt8.ofNat ((lane >>> (8 * byteIndex)) &&& 0xff)).toNat.testBit i =
      lane.testBit (8 * byteIndex + i) := by
  have hmask : (0xff : ℕ) = 2 ^ 8 - 1 := rfl
  have hsmall : (lane >>> (8 * byteIndex)) % 2 ^ 8 < 2 ^ 8 := Nat.mod_lt _ (by decide)
  rw [hmask, Nat.and_two_pow_sub_one_eq_mod, UInt8.toNat_ofNat_of_lt' hsmall,
    Nat.testBit_mod_two_pow, decide_eq_true hi, Bool.true_and, Nat.testBit_shiftRight]

/-- The bytes of the output have the first bits of the state. -/
theorem Represents.outputBytes (h : Represents state A) :
    Keccak.bitsOf (outputBytes state) = Keccak.squeeze A 256 := by
  have hbytes : ∀ lane : ℕ, Keccak.bitsOf ((List.range 8).map fun byteIndex =>
      UInt8.ofNat ((lane >>> (8 * byteIndex)) &&& 0xff)) = (List.range 64).map lane.testBit := by
    intro lane
    rw [show 64 = 8 * 8 from rfl, map_range_mul, Keccak.bitsOf, List.flatMap_map]
    refine List.flatMap_congr fun byteIndex _ => List.map_congr_left fun i hi => ?_
    exact testBit_byteOf lane byteIndex (List.mem_range.mp hi)
  rw [Keccak.squeeze, show 256 = 64 * 4 from rfl, map_range_mul, SpawnProtocol.outputBytes,
    Keccak.bitsOf, List.flatMap_assoc]
  refine List.flatMap_congr fun laneIndex hlane => ?_
  have hlane := List.mem_range.mp hlane
  have hbits := hbytes (state.getD laneIndex 0)
  rw [Keccak.bitsOf] at hbits
  rw [hbits]
  refine List.map_congr_left fun z hz => ?_
  have hz := List.mem_range.mp hz
  have hplace : laneIndex < 5 := by omega
  have hrow : Fin.ofNat 5 ((64 * laneIndex + z) / 64) = ⟨laneIndex, hplace⟩ :=
    Fin.ext (by simp only [Fin.ofNat]; omega)
  have hcolumn : Fin.ofNat 5 ((64 * laneIndex + z) / 320) = 0 :=
    Fin.ext (by simp only [Fin.ofNat]; change _ = 0; omega)
  have hbit : Fin.ofNat 64 (64 * laneIndex + z) = ⟨z, hz⟩ :=
    Fin.ext (by simp only [Fin.ofNat]; omega)
  rw [Keccak.bitAt, hrow, hcolumn, hbit]
  have hstate := h.lane ⟨laneIndex, hplace⟩ 0 z
  rw [laneBit, dif_pos hz] at hstate
  exact hstate

end Blocks

section Padding

variable {bytes padded : List UInt8}

/-- The loop fills the block up to its last byte. -/
theorem fillBlock_eq {zeros fuel : ℕ} (hfuel : zeros ≤ fuel)
    (hfills : (padded.length + zeros) % 136 = 135)
    (hfirst : ∀ count < zeros, (padded.length + count) % 136 ≠ 135) :
    fillBlock fuel padded = padded ++ List.replicate zeros 0 := by
  induction fuel generalizing padded zeros with
  | zero =>
    obtain rfl := Nat.le_zero.mp hfuel
    simp [fillBlock]
  | succ fuel ih =>
    rw [fillBlock]
    cases zeros with
    | zero =>
      have hfull : padded.length % keccakRateBytes = keccakRateBytes - 1 := by
        unfold keccakRateBytes
        omega
      rw [if_pos hfull]
      simp
    | succ zeros =>
      have hnext := hfirst 0 (Nat.succ_pos zeros)
      have hopen : ¬ padded.length % keccakRateBytes = keccakRateBytes - 1 := by
        unfold keccakRateBytes
        omega
      rw [if_neg hopen, ih (Nat.le_of_succ_le_succ hfuel)]
      · rw [List.append_assoc, List.replicate_succ]
        rfl
      · rw [List.length_append, List.length_singleton, ← hfills]
        congr 1
        omega
      · intro count hcount
        have hlater := hfirst (count + 1) (by omega)
        rw [List.length_append, List.length_singleton]
        rwa [show padded.length + 1 + count = padded.length + (count + 1) by omega]

/-- How many zeros the loop appends. -/
def zeroBytes (length : ℕ) : ℕ := (270 - length % 136) % 136

theorem padKeccak_eq (bytes : List UInt8) :
    padKeccak bytes = bytes ++ 0x01 :: List.replicate (zeroBytes bytes.length) 0 ++ [0x80] := by
  have hlength : (bytes ++ [(0x01 : UInt8)]).length = bytes.length + 1 := by simp
  have hfuel : zeroBytes bytes.length ≤ keccakRateBytes := by
    unfold zeroBytes keccakRateBytes
    omega
  rw [padKeccak, fillBlock_eq hfuel]
  · simp
  · rw [hlength]
    unfold zeroBytes
    omega
  · intro count hcount
    rw [hlength]
    unfold zeroBytes at hcount
    omega

/-- The padded bytes are blocks. -/
theorem length_padKeccak (bytes : List UInt8) :
    ∃ blocks, (padKeccak bytes).length = 136 * blocks := by
  refine ⟨(bytes.length + 2 + zeroBytes bytes.length) / 136, ?_⟩
  rw [padKeccak_eq]
  simp only [List.length_append, List.length_cons, List.length_replicate, List.length_nil]
  unfold zeroBytes
  omega

/-- The padding is that of the standard unless a message is one byte short of a block. -/
theorem padKeccak_bits_iff (bytes : List UInt8) :
    Keccak.bitsOf (padKeccak bytes) = Keccak.padded 1088 (Keccak.bitsOf bytes) ↔
      bytes.length % 136 ≠ 135 := by
  have hfirst : Keccak.bitsOf [0x01] = true :: List.replicate 7 false := by decide
  have hlast : Keccak.bitsOf [0x80] = List.replicate 7 false ++ [true] := by decide
  have hbits : Keccak.bitsOf (padKeccak bytes) = Keccak.bitsOf bytes ++
      (true :: List.replicate (14 + 8 * zeroBytes bytes.length) false ++ [true]) := by
    rw [padKeccak_eq, Keccak.bitsOf_append, Keccak.bitsOf_append, ← List.singleton_append,
      Keccak.bitsOf_append, hfirst, Keccak.bitsOf_replicate_zero, hlast,
      show 14 + 8 * zeroBytes bytes.length = 7 + (8 * zeroBytes bytes.length + 7) by omega,
      List.replicate_add, List.replicate_add]
    simp only [List.cons_append, List.append_assoc]
  have hpadding : Keccak.padded 1088 (Keccak.bitsOf bytes) = Keccak.bitsOf bytes ++
      (true :: List.replicate ((-((8 * bytes.length : ℕ) : ℤ) - 2) % 1088).toNat false ++
        [true]) := by
    rw [Keccak.padded, Keccak.padding, Keccak.length_bitsOf]
    rfl
  rw [hbits, hpadding, List.append_cancel_left_eq]
  constructor
  · intro hsame
    have hlength := congrArg List.length hsame
    simp only [List.cons_append, List.length_cons, List.length_append, List.length_replicate,
      List.length_nil] at hlength
    unfold zeroBytes at hlength
    omega
  · intro hresidue
    have hcount : 14 + 8 * zeroBytes bytes.length =
        ((-((8 * bytes.length : ℕ) : ℤ) - 2) % 1088).toNat := by
      unfold zeroBytes
      omega
    rw [hcount]

end Padding

/-- A text is a digest in hexadecimal digits. -/
def IsDigest (text : String) (bits : List Bool) : Prop :=
  ∃ digest : List UInt8, Keccak.bitsOf digest = bits ∧ text = "0x" ++ Hex.encode digest

/-- The digest of padded bytes is that of their bits. -/
theorem bitsOf_outputBytes {padded : List UInt8} {blocks : ℕ}
    (hlength : padded.length = 136 * blocks) :
    Keccak.bitsOf (outputBytes (absorbBlocks padded)) =
      Keccak.squeeze (Keccak.absorb 1088 (Keccak.bitsOf padded)) 256 :=
  (represents_absorbBlocks hlength).outputBytes

theorem isDigest_keccak256 {bytes : List UInt8} (h : bytes.length % 136 ≠ 135) :
    IsDigest (keccak256 bytes) (Keccak.keccak256 (Keccak.bitsOf bytes)) := by
  obtain ⟨blocks, hlength⟩ := length_padKeccak bytes
  refine ⟨outputBytes (absorbBlocks (padKeccak bytes)), ?_, rfl⟩
  rw [bitsOf_outputBytes hlength, (padKeccak_bits_iff bytes).mpr h, Keccak.keccak256]

/-- Bytes are padded as in the standard unless they are one short of a block, and then their digest
and the claim identifier are those of the standard. -/
theorem keccak256_standard (bytes : List UInt8) :
    (Keccak.bitsOf (padKeccak bytes) = Keccak.padded 1088 (Keccak.bitsOf bytes) ↔
      bytes.length % 136 ≠ 135) ∧
    (bytes.length % 136 ≠ 135 →
      IsDigest (keccak256 bytes) (Keccak.keccak256 (Keccak.bitsOf bytes)) ∧
      ∀ sessionId : String, sessionId.toUTF8.data.toList = bytes →
        IsDigest (deriveClaimId sessionId) (Keccak.keccak256 (Keccak.bitsOf bytes))) := by
  refine ⟨padKeccak_bits_iff bytes, fun h => ⟨isDigest_keccak256 h, ?_⟩⟩
  rintro sessionId rfl
  exact isDigest_keccak256 h

/-- The digest of no bytes. -/
theorem keccak256_standard_nil :
    IsDigest (keccak256 []) (Keccak.keccak256 (Keccak.bitsOf [])) ∧
      IsDigest (deriveClaimId "") (Keccak.keccak256 (Keccak.bitsOf [])) := by
  have hnil := (keccak256_standard []).2 (by decide)
  exact ⟨hnil.1, hnil.2 "" rfl⟩

/-- The first digit of a digest is that of its first byte. -/
theorem firstDigit_encode (digest : List UInt8) :
    ("0x" ++ Hex.encode digest).toList.getD 2 '0' =
      Nat.digitChar ((digest.getD 0 0).toNat / 16) := by
  simp only [String.toList_append, Hex.encode, String.toList_ofList]
  cases digest with
  | nil => rfl
  | cons byte digest => rfl

/-- The state after 135 zeros and the first byte of their padding. -/
def zerosState : List ℕ := [
  9545823365051985462, 15604797041465859025, 8550613063910564502, 14634044948698846282,
  18343549128975644458, 2101812213722375123, 4218085891549177657, 11479787551795979532,
  8943745412216363865, 10182748320627862240, 3603640147043322124, 2366644367171247317,
  4153038589482755226, 16001733444887287555, 7927159138505757915, 12306207882587495997,
  3886606571725810448, 17306015809182527069, 12794313590091504822, 5736983888843742287,
  4124061872679129318, 738872973987829163, 1498746238779680610, 9830908967226396165,
  7460939118167907376]

theorem absorbBlock_zeros :
    keccakF1600 (absorbBlock (List.replicate 25 0) (List.replicate 135 0 ++ [0x01])) =
      zerosState := by
  decide +kernel

/-- The padding of 135 zeros is a block more. -/
theorem absorbBlocks_zeros : absorbBlocks (padKeccak (List.replicate 135 0)) =
    keccakF1600 (absorbBlock zerosState (List.replicate 135 0 ++ [0x80])) := by
  have hpadded : padKeccak (List.replicate 135 0) =
      (List.replicate 135 0 ++ [0x01]) ++ (List.replicate 135 0 ++ [0x80]) := by
    have hzeros : zeroBytes 135 = 135 := by decide
    rw [padKeccak_eq, List.length_replicate, hzeros]
    simp only [List.append_assoc, List.cons_append, List.nil_append]
  have hfirst : ((padKeccak (List.replicate 135 0)).drop (0 * keccakRateBytes)).take
      keccakRateBytes = List.replicate 135 0 ++ [0x01] := by
    rw [hpadded]
    decide
  have hsecond : ((padKeccak (List.replicate 135 0)).drop (1 * keccakRateBytes)).take
      keccakRateBytes = List.replicate 135 0 ++ [0x80] := by
    rw [hpadded]
    decide
  have hcount : ((padKeccak (List.replicate 135 0)).length + keccakRateBytes - 1) /
      keccakRateBytes = 2 := by
    rw [hpadded]
    simp only [List.length_append, List.length_replicate, List.length_singleton]
    decide
  rw [absorbBlocks, hcount, show List.range 2 = [0, 1] from rfl, List.foldl_cons, List.foldl_cons,
    List.foldl_nil, hfirst, hsecond, absorbBlock_zeros]

/-- Of bytes one short of a block the digest is not that of the standard. -/
theorem keccak256_zeros_not_standard :
    ¬ IsDigest (keccak256 (List.replicate 135 0))
      (Keccak.keccak256 (Keccak.bitsOf (List.replicate 135 0))) := by
  rintro ⟨digest, hbits, htext⟩
  have hpadded : Keccak.padded 1088 (Keccak.bitsOf (List.replicate 135 0)) =
      Keccak.bitsOf (List.replicate 135 0 ++ [0x81]) := by decide +kernel
  have hlength : (List.replicate 135 (0 : UInt8) ++ [0x81]).length = 136 * 1 := by simp
  rw [Keccak.keccak256, hpadded, ← bitsOf_outputBytes hlength] at hbits
  rw [Keccak.bitsOf_injective hbits, keccak256] at htext
  have hdigits := congrArg (fun text : String => text.toList.getD 2 '0') htext
  have hcode : (outputBytes (absorbBlocks (padKeccak (List.replicate 135 0)))).getD 0 0 = 117 := by
    rw [absorbBlocks_zeros]
    decide +kernel
  have hstandard : (outputBytes (absorbBlocks (List.replicate 135 0 ++ [0x81]))).getD 0 0 = 41 := by
    decide +kernel
  simp only [firstDigit_encode] at hdigits
  rw [hcode, hstandard] at hdigits
  exact absurd hdigits (by decide)

end Automaton.SpawnProtocol
