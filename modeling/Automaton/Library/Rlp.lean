import Mathlib

/-!
# Recursive length prefix encoding

Byte strings and nested lists of them, their encoding, and a strict decoder: length
prefixes are minimal, a single small byte stands for itself, nothing is left over, and
an integer has no leading zero byte. The decoder takes back every encoding that is
shorter than `2 ^ 64` bytes.
-/

namespace Rlp

/-- The number that big-endian bytes stand for. -/
def ofBigEndian (bytes : List UInt8) : ℕ :=
  bytes.foldl (fun value byte => value * 256 + byte.toNat) 0

/-- The last `width` bytes of a number, the most significant one first. -/
def toBigEndian : ℕ → ℕ → List UInt8
  | 0, _ => []
  | width + 1, value => toBigEndian width (value / 256) ++ [UInt8.ofNat (value % 256)]

/-- Big-endian bytes without the leading zeros. -/
def trimZeros (bytes : List UInt8) : List UInt8 := bytes.dropWhile (· == 0)

/-- The last byte is the least significant one. -/
theorem ofBigEndian_append_singleton (bytes : List UInt8) (byte : UInt8) :
    ofBigEndian (bytes ++ [byte]) = ofBigEndian bytes * 256 + byte.toNat := by
  simp [ofBigEndian, List.foldl_append]

/-- Big-endian bytes stand for a number of their width. -/
theorem ofBigEndian_lt (bytes : List UInt8) : ofBigEndian bytes < 256 ^ bytes.length := by
  induction bytes using List.reverseRecOn with
  | nil => decide
  | append_singleton bytes byte ih =>
    have hbyte := byte.toNat_lt
    rw [ofBigEndian_append_singleton, List.length_append, List.length_singleton, pow_succ]
    omega

/-- The width is the number of bytes. -/
@[simp] theorem length_toBigEndian (width value : ℕ) :
    (toBigEndian width value).length = width := by
  induction width generalizing value with
  | zero => rfl
  | succ width ih => simp [toBigEndian, ih]

/-- Writing and reading a number that fits the width gives it back. -/
theorem ofBigEndian_toBigEndian {width value : ℕ} (hfits : value < 256 ^ width) :
    ofBigEndian (toBigEndian width value) = value := by
  induction width generalizing value with
  | zero => simpa [toBigEndian, ofBigEndian, eq_comm] using hfits
  | succ width ih =>
    have hquotient : value / 256 < 256 ^ width :=
      Nat.div_lt_of_lt_mul (by rwa [pow_succ'] at hfits)
    have hbyte : (UInt8.ofNat (value % 256)).toNat = value % 256 := by
      simp [UInt8.toNat_ofNat']
    rw [toBigEndian, ofBigEndian_append_singleton, ih hquotient, hbyte]
    omega

/-- Leading zeros do not change the number. -/
theorem ofBigEndian_trimZeros (bytes : List UInt8) :
    ofBigEndian (trimZeros bytes) = ofBigEndian bytes := by
  induction bytes with
  | nil => rfl
  | cons byte bytes ih =>
    by_cases hzero : byte = 0
    · subst hzero
      simpa [trimZeros, ofBigEndian] using ih
    · simp [trimZeros, hzero]

/-- Trimmed bytes do not start with a zero. -/
theorem head?_trimZeros_ne (bytes : List UInt8) : (trimZeros bytes).head? ≠ some 0 := by
  intro hhead
  have hfalse := List.head?_dropWhile_not (· == 0) bytes
  simp only [trimZeros] at hhead
  simp [hhead] at hfalse

/-- Trimming does not lengthen. -/
theorem length_trimZeros_le (bytes : List UInt8) : (trimZeros bytes).length ≤ bytes.length :=
  (List.dropWhile_sublist _).length_le

/-- One byte more of a number that fits without it is a leading zero. -/
theorem toBigEndian_succ {width value : ℕ} (hfits : value < 256 ^ width) :
    toBigEndian (width + 1) value = 0 :: toBigEndian width value := by
  induction width generalizing value with
  | zero =>
    obtain rfl : value = 0 := by simpa using hfits
    rfl
  | succ width ih =>
    have hquotient : value / 256 < 256 ^ width :=
      Nat.div_lt_of_lt_mul (by rwa [pow_succ'] at hfits)
    rw [toBigEndian, ih hquotient, toBigEndian, List.cons_append]

/-- A wider machine word gives the same trimmed bytes. -/
theorem trimZeros_toBigEndian_add {width value : ℕ} (hfits : value < 256 ^ width) (extra : ℕ) :
    trimZeros (toBigEndian (width + extra) value) = trimZeros (toBigEndian width value) := by
  induction extra with
  | zero => rfl
  | succ extra ih =>
    have hwide : value < 256 ^ (width + extra) :=
      hfits.trans_le (Nat.pow_le_pow_right (by omega) (by omega))
    rw [← Nat.add_assoc, toBigEndian_succ hwide, ← ih]
    rfl

/-- A byte string or a list of items. -/
inductive Item
  | bytes (content : List UInt8)
  | list (items : List Item)

/-- The bytes of a length above 55 that follow the first byte. -/
def lengthBytes (length : ℕ) : List UInt8 :=
  if length ≤ 55 then [] else trimZeros (toBigEndian 8 length)

/-- What the first byte says beyond its offset. -/
def lengthTag (length : ℕ) : ℕ :=
  if length ≤ 55 then length else 55 + (lengthBytes length).length

/-- The prefix of a payload of the given length. -/
def header (offset length : ℕ) : List UInt8 :=
  UInt8.ofNat (offset + lengthTag length) :: lengthBytes length

/-- The encoding of a byte string. -/
def encodeBytes (content : List UInt8) : List UInt8 :=
  if content.length = 1 ∧ ∀ byte ∈ content, byte.toNat < 0x80 then content
  else header 0x80 content.length ++ content

/-- The encoding of an item. -/
def Item.encode : Item → List UInt8
  | .bytes content => encodeBytes content
  | .list items =>
      let payload := (items.map Item.encode).flatten
      header 0xc0 payload.length ++ payload

/-- The empty list is one byte. -/
@[simp] theorem encode_list_nil : (Item.list []).encode = [0xc0] := by
  rw [Item.encode]
  rfl

/-- The empty string is one byte. -/
@[simp] theorem encode_bytes_nil : (Item.bytes []).encode = [0x80] := by
  rw [Item.encode]
  rfl

/-- The first bytes of a string, if it has that many, and what follows them. -/
def splitOff (count : ℕ) (bytes : List UInt8) : Option (List UInt8 × List UInt8) :=
  if count ≤ bytes.length then some (bytes.take count, bytes.drop count) else none

/-- Reads the payload that a first byte announces. Long lengths are accepted only when
they are above 55 and do not start with a zero byte. -/
def splitPayload (tag : ℕ) (bytes : List UInt8) : Option (List UInt8 × List UInt8) :=
  if tag ≤ 55 then splitOff tag bytes
  else do
    let (digits, rest) ← splitOff (tag - 55) bytes
    if digits.head? = some 0 ∨ ofBigEndian digits ≤ 55 then none
    else splitOff (ofBigEndian digits) rest

mutual

/-- Reads one item from the front of a string. -/
def decodeItem : ℕ → List UInt8 → Option (Item × List UInt8)
  | 0, _ => none
  | _ + 1, [] => none
  | fuel + 1, first :: bytes =>
      if first.toNat < 0x80 then some (.bytes [first], bytes)
      else if first.toNat < 0xc0 then do
        let (content, rest) ← splitPayload (first.toNat - 0x80) bytes
        if content.length = 1 ∧ ∀ byte ∈ content, byte.toNat < 0x80 then none
        else some (.bytes content, rest)
      else do
        let (payload, rest) ← splitPayload (first.toNat - 0xc0) bytes
        let items ← decodeItems fuel payload
        some (.list items, rest)

/-- Reads items until the string is used up. -/
def decodeItems : ℕ → List UInt8 → Option (List Item)
  | 0, _ => none
  | _ + 1, [] => some []
  | fuel + 1, first :: bytes => do
      let (item, rest) ← decodeItem fuel (first :: bytes)
      let items ← decodeItems fuel rest
      some (item :: items)

end

/-- The strict decoder: one item and nothing after it. -/
def decode (bytes : List UInt8) : Option Item :=
  match decodeItem (2 * bytes.length) bytes with
  | some (item, []) => some item
  | _ => none

/-- The integer a byte string stands for, if it has no leading zero byte. -/
def Item.toNat? : Item → Option ℕ
  | .bytes content => if content.head? = some 0 then none else some (ofBigEndian content)
  | .list _ => none

/-- Taking off a known front. -/
@[simp] theorem splitOff_append (front rest : List UInt8) :
    splitOff front.length (front ++ rest) = some (front, rest) := by
  simp [splitOff]

/-- The bytes of a long length have a value above 55 and no leading zero. -/
theorem lengthBytes_spec {length : ℕ} (hlong : ¬ length ≤ 55) (hfits : length < 2 ^ 64) :
    ofBigEndian (lengthBytes length) = length ∧ (lengthBytes length).head? ≠ some 0 ∧
      0 < (lengthBytes length).length ∧ (lengthBytes length).length ≤ 8 := by
  have hvalue : ofBigEndian (lengthBytes length) = length := by
    rw [lengthBytes, if_neg hlong, ofBigEndian_trimZeros, ofBigEndian_toBigEndian (by omega)]
  refine ⟨hvalue, ?_, ?_, ?_⟩
  · rw [lengthBytes, if_neg hlong]
    exact head?_trimZeros_ne _
  · by_contra hempty
    have hnil : lengthBytes length = [] := List.eq_nil_of_length_eq_zero (by omega)
    rw [hnil] at hvalue
    simp only [ofBigEndian, List.foldl_nil] at hvalue
    omega
  · rw [lengthBytes, if_neg hlong]
    exact (length_trimZeros_le _).trans (by simp)

/-- A header is at most nine bytes long. -/
theorem length_header_le (offset : ℕ) {length : ℕ} (hfits : length < 2 ^ 64) :
    (header offset length).length ≤ 9 := by
  by_cases hlong : length ≤ 55
  · simp [header, lengthBytes, hlong]
  · have hbytes := (lengthBytes_spec hlong hfits).2.2.2
    rw [header, List.length_cons]
    omega

/-- The tag leaves room for two kinds of items in one byte. -/
theorem lengthTag_lt {length : ℕ} (hfits : length < 2 ^ 64) : lengthTag length < 64 := by
  unfold lengthTag
  split
  · omega
  · have hlength := (lengthBytes_spec ‹_› hfits).2.2.2
    omega

/-- The payload that a header announces is read back. -/
theorem splitPayload_lengthTag {payload : List UInt8} (rest : List UInt8)
    (hfits : payload.length < 2 ^ 64) :
    splitPayload (lengthTag payload.length) (lengthBytes payload.length ++ (payload ++ rest)) =
      some (payload, rest) := by
  by_cases hlong : payload.length ≤ 55
  · simp [splitPayload, lengthTag, lengthBytes, hlong]
  · obtain ⟨hvalue, hhead, hpositive, -⟩ := lengthBytes_spec hlong hfits
    have htag : lengthTag payload.length = 55 + (lengthBytes payload.length).length := by
      simp [lengthTag, hlong]
    rw [splitPayload, htag, if_neg (by omega), Nat.add_sub_cancel_left, splitOff_append]
    simp only [Option.bind_eq_bind, Option.bind_some, hvalue]
    rw [if_neg (by simp [hhead]; omega), splitOff_append]

/-- The first byte of a header holds the offset and the tag. -/
theorem toNat_header {offset length : ℕ} (hoffset : offset ≤ 0xc0) (hfits : length < 2 ^ 64) :
    (UInt8.ofNat (offset + lengthTag length)).toNat = offset + lengthTag length := by
  have htag := lengthTag_lt hfits
  rw [UInt8.toNat_ofNat', Nat.mod_eq_of_lt (by omega)]

/-- An encoded byte string is read back. -/
theorem decodeItem_encodeBytes (fuel : ℕ) {content : List UInt8} (rest : List UInt8)
    (hfits : content.length < 2 ^ 64) :
    decodeItem (fuel + 1) (encodeBytes content ++ rest) = some (.bytes content, rest) := by
  by_cases hsmall : content.length = 1 ∧ ∀ byte ∈ content, byte.toNat < 0x80
  · obtain ⟨byte, rfl⟩ := List.length_eq_one_iff.mp hsmall.1
    have hbyte : byte.toNat < 0x80 := hsmall.2 byte (by simp)
    rw [encodeBytes, if_pos hsmall, List.singleton_append, decodeItem, if_pos hbyte]
  · have htag := lengthTag_lt hfits
    rw [encodeBytes, if_neg hsmall, header, List.cons_append, List.cons_append, decodeItem,
      toNat_header (by omega) hfits, if_neg (by omega), if_pos (by omega),
      Nat.add_sub_cancel_left, List.append_assoc, splitPayload_lengthTag rest hfits]
    simp only [Option.bind_eq_bind, Option.bind_some]
    rw [if_neg hsmall]

/-- An encoded payload is read back as a list. -/
theorem decodeItem_list {fuel : ℕ} {payload rest : List UInt8} {items : List Item}
    (hfits : payload.length < 2 ^ 64) (hitems : decodeItems fuel payload = some items) :
    decodeItem (fuel + 1) (header 0xc0 payload.length ++ payload ++ rest) =
      some (.list items, rest) := by
  have htag := lengthTag_lt hfits
  rw [header, List.cons_append, List.cons_append, decodeItem, toNat_header (by omega) hfits,
    if_neg (by omega), if_neg (by omega), Nat.add_sub_cancel_left, List.append_assoc,
    splitPayload_lengthTag rest hfits]
  simp [hitems]

/-- Every encoding has at least one byte. -/
theorem encode_length_pos (item : Item) : 0 < item.encode.length := by
  cases item with
  | bytes content =>
    rw [Item.encode, encodeBytes]
    split
    · omega
    · simp [header]
  | list items => simp [Item.encode, header]

/-- An item is read back from the front of a string, given enough fuel. -/
def ReadsBack (item : Item) : Prop :=
  ∀ (fuel : ℕ) (rest : List UInt8), item.encode.length < 2 ^ 64 →
    2 * item.encode.length ≤ fuel → decodeItem fuel (item.encode ++ rest) = some (item, rest)

/-- Encodings in a row are read back one after the other. -/
theorem decodeItems_flatten (items : List Item) (hitems : ∀ item ∈ items, ReadsBack item)
    (fuel : ℕ) (hfits : (items.map Item.encode).flatten.length < 2 ^ 64)
    (hfuel : 2 * (items.map Item.encode).flatten.length + 1 ≤ fuel) :
    decodeItems fuel (items.map Item.encode).flatten = some items := by
  obtain ⟨fuel, rfl⟩ : ∃ n, fuel = n + 1 := ⟨fuel - 1, by omega⟩
  induction items generalizing fuel with
  | nil => rfl
  | cons item items ih =>
    simp only [List.map_cons, List.flatten_cons, List.length_append] at hfits hfuel ⊢
    have hpositive := encode_length_pos item
    obtain ⟨first, bytes, hcons⟩ := List.exists_cons_of_length_pos hpositive
    have hitem := hitems item (by simp) fuel (items.map Item.encode).flatten (by omega)
      (by omega)
    obtain ⟨fuel, rfl⟩ : ∃ n, fuel = n + 1 := ⟨fuel - 1, by omega⟩
    have hrest := ih (fun item hmem => hitems item (by simp [hmem])) (by omega) fuel (by omega)
    rw [hcons, List.cons_append] at hitem ⊢
    rw [decodeItems, hitem]
    simp [hrest]

/-- Every item is read back. -/
theorem readsBack (item : Item) : ReadsBack item := by
  induction item using Item.encode.induct with
  | case1 content =>
    intro fuel rest hfits hfuel
    have hpositive := encode_length_pos (.bytes content)
    obtain ⟨fuel, rfl⟩ : ∃ n, fuel = n + 1 := ⟨fuel - 1, by omega⟩
    have hcontent : content.length ≤ (encodeBytes content).length := by
      unfold encodeBytes
      split <;> simp
    rw [Item.encode] at hfits ⊢
    exact decodeItem_encodeBytes fuel rest (by omega)
  | case2 items ih =>
    intro fuel rest hfits hfuel
    have hpositive := encode_length_pos (.list items)
    obtain ⟨fuel, rfl⟩ : ∃ n, fuel = n + 1 := ⟨fuel - 1, by omega⟩
    simp only [Item.encode, header, List.length_append, List.length_cons] at hfits hfuel
    rw [Item.encode]
    exact decodeItem_list (by omega) (decodeItems_flatten items ih fuel (by omega) (by omega))

/-- The strict decoder takes every encoding back. -/
theorem decode_encode {item : Item} (hfits : item.encode.length < 2 ^ 64) :
    decode item.encode = some item := by
  have hread := readsBack item (2 * item.encode.length) [] hfits le_rfl
  rw [List.append_nil] at hread
  simp [decode, hread]

/-- Trimmed bytes are a strict integer. -/
theorem toNat?_trimZeros (bytes : List UInt8) :
    (Item.bytes (trimZeros bytes)).toNat? = some (ofBigEndian bytes) := by
  simp [Item.toNat?, head?_trimZeros_ne, ofBigEndian_trimZeros]

end Rlp
