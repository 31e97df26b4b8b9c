import Automaton.Factory.Error
import Automaton.Library.Machine
import Automaton.Library.Rlp
import Mathlib.Data.List.TakeWhile

/-!
# Signed release and refund transactions

The RLP writer of the factory, the EIP-1559 field list, the signing payload and the
signed transaction. The writer agrees with the general encoder, so the strict decoder
takes its output back; what it takes back of `r` and `s` is the raw half of the
signature, which is an integer only without a leading zero byte.
-/

namespace Automaton.Factory

open Machine Rlp

variable {target : Target}

/-- Drops the bytes before the first nonzero one, as `position` and the slice do. -/
def fromFirstNonZero (bytes : List UInt8) : List UInt8 :=
  bytes.drop ((bytes.findIdx? (· != 0)).getD (bytes.length - 1))

/-- `rlp_encode_length_prefix`. -/
def rlpEncodeLengthPrefix (target : Target) (len : ℕ) (offset : UInt8) (out : List UInt8) :
    List UInt8 :=
  if len ≤ 55 then out ++ [offset + UInt8.ofNat len]
  else
    let lengthSlice := fromFirstNonZero (toBigEndian target.usizeBytes len)
    out ++ [offset + 55 + UInt8.ofNat lengthSlice.length] ++ lengthSlice

/-- `rlp_encode_bytes`. -/
def rlpEncodeBytes (target : Target) (bytes : List UInt8) (out : List UInt8) : List UInt8 :=
  if bytes.length = 1 ∧ bytes.getD 0 0 < 0x80 then out ++ [bytes.getD 0 0]
  else rlpEncodeLengthPrefix target bytes.length 0x80 out ++ bytes

/-- `rlp_encode_u64`. -/
def rlpEncodeU64 (target : Target) (value : UInt64) (out : List UInt8) : List UInt8 :=
  if value = 0 then out ++ [0x80]
  else rlpEncodeBytes target (fromFirstNonZero (toBigEndian 8 value.toNat)) out

/-- `rlp_encode_list`. -/
def rlpEncodeList (target : Target) (items : List (List UInt8)) : List UInt8 :=
  let payloadLen := (items.map List.length).sum
  items.foldl (fun out item => out ++ item) (rlpEncodeLengthPrefix target payloadLen 0xc0 [])

/-- `UnsignedEip1559Transaction`. A vector of bytes never exceeds `isize::MAX`. -/
structure UnsignedEip1559Transaction (target : Target) where
  chainId : UInt64
  nonce : UInt64
  maxPriorityFeePerGas : UInt64
  maxFeePerGas : UInt64
  gasLimit : UInt64
  toAddress : Vector UInt8 20
  data : {bytes : List UInt8 // bytes.length ≤ target.isizeMax}

/-- `rlp_encode_eip1559_base_fields`. -/
def rlpEncodeEip1559BaseFields (tx : UnsignedEip1559Transaction target) : List (List UInt8) :=
  [rlpEncodeU64 target tx.chainId [],
    rlpEncodeU64 target tx.nonce [],
    rlpEncodeU64 target tx.maxPriorityFeePerGas [],
    rlpEncodeU64 target tx.maxFeePerGas [],
    rlpEncodeU64 target tx.gasLimit [],
    rlpEncodeBytes target tx.toAddress.toList [],
    rlpEncodeU64 target 0 [],
    rlpEncodeBytes target tx.data.val [],
    [0xc0]]

/-- `eip1559_envelope`. -/
def eip1559Envelope (payload : List UInt8) : List UInt8 := 0x02 :: payload

/-- `build_signing_payload`. -/
def buildSigningPayload (tx : UnsignedEip1559Transaction target) : List UInt8 :=
  eip1559Envelope (rlpEncodeList target (rlpEncodeEip1559BaseFields tx))

/-- `build_signed_raw_transaction`. -/
def buildSignedRawTransaction (tx : UnsignedEip1559Transaction target) (yParity : Bool)
    (signature : List UInt8) : Except FactoryError (List UInt8) :=
  if signature.length ≠ 64 then
    .error (.managementCallFailed "sign_with_ecdsa" "signature must be 64 bytes")
  else
    .ok (eip1559Envelope (rlpEncodeList target (rlpEncodeEip1559BaseFields tx ++
      [rlpEncodeU64 target (if yParity then 1 else 0) [],
        rlpEncodeBytes target (signature.take 32) [],
        rlpEncodeBytes target (signature.drop 32) []])))

/-- The nine fields of an EIP-1559 transaction as a reader of the chain sees them. -/
structure Eip1559Fields where
  chainId : ℕ
  nonce : ℕ
  maxPriorityFeePerGas : ℕ
  maxFeePerGas : ℕ
  gasLimit : ℕ
  toAddress : List UInt8
  value : ℕ
  data : List UInt8
  accessList : List Item

/-- What the fields of a transaction should be read as. -/
def UnsignedEip1559Transaction.fields (tx : UnsignedEip1559Transaction target) :
    Eip1559Fields where
  chainId := tx.chainId.toNat
  nonce := tx.nonce.toNat
  maxPriorityFeePerGas := tx.maxPriorityFeePerGas.toNat
  maxFeePerGas := tx.maxFeePerGas.toNat
  gasLimit := tx.gasLimit.toNat
  toAddress := tx.toAddress.toList
  value := 0
  data := tx.data.val
  accessList := []

/-- Reads the nine fields from the front of a list, the integers strictly. -/
def readFields : List Item → Option (Eip1559Fields × List Item)
  | chainId :: nonce :: priorityFee :: fee :: gasLimit :: .bytes toAddress :: value ::
      .bytes data :: .list accessList :: rest => do
      let fields : Eip1559Fields := {
        chainId := ← chainId.toNat?
        nonce := ← nonce.toNat?
        maxPriorityFeePerGas := ← priorityFee.toNat?
        maxFeePerGas := ← fee.toNat?
        gasLimit := ← gasLimit.toNat?
        toAddress := toAddress
        value := ← value.toNat?
        data := data
        accessList := accessList }
      return (fields, rest)
  | _ => none

/-- The items of the list in a type 2 envelope. -/
def readEnvelope : List UInt8 → Option (List Item)
  | 0x02 :: payload =>
      match decode payload with
      | some (.list items) => some items
      | _ => none
  | _ => none

/-- A strict reader of signing payloads. -/
def readSigningPayload (payload : List UInt8) : Option Eip1559Fields :=
  match readEnvelope payload >>= readFields with
  | some (fields, []) => some fields
  | _ => none

/-- A strict reader of signed transactions: the fields, then `y_parity`, `r` and `s`. -/
def readSignedTransaction (raw : List UInt8) : Option (Eip1559Fields × ℕ × ℕ × ℕ) :=
  match readEnvelope raw >>= readFields with
  | some (fields, [yParity, r, s]) => do
      return (fields, ← yParity.toNat?, ← r.toNat?, ← s.toNat?)
  | _ => none

section Writer

/-- Skipping to the first nonzero byte trims the zeros, if there is such a byte. -/
theorem fromFirstNonZero_eq {bytes : List UInt8} (hvalue : ofBigEndian bytes ≠ 0) :
    fromFirstNonZero bytes = trimZeros bytes := by
  have hsome : ∃ byte ∈ bytes, (byte != 0) = true := by
    by_contra hnone
    push Not at hnone
    have htrim : trimZeros bytes = [] := by
      rw [trimZeros, List.dropWhile_eq_nil_iff]
      simpa using hnone
    rw [← ofBigEndian_trimZeros, htrim] at hvalue
    exact hvalue rfl
  rw [fromFirstNonZero, trimZeros, List.dropWhile_eq_drop_findIdx_not,
    List.findIdx?_eq_some_of_exists hsome, Option.getD_some]
  rfl

/-- A length of a build is below the power of its width. -/
theorem lt_pow_usizeBytes {len : ℕ} (hfits : len ≤ target.usizeMax) :
    len < 256 ^ target.usizeBytes ∧ len < 2 ^ 64 ∧ target.usizeBytes ≤ 8 := by
  cases target <;> simp only [Target.usizeMax, Target.usizeBytes] at * <;> omega

/-- The length prefix is the general header, on either build. -/
theorem rlpEncodeLengthPrefix_eq {len : ℕ} (offset : UInt8) (out : List UInt8)
    (hfits : len ≤ target.usizeMax) :
    rlpEncodeLengthPrefix target len offset out = out ++ header offset.toNat len := by
  obtain ⟨hwidth, -, hbytes⟩ := lt_pow_usizeBytes hfits
  unfold rlpEncodeLengthPrefix header lengthTag lengthBytes
  split
  · simp [UInt8.ofNat_add]
  · rename_i hlong
    have hslice : fromFirstNonZero (toBigEndian target.usizeBytes len) =
        trimZeros (toBigEndian 8 len) := by
      rw [fromFirstNonZero_eq (by rw [ofBigEndian_toBigEndian hwidth]; omega),
        ← trimZeros_toBigEndian_add hwidth (8 - target.usizeBytes), Nat.add_sub_cancel' hbytes]
    simp [hslice, UInt8.ofNat_add, UInt8.add_assoc]

/-- The byte string writer is the general encoder. -/
theorem rlpEncodeBytes_eq {bytes : List UInt8} (out : List UInt8)
    (hfits : bytes.length ≤ target.usizeMax) :
    rlpEncodeBytes target bytes out = out ++ (Item.bytes bytes).encode := by
  have hsmall : (bytes.length = 1 ∧ bytes.getD 0 0 < 0x80) ↔
      (bytes.length = 1 ∧ ∀ byte ∈ bytes, byte.toNat < 0x80) := by
    refine and_congr_right fun hlength => ?_
    obtain ⟨byte, rfl⟩ := List.length_eq_one_iff.mp hlength
    simp [UInt8.lt_iff_toNat_lt]
  rw [rlpEncodeBytes, Item.encode, encodeBytes]
  by_cases hsingle : bytes.length = 1 ∧ ∀ byte ∈ bytes, byte.toNat < 0x80
  · rw [if_pos (hsmall.mpr hsingle), if_pos hsingle]
    obtain ⟨byte, rfl⟩ := List.length_eq_one_iff.mp hsingle.1
    rfl
  · rw [if_neg (hsmall.not.mpr hsingle), if_neg hsingle, rlpEncodeLengthPrefix_eq _ _ hfits,
      List.append_assoc]
    rfl

/-- The item of an integer field. -/
def uint64Item (value : UInt64) : Item := .bytes (trimZeros (toBigEndian 8 value.toNat))

/-- An integer field is read back. -/
theorem toNat?_uint64Item (value : UInt64) : (uint64Item value).toNat? = some value.toNat := by
  rw [uint64Item, toNat?_trimZeros, ofBigEndian_toBigEndian]
  exact value.toNat_lt

/-- The integer writer is the general encoder on the minimal bytes. -/
theorem rlpEncodeU64_eq (value : UInt64) (out : List UInt8) :
    rlpEncodeU64 target value out = out ++ (uint64Item value).encode := by
  unfold rlpEncodeU64 uint64Item
  split
  · rename_i hzero
    subst hzero
    rw [show trimZeros (toBigEndian 8 (0 : UInt64).toNat) = [] from rfl, encode_bytes_nil]
  · rename_i hne
    have hvalue : ofBigEndian (toBigEndian 8 value.toNat) = value.toNat :=
      ofBigEndian_toBigEndian value.toNat_lt
    have hpositive : value.toNat ≠ 0 := by simpa [← UInt64.toNat_inj] using hne
    have hlength : (trimZeros (toBigEndian 8 value.toNat)).length ≤ target.usizeMax := by
      have hle := length_trimZeros_le (toBigEndian 8 value.toNat)
      rw [length_toBigEndian] at hle
      cases target <;> simp only [Target.usizeMax] <;> omega
    rw [fromFirstNonZero_eq (by omega), rlpEncodeBytes_eq out hlength]

/-- The list writer is the general encoder. -/
theorem rlpEncodeList_eq {items : List Item}
    (hfits : (items.map Item.encode).flatten.length ≤ target.usizeMax) :
    rlpEncodeList target (items.map Item.encode) = (Item.list items).encode := by
  rw [List.length_flatten] at hfits
  rw [rlpEncodeList, rlpEncodeLengthPrefix_eq _ _ hfits, Item.encode, ← List.length_flatten]
  have hfold : ∀ (parts : List (List UInt8)) (out : List UInt8),
      parts.foldl (fun out item => out ++ item) out = out ++ parts.flatten := by
    intro parts
    induction parts with
    | nil => simp
    | cons part parts ih => simp [ih]
  rw [hfold]
  rfl

end Writer

section Fields

/-- The nine fields as items. -/
def baseItems (tx : UnsignedEip1559Transaction target) : List Item :=
  [uint64Item tx.chainId, uint64Item tx.nonce, uint64Item tx.maxPriorityFeePerGas,
    uint64Item tx.maxFeePerGas, uint64Item tx.gasLimit, .bytes tx.toAddress.toList,
    uint64Item 0, .bytes tx.data.val, .list []]

/-- The items that a signature adds. -/
def signatureItems (yParity : Bool) (signature : List UInt8) : List Item :=
  [uint64Item (if yParity then 1 else 0), .bytes (signature.take 32), .bytes (signature.drop 32)]

/-- A byte string grows by at most nine bytes. -/
theorem length_encode_bytes_le (content : List UInt8) (hfits : content.length < 2 ^ 64) :
    (Item.bytes content).encode.length ≤ content.length + 9 := by
  rw [Item.encode, encodeBytes]
  split
  · omega
  · have hprefix := length_header_le 0x80 hfits
    rw [List.length_append]
    omega

/-- An integer field takes at most 17 bytes. -/
theorem length_encode_uint64Item_le (value : UInt64) : (uint64Item value).encode.length ≤ 17 := by
  have htrim := length_trimZeros_le (toBigEndian 8 value.toNat)
  rw [length_toBigEndian] at htrim
  exact (length_encode_bytes_le _ (by omega)).trans (by omega)

/-- The data of a transaction leaves room for every other field. -/
theorem data_length_le (tx : UnsignedEip1559Transaction target) :
    tx.data.val.length + 1000 ≤ target.usizeMax ∧ tx.data.val.length < 2 ^ 64 := by
  have hdata := tx.data.property
  cases target <;> simp only [Target.usizeMax, Target.isizeMax] at * <;> omega

/-- The nine fields take few bytes beyond the data. -/
theorem length_baseItems_le (tx : UnsignedEip1559Transaction target) :
    ((baseItems tx).map Item.encode).flatten.length ≤ tx.data.val.length + 200 := by
  have haddress := length_encode_bytes_le tx.toAddress.toList (by simp)
  have hdata := length_encode_bytes_le _ (data_length_le tx).2
  have hinteger := length_encode_uint64Item_le
  simp only [Vector.length_toList] at haddress
  simp only [baseItems, List.map_cons, List.map_nil, List.flatten_cons, List.flatten_nil,
    List.length_append, List.length_nil, encode_list_nil, List.length_cons]
  have h1 := hinteger tx.chainId
  have h2 := hinteger tx.nonce
  have h3 := hinteger tx.maxPriorityFeePerGas
  have h4 := hinteger tx.maxFeePerGas
  have h5 := hinteger tx.gasLimit
  have h6 := hinteger 0
  omega

/-- The signature takes few bytes. -/
theorem length_signatureItems_le (yParity : Bool) {signature : List UInt8}
    (hlength : signature.length = 64) :
    ((signatureItems yParity signature).map Item.encode).flatten.length ≤ 200 := by
  have hr := length_encode_bytes_le (signature.take 32) (by simp [hlength])
  have hs := length_encode_bytes_le (signature.drop 32) (by simp [hlength])
  have hparity := length_encode_uint64Item_le (if yParity then 1 else 0)
  simp only [List.length_take, List.length_drop] at hr hs
  simp only [signatureItems, List.map_cons, List.map_nil, List.flatten_cons, List.flatten_nil,
    List.length_append, List.length_nil]
  omega

/-- The base fields are the encodings of the nine items. -/
theorem rlpEncodeEip1559BaseFields_eq (tx : UnsignedEip1559Transaction target) :
    rlpEncodeEip1559BaseFields tx = (baseItems tx).map Item.encode := by
  have hdata := (data_length_le tx).1
  have haddress : tx.toAddress.toList.length ≤ target.usizeMax := by
    simp only [Vector.length_toList]
    omega
  simp only [rlpEncodeEip1559BaseFields, baseItems, rlpEncodeU64_eq, List.nil_append,
    List.map_cons, List.map_nil, rlpEncodeBytes_eq [] haddress,
    rlpEncodeBytes_eq [] (show tx.data.val.length ≤ target.usizeMax by omega),
    encode_list_nil]

/-- The reader of the field list takes the nine fields back and leaves the rest. -/
theorem readFields_baseItems (tx : UnsignedEip1559Transaction target) (rest : List Item) :
    readFields (baseItems tx ++ rest) = some (tx.fields, rest) := by
  simp [readFields, baseItems, toNat?_uint64Item, UnsignedEip1559Transaction.fields]

/-- The reader of the envelope takes the items of an encoded list back. -/
theorem readEnvelope_encode {items : List Item}
    (hfits : (items.map Item.encode).flatten.length ≤ target.usizeMax - 100) :
    readEnvelope (eip1559Envelope (rlpEncodeList target (items.map Item.encode))) =
      some items := by
  have hmax : target.usizeMax < 2 ^ 64 := by cases target <;> decide
  have hprefix := length_header_le 0xc0 (show (items.map Item.encode).flatten.length < 2 ^ 64 by
    omega)
  have hlength : (Item.list items).encode.length < 2 ^ 64 := by
    rw [Item.encode, List.length_append]
    omega
  rw [rlpEncodeList_eq (by omega), eip1559Envelope, readEnvelope, decode_encode hlength]

/-- The signing payload is read back as the nine fields. -/
theorem readSigningPayload_buildSigningPayload (tx : UnsignedEip1559Transaction target) :
    readSigningPayload (buildSigningPayload tx) = some tx.fields := by
  have hlength := length_baseItems_le tx
  have hdata := (data_length_le tx).1
  have hfields := readFields_baseItems tx []
  rw [List.append_nil] at hfields
  rw [readSigningPayload, buildSigningPayload, rlpEncodeEip1559BaseFields_eq,
    readEnvelope_encode (by omega)]
  simp [hfields]

/-- A transaction is determined by its fields. -/
theorem eq_of_fields_eq {tx tx' : UnsignedEip1559Transaction target}
    (hfields : tx.fields = tx'.fields) : tx = tx' := by
  obtain ⟨chainId, nonce, priorityFee, fee, gasLimit, toAddress, data⟩ := tx
  obtain ⟨chainId', nonce', priorityFee', fee', gasLimit', toAddress', data'⟩ := tx'
  simp only [UnsignedEip1559Transaction.fields, Eip1559Fields.mk.injEq, UInt64.toNat_inj,
    Vector.toList_inj, Subtype.val_inj] at hfields
  obtain ⟨rfl, rfl, rfl, rfl, rfl, rfl, -, rfl, -⟩ := hfields
  rfl

/-- The signing payload determines the transaction. -/
theorem eq_of_buildSigningPayload_eq {tx tx' : UnsignedEip1559Transaction target}
    (hpayload : buildSigningPayload tx = buildSigningPayload tx') : tx = tx' := by
  apply eq_of_fields_eq
  have hread := readSigningPayload_buildSigningPayload tx
  rw [hpayload, readSigningPayload_buildSigningPayload] at hread
  exact (Option.some.inj hread).symm

/-- A signed transaction is read back with the halves of the signature as strict
integers. -/
theorem readSignedTransaction_eq (tx : UnsignedEip1559Transaction target) (yParity : Bool)
    {signature : List UInt8} (hlength : signature.length = 64) :
    ∃ raw, buildSignedRawTransaction tx yParity signature = .ok raw ∧
      readSignedTransaction raw = do
        let r ← (Item.bytes (signature.take 32)).toNat?
        let s ← (Item.bytes (signature.drop 32)).toNat?
        return (tx.fields, yParity.toNat, r, s) := by
  refine ⟨_, by rw [buildSignedRawTransaction, if_neg (by simpa using hlength)], ?_⟩
  have hbase := length_baseItems_le tx
  have hsignature := length_signatureItems_le yParity hlength
  have hdata := (data_length_le tx).1
  have hitems : rlpEncodeEip1559BaseFields tx ++
      [rlpEncodeU64 target (if yParity then 1 else 0) [],
        rlpEncodeBytes target (signature.take 32) [],
        rlpEncodeBytes target (signature.drop 32) []] =
      (baseItems tx ++ signatureItems yParity signature).map Item.encode := by
    rw [rlpEncodeEip1559BaseFields_eq, List.map_append, signatureItems, rlpEncodeU64_eq,
      rlpEncodeBytes_eq [] (by simp; omega), rlpEncodeBytes_eq [] (by simp; omega)]
    rfl
  have hfits : ((baseItems tx ++ signatureItems yParity signature).map
      Item.encode).flatten.length ≤ target.usizeMax - 100 := by
    rw [List.map_append, List.flatten_append, List.length_append]
    omega
  have hparity : (if yParity then 1 else 0 : UInt64).toNat = yParity.toNat := by
    cases yParity <;> rfl
  rw [hitems, readSignedTransaction, readEnvelope_encode hfits]
  simp only [Option.bind_eq_bind, Option.bind_some, readFields_baseItems, signatureItems,
    toNat?_uint64Item, hparity]

/-- The strict integers are there exactly when neither half starts with a zero byte. -/
theorem toNat?_bytes_eq_some {content : List UInt8} {value : ℕ} :
    (Item.bytes content).toNat? = some value ↔
      content.head? ≠ some 0 ∧ ofBigEndian content = value := by
  simp [Item.toNat?]

/-- A signed transaction and its signing payload are canonical exactly when neither `r`
nor `s` has a leading zero byte. -/
theorem signed_canonical_iff (tx : UnsignedEip1559Transaction target) (yParity : Bool)
    (signature : List UInt8) (hlength : signature.length = 64) :
    ((∃ raw, buildSignedRawTransaction tx yParity signature = .ok raw ∧
        readSignedTransaction raw = some (tx.fields, yParity.toNat,
          ofBigEndian (signature.take 32), ofBigEndian (signature.drop 32))) ∧
      readSigningPayload (buildSigningPayload tx) = some tx.fields ∧
      ∀ tx' : UnsignedEip1559Transaction target, tx' ≠ tx →
        buildSigningPayload tx' ≠ buildSigningPayload tx) ↔
    signature[0]? ≠ some 0 ∧ signature[32]? ≠ some 0 := by
  obtain ⟨raw, hraw, hread⟩ := readSignedTransaction_eq tx yParity hlength
  have hheads : (signature.take 32).head? = signature[0]? ∧
      (signature.drop 32).head? = signature[32]? := by
    simp [List.head?_eq_getElem?]
  constructor
  · rintro ⟨⟨raw', hraw', hread'⟩, -, -⟩
    obtain rfl : raw = raw' := Except.ok.inj (hraw.symm.trans hraw')
    rw [hread] at hread'
    simp only [Option.bind_eq_bind, Option.pure_def, Option.bind_eq_some_iff] at hread'
    obtain ⟨r, hr, s, hs, -⟩ := hread'
    rw [toNat?_bytes_eq_some] at hr hs
    exact ⟨hheads.1 ▸ hr.1, hheads.2 ▸ hs.1⟩
  · rintro ⟨hr, hs⟩
    refine ⟨⟨raw, hraw, ?_⟩, readSigningPayload_buildSigningPayload tx,
      fun tx' hne hpayload => hne (eq_of_buildSigningPayload_eq hpayload)⟩
    rw [hread, toNat?_bytes_eq_some.mpr ⟨hheads.1 ▸ hr, rfl⟩,
      toNat?_bytes_eq_some.mpr ⟨hheads.2 ▸ hs, rfl⟩]
    rfl

/-- A refund call on Base with some calldata. -/
def sampleTransaction : UnsignedEip1559Transaction .wasm32 where
  chainId := 8453
  nonce := 7
  maxPriorityFeePerGas := 1000000
  maxFeePerGas := 2000000000
  gasLimit := 250000
  toAddress := Vector.replicate 20 0x11
  data := ⟨[0x72, 0x49, 0xfb, 0xb6], by decide⟩

/-- A signature whose halves start with nonzero bytes. -/
theorem sampleTransaction_canonical :
    ∃ raw, buildSignedRawTransaction sampleTransaction true (List.replicate 64 0x22) = .ok raw ∧
      readSignedTransaction raw = some (sampleTransaction.fields, 1,
        ofBigEndian (List.replicate 32 0x22), ofBigEndian (List.replicate 32 0x22)) :=
  ((signed_canonical_iff sampleTransaction true (List.replicate 64 0x22) (by decide)).mpr
    (by decide)).1

/-- A signature whose `r` starts with a zero byte: the strict reader rejects the
transaction. -/
theorem sampleTransaction_leadingZero :
    ¬ ∃ raw, buildSignedRawTransaction sampleTransaction true (0 :: List.replicate 63 0x22) =
        .ok raw ∧
      readSignedTransaction raw = some (sampleTransaction.fields, 1,
        ofBigEndian ((0 :: List.replicate 63 0x22).take 32),
        ofBigEndian ((0 :: List.replicate 63 0x22).drop 32)) := by
  rintro ⟨raw, hraw, hread⟩
  obtain ⟨raw', hraw', hread'⟩ := readSignedTransaction_eq sampleTransaction true
    (show (0 :: List.replicate 63 0x22 : List UInt8).length = 64 by decide)
  obtain rfl : raw' = raw := Except.ok.inj (hraw'.symm.trans hraw)
  have hnone : (Item.bytes ((0 :: List.replicate 63 0x22 : List UInt8).take 32)).toNat? =
      none := by decide
  rw [hread', hnone] at hread
  cases hread

end Fields

end Automaton.Factory
