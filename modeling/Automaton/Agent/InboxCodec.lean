import Automaton.Library.Abi
import Automaton.Library.HexWords
import Automaton.Library.Machine
import Automaton.Strategy.Broadcast

/-!
# Messages of the inbox contract

How the data of the contract's events is read, and how calls of it are written. The offset and the
length of a message are words that the sender of an event chooses, and they bound slices of the
data. A slice out of range is a panic, which is told apart from an error that is returned.
-/

namespace Automaton.Agent

open Machine Rlp Automaton.Strategy

section Source

/-- Why a call has no value: it panics, or returns an error. -/
inductive Failure
  | panic
  | error (text : String)
  deriving DecidableEq

/-- How errors of other packages are displayed: of `hex::decode` and of `std::str::from_utf8`. -/
structure Wording where
  invalidHex : List Char → String
  invalidUtf8 : List UInt8 → String

/-- The `DecodedMessageQueuedPayload`. -/
structure DecodedMessageQueuedPayload where
  sender : String
  message : String
  usdcAmount : ℕ
  ethAmount : ℕ
  deriving DecidableEq

/-- The result of a call that does not panic. -/
def returned {α : Type} (result : Except String α) : Except Failure α :=
  result.mapError Failure.error

/-- `&bytes[first..last]`. -/
def sliceOf (bytes : List UInt8) (first last : ℕ) : Except Failure (List UInt8) :=
  if first ≤ last ∧ last ≤ bytes.length then .ok ((bytes.take last).drop first) else .error .panic

/-- `U256::from_be_slice`. -/
def u256FromBeSlice (bytes : List UInt8) : Except Failure ℕ :=
  if ofBigEndian bytes ≤ u256Max then .ok (ofBigEndian bytes) else .error .panic

/-- `trim_start_matches("0x")`. -/
def trimHexPrefix : List Char → List Char
  | '0' :: 'x' :: digits => trimHexPrefix digits
  | digits => digits

variable (wording : Wording) (target : Target)

/-- `hex::decode`. -/
def hexDecode (digits : List Char) : Except String (List UInt8) :=
  if digits.length % 2 = 0 ∧ digits.all Text.isHexDigit then .ok (Hex.bytes digits)
  else .error (wording.invalidHex digits)

/-- A sum in a `usize`. One that overflows counts as a panic. -/
def addUsize (a b : ℕ) : Except Failure ℕ :=
  (checkedAdd target.usizeMax a b).elim (.error .panic) .ok

/-- `(value << 8) | byte` in a `usize`. -/
def shiftIn (value : ℕ) (byte : UInt8) : ℕ :=
  (value <<< 8) % (target.usizeMax + 1) ||| byte.toNat

/-- `read_usize_word`. -/
def readUsizeWord (word : List UInt8) (field : String) : Except Failure ℕ :=
  if word.length ≠ 32 then .error (.error (field ++ " word must be 32 bytes"))
  else if (word.take (32 - target.usizeBytes)).any (· ≠ 0) then
    .error (.error (field ++ " overflowed usize"))
  else .ok ((word.drop (32 - target.usizeBytes)).foldl (shiftIn target) 0)

/-- `decode_patronage_payload`. -/
def decodePatronagePayload (payloadHex : String) : Except Failure ℕ := do
  let payload ← returned (normalizeHexBlob payloadHex "patronage payload")
  let bytes ← returned ((hexDecode wording (trimHexPrefix payload.toList)).mapError
    ("failed to decode patronage payload: " ++ ·))
  if bytes.length ≠ 32 then .error (.error "patronage payload must be exactly 32 bytes")
  else
    let amount ← u256FromBeSlice bytes
    if amount = 0 then .error (.error "patronage amount must be positive") else .ok amount

/-- The message of `decode_message_queued_payload`, at an offset that was read. -/
def messageAt (bytes : List UInt8) (messageOffset : ℕ) : Except Failure String :=
  if bytes.length < saturatingAdd target.usizeMax messageOffset 32 then
    .error (.error "message offset points outside payload")
  else do
    let word ← sliceOf bytes messageOffset (← addUsize target messageOffset 32)
    let messageLen ← readUsizeWord target word "message length"
    let messageStart ← addUsize target messageOffset 32
    let messageEnd := saturatingAdd target.usizeMax messageStart messageLen
    if bytes.length < messageEnd then
      .error (.error "message bytes exceed payload length")
    else
      let content ← sliceOf bytes messageStart messageEnd
      (String.fromUTF8? content.toByteArray).elim
        (.error (.error ("message payload is not utf-8: " ++ wording.invalidUtf8 content))) .ok

/-- What `decode_message_queued_payload` reads from bytes. -/
def decodeMessageQueuedBytes (bytes : List UInt8) : Except Failure DecodedMessageQueuedPayload :=
  if bytes.length < 128 then
    .error (.error "message queued payload must be at least 128 bytes")
  else do
    let sender ← returned (normalizeEvmAddress ("0x" ++ Hex.encode (← sliceOf bytes 12 32)))
    let messageOffset ← readUsizeWord target (← sliceOf bytes 32 64) "message offset"
    let usdcAmount ← u256FromBeSlice (← sliceOf bytes 64 96)
    let ethAmount ← u256FromBeSlice (← sliceOf bytes 96 128)
    let message ← messageAt wording target bytes messageOffset
    .ok ⟨sender, message, usdcAmount, ethAmount⟩

/-- `decode_message_queued_payload`. -/
def decodeMessageQueuedPayload (payloadHex : String) :
    Except Failure DecodedMessageQueuedPayload := do
  let payload ← returned (normalizeHexBlob payloadHex "message queued payload")
  let bytes ← returned ((hexDecode wording (trimHexPrefix payload.toList)).mapError
    ("failed to decode message queued payload: " ++ ·))
  decodeMessageQueuedBytes wording target bytes

variable (keccak256 : List UInt8 → Vector UInt8 32)

/-- The first bytes of a call of a function. -/
def selectorOf (signature : String) : List UInt8 :=
  (keccak256 (Abi.textBytes signature)).toList.take 4

/-- `{:0>64}` of an address without its `0x`. -/
def addressWord (address : String) : List Char := (trimHexPrefix address.toList).leftpad 64 '0'

/-- `{:064x}`. -/
def wordDigits (n : ℕ) : List Char := Hex.paddedDigits 64 n

/-- `peer_inbox_send_eth_args_json`, whose texts need no escapes. -/
def peerInboxSendEthArgs (inbox recipient message : String) (ethAmount : ℕ) :
    Except String SendEthArgs := do
  let inbox ← normalizeEvmAddress inbox
  let recipient ← normalizeEvmAddress recipient
  let messageHex := (Hex.encode (Abi.textBytes message)).toList
  let padding := List.replicate ((64 - messageHex.length % 64) % 64) '0'
  let selector := Hex.encode (selectorOf keccak256 "queueMessage(address,string,uint256)")
  .ok ⟨inbox, toString ethAmount, some ("0x" ++ String.ofList (selector.toList ++
    addressWord recipient ++ wordDigits 96 ++ wordDigits 0 ++ wordDigits message.utf8ByteSize ++
    messageHex ++ padding))⟩

/-- `peer_erc20_transfer_send_eth_args_json`. -/
def peerErc20TransferSendEthArgs (token recipient : String) (amount : ℕ) :
    Except String SendEthArgs := do
  let token ← normalizeEvmAddress token
  let recipient ← normalizeEvmAddress recipient
  let selector := Hex.encode (selectorOf keccak256 "transfer(address,uint256)")
  .ok ⟨token, "0", some ("0x" ++ String.ofList (selector.toList ++ addressWord recipient ++
    wordDigits amount))⟩

end Source

section NoPanic

variable {α β : Type} {wording : Wording} {target : Target} {bytes word : List UInt8}

/-- A call that has a value is left behind. -/
theorem ok_bind (a : α) (f : α → Except Failure β) : (Except.ok a >>= f) = f a := rfl

/-- A call that does not panic, before one that does not. -/
theorem bind_ne_panic {x : Except Failure α} {f : α → Except Failure β}
    (hx : x ≠ .error .panic) (hf : ∀ a, x = .ok a → f a ≠ .error .panic) :
    x >>= f ≠ .error .panic := by
  cases x with
  | error failure => exact fun h => hx (congrArg Except.error (Except.error.inj h))
  | ok a => exact hf a rfl

theorem returned_ne_panic (result : Except String α) : returned result ≠ .error .panic := by
  cases result with
  | error text => exact fun h => Failure.noConfusion (Except.error.inj h)
  | ok a => exact nofun

/-- A slice in range has as many bytes as its ends are apart. -/
theorem exists_slice {first last : ℕ} (hfirst : first ≤ last) (hlast : last ≤ bytes.length) :
    ∃ part, sliceOf bytes first last = .ok part ∧ part.length = last - first := by
  refine ⟨_, if_pos ⟨hfirst, hlast⟩, ?_⟩
  rw [List.length_drop, List.length_take]
  omega

theorem readUsizeWord_ne_panic (field : String) :
    readUsizeWord target word field ≠ .error .panic := by
  unfold readUsizeWord
  split
  · exact fun h => Failure.noConfusion (Except.error.inj h)
  · split
    · exact fun h => Failure.noConfusion (Except.error.inj h)
    · exact nofun

/-- A word holds a number of 256 bits. -/
theorem u256FromBeSlice_ok (h : word.length = 32) :
    u256FromBeSlice word = .ok (ofBigEndian word) := by
  have hfits := ofBigEndian_lt word
  rw [h] at hfits
  have hle : ofBigEndian word ≤ u256Max := by
    unfold u256Max
    omega
  exact if_pos hle

/-- Data is shorter than the largest number. -/
theorem isizeMax_lt (target : Target) : target.isizeMax < target.usizeMax := by
  cases target <;> norm_num [Target.isizeMax, Target.usizeMax]

/-- An offset that passes the check is far enough from the end of the data, because sums stop
above its length. -/
theorem offset_le (hmemory : bytes.length ≤ target.isizeMax) {offset size : ℕ}
    (h : ¬ bytes.length < saturatingAdd target.usizeMax offset size) :
    offset + size ≤ bytes.length := by
  have hwidth := isizeMax_lt target
  unfold saturatingAdd at h
  omega

theorem addUsize_ok (hmemory : bytes.length ≤ target.isizeMax) {a b : ℕ}
    (h : a + b ≤ bytes.length) : addUsize target a b = .ok (a + b) := by
  have hwidth := isizeMax_lt target
  have hsum : checkedAdd target.usizeMax a b = some (a + b) :=
    checkedAdd_eq_some.mpr ⟨by omega, rfl⟩
  rw [addUsize, hsum]
  rfl

theorem messageAt_ne_panic (hmemory : bytes.length ≤ target.isizeMax) (offset : ℕ) :
    messageAt wording target bytes offset ≠ .error .panic := by
  unfold messageAt
  split
  · exact fun h => Failure.noConfusion (Except.error.inj h)
  · rename_i hoffset
    have hstart := offset_le hmemory hoffset
    obtain ⟨word, hword, -⟩ := exists_slice (Nat.le_add_right offset 32) hstart
    rw [addUsize_ok hmemory hstart]
    simp only [ok_bind, hword]
    refine bind_ne_panic (readUsizeWord_ne_panic _) fun messageLen _ => ?_
    split
    · exact fun h => Failure.noConfusion (Except.error.inj h)
    · rename_i hend
      have hfirst : offset + 32 ≤ saturatingAdd target.usizeMax (offset + 32) messageLen := by
        have hwidth := isizeMax_lt target
        unfold saturatingAdd
        omega
      obtain ⟨content, hcontent, -⟩ := exists_slice hfirst (not_lt.mp hend)
      rw [hcontent, ok_bind]
      cases String.fromUTF8? content.toByteArray with
      | none => exact fun h => Failure.noConfusion (Except.error.inj h)
      | some message => exact nofun

theorem decodeMessageQueuedBytes_ne_panic (hmemory : bytes.length ≤ target.isizeMax) :
    decodeMessageQueuedBytes wording target bytes ≠ .error .panic := by
  unfold decodeMessageQueuedBytes
  split
  · exact fun h => Failure.noConfusion (Except.error.inj h)
  · rename_i hshort
    obtain ⟨sender, hsender, -⟩ := @exists_slice bytes 12 32 (by decide) (by omega)
    obtain ⟨offset, hoffset, -⟩ := @exists_slice bytes 32 64 (by decide) (by omega)
    obtain ⟨usdc, husdc, hlength⟩ := @exists_slice bytes 64 96 (by decide) (by omega)
    obtain ⟨eth, heth, hlength'⟩ := @exists_slice bytes 96 128 (by decide) (by omega)
    simp only [hsender, hoffset, husdc, heth, u256FromBeSlice_ok hlength,
      u256FromBeSlice_ok hlength', ok_bind]
    refine bind_ne_panic (returned_ne_panic _) fun sender _ => ?_
    refine bind_ne_panic (readUsizeWord_ne_panic _) fun offset _ => ?_
    exact bind_ne_panic (messageAt_ne_panic hmemory offset) fun message _ => nofun

end NoPanic

section Digits

variable {raw address field : String} {digits : List Char} {wording : Wording}

/-- Digits of hexadecimal numbers in lower case. -/
def LowerHex (digits : List Char) : Prop := ∀ c ∈ digits, Text.isHexDigit c = true ∧ c.toLower = c

theorem LowerHex.append {others : List Char} (h : LowerHex digits) (h' : LowerHex others) :
    LowerHex (digits ++ others) := by
  intro c hc
  rcases List.mem_append.mp hc with hc | hc
  · exact h c hc
  · exact h' c hc

theorem lowerHex_zeros (n : ℕ) : LowerHex (List.replicate n '0') := by
  intro c hc
  rw [List.eq_of_mem_replicate hc]
  decide

theorem lowerHex_toDigits (n : ℕ) : LowerHex (Nat.toDigits 16 n) := by
  induction n using Nat.strongRecOn with
  | ind n ih =>
    by_cases hsmall : n < 16
    · rw [Nat.toDigits_of_lt_base hsmall]
      intro c hc
      rw [List.mem_singleton.mp hc]
      exact Hex.digitChar_lower hsmall
    · rw [Nat.toDigits_of_base_le (by decide) (not_lt.mp hsmall)]
      refine (ih (n / 16) (by omega)).append fun c hc => ?_
      rw [List.mem_singleton.mp hc]
      exact Hex.digitChar_lower (Nat.mod_lt _ (by decide))

theorem lowerHex_wordDigits (n : ℕ) : LowerHex (wordDigits n) :=
  (lowerHex_zeros _).append (lowerHex_toDigits n)

/-- Digits have no prefix to trim. -/
theorem trimHexPrefix_of_digits (h : LowerHex digits) : trimHexPrefix digits = digits := by
  unfold trimHexPrefix
  split
  · rename_i rest
    have hx := (h 'x' (by simp)).1
    exact absurd hx (by decide)
  · rfl

theorem trimHexPrefix_append (h : LowerHex digits) :
    trimHexPrefix ("0x".toList ++ digits) = digits := by
  change trimHexPrefix ('0' :: 'x' :: digits) = digits
  rw [trimHexPrefix, trimHexPrefix_of_digits h]

theorem length_trimHexPrefix_le (chars : List Char) :
    (trimHexPrefix chars).length ≤ chars.length := by
  induction chars using trimHexPrefix.induct with
  | case1 digits ih =>
    rw [trimHexPrefix, List.length_cons, List.length_cons]
    omega
  | case2 digits hno =>
    rw [trimHexPrefix]
    exact hno

theorem length_toList_le (text : String) : text.toList.length ≤ text.utf8ByteSize := by
  have hchars (chars : List Char) : chars.length ≤ (String.ofList chars).utf8ByteSize := by
    induction chars with
    | nil => exact Nat.zero_le _
    | cons c chars ih =>
      have hpos := c.utf8Size_pos
      rw [String.ofList_cons, String.utf8ByteSize_append, String.utf8ByteSize_singleton,
        List.length_cons]
      omega
  have htext := hchars text.toList
  rwa [String.ofList_toList] at htext

/-- What is normalized is not longer than what is given. -/
theorem length_normalizeHexBlob {payload : String} (h : normalizeHexBlob raw field = .ok payload) :
    payload.toList.length ≤ raw.utf8ByteSize := by
  have hpayload : payload = Text.toAsciiLowercase (Text.trim raw) := by
    simp only [normalizeHexBlob] at h
    split at h
    · cases h
    · split at h
      · cases h
      · split at h
        · cases h
        · exact (Except.ok.inj h).symm
  have htrim : (Text.trim raw).toList.length ≤ raw.toList.length := by
    rw [Text.trim, String.toList_ofList, List.length_reverse]
    refine (List.dropWhile_sublist _).length_le.trans ?_
    rw [List.length_reverse]
    exact (List.dropWhile_sublist _).length_le
  rw [hpayload, Text.toAsciiLowercase, String.toList_ofList, List.length_map]
  exact htrim.trans (length_toList_le raw)

/-- A normalized address is 40 digits in lower case. -/
theorem exists_digits (h : normalizeEvmAddress raw = .ok address) :
    ∃ digits, address.toList = "0x".toList ++ digits ∧ digits.length = 40 ∧ LowerHex digits := by
  simp only [normalizeEvmAddress] at h
  split at h
  · rename_i hparts
    obtain ⟨hsize, hfront, hall⟩ := hparts
    obtain ⟨digits, hdigits⟩ := List.isPrefixOf_iff_prefix.mp hfront
    obtain rfl := Except.ok.inj h
    have hdrop : (Text.toAsciiLowercase (Text.trim raw)).toList.drop 2 = digits := by
      rw [← hdigits]
      rfl
    rw [hdrop] at hall
    have hhex := List.all_eq_true.mp hall
    have hlength := utf8ByteSize_of_digits hdigits.symm hhex
    refine ⟨digits, hdigits.symm, by omega, fun c hc => ⟨hhex c hc, ?_⟩⟩
    have hmem : c ∈ (Text.toAsciiLowercase (Text.trim raw)).toList := by
      rw [← hdigits]
      exact List.mem_append_right _ hc
    rw [Text.toAsciiLowercase, String.toList_ofList] at hmem
    obtain ⟨d, -, rfl⟩ := List.mem_map.mp hmem
    exact Char.toLower_toLower_eq_toLower d
  · cases h

/-- The bytes of a text of digits after its prefix. -/
theorem decodeHexBlob_append (digits : List Char) :
    decodeHexBlob ("0x" ++ String.ofList digits) = Hex.bytes digits := by
  have htext : ("0x" ++ String.ofList digits).toList = '0' :: 'x' :: digits := by
    rw [String.toList_append, @String.toList_ofList digits]
    rfl
  rw [decodeHexBlob, htext]
  rfl

theorem decodeHexBlob_of_toList (h : address.toList = "0x".toList ++ digits) :
    decodeHexBlob address = Hex.bytes digits := by
  rw [Text.eq_append_of_toList h, decodeHexBlob_append]

/-- Bytes that are written after a prefix are read. -/
theorem hexDecode_encode (bytes : List UInt8) :
    hexDecode wording (trimHexPrefix ("0x" ++ Hex.encode bytes).toList) = .ok bytes := by
  have hlower : LowerHex (Hex.encode bytes).toList := Hex.encode_lower
  have heven : (Hex.encode bytes).toList.length % 2 = 0 := by
    rw [Hex.length_encode]
    omega
  rw [String.toList_append, trimHexPrefix_append hlower, hexDecode,
    if_pos ⟨heven, List.all_eq_true.mpr fun c hc => (hlower c hc).1⟩, Hex.bytes_encode]

theorem normalizeHexBlob_encode (bytes : List UInt8) :
    normalizeHexBlob ("0x" ++ Hex.encode bytes) field = .ok ("0x" ++ Hex.encode bytes) := by
  refine normalizeHexBlob_eq_self String.toList_append ?_ Hex.encode_lower
  rw [Hex.length_encode]
  omega

theorem normalizeEvmAddress_encode {bytes : List UInt8} (h : bytes.length = 20) :
    normalizeEvmAddress ("0x" ++ Hex.encode bytes) = .ok ("0x" ++ Hex.encode bytes) := by
  refine normalizeEvmAddress_eq_self String.toList_append ?_ Hex.encode_lower
  rw [Hex.length_encode, h]

/-- A printed amount is read back. -/
theorem parseDecimalU256_toString {amount : ℕ} (h : amount ≤ u256Max) :
    parseDecimalU256 (toString amount) field = .ok amount := by
  have hchars : (toString amount).toList = Nat.toDigits 10 amount := by
    rw [Nat.toString_eq_ofList_toDigits, String.toList_ofList]
  have hdigit : ∀ c ∈ Nat.toDigits 10 amount, c.isDigit = true := fun c hc =>
    Nat.isDigit_of_mem_toDigits (by decide) (by decide) hc
  have hspace : ∀ c ∈ (toString amount).toList, Text.isWhitespace c = false := by
    intro c hc
    rw [hchars] at hc
    have hhex : Text.isHexDigit c = true := by simp [Text.isHexDigit, hdigit c hc]
    have hrange := Text.toNat_of_isHexDigit hhex
    simp only [Text.isWhitespace, Bool.or_eq_false_iff, Bool.and_eq_false_iff,
      decide_eq_false_iff_not]
    omega
  have hnonempty : toString amount ≠ "" := by
    intro hempty
    rw [hempty] at hchars
    exact Nat.toDigits_ne_nil hchars.symm
  have hall : (!(toString amount).toList.all Char.isDigit) = false := by
    rw [hchars, List.all_eq_true.mpr hdigit]
    rfl
  simp only [parseDecimalU256, Text.trim_eq_self_of_all hspace]
  rw [if_neg hnonempty, if_neg (by rw [hall]; decide), Decimal.parseUnsigned_toString, if_pos h]
  rfl

end Digits

section Events

variable {wording : Wording} {target : Target} {front middle rest : List UInt8} {n : ℕ}
  {field : String}

/-- The bytes between two others are a slice. -/
theorem sliceOf_append {first last : ℕ} (hfirst : front.length = first)
    (hlast : first + middle.length = last) :
    sliceOf (front ++ (middle ++ rest)) first last = .ok middle := by
  subst hfirst hlast
  have hrange : front.length ≤ front.length + middle.length ∧
      front.length + middle.length ≤ (front ++ (middle ++ rest)).length := by
    simp only [List.length_append]
    omega
  have htake : (front ++ (middle ++ rest)).take (front.length + middle.length) =
      front ++ middle := by
    rw [← List.append_assoc]
    exact List.take_left' List.length_append
  rw [sliceOf, if_pos hrange, htake, List.drop_left]

theorem usizeMax_succ (target : Target) : target.usizeMax + 1 = 256 ^ target.usizeBytes := by
  cases target <;> norm_num [Target.usizeMax, Target.usizeBytes]

/-- Bytes that fit a `usize` are shifted into it without a loss. -/
theorem foldl_shiftIn {bytes : List UInt8} (h : bytes.length ≤ target.usizeBytes) :
    bytes.foldl (shiftIn target) 0 = ofBigEndian bytes := by
  induction bytes using List.reverseRecOn with
  | nil => rfl
  | append_singleton bytes byte ih =>
    rw [List.length_append, List.length_singleton] at h
    have hbyte := byte.toNat_lt
    have hsmall : ofBigEndian bytes * 256 < 256 ^ target.usizeBytes := by
      have hlast := ofBigEndian_lt bytes
      calc ofBigEndian bytes * 256 < 256 ^ bytes.length * 256 := by omega
        _ = 256 ^ (bytes.length + 1) := (pow_succ 256 bytes.length).symm
        _ ≤ 256 ^ target.usizeBytes := Nat.pow_le_pow_right (by decide) h
    rw [List.foldl_append, List.foldl_cons, List.foldl_nil, ih (by omega),
      ofBigEndian_append_singleton, shiftIn, usizeMax_succ, Nat.shiftLeft_eq,
      Nat.mod_eq_of_lt hsmall, Nat.mul_comm]
    exact (Nat.two_pow_add_eq_or_of_lt hbyte (ofBigEndian bytes)).symm

/-- A number is written with zeros in front. -/
theorem toBigEndian_add {width : ℕ} (hfits : n < 256 ^ width) (extra : ℕ) :
    toBigEndian (extra + width) n = List.replicate extra 0 ++ toBigEndian width n := by
  induction extra with
  | zero => rw [Nat.zero_add, List.replicate_zero, List.nil_append]
  | succ extra ih =>
    have hwide : n < 256 ^ (extra + width) :=
      hfits.trans_le (Nat.pow_le_pow_right (by decide) (Nat.le_add_left width extra))
    rw [Nat.succ_add, toBigEndian_succ hwide, ih, List.replicate_succ, List.cons_append]

/-- The word of a number that fits a `usize` is read. -/
theorem readUsizeWord_wordOf (h : n ≤ target.usizeMax) :
    readUsizeWord target (Abi.wordOf n) field = .ok n := by
  have hbytes : target.usizeBytes ≤ 32 := by cases target <;> decide
  have hfits : n < 256 ^ target.usizeBytes := by
    rw [← usizeMax_succ]
    omega
  have hword : Abi.wordOf n =
      List.replicate (32 - target.usizeBytes) 0 ++ toBigEndian target.usizeBytes n := by
    rw [← toBigEndian_add hfits, Abi.wordOf, Nat.sub_add_cancel hbytes]
  have hzeros : ¬ ((Abi.wordOf n).take (32 - target.usizeBytes)).any (· ≠ 0) = true := by
    rw [hword, List.take_left' List.length_replicate, List.any_eq_true]
    rintro ⟨byte, hbyte, hne⟩
    exact of_decide_eq_true hne (List.eq_of_mem_replicate hbyte)
  rw [readUsizeWord, if_neg (not_not.mpr Abi.length_wordOf), if_neg hzeros, hword,
    List.drop_left' List.length_replicate, foldl_shiftIn (length_toBigEndian _ n).le,
    ofBigEndian_toBigEndian hfits]

/-- The message behind its length is read at its offset. -/
theorem messageAt_append {message : String} {offset : ℕ} {bytes : List UInt8}
    (hbytes : bytes = front ++ (Abi.wordOf (Abi.textBytes message).length ++
      (Abi.textBytes message ++ rest)))
    (hoffset : front.length = offset) (hmemory : bytes.length ≤ target.isizeMax) :
    messageAt wording target bytes offset = .ok message := by
  have hwidth := isizeMax_lt target
  have hlength : bytes.length =
      offset + 32 + (Abi.textBytes message).length + rest.length := by
    rw [hbytes, List.length_append, List.length_append, List.length_append, Abi.length_wordOf,
      hoffset]
    omega
  have hsum : saturatingAdd target.usizeMax offset 32 = offset + 32 := by
    unfold saturatingAdd
    omega
  have hend : saturatingAdd target.usizeMax (offset + 32) (Abi.textBytes message).length =
      offset + 32 + (Abi.textBytes message).length := by
    unfold saturatingAdd
    omega
  have hword : sliceOf bytes offset (offset + 32) =
      .ok (Abi.wordOf (Abi.textBytes message).length) := by
    rw [hbytes]
    exact sliceOf_append hoffset (by rw [Abi.length_wordOf])
  have hcontent : sliceOf bytes (offset + 32) (offset + 32 + (Abi.textBytes message).length) =
      .ok (Abi.textBytes message) := by
    rw [hbytes, ← List.append_assoc]
    exact sliceOf_append (by rw [List.length_append, Abi.length_wordOf, hoffset]) rfl
  rw [messageAt, hsum, if_neg (by omega), addUsize_ok hmemory (by omega)]
  simp only [ok_bind, hword, hend, readUsizeWord_wordOf
    (show (Abi.textBytes message).length ≤ target.usizeMax by omega)]
  rw [if_neg (by omega), hcontent, ok_bind, Abi.fromUTF8?_textBytes]
  rfl

/-- The data of the event that a message was queued. -/
def messageQueuedValues (sender : List UInt8) (message : String) (usdcAmount ethAmount : ℕ) :
    List Abi.AbiValue :=
  [.address sender, .string message, .uint usdcAmount, .uint ethAmount]

theorem u256FromBeSlice_wordOf (h : n ≤ u256Max) : u256FromBeSlice (Abi.wordOf n) = .ok n := by
  have hfits : n < 256 ^ 32 := by
    unfold u256Max at h
    omega
  rw [u256FromBeSlice_ok Abi.length_wordOf, Abi.wordOf, ofBigEndian_toBigEndian hfits]

/-- The words of the head are slices, and the message is behind it. -/
theorem decodeMessageQueuedBytes_encode {sender : List UInt8} {message : String}
    {usdcAmount ethAmount : ℕ} (hsender : sender.length = 20) (husdc : usdcAmount ≤ u256Max)
    (heth : ethAmount ≤ u256Max) {bytes : List UInt8}
    (hbytes : bytes = Abi.encode (messageQueuedValues sender message usdcAmount ethAmount))
    (hmemory : bytes.length ≤ target.isizeMax) :
    decodeMessageQueuedBytes wording target bytes =
      .ok ⟨"0x" ++ Hex.encode sender, message, usdcAmount, ethAmount⟩ := by
  let text := Abi.textBytes message
  let zeros : List UInt8 := List.replicate 12 0
  let behind := Abi.wordOf text.length ++ Abi.padded text
  have hwords : bytes = zeros ++ (sender ++ (Abi.wordOf 128 ++ (Abi.wordOf usdcAmount ++
      (Abi.wordOf ethAmount ++ behind)))) := by
    rw [hbytes]
    simp [Abi.encode, Abi.heads, Abi.tails, Abi.AbiValue.head, Abi.AbiValue.tail,
      messageQueuedValues, zeros, behind, text]
  have hzeros : zeros.length = 12 := List.length_replicate
  have hlength : bytes.length = 128 + behind.length := by
    rw [hwords]
    simp only [List.length_append, Abi.length_wordOf, hsender, hzeros]
    omega
  have hslices : sliceOf bytes 12 32 = .ok sender ∧
      sliceOf bytes 32 64 = .ok (Abi.wordOf 128) ∧
      sliceOf bytes 64 96 = .ok (Abi.wordOf usdcAmount) ∧
      sliceOf bytes 96 128 = .ok (Abi.wordOf ethAmount) := by
    refine ⟨?_, ?_, ?_, ?_⟩
    · rw [hwords]
      exact sliceOf_append hzeros (by rw [hsender])
    · rw [hwords, ← List.append_assoc]
      refine sliceOf_append ?_ (by rw [Abi.length_wordOf])
      simp only [List.length_append, hzeros, hsender]
    · rw [hwords, ← List.append_assoc, ← List.append_assoc]
      refine sliceOf_append ?_ (by rw [Abi.length_wordOf])
      simp only [List.length_append, hzeros, hsender, Abi.length_wordOf]
    · rw [hwords, ← List.append_assoc, ← List.append_assoc, ← List.append_assoc]
      refine sliceOf_append ?_ (by rw [Abi.length_wordOf])
      simp only [List.length_append, hzeros, hsender, Abi.length_wordOf]
  have hwhole : bytes = zeros ++ sender ++ Abi.wordOf 128 ++ Abi.wordOf usdcAmount ++
      Abi.wordOf ethAmount ++ (Abi.wordOf text.length ++ (text ++
        List.replicate (Abi.padding text.length) 0)) := by
    rw [hwords]
    simp only [behind, Abi.padded, List.append_assoc]
  have hmessage : messageAt wording target bytes 128 = .ok message := by
    refine messageAt_append hwhole ?_ hmemory
    simp only [List.length_append, hzeros, hsender, Abi.length_wordOf]
  have hoffset : 128 ≤ target.usizeMax := by
    cases target <;> norm_num [Target.usizeMax]
  rw [decodeMessageQueuedBytes, if_neg (by omega)]
  obtain ⟨hfirst, hsecond, hthird, hfourth⟩ := hslices
  simp only [hfirst, hsecond, hthird, hfourth, ok_bind, normalizeEvmAddress_encode hsender]
  simp only [returned, Except.mapError, ok_bind, readUsizeWord_wordOf hoffset,
    u256FromBeSlice_wordOf husdc, u256FromBeSlice_wordOf heth, hmessage]

end Events

section Calls

variable {keccak256 : List UInt8 → Vector UInt8 32} {recipient address : String}
  {digits : List Char}

/-- Calldata of a function: its selector and its encoded arguments. -/
def IsCall (keccak256 : List UInt8 → Vector UInt8 32) (signature : String)
    (types : List Abi.AbiType) (values : List Abi.AbiValue) (call : List UInt8) : Prop :=
  call.take 4 = selectorOf keccak256 signature ∧ Abi.decode types (call.drop 4) = some values

theorem length_selectorOf (signature : String) : (selectorOf keccak256 signature).length = 4 := by
  rw [selectorOf, List.length_take, Vector.length_toList]
  rfl

/-- A selector before an encoding is a call. -/
theorem isCall_append {signature : String} {types : List Abi.AbiType} {values : List Abi.AbiValue}
    (hvalues : List.Forall₂ Abi.AbiValue.Fits types values)
    (hfits : (Abi.encode values).length < 2 ^ 256) :
    IsCall keccak256 signature types values
      (selectorOf keccak256 signature ++ Abi.encode values) := by
  refine ⟨List.take_left' (length_selectorOf signature), ?_⟩
  rw [List.drop_left' (length_selectorOf signature)]
  exact Abi.decode_encode hvalues hfits

/-- The word of an address is its digits behind zeros. -/
theorem addressWord_of_toList (haddress : address.toList = "0x".toList ++ digits)
    (hlength : digits.length = 40) (hlower : LowerHex digits) :
    addressWord address = List.replicate 24 '0' ++ digits := by
  rw [addressWord, haddress, trimHexPrefix_append hlower, List.leftpad, hlength]

theorem bytes_addressWord (haddress : address.toList = "0x".toList ++ digits)
    (hlength : digits.length = 40) (hlower : LowerHex digits) :
    Hex.bytes (addressWord address) = List.replicate 12 0 ++ decodeHexBlob address := by
  rw [addressWord_of_toList haddress hlength hlower, Hex.bytes_append (by simp),
    show (24 : ℕ) = 2 * 12 from rfl, Hex.bytes_replicate_zero, decodeHexBlob_of_toList haddress]

/-- A number of 256 bits is written in as many digits as a word has. -/
theorem length_wordDigits {n : ℕ} (h : n ≤ u256Max) : (wordDigits n).length = 64 := by
  refine Hex.length_paddedDigits (by decide) ?_
  unfold u256Max at h
  omega

theorem bytes_wordDigits {n : ℕ} (h : n ≤ u256Max) : Hex.bytes (wordDigits n) = Abi.wordOf n := by
  refine @Hex.bytes_paddedDigits n 32 (by decide) ?_
  unfold u256Max at h
  omega

/-- What is written in lower case to a normalized address is sent there as bytes. -/
theorem parseSendEthArgs_ok {toAddress : String} {amount : ℕ}
    (hto : normalizeEvmAddress recipient = .ok toAddress) (hamount : amount ≤ u256Max)
    (heven : digits.length % 2 = 0) (hlower : LowerHex digits) :
    parseSendEthArgs ⟨toAddress, toString amount, some ("0x" ++ String.ofList digits)⟩ =
      .ok ⟨decodeHexBlob toAddress, amount, Hex.bytes digits⟩ := by
  obtain ⟨toDigits, htext, hlength, htoLower⟩ := exists_digits hto
  have hdata : normalizeHexBlob ("0x" ++ String.ofList digits) "data" =
      .ok ("0x" ++ String.ofList digits) := by
    refine normalizeHexBlob_eq_self ?_ heven hlower
    rw [String.toList_append, @String.toList_ofList digits]
  simp only [parseSendEthArgs, Fallible.bind_eq_ok, Option.elim_some]
  refine ⟨toAddress, normalizeEvmAddress_eq_self htext hlength htoLower, amount,
    parseDecimalU256_toString hamount, _, hdata, ?_⟩
  rw [decodeHexBlob_append]

/-- A call of the inbox sends its message, for the amount, to the recipient. -/
theorem peerInboxSendEthArgs_spec {inbox toAddress : String} {message : String} {ethAmount : ℕ}
    (hinbox : normalizeEvmAddress inbox = .ok toAddress)
    (hrecipient : normalizeEvmAddress recipient = .ok address)
    (hamount : ethAmount ≤ u256Max) (hmessage : message.utf8ByteSize ≤ 2 ^ 64) :
    ∃ args, peerInboxSendEthArgs keccak256 inbox recipient message ethAmount = .ok args ∧
      parseSendEthArgs args = .ok ⟨decodeHexBlob toAddress, ethAmount,
        selectorOf keccak256 "queueMessage(address,string,uint256)" ++
          Abi.encode [.address (decodeHexBlob address), .string message, .uint 0]⟩ := by
  obtain ⟨addressDigits, htext, hlength, hlower⟩ := exists_digits hrecipient
  let content := Abi.textBytes message
  let selector := selectorOf keccak256 "queueMessage(address,string,uint256)"
  let padding := List.replicate (2 * Abi.padding content.length) '0'
  let digits := (Hex.encode selector).toList ++ (addressWord address ++ (wordDigits 96 ++
    (wordDigits 0 ++ (wordDigits content.length ++ ((Hex.encode content).toList ++ padding)))))
  have hcontent : content.length = message.utf8ByteSize := Abi.length_textBytes message
  have hword : (addressWord address).length = 64 := by
    rw [addressWord_of_toList htext hlength hlower, List.length_append, List.length_replicate,
      hlength]
  have hnumbers : 96 ≤ u256Max ∧ 0 ≤ u256Max ∧ content.length ≤ u256Max := by
    unfold u256Max
    omega
  obtain ⟨hoffset, hzero, hsize⟩ := hnumbers
  have hargs : peerInboxSendEthArgs keccak256 inbox recipient message ethAmount =
      .ok ⟨toAddress, toString ethAmount, some ("0x" ++ String.ofList digits)⟩ := by
    have hpadding : (64 - (Hex.encode content).toList.length % 64) % 64 =
        2 * Abi.padding content.length := by
      rw [Hex.length_encode]
      unfold Abi.padding
      omega
    simp only [peerInboxSendEthArgs, Fallible.bind_eq_ok]
    refine ⟨toAddress, hinbox, address, hrecipient, ?_⟩
    rw [hpadding, ← hcontent]
    simp only [List.append_assoc, digits, padding, selector]
    rfl
  have hlowers : LowerHex digits := by
    have haddress : LowerHex (addressWord address) := by
      rw [addressWord_of_toList htext hlength hlower]
      exact (lowerHex_zeros 24).append hlower
    exact LowerHex.append Hex.encode_lower (haddress.append ((lowerHex_wordDigits _).append
      ((lowerHex_wordDigits _).append ((lowerHex_wordDigits _).append
        (LowerHex.append Hex.encode_lower (lowerHex_zeros _))))))
  have heven : digits.length % 2 = 0 := by
    simp only [digits, padding, List.length_append, Hex.length_encode, hword,
      length_wordDigits hoffset, length_wordDigits hzero, length_wordDigits hsize,
      List.length_replicate]
    omega
  have hbytes : Hex.bytes digits = selector ++
      Abi.encode [.address (decodeHexBlob address), .string message, .uint 0] := by
    have hpair (bytes : List UInt8) : (Hex.encode bytes).toList.length % 2 = 0 := by
      rw [Hex.length_encode]
      omega
    rw [Hex.bytes_append (hpair selector), Hex.bytes_append (by rw [hword]),
      Hex.bytes_append (by rw [length_wordDigits hoffset]),
      Hex.bytes_append (by rw [length_wordDigits hzero]),
      Hex.bytes_append (by rw [length_wordDigits hsize]), Hex.bytes_append (hpair content),
      Hex.bytes_encode, Hex.bytes_encode, bytes_addressWord htext hlength hlower,
      bytes_wordDigits hoffset, bytes_wordDigits hzero, bytes_wordDigits hsize,
      Hex.bytes_replicate_zero]
    simp [Abi.encode, Abi.heads, Abi.tails, Abi.AbiValue.head, Abi.AbiValue.tail, Abi.padded,
      content]
  refine ⟨_, hargs, ?_⟩
  rw [parseSendEthArgs_ok hinbox hamount heven hlowers, hbytes]

/-- A transfer of a token sends the recipient and the amount, and no value, to the token. -/
theorem peerErc20TransferSendEthArgs_spec {token toAddress : String} {amount : ℕ}
    (htoken : normalizeEvmAddress token = .ok toAddress)
    (hrecipient : normalizeEvmAddress recipient = .ok address) (hamount : amount ≤ u256Max) :
    ∃ args, peerErc20TransferSendEthArgs keccak256 token recipient amount = .ok args ∧
      parseSendEthArgs args = .ok ⟨decodeHexBlob toAddress, 0,
        selectorOf keccak256 "transfer(address,uint256)" ++
          Abi.encode [.address (decodeHexBlob address), .uint amount]⟩ := by
  obtain ⟨addressDigits, htext, hlength, hlower⟩ := exists_digits hrecipient
  let selector := selectorOf keccak256 "transfer(address,uint256)"
  let digits := (Hex.encode selector).toList ++ (addressWord address ++ wordDigits amount)
  have hword : (addressWord address).length = 64 := by
    rw [addressWord_of_toList htext hlength hlower, List.length_append, List.length_replicate,
      hlength]
  have hargs : peerErc20TransferSendEthArgs keccak256 token recipient amount =
      .ok ⟨toAddress, toString 0, some ("0x" ++ String.ofList digits)⟩ := by
    simp only [peerErc20TransferSendEthArgs, Fallible.bind_eq_ok]
    refine ⟨toAddress, htoken, address, hrecipient, ?_⟩
    simp only [List.append_assoc, digits, selector]
    rfl
  have hlowers : LowerHex digits := by
    have haddress : LowerHex (addressWord address) := by
      rw [addressWord_of_toList htext hlength hlower]
      exact (lowerHex_zeros 24).append hlower
    exact LowerHex.append Hex.encode_lower (haddress.append (lowerHex_wordDigits _))
  have heven : digits.length % 2 = 0 := by
    simp only [digits, List.length_append, Hex.length_encode, hword, length_wordDigits hamount]
    omega
  have hbytes : Hex.bytes digits = selector ++
      Abi.encode [.address (decodeHexBlob address), .uint amount] := by
    have hpair : (Hex.encode selector).toList.length % 2 = 0 := by
      rw [Hex.length_encode]
      omega
    rw [Hex.bytes_append hpair, Hex.bytes_append (by rw [hword]), Hex.bytes_encode,
      bytes_addressWord htext hlength hlower, bytes_wordDigits hamount]
    simp [Abi.encode, Abi.heads, Abi.tails, Abi.AbiValue.head, Abi.AbiValue.tail]
  refine ⟨_, hargs, ?_⟩
  rw [parseSendEthArgs_ok htoken (Nat.zero_le _) heven hlowers, hbytes]

end Calls

section Codecs

/-- Encoded values as a node gives them. -/
def payloadOf (values : List Abi.AbiValue) : String := "0x" ++ Hex.encode (Abi.encode values)

theorem utf8ByteSize_payloadOf (values : List Abi.AbiValue) :
    (payloadOf values).utf8ByteSize = 2 * (Abi.encode values).length + 2 := by
  have hsize : (payloadOf values).utf8ByteSize =
      (Hex.encode (Abi.encode values)).toList.length + 2 :=
    utf8ByteSize_of_digits String.toList_append fun c hc => (Hex.encode_lower c hc).1
  rw [hsize, Hex.length_encode]

theorem length_le_payloadOf (values : List Abi.AbiValue) :
    (Abi.encode values).length ≤ (payloadOf values).utf8ByteSize := by
  rw [utf8ByteSize_payloadOf]
  omega

/-- A payload that was read is not longer than what was given. -/
theorem length_hexDecode {wording : Wording} {raw field payload : String} {bytes : List UInt8}
    (hpayload : normalizeHexBlob raw field = .ok payload)
    (hbytes : hexDecode wording (trimHexPrefix payload.toList) = .ok bytes) :
    bytes.length ≤ raw.utf8ByteSize := by
  have htext := length_normalizeHexBlob hpayload
  have htrim := length_trimHexPrefix_le payload.toList
  unfold hexDecode at hbytes
  split at hbytes
  · rw [← Except.ok.inj hbytes, Hex.length_bytes]
    omega
  · cases hbytes

/-- A call that returned a value, before the rest. -/
theorem returned_eq_ok {α : Type} {result : Except String α} {a : α} :
    returned result = .ok a ↔ result = .ok a := by
  cases result <;> simp [returned, Except.mapError]

variable (wording : Wording) (target : Target)

/-- A positive amount is read from the event of a gift. -/
theorem decodePatronagePayload_payloadOf {amount : ℕ} (hpositive : 0 < amount)
    (hfits : amount ≤ u256Max) :
    decodePatronagePayload wording (payloadOf [.uint amount]) = .ok amount := by
  have hencoded : Abi.encode [.uint amount] = Abi.wordOf amount := by
    simp [Abi.encode, Abi.heads, Abi.tails, Abi.AbiValue.head, Abi.AbiValue.tail]
  rw [decodePatronagePayload, payloadOf, hencoded, normalizeHexBlob_encode]
  simp only [returned, Except.mapError, ok_bind, hexDecode_encode]
  rw [if_neg (not_not.mpr Abi.length_wordOf), u256FromBeSlice_wordOf hfits, ok_bind,
    if_neg hpositive.ne']

theorem decodePatronagePayload_ne_panic (payloadHex : String) :
    decodePatronagePayload wording payloadHex ≠ .error .panic := by
  unfold decodePatronagePayload
  refine bind_ne_panic (returned_ne_panic _) fun payload _ => ?_
  refine bind_ne_panic (returned_ne_panic _) fun bytes _ => ?_
  split
  · exact fun h => Failure.noConfusion (Except.error.inj h)
  · rename_i hlength
    rw [u256FromBeSlice_ok (not_not.mp hlength), ok_bind]
    split
    · exact fun h => Failure.noConfusion (Except.error.inj h)
    · exact nofun

/-- What the contract emits when a message is queued is read as it was queued; nothing that is
read as an event panics; and the contract reads from a call to it the recipient and the message
that were given. A text is not longer than the largest length of a target. -/
theorem inbox_codecs_agree (keccak256 : List UInt8 → Vector UInt8 32) :
    (∀ (sender : List UInt8) (message : String) (usdcAmount ethAmount : ℕ),
      sender.length = 20 → usdcAmount ≤ u256Max → ethAmount ≤ u256Max →
      (payloadOf (messageQueuedValues sender message usdcAmount ethAmount)).utf8ByteSize ≤
        target.isizeMax →
      decodeMessageQueuedPayload wording target
          (payloadOf (messageQueuedValues sender message usdcAmount ethAmount)) =
        .ok ⟨"0x" ++ Hex.encode sender, message, usdcAmount, ethAmount⟩) ∧
    (∀ payloadHex : String, payloadHex.utf8ByteSize ≤ target.isizeMax →
      decodeMessageQueuedPayload wording target payloadHex ≠ .error .panic) ∧
    ∀ (inbox recipient message : String) (ethAmount : ℕ) (inboxAddress recipientAddress : String),
      normalizeEvmAddress inbox = .ok inboxAddress →
      normalizeEvmAddress recipient = .ok recipientAddress →
      ethAmount ≤ u256Max → message.utf8ByteSize ≤ target.isizeMax →
      ∃ args call, peerInboxSendEthArgs keccak256 inbox recipient message ethAmount = .ok args ∧
        parseSendEthArgs args = .ok ⟨decodeHexBlob inboxAddress, ethAmount, call⟩ ∧
        IsCall keccak256 "queueMessage(address,string,uint256)" [.address, .string, .uint]
          [.address (decodeHexBlob recipientAddress), .string message, .uint 0] call := by
  refine ⟨?_, ?_, ?_⟩
  · intro sender message usdcAmount ethAmount hsender husdc heth hmemory
    have hlength := (length_le_payloadOf _).trans hmemory
    rw [decodeMessageQueuedPayload, payloadOf, normalizeHexBlob_encode]
    simp only [returned, Except.mapError, ok_bind, hexDecode_encode]
    exact decodeMessageQueuedBytes_encode hsender husdc heth rfl hlength
  · intro payloadHex hmemory
    unfold decodeMessageQueuedPayload
    refine bind_ne_panic (returned_ne_panic _) fun payload hpayload => ?_
    refine bind_ne_panic (returned_ne_panic _) fun bytes hbytes => ?_
    have hlength := length_hexDecode (returned_eq_ok.mp hpayload)
      (Fallible.mapError_eq_ok.mp (returned_eq_ok.mp hbytes))
    exact decodeMessageQueuedBytes_ne_panic (hlength.trans hmemory)
  · intro inbox recipient message ethAmount inboxAddress recipientAddress hinbox hrecipient
      hamount hmemory
    have hwidth : target.isizeMax ≤ 2 ^ 64 := by
      cases target <;> norm_num [Target.isizeMax]
    have hmessage := hmemory.trans hwidth
    obtain ⟨args, hargs, hparsed⟩ :=
      peerInboxSendEthArgs_spec hinbox hrecipient hamount hmessage
    obtain ⟨digits, htext, hlength, -⟩ := exists_digits hrecipient
    have haddress : (decodeHexBlob recipientAddress).length = 20 := by
      rw [decodeHexBlob_of_toList htext, Hex.length_bytes, hlength]
    have hcontent : (Abi.textBytes message).length < 2 ^ 256 := by
      rw [Abi.length_textBytes]
      exact hmessage.trans_lt (by norm_num)
    have hencoded : (Abi.encode [.address (decodeHexBlob recipientAddress), .string message,
        .uint 0]).length < 2 ^ 256 := by
      have hsize : (Abi.textBytes message).length ≤ 2 ^ 64 := by rwa [Abi.length_textBytes]
      simp only [Abi.encode, Abi.heads, Abi.tails, Abi.AbiValue.head, Abi.AbiValue.tail,
        Abi.padded, Abi.padding, List.length_append, List.length_replicate, haddress,
        Abi.length_wordOf, List.flatMap_cons, List.flatMap_nil, List.length_nil]
      omega
    refine ⟨args, _, hargs, hparsed, isCall_append ?_ hencoded⟩
    exact .cons haddress (.cons hcontent (.cons (by norm_num [Abi.AbiValue.Fits]) .nil))

section Example

/-- `keccak256("queueMessage(address,string,uint256)")`. -/
private def queueMessageDigest : Vector UInt8 32 :=
  #v[0xdc, 0x0a, 0x1b, 0x6a, 0x2f, 0xba, 0xef, 0xf3,
    0x47, 0x04, 0x8f, 0x0f, 0x62, 0x09, 0x4b, 0x60,
    0x02, 0xb2, 0xe6, 0x5e, 0x05, 0x91, 0x92, 0x48,
    0xc8, 0x97, 0xd0, 0xd3, 0x5a, 0x2e, 0xa2, 0x3b]

private def quietWording : Wording := ⟨fun _ => "Odd number of digits", fun _ => "invalid utf-8"⟩

private def inboxText : String := "0x" ++ Hex.encode (List.replicate 20 0x11)

private def peerText : String := "0x" ++ Hex.encode (List.replicate 20 0x22)

theorem inbox_codecs_agree_thanks :
    decodeMessageQueuedPayload quietWording .wasm32
        (payloadOf (messageQueuedValues (List.replicate 20 0x22) "thanks" 5 7)) =
      .ok ⟨peerText, "thanks", 5, 7⟩ ∧
    decodeMessageQueuedPayload quietWording .wasm32 "0x" ≠ .error .panic ∧
    ∃ args call,
      peerInboxSendEthArgs (fun _ => queueMessageDigest) inboxText peerText "thanks" 7 = .ok args ∧
      parseSendEthArgs args = .ok ⟨decodeHexBlob inboxText, 7, call⟩ ∧
      IsCall (fun _ => queueMessageDigest) "queueMessage(address,string,uint256)"
        [.address, .string, .uint] [.address (decodeHexBlob peerText), .string "thanks", .uint 0]
        call := by
  obtain ⟨hread, hsafe, hcall⟩ :=
    inbox_codecs_agree quietWording .wasm32 fun _ => queueMessageDigest
  have hamounts : 5 ≤ u256Max ∧ 7 ≤ u256Max := by
    unfold u256Max
    omega
  have hmemory :
      (payloadOf (messageQueuedValues (List.replicate 20 0x22) "thanks" 5 7)).utf8ByteSize ≤
        Target.wasm32.isizeMax := by
    rw [utf8ByteSize_payloadOf]
    decide +kernel
  exact ⟨hread _ "thanks" 5 7 List.length_replicate hamounts.1 hamounts.2 hmemory,
    hsafe "0x" (by decide +kernel),
    hcall inboxText peerText "thanks" 7 inboxText peerText
      (normalizeEvmAddress_encode List.length_replicate)
      (normalizeEvmAddress_encode List.length_replicate) hamounts.2 (by decide +kernel)⟩

end Example

end Codecs

end Automaton.Agent
