import Automaton.Library.Hex
import Mathlib.Data.List.DropRight

/-!
# Absolute URLs

How the URL standard reads a text without a base: the white space that it strips, the scheme, and
the authority of a URL with a special scheme, from which its host and its port are read. What the
standard takes from the tables of Unicode is a parameter.
-/

namespace Url

/-- What is taken from elsewhere: percent-decoding with the conversion of a domain to ASCII, which
fails for what no domain may contain, and IPv6 addresses. -/
structure HostRules where
  toAscii : List Char → Option (List Char)
  ipv6 : List Char → Option (List Char)

/-- Hosts. -/
inductive Host
  | domain (name : List Char)
  | ipv4 (address : ℕ)
  | ipv6 (text : List Char)
  deriving DecidableEq

/-- What is read. A URL with a special scheme has an authority; of others, only the scheme is
read. -/
inductive Parsed
  | special (scheme : List Char) (userInfo : Option (List Char)) (host : Host) (port : Option ℕ)
  | other (scheme : List Char)
  deriving DecidableEq

section WhiteSpace

/-- A control character of the first block, or a space. -/
def isControlOrSpace (c : Char) : Bool := c.toNat ≤ 0x20

/-- A tab or a line break. -/
def isTabOrNewline (c : Char) : Bool := c.toNat = 0x9 || c.toNat = 0xa || c.toNat = 0xd

/-- The text that is read: nothing at its ends, and no tabs or line breaks. -/
def cleaned (text : List Char) : List Char :=
  ((text.dropWhile isControlOrSpace).rdropWhile isControlOrSpace).filter (!isTabOrNewline ·)

end WhiteSpace

section Scheme

/-- A character of a scheme. -/
def isSchemeChar (c : Char) : Bool := c.isAlphanum || c = '+' || c = '-' || c = '.'

/-- The scheme in lower case, and what is behind its colon. -/
def schemeOf (text : List Char) : Option (List Char × List Char) :=
  match text.head?, text.dropWhile isSchemeChar with
  | some first, ':' :: rest =>
    if first.isAlpha then some ((text.takeWhile isSchemeChar).map Char.toLower, rest) else none
  | _, _ => none

/-- The special schemes with an authority, and their ports. -/
def specialSchemes : List (String × ℕ) :=
  [("http", 80), ("https", 443), ("ws", 80), ("wss", 443), ("ftp", 21)]

/-- The port of a special scheme. -/
def defaultPort (scheme : List Char) : Option ℕ :=
  (specialSchemes.find? fun entry => entry.1.toList = scheme).map (·.2)

end Scheme

section Ipv4

/-- A number in a dotted address: hexadecimal behind `0x`, octal behind a zero, or decimal. -/
def ipv4Number : List Char → Option ℕ
  | [] => none
  | '0' :: 'x' :: digits | '0' :: 'X' :: digits =>
    if digits.all Text.isHexDigit then some (Hex.ofDigits digits) else none
  | '0' :: first :: digits =>
    if (first :: digits).all fun c => c.isDigit && c < '8' then
      some (Nat.ofDigitChars 8 (first :: digits) 0)
    else none
  | digits => if digits.all Char.isDigit then some (Nat.ofDigitChars 10 digits 0) else none

/-- The parts between dots, without an empty one behind the last dot. -/
def numberParts (host : List Char) : List (List Char) :=
  let parts := host.splitOn '.'
  if parts.getLast? = some [] ∧ 1 < parts.length then parts.dropLast else parts

/-- The last part of a host is a number. -/
def endsInNumber (host : List Char) : Bool :=
  match (numberParts host).getLast? with
  | some last => (last ≠ [] && last.all Char.isDigit) || (ipv4Number last).isSome
  | none => false

/-- The address of a host that ends in a number. The last number fills the bytes that are left. -/
def ipv4Address (host : List Char) : Option ℕ :=
  let parts := numberParts host
  if 4 < parts.length then none
  else
    (parts.mapM ipv4Number).bind fun numbers =>
      let last := numbers.getLastD 0
      if numbers.dropLast.any (255 < ·) || 256 ^ (5 - numbers.length) ≤ last then none
      else some (numbers.dropLast.zipIdx.foldl (fun sum (n, i) => sum + n * 256 ^ (3 - i)) last)

/-- The text of an address: four numbers between dots. -/
def ipv4Text (address : ℕ) : List Char :=
  List.intercalate ['.'] ([address / 256 ^ 3 % 256, address / 256 ^ 2 % 256, address / 256 % 256,
    address % 256].map (Nat.toDigits 10))

end Ipv4

/-- The text of a host. -/
def Host.text : Host → List Char
  | domain name => name
  | ipv4 address => ipv4Text address
  | ipv6 text => '[' :: text ++ [']']

section Authority

variable (rules : HostRules)

/-- The host of a special scheme. -/
def parseHost (text : List Char) : Option Host :=
  if text.head? = some '[' then
    if text.getLast? = some ']' then (rules.ipv6 (text.drop 1).dropLast).map .ipv6 else none
  else
    (rules.toAscii text).bind fun name =>
      if endsInNumber name then (ipv4Address name).map .ipv4 else some (.domain name)

/-- A port that is given, unless it is the one of the scheme. -/
def parsePort (scheme digits : List Char) : Option (Option ℕ) :=
  if digits = [] then some none
  else if digits.all Char.isDigit ∧ Nat.ofDigitChars 10 digits 0 ≤ 65535 then
    let port := Nat.ofDigitChars 10 digits 0
    some (if defaultPort scheme = some port then none else some port)
  else none

/-- What is before and behind the first colon that is not between brackets. -/
def splitPort : Bool → List Char → List Char × List Char
  | _, [] => ([], [])
  | inside, c :: rest =>
    if c = ':' ∧ inside = false then ([], rest)
    else
      let parts := splitPort (c = '[' || (inside && c ≠ ']')) rest
      (c :: parts.1, parts.2)

/-- The character ends the authority. -/
def isDelimiter (c : Char) : Bool := c = '/' || c = '?' || c = '#' || c = '\\'

/-- The authority of a special scheme: user info before the last `@`, then the host and the port. -/
def parseAuthority (scheme authority : List Char) : Option Parsed :=
  let userInfo := if '@' ∈ authority then some (authority.rdropWhile (· ≠ '@')).dropLast else none
  let parts := splitPort false (authority.rtakeWhile (· ≠ '@'))
  if parts.1 = [] then none
  else
    (parseHost rules parts.1).bind fun host =>
      (parsePort scheme parts.2).map fun port => .special scheme userInfo host port

/-- The URL of a text. -/
def parse (text : List Char) : Option Parsed :=
  (schemeOf (cleaned text)).bind fun (scheme, rest) =>
    if (defaultPort scheme).isSome then
      let authority := (rest.dropWhile fun c => c = '/' || c = '\\').takeWhile (!isDelimiter ·)
      parseAuthority rules scheme authority
    else some (.other scheme)

end Authority

section Rules

variable {rules : HostRules} {lead front rest text host : List Char} {c : Char}

/-- A character that is not dropped ends what is dropped behind it. -/
theorem rdropWhile_append_cons {p : Char → Bool} (h : p c = false) :
    (front ++ c :: rest).rdropWhile p = front ++ c :: rest.rdropWhile p := by
  induction rest using List.reverseRecOn with
  | nil =>
    rw [List.rdropWhile_concat_neg p _ _ (by simp [h]), List.rdropWhile_nil]
  | append_singleton rest last ih =>
    rw [← List.cons_append, ← List.append_assoc]
    by_cases hlast : p last = true
    · rw [List.rdropWhile_concat_pos p _ _ hlast, List.rdropWhile_concat_pos p _ _ hlast, ih]
    · rw [List.rdropWhile_concat_neg p _ _ hlast, List.rdropWhile_concat_neg p _ _ hlast,
        List.append_assoc, List.cons_append]

/-- White space is stripped before and behind what is not white space. -/
theorem cleaned_append (hlead : ∀ c ∈ lead, isControlOrSpace c = true) (hfront : front ≠ [])
    (hkept : ∀ c ∈ front, isControlOrSpace c = false) :
    cleaned (lead ++ (front ++ rest)) =
      front ++ (rest.rdropWhile isControlOrSpace).filter (!isTabOrNewline ·) := by
  have hdrop : (lead ++ (front ++ rest)).dropWhile isControlOrSpace = front ++ rest := by
    rw [List.dropWhile_append_of_pos hlead]
    cases front with
    | nil => exact absurd rfl hfront
    | cons c front =>
      rw [List.cons_append, List.dropWhile_cons_of_neg]
      simp [hkept c List.mem_cons_self]
  have hrdrop : (front ++ rest).rdropWhile isControlOrSpace =
      front ++ rest.rdropWhile isControlOrSpace := by
    induction front using List.reverseRecOn with
    | nil => exact absurd rfl hfront
    | append_singleton front last _ =>
      rw [List.append_assoc, List.singleton_append, rdropWhile_append_cons (hkept last (by simp)),
        List.append_assoc, List.singleton_append]
  have hfilter : front.filter (!isTabOrNewline ·) = front := by
    rw [List.filter_eq_self]
    intro c hc
    have hlarge := hkept c hc
    simp only [isControlOrSpace, decide_eq_false_iff_not, not_le] at hlarge
    simp only [isTabOrNewline, Bool.not_eq_true', Bool.or_eq_false_iff, decide_eq_false_iff_not]
    omega
  rw [cleaned, hdrop, hrdrop, List.filter_append, hfilter]

/-- A text that does not start with a letter has no scheme. -/
theorem schemeOf_eq_none (h : c.isAlpha = false) : schemeOf (c :: rest) = none := by
  unfold schemeOf
  split
  · rename_i first after hfirst hafter
    obtain rfl := Option.some.inj hfirst
    rw [if_neg (by simp [h])]
  · rfl

theorem schemeOf_https :
    schemeOf ("https://".toList ++ rest) = some ("https".toList, '/' :: '/' :: rest) := rfl

/-- A part that does not start with a slash is the beginning of the authority. -/
theorem parse_https (htext : cleaned text = "https://".toList ++ (c :: rest))
    (hslash : isDelimiter c = false) :
    parse rules text =
      parseAuthority rules "https".toList ((c :: rest).takeWhile (!isDelimiter ·)) := by
  have hport : (defaultPort "https".toList).isSome = true := by decide
  have hslashes : ('/' :: '/' :: c :: rest).dropWhile (fun c => c = '/' || c = '\\') =
      c :: rest := by
    simp only [isDelimiter, Bool.or_eq_false_iff, decide_eq_false_iff_not] at hslash
    simp [hslash]
  rw [parse, htext, schemeOf_https, Option.bind_some]
  simp only [hport, if_true, hslashes]

/-- Nothing is before the port but the text in which no colon and no bracket is. -/
theorem splitPort_append (h : ∀ c ∈ front, c ≠ ':' ∧ c ≠ '[') :
    splitPort false (front ++ rest) = (front ++ (splitPort false rest).1,
      (splitPort false rest).2) := by
  induction front with
  | nil => rfl
  | cons c front ih =>
    obtain ⟨hcolon, hbracket⟩ := h c List.mem_cons_self
    have hrest := ih fun d hd => h d (List.mem_cons_of_mem c hd)
    simp only [List.cons_append, splitPort, hcolon, hbracket, false_and, if_false, decide_false,
      Bool.false_and, Bool.or_false, hrest]

theorem splitPort_eq_self (h : ∀ c ∈ text, c ≠ ':' ∧ c ≠ '[') :
    splitPort false text = (text, []) := by
  have hsplit := @splitPort_append text [] h
  rwa [List.append_nil, splitPort, List.append_nil] at hsplit

/-- An authority without an `@` has no user info, and its host is before the port. -/
theorem exists_of_parseAuthority {scheme authority : List Char} {parsed : Parsed}
    (huser : '@' ∉ authority) (h : parseAuthority rules scheme authority = some parsed) :
    ∃ host port, parsed = .special scheme none host port ∧
      parseHost rules (splitPort false authority).1 = some host := by
  have hwhole : authority.rtakeWhile (· ≠ '@') = authority := by
    rw [List.rtakeWhile_eq_self_iff]
    intro c hc
    exact decide_eq_true fun heq => huser (heq ▸ hc)
  simp only [parseAuthority, hwhole, if_neg huser] at h
  split at h
  · cases h
  · obtain ⟨host, hhost, h⟩ := Option.bind_eq_some_iff.mp h
    obtain ⟨port, -, rfl⟩ := Option.map_eq_some_iff.mp h
    exact ⟨host, port, rfl, hhost⟩

/-- What the standard says about domains in ASCII: without percent signs they are brought into lower
case, unless a label is no valid encoding of a Unicode label. White space beyond ASCII is either
forbidden in a domain or becomes a space, which is. -/
structure HostRules.Standard (rules : HostRules) : Prop where
  ascii : ∀ name : List Char, (∀ c ∈ name, c.isAlphanum = true ∨ c = '-' ∨ c = '.') →
    rules.toAscii name = none ∨ rules.toAscii name = some (name.map Char.toLower)
  whitespace : ∀ name : List Char, (∃ c ∈ name, Text.isWhitespace c = true ∧ 0x20 < c.toNat) →
    rules.toAscii name = none

/-- The host of a domain in ASCII is the domain in lower case, or the address that it denotes. -/
theorem parseHost_ascii {name : List Char} {host : Host} (hrules : rules.Standard)
    (hname : ∀ c ∈ name, c.isAlphanum = true ∨ c = '-' ∨ c = '.')
    (h : parseHost rules name = some host) :
    if endsInNumber (name.map Char.toLower) then
      ∃ address, ipv4Address (name.map Char.toLower) = some address ∧ host = .ipv4 address
    else host = .domain (name.map Char.toLower) := by
  have hbracket : name.head? ≠ some '[' := by
    intro hhead
    rcases hname '[' (List.mem_of_mem_head? hhead) with halnum | hdash | hdot
    · exact absurd halnum (by decide)
    · exact absurd hdash (by decide)
    · exact absurd hdot (by decide)
  rw [parseHost, if_neg hbracket] at h
  obtain ⟨domain, hdomain, h⟩ := Option.bind_eq_some_iff.mp h
  rcases hrules.ascii name hname with hfails | hlower
  · rw [hfails] at hdomain
    cases hdomain
  · rw [hlower] at hdomain
    obtain rfl := Option.some.inj hdomain
    split at h
    · rename_i hnumber
      rw [if_pos hnumber]
      obtain ⟨address, haddress, rfl⟩ := Option.map_eq_some_iff.mp h
      exact ⟨address, haddress, rfl⟩
    · rename_i hnumber
      rw [if_neg hnumber]
      exact (Option.some.inj h).symm

/-- A host with white space beyond ASCII is none. -/
theorem parseHost_whitespace {name : List Char} (hrules : rules.Standard)
    (hfirst : name.head? ≠ some '[')
    (hspace : ∃ c ∈ name, Text.isWhitespace c = true ∧ 0x20 < c.toNat) :
    parseHost rules name = none := by
  rw [parseHost, if_neg hfirst, hrules.whitespace name hspace]
  rfl

end Rules

section Numbers

variable {front host : List Char}

/-- The last part is what is behind the last dot. -/
theorem getLast?_splitOn (host : List Char) :
    (host.splitOn '.').getLast? = some (host.rtakeWhile (· ≠ '.')) := by
  have hsplit : host.rdropWhile (· ≠ '.') ++ host.rtakeWhile (· ≠ '.') = host :=
    List.rdropWhile_append_rtakeWhile
  have hno : '.' ∉ host.rtakeWhile (· ≠ '.') := by
    intro hdot
    exact absurd (List.mem_rtakeWhile_imp hdot) (by decide)
  have hlast : (host.rtakeWhile (· ≠ '.')).splitOn '.' = [host.rtakeWhile (· ≠ '.')] :=
    List.splitOn_eq_singleton hno
  by_cases hfront : host.rdropWhile (· ≠ '.') = []
  · rw [hfront, List.nil_append] at hsplit
    rw [hsplit] at hlast
    rw [hlast, hsplit]
    rfl
  · have hdot := List.rdropWhile_last_not (fun c : Char => decide (c ≠ '.')) host hfront
    rw [decide_eq_true_eq, not_not] at hdot
    have hbefore := List.dropLast_append_getLast hfront
    rw [hdot] at hbefore
    rw [← hbefore, List.append_assoc, List.singleton_append] at hsplit
    rw [← hsplit, List.splitOn_append_cons_self, hsplit, hlast, List.getLast?_append]
    rfl

/-- A host that does not end with a dot has the part behind its last dot as its last. -/
theorem getLast?_numberParts (hlast : host.getLast? ≠ some '.') (hnonempty : host ≠ []) :
    (numberParts host).getLast? = (host.splitOn '.').getLast? := by
  have hpart : host.rtakeWhile (· ≠ '.') ≠ [] := by
    intro hnil
    have hdot := List.rtakeWhile_eq_nil_iff.mp hnil hnonempty
    rw [decide_eq_true_eq, not_not] at hdot
    exact hlast (by rw [List.getLast?_eq_some_getLast hnonempty, hdot])
  have hno : ¬ ((host.splitOn '.').getLast? = some [] ∧ 1 < (host.splitOn '.').length) := by
    rw [getLast?_splitOn]
    exact fun h => hpart (Option.some.inj h.1)
  rw [numberParts, if_neg hno]

/-- Whether a host ends in a number is seen behind any of its dots. -/
theorem endsInNumber_append (hlast : host.getLast? ≠ some '.') (hnonempty : host ≠ []) :
    endsInNumber (front ++ '.' :: host) = endsInNumber host := by
  have hlast' : (front ++ '.' :: host).getLast? ≠ some '.' := by
    rw [List.getLast?_append, List.getLast?_cons, List.getLast?_eq_some_getLast hnonempty] at *
    exact hlast
  have hsame : (numberParts (front ++ '.' :: host)).getLast? = (numberParts host).getLast? := by
    rw [getLast?_numberParts hlast' (by simp), getLast?_numberParts hlast hnonempty,
      List.splitOn_append_cons_self, List.getLast?_append, getLast?_splitOn]
    rfl
  unfold endsInNumber
  rw [hsame]

end Numbers

end Url
