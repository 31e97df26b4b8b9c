import Automaton.Library.Fallible
import Automaton.Library.Url

/-!
# Fetching from allowed hosts

`http_fetch` reads the host of a URL itself, and compares it with the domains that are allowed. The
URL is then requested as it was given, by a client that reads its host by the URL standard.
-/

namespace Automaton.Agent

section Source

/-- The allowed domains, and whether anything but them is refused. -/
structure HttpAllowlist where
  enforced : Bool
  domains : List String
  deriving DecidableEq

/-- A label starts and ends with a letter or a digit. -/
def labelEndsOk (label : List Char) : Bool :=
  label.head?.any Char.isAlphanum && label.getLast?.any Char.isAlphanum

/-- A label has letters, digits and hyphens only. -/
def labelCharsOk (label : List Char) : Bool := label.all fun c => c.isAlphanum || c = '-'

/-- The checks of a label in `normalize_http_allowed_domain`. -/
def checkDomainLabel (label : List Char) : Except String Unit :=
  if label = [] then .error "http allowed domain labels must not be empty"
  else if !labelEndsOk label then
    .error "http allowed domain labels must start and end with alphanumeric characters"
  else if !labelCharsOk label then
    .error "http allowed domain labels may only contain [a-z0-9-]"
  else .ok ()

/-- `normalize_http_allowed_domain`. -/
def normalizeHttpAllowedDomain (raw : String) : Except String String :=
  let domain := Text.toAsciiLowercase (Text.trim raw)
  if domain = "" then .error "http allowed domain cannot be empty"
  else if Text.contains domain "://" ∨ domain.toList.any (· ∈ ['/', '?', '#', '@', ':']) then
    .error "http allowed domain must be a bare host without scheme/path/port"
  else if domain.toList.head? = some '.' ∨ domain.toList.getLast? = some '.' then
    .error "http allowed domain must not start or end with '.'"
  else do
    (domain.toList.splitOn '.').forM checkDomainLabel
    .ok domain

/-- `set_http_allowed_domains`: what is allowed when it succeeds. -/
def setHttpAllowedDomains (domains : List String) : Except String HttpAllowlist := do
  let normalized ← domains.mapM normalizeHttpAllowedDomain
  .ok ⟨true, (normalized.mergeSort fun a b => a ≤ b).dedup⟩

/-- `ensure_host_allowed`. -/
def ensureHostAllowed (allowlist : HttpAllowlist) (host url : String) : Except String Unit :=
  if !allowlist.enforced then .ok ()
  else if allowlist.domains.isEmpty then .error "no domains allowed"
  else if allowlist.domains.any fun domain =>
      host = domain || ("." ++ domain).toList.isSuffixOf host.toList then
    .ok ()
  else .error ("domain not in allowlist: " ++ url)

/-- `extract_https_host`. -/
def extractHttpsHost (rawUrl : String) : Except String String :=
  match Text.stripPrefix? "https://" (Text.trim rawUrl) with
  | none => .error "only HTTPS URLs are allowed"
  | some remainder =>
    let authority := remainder.toList.takeWhile (· ∉ ['/', '?', '#'])
    if authority = [] then .error "could not parse host"
    else if '@' ∈ authority then .error "user info is not allowed in URL"
    else if authority.head? = some '[' then .error "IPv6 hosts are not supported"
    else
      let host := (authority.takeWhile (· ≠ ':')).map Char.toLower
      if host = [] then .error "could not parse host"
      else if host.head? = some '.' ∨ host.getLast? = some '.' then .error "host is invalid"
      else if (host.splitOn '.').all fun label => labelEndsOk label && labelCharsOk label then
        .ok (String.ofList host)
      else .error "host is invalid"

/-- The URL that `http_fetch_tool` requests, as it was given. -/
def requestedUrl (allowlist : HttpAllowlist) (url : String) : Except String String := do
  if Text.trim url = "" then .error "missing required field: url"
  else
    let host ← extractHttpsHost url
    ensureHostAllowed allowlist host url
    .ok url

end Source

section Host

variable {rawUrl host : String} {c : Char}

/-- A character of a host name. -/
def IsNameChar (c : Char) : Prop := c.isAlphanum = true ∨ c = '-' ∨ c = '.'

/-- A host name has none of the characters around hosts. -/
theorem IsNameChar.ne {d : Char} (h : IsNameChar c)
    (hd : d ∈ [':', '[', '@', '/', '?', '#', '\\']) : c ≠ d := by
  rintro rfl
  simp only [List.mem_cons, List.not_mem_nil, or_false] at hd
  rcases hd with rfl | rfl | rfl | rfl | rfl | rfl | rfl <;>
    exact absurd h (by unfold IsNameChar; decide)

/-- Letters and digits are in ASCII. -/
theorem toNat_of_isAlphanum (h : c.isAlphanum = true) : 48 ≤ c.toNat ∧ c.toNat ≤ 122 := by
  have hval : c.toNat = c.val.toNat := rfl
  have hranges : (decide (65 ≤ c.val ∧ c.val ≤ 90) || (97 ≤ c.val && c.val ≤ 122) ||
      (48 ≤ c.val && c.val ≤ 57)) = true := h
  simp only [Bool.or_eq_true, Bool.and_eq_true, decide_eq_true_eq, UInt32.le_iff_toNat_le,
    UInt32.reduceToNat] at hranges
  omega

theorem IsNameChar.not_control (h : IsNameChar c) : Url.isControlOrSpace c = false := by
  have hlarge : 0x20 < c.toNat := by
    rcases h with halnum | rfl | rfl
    · have hbounds := toNat_of_isAlphanum halnum
      omega
    · decide
    · decide
  simp only [Url.isControlOrSpace, decide_eq_false_iff_not]
  omega

theorem IsNameChar.not_delimiter (h : IsNameChar c) : Url.isDelimiter c = false := by
  simp only [Url.isDelimiter, Bool.or_eq_false_iff, decide_eq_false_iff_not]
  exact ⟨⟨⟨h.ne (by simp), h.ne (by simp)⟩, h.ne (by simp)⟩, h.ne (by simp)⟩

/-- Lower case makes no other character one of a host name. -/
theorem isNameChar_of_toLower (h : IsNameChar c.toLower) : IsNameChar c := by
  by_cases hupper : 'A'.val ≤ c.val ∧ c.val ≤ 'Z'.val
  · have hletter : c.isUpper = true := decide_eq_true hupper
    left
    change ((c.isUpper || c.isLower) || c.isDigit) = true
    rw [hletter]
    rfl
  · have hsame : c.toLower = c := dif_neg hupper
    rwa [hsame] at h

/-- A character is a separator or in a part. -/
theorem mem_splitOn {text : List Char} (h : c ∈ text) :
    c = '.' ∨ ∃ part ∈ text.splitOn '.', c ∈ part := by
  induction text with
  | nil => cases h
  | cons first text ih =>
    rw [List.splitOn_cons_eq_if_modifyHead]
    by_cases hdot : first = '.'
    · rw [if_pos (by simp [hdot])]
      rcases List.mem_cons.mp h with rfl | hrest
      · exact .inl hdot
      · rcases ih hrest with heq | ⟨part, hpart, hin⟩
        · exact .inl heq
        · exact .inr ⟨part, List.mem_cons_of_mem _ hpart, hin⟩
    · rw [if_neg (by simp [hdot])]
      cases hparts : text.splitOn '.' with
      | nil => exact absurd hparts (List.splitOn_ne_nil '.' text)
      | cons part parts =>
        rw [hparts] at ih
        rcases List.mem_cons.mp h with rfl | hrest
        · exact .inr ⟨_, List.mem_cons_self, List.mem_cons_self⟩
        · rcases ih hrest with heq | ⟨other, hother, hin⟩
          · exact .inl heq
          · rcases List.mem_cons.mp hother with rfl | hother
            · exact .inr ⟨_, List.mem_cons_self, List.mem_cons_of_mem _ hin⟩
            · exact .inr ⟨other, List.mem_cons_of_mem _ hother, hin⟩

/-- A text is what is taken from it and what is left, which is nothing or begins elsewhere. -/
theorem dropWhile_cases {p : Char → Bool} (text : List Char) :
    text.dropWhile p = [] ∨ ∃ c rest, text.dropWhile p = c :: rest ∧ p c = false := by
  cases hrest : text.dropWhile p with
  | nil => exact .inl rfl
  | cons c rest =>
    have hnot := List.head?_dropWhile_not p text
    rw [hrest] at hnot
    exact .inr ⟨c, rest, rfl, by simpa using hnot⟩

/-- A URL whose host is extracted: the host name, a port, and the path, the query or the
fragment. -/
structure Extracted (rawUrl : String) (host : String) (name port path : List Char) : Prop where
  text : (Text.trim rawUrl).toList = "https://".toList ++ (name ++ (port ++ path))
  host : host = String.ofList (name.map Char.toLower)
  nonempty : name ≠ []
  chars : ∀ c ∈ name, IsNameChar c
  noDot : (name.map Char.toLower).getLast? ≠ some '.'
  noUser : '@' ∉ port
  port : port = [] ∨ port.head? = some ':'
  path : path = [] ∨ ∃ c rest, path = c :: rest ∧ Url.isDelimiter c = true

/-- A name whose labels are in order has characters of host names only. -/
theorem isNameChar_of_labels {name : List Char}
    (h : ((name.map Char.toLower).splitOn '.').all fun label =>
      labelEndsOk label && labelCharsOk label) : ∀ c ∈ name, IsNameChar c := by
  intro c hc
  refine isNameChar_of_toLower ?_
  have hlower : c.toLower ∈ name.map Char.toLower := List.mem_map_of_mem hc
  rcases mem_splitOn hlower with hdot | ⟨label, hlabel, hin⟩
  · exact .inr (.inr hdot)
  · have hok := List.all_eq_true.mp h label hlabel
    have hchar := List.all_eq_true.mp (Bool.and_eq_true_iff.mp hok).2 _ hin
    rcases (Bool.or_eq_true _ _).mp hchar with halnum | hdash
    · exact .inl halnum
    · exact .inr (.inl (of_decide_eq_true hdash))

theorem extractHttpsHost_spec (h : extractHttpsHost rawUrl = .ok host) :
    ∃ name port path, Extracted rawUrl host name port path := by
  unfold extractHttpsHost at h
  split at h
  · cases h
  · rename_i remainder hstrip
    simp only [Fallible.ite_error_eq_ok] at h
    obtain ⟨-, huser, -, hnonempty, hdots, h⟩ := h
    let authority := remainder.toList.takeWhile (· ∉ ['/', '?', '#'])
    let path := remainder.toList.dropWhile (· ∉ ['/', '?', '#'])
    let name := authority.takeWhile (· ≠ ':')
    let port := authority.dropWhile (· ≠ ':')
    have hremainder : authority ++ path = remainder.toList := List.takeWhile_append_dropWhile
    have hauthority : name ++ port = authority := List.takeWhile_append_dropWhile
    have hport : port = [] ∨ port.head? = some ':' := by
      rcases dropWhile_cases (p := fun c => decide (c ≠ ':')) authority with hnil | hcons
      · exact .inl hnil
      · obtain ⟨c, rest, hport, hc⟩ := hcons
        rw [decide_eq_false_iff_not, not_not] at hc
        exact .inr (by rw [show port = c :: rest from hport, List.head?_cons, hc])
    have hpath : path = [] ∨ ∃ c rest, path = c :: rest ∧ Url.isDelimiter c = true := by
      rcases dropWhile_cases (p := fun c => decide (c ∉ ['/', '?', '#'])) remainder.toList with
        hnil | hcons
      · exact .inl hnil
      · obtain ⟨c, rest, hpath, hc⟩ := hcons
        rw [decide_eq_false_iff_not, not_not] at hc
        refine .inr ⟨c, rest, hpath, ?_⟩
        simp only [List.mem_cons, List.not_mem_nil, or_false] at hc
        rcases hc with rfl | rfl | rfl <;> rfl
    split at h
    · rename_i hlabels
      have hhost := (Except.ok.inj h).symm
      refine ⟨name, port, path, ?_, hhost, ?_, isNameChar_of_labels hlabels,
        fun hlast => hdots (.inr hlast), ?_, hport, hpath⟩
      · rw [Text.eq_append_of_stripPrefix? hstrip, String.toList_append, ← hremainder,
          ← hauthority, List.append_assoc]
      · intro hnil
        exact hnonempty (congrArg (List.map Char.toLower) hnil)
      · intro hat
        refine huser ?_
        have hin : '@' ∈ name ++ port := List.mem_append_right _ hat
        rwa [hauthority] at hin
    · cases h

end Host

section Boundary

variable {c : Char} {text rest : List Char}

/-- White space is no character of a host, and none around hosts. -/
theorem ne_of_isWhitespace {d : Char} (h : Text.isWhitespace c = true)
    (hd : Text.isWhitespace d = false) : c ≠ d := by
  rintro rfl
  rw [h] at hd
  cases hd

theorem isDelimiter_of_isWhitespace (h : Text.isWhitespace c = true) :
    Url.isDelimiter c = false := by
  have hslash := ne_of_isWhitespace (d := '/') h rfl
  have hquery := ne_of_isWhitespace (d := '?') h rfl
  have hfragment := ne_of_isWhitespace (d := '#') h rfl
  have hbackslash := ne_of_isWhitespace (d := '\\') h rfl
  simp [Url.isDelimiter, hslash, hquery, hfragment, hbackslash]

/-- White space beyond the first block is no letter. -/
theorem isAlphanum_of_isWhitespace (h : Text.isWhitespace c = true) : c.isAlphanum = false := by
  by_contra halnum
  rw [Bool.not_eq_false] at halnum
  have hbounds := toNat_of_isAlphanum halnum
  simp only [Text.isWhitespace, Bool.or_eq_true, Bool.and_eq_true, decide_eq_true_eq] at h
  omega

/-- What is read behind a host name, of what follows it in the text. -/
def behind (rest : List Char) : List Char :=
  (((rest.rdropWhile Url.isControlOrSpace).filter (!Url.isTabOrNewline ·)).takeWhile
    (!Url.isDelimiter ·))

/-- What is read has no characters of its own. -/
theorem mem_of_mem_behind (h : c ∈ behind rest) : c ∈ rest := by
  have hfilter := List.mem_of_mem_filter ((List.takeWhile_sublist _).mem h)
  exact (List.rdropWhile_prefix _ _).subset hfilter

/-- A character around hosts is neither stripped nor dropped. -/
theorem kept_of_delimiter (hc : Url.isDelimiter c = true ∨ c = ':') :
    Url.isControlOrSpace c = false ∧ Url.isTabOrNewline c = false := by
  have hlarge : 0x20 < c.toNat := by
    simp only [Url.isDelimiter, Bool.or_eq_true, decide_eq_true_eq] at hc
    rcases hc with (((rfl | rfl) | rfl) | rfl) | rfl <;> decide
  constructor
  · simp only [Url.isControlOrSpace, decide_eq_false_iff_not]
    omega
  · simp only [Url.isTabOrNewline, Bool.or_eq_false_iff, decide_eq_false_iff_not]
    omega

/-- Nothing is taken from where the taking ends. -/
theorem mem_of_mem_takeWhile_append {p : Char → Bool} {front : List Char} {d : Char}
    (hd : p d = false) (h : c ∈ (front ++ d :: rest).takeWhile p) : c ∈ front := by
  induction front with
  | nil =>
    rw [List.nil_append, List.takeWhile_cons_of_neg (by simp [hd])] at h
    exact h
  | cons first front ih =>
    by_cases hfirst : p first = true
    · rw [List.cons_append, List.takeWhile_cons_of_pos hfirst] at h
      rcases List.mem_cons.mp h with rfl | hrest
      · exact List.mem_cons_self
      · exact List.mem_cons_of_mem _ (ih hrest)
    · rw [List.cons_append, List.takeWhile_cons_of_neg hfirst] at h
      cases h

/-- What is stripped and dropped does not reach over a character around hosts. -/
theorem behind_append_cons {front : List Char} {d : Char}
    (hd : Url.isDelimiter d = true ∨ d = ':') :
    behind (front ++ d :: rest) =
      (front.filter (!Url.isTabOrNewline ·) ++
        d :: (rest.rdropWhile Url.isControlOrSpace).filter (!Url.isTabOrNewline ·)).takeWhile
          (!Url.isDelimiter ·) := by
  obtain ⟨hcontrol, htab⟩ := kept_of_delimiter hd
  rw [behind, Url.rdropWhile_append_cons hcontrol, List.filter_append,
    List.filter_cons_of_pos (by simp [htab])]

/-- A delimiter ends what is read, whatever follows it. -/
theorem mem_of_mem_behind_delimiter {port : List Char} {d : Char} (hd : Url.isDelimiter d = true)
    (h : c ∈ behind (port ++ d :: rest)) : c ∈ port := by
  rw [behind_append_cons (.inl hd)] at h
  exact List.mem_of_mem_filter (mem_of_mem_takeWhile_append (by simp [hd]) h)

/-- A port begins with its colon. -/
theorem exists_behind_colon : ∃ more, behind (':' :: rest) = ':' :: more := by
  have hread := @behind_append_cons rest [] ':' (.inr rfl)
  rw [List.nil_append, List.filter_nil, List.nil_append, List.takeWhile_cons_of_pos rfl] at hread
  exact ⟨_, hread⟩

/-- Of white space nothing is left, or some that no domain may contain. -/
theorem behind_whitespace {trail : List Char}
    (htrail : ∀ c ∈ trail, Text.isWhitespace c = true) :
    behind trail = [] ∨
      ∃ c ∈ behind trail, Text.isWhitespace c = true ∧ 0x20 < c.toNat := by
  by_cases hkept : trail.rdropWhile Url.isControlOrSpace = []
  · left
    rw [behind, hkept]
    rfl
  · right
    let last := (trail.rdropWhile Url.isControlOrSpace).getLast hkept
    have hin : last ∈ trail.rdropWhile Url.isControlOrSpace := List.getLast_mem hkept
    have hsub : ∀ c ∈ trail.rdropWhile Url.isControlOrSpace, Text.isWhitespace c = true :=
      fun c hc => htrail c ((List.rdropWhile_prefix _ _).subset hc)
    have hlarge : 0x20 < last.toNat := by
      have hnot := List.rdropWhile_last_not Url.isControlOrSpace trail hkept
      simpa only [Url.isControlOrSpace, decide_eq_true_eq, not_le] using hnot
    have hall : behind trail =
        (trail.rdropWhile Url.isControlOrSpace).filter (!Url.isTabOrNewline ·) := by
      rw [behind, List.takeWhile_eq_self_iff]
      intro c hc
      rw [isDelimiter_of_isWhitespace (hsub c (List.mem_of_mem_filter hc))]
      rfl
    refine ⟨last, ?_, hsub last hin, hlarge⟩
    rw [hall, List.mem_filter]
    refine ⟨hin, ?_⟩
    simp only [Url.isTabOrNewline, Bool.not_eq_true', Bool.or_eq_false_iff,
      decide_eq_false_iff_not]
    omega

/-- What is read behind a host name has no `@`, and it is empty, or begins the port, or is not part
of any host. -/
theorem behind_spec {rawUrl host : String} {name port path trail : List Char}
    (h : Extracted rawUrl host name port path)
    (htrail : ∀ c ∈ trail, Text.isWhitespace c = true) :
    '@' ∉ behind (port ++ (path ++ trail)) ∧
      ((Url.splitPort false (behind (port ++ (path ++ trail)))).1 = [] ∨
        (Url.splitPort false (behind (port ++ (path ++ trail)))).1 =
            behind (port ++ (path ++ trail)) ∧
          ∃ c ∈ behind (port ++ (path ++ trail)), Text.isWhitespace c = true ∧ 0x20 < c.toNat) := by
  have hspace : ∀ c ∈ behind trail, Text.isWhitespace c = true :=
    fun c hc => htrail c (mem_of_mem_behind hc)
  constructor
  · intro hat
    rcases h.path with rfl | ⟨d, others, rfl, hd⟩
    · rcases List.mem_append.mp (mem_of_mem_behind hat) with hport | htail
      · exact h.noUser hport
      · exact ne_of_isWhitespace (htrail _ htail) rfl rfl
    · exact h.noUser (mem_of_mem_behind_delimiter hd hat)
  · rcases h.port with rfl | hcolon
    · rcases h.path with rfl | ⟨d, others, rfl, hd⟩
      · rw [List.nil_append, List.nil_append]
        have hsplit : Url.splitPort false (behind trail) = (behind trail, []) := by
          refine Url.splitPort_eq_self fun c hc => ?_
          exact ⟨ne_of_isWhitespace (hspace c hc) rfl, ne_of_isWhitespace (hspace c hc) rfl⟩
        rcases behind_whitespace htrail with hnil | hsome
        · exact .inl (by rw [hsplit, hnil])
        · exact .inr ⟨by rw [hsplit], hsome⟩
      · left
        have hnone : behind (d :: (others ++ trail)) = [] := by
          rw [List.eq_nil_iff_forall_not_mem]
          intro c hc
          have hin := @mem_of_mem_behind_delimiter c (others ++ trail) [] d hd hc
          cases hin
        rw [List.nil_append, List.cons_append, hnone]
        rfl
    · left
      obtain ⟨digits, rfl⟩ := List.head?_eq_some_iff.mp hcolon
      obtain ⟨more, hread⟩ := @exists_behind_colon (digits ++ (path ++ trail))
      rw [List.cons_append, hread]
      rfl

end Boundary

section Requests

variable {rules : Url.HostRules} {rawUrl host : String} {name port path : List Char}

/-- White space that is not stripped before a text is no scheme. -/
theorem parse_lead {lead rest : List Char} (hlead : ∀ c ∈ lead, Text.isWhitespace c = true)
    (h : ¬ ∀ c ∈ lead, Url.isControlOrSpace c = true) :
    Url.parse rules (lead ++ rest) = none := by
  have hsplit : lead.takeWhile Url.isControlOrSpace ++ lead.dropWhile Url.isControlOrSpace = lead :=
    List.takeWhile_append_dropWhile
  rcases dropWhile_cases (p := Url.isControlOrSpace) lead with hnil | ⟨c, more, hcons, hkept⟩
  · exact absurd (List.dropWhile_eq_nil_iff.mp hnil) h
  · rw [hcons] at hsplit
    have hspace : Text.isWhitespace c = true := by
      refine hlead c ?_
      rw [← hsplit]
      exact List.mem_append_right _ List.mem_cons_self
    have hletter : c.isAlpha = false := by
      have halnum := isAlphanum_of_isWhitespace hspace
      rw [Char.isAlphanum, Bool.or_eq_false_iff] at halnum
      exact halnum.1
    have hcleaned := @Url.cleaned_append (lead.takeWhile Url.isControlOrSpace) [c] (more ++ rest)
      (fun d hd => List.mem_takeWhile_imp hd) (by simp) (by simpa using hkept)
    rw [show lead ++ rest = lead.takeWhile Url.isControlOrSpace ++ ([c] ++ (more ++ rest)) by
      rw [← List.append_assoc [c], List.singleton_append, ← List.append_assoc, hsplit], Url.parse,
      hcleaned, List.singleton_append, Url.schemeOf_eq_none hletter, Option.bind_none]

/-- What a URL standard reads in a URL whose host is extracted: the scheme, no user info, and that
host. -/
theorem Extracted.parse_eq {parsed : Url.Parsed} (hrules : rules.Standard)
    (h : Extracted rawUrl host name port path)
    (hparsed : Url.parse rules rawUrl.toList = some parsed) :
    ∃ found number, parsed = .special "https".toList none found number ∧
      Url.parseHost rules name = some found := by
  obtain ⟨lead, trail, htext, hlead, htrail⟩ := Text.exists_trim rawUrl
  rw [h.text] at htext
  have hscheme : ∀ c ∈ "https://".toList, Url.isControlOrSpace c = false := by
    intro c hc
    fin_cases hc <;> rfl
  by_cases hcontrol : ∀ c ∈ lead, Url.isControlOrSpace c = true
  · let rest := port ++ (path ++ trail)
    have hcleaned : Url.cleaned rawUrl.toList = "https://".toList ++ name ++
        (rest.rdropWhile Url.isControlOrSpace).filter (!Url.isTabOrNewline ·) := by
      rw [htext, show "https://".toList ++ (name ++ (port ++ path)) ++ trail =
        ("https://".toList ++ name) ++ rest by simp only [rest, List.append_assoc]]
      refine Url.cleaned_append hcontrol (by simp) fun c hc => ?_
      rcases List.mem_append.mp hc with hin | hin
      · exact hscheme c hin
      · exact (h.chars c hin).not_control
    obtain ⟨first, others, hname⟩ := List.exists_cons_of_ne_nil h.nonempty
    have hfirst := (h.chars first (by rw [hname]; exact List.mem_cons_self)).not_delimiter
    have hauthority : Url.parse rules rawUrl.toList =
        Url.parseAuthority rules "https".toList (name ++ behind rest) := by
      rw [hname, List.append_assoc, List.cons_append] at hcleaned
      rw [Url.parse_https hcleaned hfirst, ← List.cons_append, ← hname,
        List.takeWhile_append_of_pos]
      · rfl
      · intro c hc
        rw [(h.chars c hc).not_delimiter]
        rfl
    obtain ⟨huser, hbehind⟩ := behind_spec h htrail
    rw [hauthority] at hparsed
    have hnouser : '@' ∉ name ++ behind rest := by
      intro hat
      rcases List.mem_append.mp hat with hin | hin
      · exact (h.chars _ hin).ne (by simp) rfl
      · exact huser hin
    obtain ⟨found, number, hspecial, hhost⟩ := Url.exists_of_parseAuthority hnouser hparsed
    have hsplit := @Url.splitPort_append name (behind rest) fun c hc =>
      ⟨(h.chars c hc).ne (by simp), (h.chars c hc).ne (by simp)⟩
    rw [hsplit] at hhost
    refine ⟨found, number, hspecial, ?_⟩
    rcases hbehind with hnil | ⟨hself, c, hc, hspace⟩
    · simpa only [rest, hnil, List.append_nil] using hhost
    · -- white space behind the name makes it no domain
      have hnone : Url.parseHost rules (name ++ behind rest) = none := by
        refine Url.parseHost_whitespace hrules ?_ ⟨c, List.mem_append_right _ hc, hspace⟩
        rw [hname, List.cons_append, List.head?_cons]
        intro hbracket
        exact (h.chars first (by rw [hname]; exact List.mem_cons_self)).ne (by simp)
          (Option.some.inj hbracket)
      simp only [rest] at hnone
      simp only [rest, hself, hnone] at hhost
      cases hhost
  · -- white space before the scheme that is not stripped makes it none
    rw [htext, List.append_assoc, parse_lead hlead hcontrol] at hparsed
    cases hparsed

/-- An accepted URL names a host that is allowed. -/
theorem ensureHostAllowed_eq_ok {allowlist : HttpAllowlist} {url : String}
    (henforced : allowlist.enforced = true)
    (h : ensureHostAllowed allowlist host url = .ok ()) :
    ∃ domain ∈ allowlist.domains,
      host = domain ∨ ('.' :: domain.toList) <:+ host.toList := by
  rw [ensureHostAllowed, henforced, Bool.not_true, if_neg Bool.false_ne_true] at h
  split at h
  · cases h
  · split at h
    · rename_i hany
      obtain ⟨domain, hdomain, hmatch⟩ := List.any_eq_true.mp hany
      rw [Bool.or_eq_true, decide_eq_true_eq] at hmatch
      refine ⟨domain, hdomain, hmatch.imp_right fun hsuffix => ?_⟩
      rw [List.isSuffixOf_iff_suffix, String.toList_append] at hsuffix
      exact hsuffix
    · cases h

/-- The checks that are passed before a URL is requested as it was given. -/
theorem requestedUrl_eq_ok {allowlist : HttpAllowlist} {url requested : String}
    (h : requestedUrl allowlist url = .ok requested) :
    requested = url ∧ ∃ host, extractHttpsHost url = .ok host ∧
      ensureHostAllowed allowlist host url = .ok () := by
  rw [requestedUrl] at h
  split at h
  · cases h
  · obtain ⟨host, hhost, h⟩ := Fallible.bind_eq_ok.mp h
    obtain ⟨⟨⟩, hallowed, h⟩ := Fallible.bind_eq_ok.mp h
    exact ⟨(Except.ok.inj h).symm, host, hhost, hallowed⟩

/-- The host of a name: the name itself, unless an allowed domain ends in a number. Then it is the
address that the name denotes. -/
def IsHostOf (domain : String) (name : List Char) (host : Url.Host) : Prop :=
  if Url.endsInNumber domain.toList then
    ∃ address, Url.ipv4Address name = some address ∧ host = .ipv4 address
  else host = .domain name

/-- What is requested is an HTTPS URL without user info, and its host is that of an allowed domain
or of a name below one. -/
theorem requested_host_allowed {allowlist : HttpAllowlist} {url requested : String}
    {parsed : Url.Parsed} (hrules : rules.Standard) (henforced : allowlist.enforced = true)
    (hrequested : requestedUrl allowlist url = .ok requested)
    (hparsed : Url.parse rules requested.toList = some parsed) :
    ∃ host port, parsed = .special "https".toList none host port ∧
      ∃ domain ∈ allowlist.domains, ∃ name : List Char,
        (name = domain.toList ∨ ('.' :: domain.toList) <:+ name) ∧ IsHostOf domain name host := by
  obtain ⟨rfl, extracted, hextract, hallowed⟩ := requestedUrl_eq_ok hrequested
  obtain ⟨name, port, path, hshape⟩ := extractHttpsHost_spec hextract
  obtain ⟨host, number, hspecial, hhost⟩ := hshape.parse_eq hrules hparsed
  obtain ⟨domain, hdomain, hmatch⟩ := ensureHostAllowed_eq_ok henforced hallowed
  have hextracted : extracted.toList = name.map Char.toLower := by
    rw [hshape.host, String.toList_ofList]
  have hname : name.map Char.toLower = domain.toList ∨
      ('.' :: domain.toList) <:+ name.map Char.toLower := by
    rw [← hextracted]
    exact hmatch.imp_left fun heq => by rw [heq]
  refine ⟨host, number, hspecial, domain, hdomain, name.map Char.toLower, hname, ?_⟩
  have hread := Url.parseHost_ascii hrules hshape.chars hhost
  have hnumber : Url.endsInNumber (name.map Char.toLower) = Url.endsInNumber domain.toList := by
    rcases hname with heq | ⟨front, heq⟩
    · rw [heq]
    · have hnoDot := hshape.noDot
      rw [← heq] at hnoDot ⊢
      have hnonempty : domain.toList ≠ [] := by
        intro hnil
        rw [hnil, List.getLast?_append] at hnoDot
        exact hnoDot rfl
      refine Url.endsInNumber_append (fun hlast => hnoDot ?_) hnonempty
      rw [List.getLast?_append, List.getLast?_cons, hlast]
      rfl
  rw [hnumber] at hread
  exact hread

/-- The tables of a client that knows names in ASCII only. -/
def asciiRules : Url.HostRules where
  toAscii name :=
    if name.all fun c => c.isAlphanum || c = '-' || c = '.' then some (name.map Char.toLower)
    else none
  ipv6 _ := none

theorem asciiRules_standard : asciiRules.Standard where
  ascii name hname := by
    right
    have hall : (name.all fun c => c.isAlphanum || c = '-' || c = '.') = true := by
      rw [List.all_eq_true]
      intro c hc
      rcases hname c hc with halnum | rfl | rfl
      · rw [halnum]
        rfl
      · rfl
      · rfl
    simp only [asciiRules, hall, if_true]
  whitespace name := by
    rintro ⟨c, hc, hspace, -⟩
    have hnot : (name.all fun c => c.isAlphanum || c = '-' || c = '.') = false := by
      rw [List.all_eq_false]
      refine ⟨c, hc, ?_⟩
      have hdash := ne_of_isWhitespace (d := '-') hspace rfl
      have hdot := ne_of_isWhitespace (d := '.') hspace rfl
      simp [isAlphanum_of_isWhitespace hspace, hdash, hdot]
    simp only [asciiRules, hnot, Bool.false_eq_true, if_false]

/-- A name below an allowed domain, in capitals, with a port and with white space around it. -/
theorem requested_host_allowed_below : ∃ host port,
    Url.Parsed.special "https".toList none (.domain "api.example.com".toList) (some 8443) =
        .special "https".toList none host port ∧
      ∃ domain ∈ ["example.com"], ∃ name : List Char,
        (name = domain.toList ∨ ('.' :: domain.toList) <:+ name) ∧ IsHostOf domain name host :=
  have hrequested : requestedUrl ⟨true, ["example.com"]⟩ " https://API.example.com:8443/v1\n" =
      .ok " https://API.example.com:8443/v1\n" := by with_unfolding_all rfl
  have hparsed : Url.parse asciiRules " https://API.example.com:8443/v1\n".toList =
      some (.special "https".toList none (.domain "api.example.com".toList) (some 8443)) := by
    with_unfolding_all rfl
  requested_host_allowed asciiRules_standard rfl hrequested hparsed

/-- A domain that ends in a number is allowed as it is written, and an address is requested that is
written otherwise. -/
theorem numeric_domain_requests_address :
    setHttpAllowedDomains ["127.1"] = .ok ⟨true, ["127.1"]⟩ ∧
      requestedUrl ⟨true, ["127.1"]⟩ "https://127.1/" = .ok "https://127.1/" ∧
      asciiRules.Standard ∧
      Url.parse asciiRules "https://127.1/".toList =
        some (.special "https".toList none (.ipv4 0x7f000001) none) ∧
      (Url.Host.ipv4 0x7f000001).text = "127.0.0.1".toList ∧
      "127.0.0.1".toList ≠ "127.1".toList ∧
      ¬ ('.' :: "127.1".toList) <:+ "127.0.0.1".toList := by
  refine ⟨by with_unfolding_all rfl, by with_unfolding_all rfl, asciiRules_standard,
    by with_unfolding_all rfl, by decide, by decide, by decide⟩

end Requests

end Automaton.Agent
