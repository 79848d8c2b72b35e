import Bimarz.Url.Address

/-!
# Taking a URL apart (`urllib.parse.urlsplit`)

`urlsplit` with the properties of its result that give the user name, the host and the port. What
depends on the Unicode database is a `Unicode`.
-/

namespace Url

/-- `str.lower` and NFKC normalization. -/
structure Unicode where
  lower : Chars → Chars
  nfkc : Chars → Chars

/-- The documented behaviour on ASCII texts. -/
structure Unicode.Lawful (unicode : Unicode) : Prop where
  lower : ∀ cs : Chars, (∀ c ∈ cs, isAscii c = true) → unicode.lower cs = cs.map Char.toLower

/-- The `ValueError`s of `urllib.parse`. -/
inductive UrlError
  | invalidIpv6Url
  | invalidIpvFuture
  | notAnAddress (address : Chars)
  | ipv4InBrackets
  | nfkcCharacters (netloc : Chars)
  | portNotInteger (port : Chars)
  | portOutOfRange
  deriving DecidableEq

structure SplitResult where
  scheme : Chars
  netloc : Chars
  path : Chars
  query : Chars
  fragment : Chars
  deriving DecidableEq

/-! ## `urlsplit` -/

def isSchemeChar (c : Char) : Bool := c.isAlphanum || c = '+' || c = '-' || c = '.'

/-- The characters that are removed wherever they stand. -/
def isUnsafe (c : Char) : Bool := c = '\t' || c = '\r' || c = '\n'

/-- The scheme in lower case and the rest; without a scheme, everything. -/
def splitScheme (url : Chars) : Chars × Chars :=
  match Text.partition ':' url with
  | (scheme, true, rest) =>
    if (scheme.head?.any Char.isAlpha) && scheme.all isSchemeChar then
      (scheme.map Char.toLower, rest)
    else ([], url)
  | _ => ([], url)

def isDelimiter (c : Char) : Bool := c = '/' || c = '?' || c = '#'

/-- `_check_bracketed_host`. -/
def checkBracketedHost (hostname : Chars) : Except UrlError Unit :=
  if hostname.head? = some 'v' then
    let version := hostname.tail.takeWhile fun c => (Hex.value c).isSome
    match hostname.tail.dropWhile fun c => (Hex.value c).isSome with
    | '.' :: _ :: _ => if version = [] then .error .invalidIpvFuture else .ok ()
    | _ => .error .invalidIpvFuture
  else
    match ipAddress hostname with
    | some .v6 => .ok ()
    | some .v4 => .error .ipv4InBrackets
    | none => .error (.notAnAddress hostname)

/-- The bracket check of CPython 3.11.4 to 3.11.11 and 3.12.0 to 3.12.8; later releases also refuse
text outside the brackets. -/
def checkBrackets (netloc : Chars) : Except UrlError Unit :=
  if '[' ∈ netloc ∧ ']' ∉ netloc ∨ ']' ∈ netloc ∧ '[' ∉ netloc then .error .invalidIpv6Url
  else if '[' ∈ netloc then
    checkBracketedHost (Text.partition ']' (Text.partition '[' netloc).2.2).1
  else .ok ()

/-- `_checknetloc`. -/
def checkNetloc (unicode : Unicode) (netloc : Chars) : Except UrlError Unit :=
  if netloc.all isAscii then .ok ()
  else
    let n := netloc.filter fun c => c ≠ '@' ∧ c ≠ ':' ∧ c ≠ '#' ∧ c ≠ '?'
    if unicode.nfkc n = n then .ok ()
    else if (unicode.nfkc n).any fun c => isDelimiter c || c = '@' || c = ':' then
      .error (.nfkcCharacters netloc)
    else .ok ()

/-- A text before and after a separator, which need not be there. -/
def splitOnce (sep : Char) (url : Chars) : Chars × Chars :=
  ((Text.partition sep url).1, (Text.partition sep url).2.2)

/-- `urlsplit(url)`. -/
def urlsplit (unicode : Unicode) (url : Chars) : Except UrlError SplitResult := do
  let url := (url.dropWhile fun c => c.toNat ≤ 32).filter fun c => !isUnsafe c
  let (scheme, url) := splitScheme url
  let (netloc, url) :=
    match url with
    | '/' :: '/' :: url =>
      (url.takeWhile fun c => !isDelimiter c, url.dropWhile fun c => !isDelimiter c)
    | url => ([], url)
  checkBrackets netloc
  let (url, fragment) := splitOnce '#' url
  let (path, query) := splitOnce '?' url
  checkNetloc unicode netloc
  return { scheme, netloc, path, query, fragment }

/-! ## The properties -/

/-- `_userinfo[0]`. -/
def SplitResult.username (parsed : SplitResult) : Option Chars :=
  match Text.rpartition '@' parsed.netloc with
  | (userinfo, true, _) => some (Text.partition ':' userinfo).1
  | _ => none

/-- `_hostinfo`: the host and the text of the port. -/
def SplitResult.hostinfo (parsed : SplitResult) : Chars × Chars :=
  let hostinfo := (Text.rpartition '@' parsed.netloc).2.2
  match Text.partition '[' hostinfo with
  | (_, true, bracketed) =>
    let (hostname, _, rest) := Text.partition ']' bracketed
    (hostname, (Text.partition ':' rest).2.2)
  | _ =>
    let (hostname, _, port) := Text.partition ':' hostinfo
    (hostname, port)

/-- A zone keeps its case. -/
def SplitResult.hostname (unicode : Unicode) (parsed : SplitResult) : Option Chars :=
  if parsed.hostinfo.1 = [] then none
  else
    match Text.partition '%' parsed.hostinfo.1 with
    | (address, true, zone) => some (unicode.lower address ++ '%' :: zone)
    | (address, false, _) => some (unicode.lower address)

/-- The longest text that `int` converts. -/
def maxStrDigits : ℕ := 4300

def SplitResult.port (parsed : SplitResult) : Except UrlError (Option ℕ) :=
  let port := parsed.hostinfo.2
  if port = [] then .ok none
  else if ¬port.all Char.isDigit ∨ maxStrDigits < port.length then .error (.portNotInteger port)
  else if 65535 < decimal port then .error .portOutOfRange
  else .ok (some (decimal port))

/-! ## A URL that was put together -/

theorem splitScheme_append {scheme : Chars} (halpha : scheme.head?.any Char.isAlpha = true)
    (hchars : scheme.all isSchemeChar = true) (hlower : scheme.map Char.toLower = scheme)
    (rest : Chars) : splitScheme (scheme ++ ':' :: rest) = (scheme, rest) := by
  have hcolon : ':' ∉ scheme := by
    intro hmem
    have := List.all_eq_true.mp hchars _ hmem
    revert this
    decide
  unfold splitScheme
  rw [Text.partition_append hcolon]
  simp only
  rw [if_pos (by rw [halpha, hchars]; rfl), hlower]

theorem checkNetloc_ascii (unicode : Unicode) {netloc : Chars}
    (h : ∀ c ∈ netloc, isAscii c = true) : checkNetloc unicode netloc = .ok () :=
  if_pos (List.all_eq_true.mpr h)

/-- The characters that `urlsplit` leaves where they are. -/
def IsVisible (c : Char) : Prop := 32 < c.toNat

theorem filter_visible {cs : Chars} (h : ∀ c ∈ cs, IsVisible c) :
    (cs.dropWhile fun c => c.toNat ≤ 32).filter (fun c => !isUnsafe c) = cs := by
  have hdrop : (cs.dropWhile fun c => c.toNat ≤ 32) = cs := by
    cases cs with
    | nil => rfl
    | cons c cs =>
      have hc : 32 < c.toNat := h c List.mem_cons_self
      rw [List.dropWhile_cons_of_neg]
      simp only [decide_eq_true_eq]
      omega
  rw [hdrop]
  apply List.filter_eq_self.mpr
  intro c hc
  have hvisible := h c hc
  unfold isUnsafe
  by_contra hnot
  simp only [Bool.not_or, Bool.and_eq_true, Bool.not_eq_true', decide_eq_false_iff_not,
    not_and_or, not_not] at hnot
  rcases hnot with (rfl | rfl) | rfl <;> revert hvisible <;> unfold IsVisible <;> decide

theorem splitOnce_append {sep : Char} {cs : Chars} (h : sep ∉ cs) (rest : Chars) :
    splitOnce sep (cs ++ sep :: rest) = (cs, rest) := by
  unfold splitOnce
  rw [Text.partition_append h]

/-- The authority ends where the query begins. -/
theorem authority_append {netloc : Chars} (h : ∀ c ∈ netloc, isDelimiter c = false)
    (rest : Chars) :
    ((netloc ++ '?' :: rest).takeWhile fun c => !isDelimiter c) = netloc ∧
      ((netloc ++ '?' :: rest).dropWhile fun c => !isDelimiter c) = '?' :: rest := by
  have hpass : ∀ c ∈ netloc, (!isDelimiter c) = true := fun c hc => by rw [h c hc]; rfl
  constructor
  · rw [List.takeWhile_append_of_pos hpass, List.takeWhile_cons_of_neg (by decide),
      List.append_nil]
  · rw [List.dropWhile_append_of_pos hpass, List.dropWhile_cons_of_neg (by decide)]

/-- The parts of a URL without a path come back. -/
theorem urlsplit_append (unicode : Unicode) {scheme netloc query fragment : Chars}
    (halpha : scheme.head?.any Char.isAlpha = true) (hchars : scheme.all isSchemeChar = true)
    (hlower : scheme.map Char.toLower = scheme)
    (hvisible : ∀ c ∈ scheme ++ netloc ++ query ++ fragment, IsVisible c)
    (hnetloc : ∀ c ∈ netloc, isAscii c = true ∧ isDelimiter c = false)
    (hbrackets : checkBrackets netloc = .ok ()) (hquery : '#' ∉ query) :
    urlsplit unicode
      (scheme ++ ':' :: '/' :: '/' :: (netloc ++ '?' :: (query ++ '#' :: fragment))) =
      .ok ⟨scheme, netloc, [], query, fragment⟩ := by
  have hall : ∀ c ∈ scheme ++ ':' :: '/' :: '/' :: (netloc ++ '?' :: (query ++ '#' :: fragment)),
      IsVisible c := by
    intro c hc
    simp only [List.mem_append, List.mem_cons] at hc hvisible
    rcases hc with hc | rfl | rfl | rfl | hc | rfl | hc | rfl | hc
    · exact hvisible c (Or.inl (Or.inl (Or.inl hc)))
    · exact (by decide : (32 : ℕ) < 58)
    · exact (by decide : (32 : ℕ) < 47)
    · exact (by decide : (32 : ℕ) < 47)
    · exact hvisible c (Or.inl (Or.inl (Or.inr hc)))
    · exact (by decide : (32 : ℕ) < 63)
    · exact hvisible c (Or.inl (Or.inr hc))
    · exact (by decide : (32 : ℕ) < 35)
    · exact hvisible c (Or.inr hc)
  obtain ⟨htake, hdrop⟩ :=
    authority_append (fun c hc => (hnetloc c hc).2) (query ++ '#' :: fragment)
  have hfragment :
      splitOnce '#' ('?' :: (query ++ '#' :: fragment)) = ('?' :: query, fragment) := by
    rw [← List.cons_append]
    apply splitOnce_append
    simpa using hquery
  have hpath : splitOnce '?' ('?' :: query) = ([], query) := splitOnce_append List.not_mem_nil query
  unfold urlsplit
  simp only [filter_visible hall, splitScheme_append halpha hchars hlower, htake, hdrop, hbrackets,
    hfragment, hpath, checkNetloc_ascii unicode fun c hc => (hnetloc c hc).1]
  rfl

/-! ## An authority that was put together -/

/-- `user@host:port`. -/
def authority (user host port : Chars) : Chars := user ++ '@' :: (host ++ ':' :: port)

/-- The texts that stand for a host: a name, or an IPv6 address in brackets. -/
inductive Host
  | name (text : Chars)
  | bracketed (address : Chars)

def Host.text : Host → Chars
  | .name text => text
  | .bracketed address => '[' :: (address ++ [']'])

/-- The host without brackets. -/
def Host.bare : Host → Chars
  | .name text => text
  | .bracketed address => address

/-- A nonempty name, or what `ip_address` takes for IPv6, without a zone. -/
def Host.Valid : Host → Prop
  | .name text => text ≠ [] ∧ ∀ c ∈ text, isUnreserved c = true
  | .bracketed address => ipAddress address = some .v6 ∧ '%' ∉ address

/-- The characters of a host. -/
def IsHostChar (c : Char) : Prop := isUnreserved c = true ∨ c = ':'

theorem isHostChar_ne {c d : Char} (h : IsHostChar c) (hd : isUnreserved d = false)
    (hcolon : d ≠ ':') : c ≠ d := by
  rintro rfl
  rcases h with h | h
  · rw [hd] at h
    cases h
  · exact hcolon h

theorem toLower_eq_self_iff (c : Char) : c.toLower = c ↔ c.isUpper = false := by
  have hupper : c.isUpper = decide (c.val ≥ 'A'.val ∧ c.val ≤ 'Z'.val) := rfl
  rw [hupper, decide_eq_false_iff_not]
  unfold Char.toLower
  constructor
  · intro h hrange
    rw [dif_pos hrange] at h
    have hval : c.val + ('a'.val - 'A'.val) = c.val := congrArg Char.val h
    exact absurd (UInt32.add_eq_left.mp hval) (by decide)
  · intro h
    exact dif_neg h

theorem map_toLower_eq_self_iff (cs : Chars) :
    cs.map Char.toLower = cs ↔ ∀ c ∈ cs, c.isUpper = false := by
  have hid : cs.map Char.toLower = cs ↔ cs.map Char.toLower = cs.map id := by rw [List.map_id]
  rw [hid, List.map_inj_left]
  exact forall₂_congr fun c _ => toLower_eq_self_iff c

theorem isUnreserved_of_hex {c : Char} (h : (Hex.value c).isSome = true) :
    isUnreserved c = true := by
  have halphanum : c.isAlphanum = true := by
    rw [isAlphanum_iff]
    simp only [Hex.value] at h
    split at h
    · omega
    split at h
    · omega
    split at h
    · omega
    · cases h
  unfold isUnreserved
  rw [halphanum]
  rfl

theorem Host.Valid.isIpv6Int {address : Chars} (h : (Host.bracketed address).Valid) :
    isIpv6Int address = true := by
  obtain ⟨haddress, hpercent⟩ := h
  unfold ipAddress at haddress
  split at haddress
  · cases haddress
  split at haddress
  · rename_i hipv6
    unfold isIpv6 at hipv6
    split at hipv6
    · cases hipv6
    · rw [Text.partition_of_not_mem hpercent] at hipv6
      exact hipv6
  · cases haddress

theorem Host.Valid.chars {host : Host} (h : host.Valid) : ∀ c ∈ host.bare, IsHostChar c := by
  intro c hc
  cases host with
  | name text => exact Or.inl (h.2 c hc)
  | bracketed address =>
    rcases isIpv6Char_of_isIpv6Int h.isIpv6Int hc with hhex | hcolon | hdot
    · exact Or.inl (isUnreserved_of_hex hhex)
    · exact Or.inr hcolon
    · rw [hdot]
      exact Or.inl rfl

theorem Host.Valid.bare_ne {host : Host} (h : host.Valid) : host.bare ≠ [] := by
  cases host with
  | name text => exact h.1
  | bracketed address =>
    rintro rfl
    exact absurd h.1 (by decide)

section Authority

variable {user port : Chars} {host : Host}

theorem not_mem_host (hhost : host.Valid) {d : Char} (hd : isUnreserved d = false)
    (hcolon : d ≠ ':') : d ∉ host.bare :=
  fun hmem => isHostChar_ne (hhost.chars d hmem) hd hcolon rfl

/-- What stands after the user name has no other at sign. -/
theorem at_not_mem (hhost : host.Valid) (hport : '@' ∉ port) : '@' ∉ host.text ++ ':' :: port := by
  have hbare := not_mem_host hhost (d := '@') rfl (by decide)
  cases host with
  | name text => simpa [Host.text, Host.bare, hport] using hbare
  | bracketed address => simpa [Host.text, Host.bare, hport] using hbare

theorem username_authority {scheme path query fragment : Chars} (huser : ':' ∉ user)
    (hhost : host.Valid) (hport : '@' ∉ port) :
    SplitResult.username ⟨scheme, authority user host.text port, path, query, fragment⟩ =
      some user := by
  unfold SplitResult.username authority
  simp only [Text.rpartition_append (at_not_mem hhost hport),
    Text.partition_of_not_mem huser]

/-- The host without brackets and the port. -/
theorem hostinfo_authority {scheme path query fragment : Chars} (hhost : host.Valid)
    (hat : '@' ∉ port) (hbracket : '[' ∉ port) :
    SplitResult.hostinfo ⟨scheme, authority user host.text port, path, query, fragment⟩ =
      (host.bare, port) := by
  unfold SplitResult.hostinfo authority
  simp only [Text.rpartition_append (at_not_mem hhost hat)]
  cases host with
  | name text =>
    have hopen : '[' ∉ text ++ ':' :: port := by
      have := not_mem_host hhost (d := '[') rfl (by decide)
      simpa [Host.bare, hbracket] using this
    have hcolon : ':' ∉ text := fun hmem => by
      have := hhost.2 _ hmem
      revert this
      decide
    simp only [Host.text, Host.bare, Text.partition_of_not_mem hopen,
      Text.partition_append hcolon]
  | bracketed address =>
    have hclose : ']' ∉ address := not_mem_host hhost (d := ']') rfl (by decide)
    have htext : (Host.bracketed address).text ++ ':' :: port =
        [] ++ '[' :: (address ++ ']' :: ([] ++ ':' :: port)) := by simp [Host.text]
    simp only [htext, Text.partition_append (List.not_mem_nil (a := '[')),
      Text.partition_append hclose, Text.partition_append (List.not_mem_nil (a := ':')), Host.bare]

theorem checkBracketedHost_valid {address : Chars} (h : (Host.bracketed address).Valid) :
    checkBracketedHost address = .ok () := by
  have hv : address.head? ≠ some 'v' := by
    intro hhead
    have hchar := isIpv6Char_of_isIpv6Int h.isIpv6Int (List.mem_of_head? hhead)
    revert hchar
    unfold IsIpv6Char
    decide
  unfold checkBracketedHost
  rw [if_neg hv, h.1]

theorem checkBrackets_authority (hopen : '[' ∉ user) (hclose : ']' ∉ user) (hhost : host.Valid)
    (hopen' : '[' ∉ port) (hclose' : ']' ∉ port) :
    checkBrackets (authority user host.text port) = .ok () := by
  have hbare := not_mem_host hhost (d := '[') rfl (by decide)
  have hbare' := not_mem_host hhost (d := ']') rfl (by decide)
  unfold checkBrackets
  cases host with
  | name text =>
    have hno : '[' ∉ authority user (Host.name text).text port := by
      simpa [authority, Host.text, Host.bare, hopen, hopen'] using hbare
    have hno' : ']' ∉ authority user (Host.name text).text port := by
      simpa [authority, Host.text, Host.bare, hclose, hclose'] using hbare'
    rw [if_neg (by simp [hno, hno']), if_neg hno]
  | bracketed address =>
    have htext : authority user (Host.bracketed address).text port =
        (user ++ ['@']) ++ '[' :: (address ++ ']' :: ':' :: port) := by
      simp [authority, Host.text]
    have hyes : '[' ∈ authority user (Host.bracketed address).text port := by
      simp [htext]
    have hyes' : ']' ∈ authority user (Host.bracketed address).text port := by
      simp [htext]
    have huser : '[' ∉ user ++ ['@'] := by simpa using hopen
    have haddress : ']' ∉ address := hbare'
    rw [if_neg (by simp [hyes, hyes']), if_pos hyes, htext, Text.partition_append huser]
    simp only [Text.partition_append haddress]
    exact checkBracketedHost_valid hhost

/-- The host comes back in lower case. -/
theorem hostname_authority {unicode : Unicode} (h : unicode.Lawful)
    {scheme path query fragment : Chars} (hhost : host.Valid)
    (hat : '@' ∉ port) (hbracket : '[' ∉ port) :
    SplitResult.hostname unicode
      ⟨scheme, authority user host.text port, path, query, fragment⟩ =
        some (host.bare.map Char.toLower) := by
  have hascii : ∀ c ∈ host.bare, isAscii c = true := by
    intro c hc
    rcases hhost.chars c hc with hchar | rfl
    · exact isAscii_of_unreserved hchar
    · rfl
  unfold SplitResult.hostname
  rw [hostinfo_authority hhost hat hbracket, if_neg hhost.bare_ne]
  simp only [Text.partition_of_not_mem (not_mem_host hhost (d := '%') rfl (by decide)),
    h.lower host.bare hascii]

theorem not_mem_digits {n : ℕ} {d : Char} (h : d.isDigit = false) : d ∉ Nat.toDigits 10 n := by
  intro hmem
  rw [Nat.isDigit_of_mem_toDigits (by decide) (by decide) hmem] at h
  cases h

/-- The port comes back. -/
theorem port_authority {scheme path query fragment : Chars} (hhost : host.Valid) {n : ℕ}
    (hn : n ≤ 65535) :
    SplitResult.port ⟨scheme, authority user host.text (Nat.toDigits 10 n), path, query, fragment⟩ =
      .ok (some n) := by
  have hdigits : (Nat.toDigits 10 n).all Char.isDigit = true :=
    List.all_eq_true.mpr fun c hc => Nat.isDigit_of_mem_toDigits (by decide) (by decide) hc
  have hlength : (Nat.toDigits 10 n).length ≤ 5 :=
    (Nat.length_toDigits_le_iff (by decide) (by decide)).mpr (by omega)
  have hvalue : decimal (Nat.toDigits 10 n) = n := Nat.ofDigitChars_ten_toDigits
  unfold SplitResult.port
  rw [hostinfo_authority hhost (not_mem_digits rfl) (not_mem_digits rfl)]
  simp only [hdigits, hvalue]
  rw [if_neg Nat.toDigits_ne_nil, if_neg, if_neg (by omega)]
  unfold maxStrDigits
  simp only [not_true_eq_false, false_or]
  omega

end Authority

end Url
