import Bimarz.Url.Address

/-!
# URIs on the Java platform (`java.net.URI`, `java.net.URLDecoder`)

`Uri.ofText` is the constructor of `java.net.URI`: RFC 2396 with the deviations that the class
documents, which are IPv6 addresses, empty authorities and visible characters outside ASCII wherever
an escaped octet may stand. An authority that is not server-based leaves user information, host and
port undefined. `urlDecode` is the decoder of form data.
-/

namespace Java

open Url (Chars decimal)

/-- What the platform decides: the charset decoder, which replaces malformed octets, the case
mapping and the text of a `URISyntaxException`. -/
structure Platform where
  utf8 : Bytes → Chars
  lowercase : Chars → Chars
  uriSyntaxMessage : Chars → String

/-- The replacement character. -/
def replacement : Char := Char.ofNat 0xfffd

/-- The documented behaviour. -/
structure Platform.Lawful (platform : Platform) : Prop where
  utf8 : ∀ cs : Chars, platform.utf8 (Utf8.encodeChars cs) = cs
  malformed : ∀ octets : Bytes, (∀ cs : Chars, octets ≠ Utf8.encodeChars cs) →
    replacement ∈ platform.utf8 octets
  lowercase : ∀ cs : Chars, (∀ c ∈ cs, Url.isAscii c = true) →
    platform.lowercase cs = cs.map Char.toLower

/-! ## Characters -/

/-- The categories `Zs`, `Zl` and `Zp`. -/
def spaceChars : List ℕ := [
  0x20, 0xa0, 0x1680, 0x2000, 0x2001, 0x2002, 0x2003, 0x2004, 0x2005, 0x2006, 0x2007, 0x2008,
  0x2009, 0x200a, 0x2028, 0x2029, 0x202f, 0x205f, 0x3000]

/-- `Character.isSpaceChar`. -/
def isSpaceChar (c : Char) : Bool := spaceChars.contains c.toNat

/-- `Character.isISOControl`. -/
def isISOControl (c : Char) : Bool := c.toNat < 32 || (127 ≤ c.toNat && c.toNat < 160)

/-- Kotlin's `Char.isWhitespace`. -/
def isWhitespace (c : Char) : Bool :=
  isSpaceChar c || (9 ≤ c.toNat && c.toNat < 14) || (28 ≤ c.toNat && c.toNat < 32)

/-- Kotlin's `CharSequence.trim`. -/
def trim (cs : Chars) : Chars :=
  ((cs.dropWhile isWhitespace).reverse.dropWhile isWhitespace).reverse

def isUnreserved (c : Char) : Bool :=
  c.isAlphanum || ['-', '_', '.', '!', '~', '*', Char.ofNat 39, '(', ')'].contains c

def isUserInfoChar (c : Char) : Bool :=
  isUnreserved c || [';', ':', '&', '=', '+', '$', ','].contains c

def isRegNameChar (c : Char) : Bool :=
  isUnreserved c || ['$', ',', ';', ':', '@', '&', '=', '+'].contains c

def isPathChar (c : Char) : Bool :=
  isUnreserved c || [':', '@', '&', '=', '+', '$', ',', ';', '/'].contains c

def isUric (c : Char) : Bool :=
  isUnreserved c || [';', '/', '?', ':', '@', '&', '=', '+', '$', ',', '[', ']'].contains c

def isSchemeChar (c : Char) : Bool := c.isAlphanum || c = '+' || c = '-' || c = '.'

def isScopeChar (c : Char) : Bool := c.isAlphanum || c = '_' || c = '.'

/-- The category "other": visible characters outside ASCII. -/
def isOther (c : Char) : Bool := 128 < c.toNat && !isSpaceChar c && !isISOControl c

/-- Characters of a class, escaped octets and other characters. -/
def legal (ok : Char → Bool) : Chars → Bool
  | [] => true
  | '%' :: p :: q :: cs => (Hex.value p).isSome && (Hex.value q).isSome && legal ok cs
  | c :: cs => (ok c || isOther c) && legal ok cs

/-! ## Hosts -/

/-- Each of four numbers fits in a byte. -/
def isIpv4 (text : Chars) : Bool :=
  let bytes := text.splitOn '.'
  bytes.length = 4 && bytes.all fun byte =>
    byte ≠ [] && byte.all Char.isDigit && decide (decimal byte ≤ 255)

def isLabel (label : Chars) : Bool :=
  label.head?.any Char.isAlphanum && label.getLast?.any Char.isAlphanum &&
    label.all fun c => c.isAlphanum || c = '-'

/-- Labels with an optional dot after them; the last of several ones starts with a letter. -/
def isHostname (text : Chars) : Bool :=
  let parts := text.splitOn '.'
  let labels := if 1 < parts.length ∧ parts.getLast? = some [] then parts.dropLast else parts
  labels.all isLabel &&
    (labels.length = 1 || labels.getLast?.any fun label => label.head?.any Char.isAlpha)

/-- The length in bytes of groups of hexadecimal digits. -/
def hexSeq (text : Chars) : Option ℕ :=
  let groups := text.splitOn ':'
  if groups.all Url.isHextet then some (2 * groups.length) else none

/-- The same where the last group may be an IPv4 address. -/
def hexPost (text : Chars) : Option ℕ :=
  let groups := text.splitOn ':'
  if isIpv4 (groups.getLastD []) then
    if groups.dropLast.all Url.isHextet then some (2 * groups.dropLast.length + 4) else none
  else hexSeq text

/-- A text before and after the first `::`. -/
def cutZeros : Chars → Option (Chars × Chars)
  | [] => none
  | ':' :: ':' :: cs => some ([], cs)
  | c :: cs => (cutZeros cs).map fun (before, after) => (c :: before, after)

/-- Compressed zeros stand for two bytes or more. -/
def isIpv6 (text : Chars) : Bool :=
  match cutZeros text with
  | none => hexPost text = some 16
  | some (before, after) =>
    match if before = [] then some 0 else hexSeq before,
      if after = [] then some 0 else hexPost after with
    | some high, some low => high + low < 16
    | _, _ => false

/-- An IPv6 address with an optional scope. -/
def isIpv6Reference (text : Chars) : Bool :=
  match Text.partition '%' text with
  | (address, true, scope) => isIpv6 address && scope ≠ [] && scope.all isScopeChar
  | _ => isIpv6 text

/-! ## Authorities -/

/-- A server-based authority, as it is written. -/
structure Server where
  userInfo : Option Chars
  host : Chars
  port : Option Chars
  deriving DecidableEq

/-- The largest `int`. -/
def maxInt : ℕ := 2147483647

/-- The user information and the rest. -/
def splitUserInfo (authority : Chars) : Option Chars × Chars :=
  match Text.partition '@' authority with
  | (userInfo, true, rest) => (some userInfo, rest)
  | _ => (none, authority)

/-- The host and the rest. An IPv6 address keeps its brackets. -/
def splitHost (text : Chars) : Option (Chars × Chars) :=
  match text with
  | '[' :: text =>
    match Text.partition ']' text with
    | (address, true, rest) =>
      if isIpv6Reference address then some ('[' :: (address ++ [']']), rest) else none
    | _ => none
  | text =>
    let host := text.takeWhile (· ≠ ':')
    if isIpv4 host || isHostname host then some (host, text.dropWhile (· ≠ ':')) else none

/-- What stands after the host. -/
def port (text : Chars) : Option (Option Chars) :=
  match text with
  | [] => some none
  | ':' :: digits =>
    if digits = [] then some none
    else if digits.all Char.isDigit ∧ decimal digits ≤ maxInt then some (some digits)
    else none
  | _ => none

/-- `[userinfo@]host[:port]`. -/
def server (authority : Chars) : Option Server := do
  let (userInfo, rest) := splitUserInfo authority
  if ¬legal isUserInfoChar (userInfo.getD []) then none
  else
    let (host, rest) ← splitHost rest
    let port ← port rest
    return { userInfo, host, port }

/-- An authority is server-based, or else registry-based. -/
def authority (text : Chars) : Option (Option Server) :=
  match server text with
  | some s => some (some s)
  | none => if legal isRegNameChar text then some none else none

/-! ## URIs -/

/-- The components that can be asked for, as they are written. -/
structure Uri where
  scheme : Option Chars
  server : Option Server
  rawQuery : Option Chars
  rawFragment : Option Chars
  deriving DecidableEq

/-- A text before a separator and, if there is one, after it. -/
def cut (sep : Char) (text : Chars) : Chars × Option Chars :=
  match Text.partition sep text with
  | (before, true, after) => (before, some after)
  | _ => (text, none)

def isDelimiter (c : Char) : Bool := c = '/' || c = '?' || c = '#'

/-- The scheme, and what stands after its colon. -/
def splitScheme (text : Chars) : Option (Option Chars × Chars) :=
  match text.takeWhile fun c => !isDelimiter c && c ≠ ':',
    text.dropWhile fun c => !isDelimiter c && c ≠ ':' with
  | scheme, ':' :: rest =>
    if scheme.head?.any Char.isAlpha && scheme.all isSchemeChar then some (some scheme, rest)
    else none
  | _, _ => some (none, text)

/-- The server, and what stands after the authority. -/
def splitAuthority (text : Chars) : Option (Option Server × Chars) :=
  match text with
  | '/' :: '/' :: text =>
    match text.takeWhile fun c => !isDelimiter c, text.dropWhile fun c => !isDelimiter c with
    | [], [] => none
    | [], rest => some (none, rest)
    | name, rest => (authority name).map fun server => (server, rest)
  | text => some (none, text)

/-- Path, query and fragment. -/
def hierarchical (scheme : Option Chars) (text : Chars) : Option Uri := do
  let (server, rest) ← splitAuthority text
  let (rest, rawFragment) := cut '#' rest
  let (path, rawQuery) := cut '?' rest
  if legal isPathChar path && rawQuery.all (legal isUric) && rawFragment.all (legal isUric) then
    some { scheme, server, rawQuery, rawFragment }
  else none

/-- A URI whose scheme is not followed by a slash. -/
def nonHierarchical (scheme : Option Chars) (text : Chars) : Option Uri :=
  let (part, rawFragment) := cut '#' text
  if part ≠ [] && legal isUric part && rawFragment.all (legal isUric) then
    some { scheme, server := none, rawQuery := none, rawFragment }
  else none

/-- `URI(text)`; `none` is a `URISyntaxException`. -/
def Uri.ofText (text : Chars) : Option Uri := do
  let (scheme, rest) ← splitScheme text
  if scheme.isSome && rest.head? ≠ some '/' then nonHierarchical scheme rest
  else hierarchical scheme rest

/-! ## Decoding -/

section Decoding

variable (platform : Platform)

/-- The characters of a run of octets. -/
def flush (octets : Bytes) : Chars := if octets = [] then [] else platform.utf8 octets

/-- The runs of escaped octets of a component are decoded. -/
def decode (octets : Bytes) : Chars → Chars
  | [] => flush platform octets
  | '%' :: p :: q :: cs =>
    match Hex.value p, Hex.value q with
    | some high, some low => decode (octets ++ [UInt8.ofNat (high * 16 + low)]) cs
    | _, _ => flush platform octets ++ '%' :: decode [] (p :: q :: cs)
  | c :: cs => flush platform octets ++ c :: decode [] cs

/-- `uri.userInfo`. -/
def Uri.userInfo (uri : Uri) : Option Chars :=
  uri.server.bind fun server => server.userInfo.map (decode platform [])

/-- The text after the octets of a run; `none` is an `IllegalArgumentException`. -/
def urlDecodeRun (octets : Bytes) : Chars → Option Chars
  | [] => some (flush platform octets)
  | '%' :: p :: q :: cs =>
    match Hex.value p, Hex.value q with
    | some high, some low => urlDecodeRun (octets ++ [UInt8.ofNat (high * 16 + low)]) cs
    | _, _ => none
  | '%' :: _ => none
  | c :: cs => (urlDecodeRun [] cs).map fun text =>
      flush platform octets ++ (if c = '+' then ' ' else c) :: text

/-- `URLDecoder.decode(text, "UTF-8")`. -/
def urlDecode (text : Chars) : Option Chars := urlDecodeRun platform [] text

end Decoding

/-- `uri.host`. -/
def Uri.host (uri : Uri) : Option Chars := uri.server.map Server.host

/-- `uri.port`, if it is defined. -/
def Uri.port (uri : Uri) : Option ℕ := (uri.server.bind Server.port).map decimal

/-- The characters of well-formed octets, or a single replacement. -/
def utf8OrReplacement (octets : Bytes) : Chars :=
  if Utf8.encodeChars (Utf8.decodeReplace octets) = octets then Utf8.decodeReplace octets
  else [replacement]

/-- A platform for examples. -/
def examplePlatform : Platform where
  utf8 := utf8OrReplacement
  lowercase cs := cs.map Char.toLower
  uriSyntaxMessage _ := ""

theorem examplePlatform_lawful : examplePlatform.Lawful where
  utf8 cs := by
    change utf8OrReplacement (Utf8.encodeChars cs) = cs
    rw [utf8OrReplacement, Utf8.decodeReplace_encodeChars, if_pos rfl]
  malformed octets h := by
    change replacement ∈ utf8OrReplacement octets
    rw [utf8OrReplacement, if_neg (h _).symm]
    exact List.mem_singleton_self _
  lowercase _ _ := rfl

end Java
