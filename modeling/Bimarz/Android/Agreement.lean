import Bimarz.Android.LinkForms

/-!
# Where the two parsers agree

`VlessLinkParser.parse` of the app and `parse_vless_link` of the desktop agree on a link that
neither accepts, and on a link of the app's form whose parts are written as the desktop writes
them. On every other link they differ.
-/

namespace Bimarz.Android

open Effect
open Url (Chars Unicode decimal)
open Java (Platform examplePlatform examplePlatform_lawful)

/-! ## Agreement -/

/-- The fields that both profiles have. -/
structure Matches (p : ServerProfile) (q : Bimarz.ServerProfile) : Prop where
  uuid : q.outboundConfig.get? "id" = some (.str p.uuid)
  flow : q.outboundConfig.get? "flow" = some (.str p.flow)
  address : q.outboundConfig.get? "address" = some (.str p.address)
  port : q.outboundConfig.get? "port" = some (.int p.port.toInt)
  network : q.outboundConfig.get? "type" = some (.str p.network)
  sni : q.outboundConfig.get? "sni" = some (.str p.sni)
  fingerprint : q.outboundConfig.get? "fp" = some (.str p.fingerprint)
  publicKey : q.outboundConfig.get? "publicKey" = some (.str p.publicKeyB64)
  shortId : q.outboundConfig.get? "shortId" = some (.str p.shortIdHex)
  spiderX : q.outboundConfig.get? "spiderX" = some (.str p.spiderX)

/-- Both parsers return a profile with the same fields, or neither returns one. -/
def Agree (app : Except ParseExc ServerProfile) (desktop : Except VlessError Bimarz.ServerProfile) :
    Prop :=
  match app, desktop with
  | .ok p, .ok q => Matches p q
  | .error _, .error _ => True
  | _, _ => False

namespace UriParts

variable (platform : Platform) (unicode : Unicode) (link : UriParts)

/-- The first value of a name, without the blanks around it. -/
def trimmed (name default : String) : String := stripped (link.query.getD []) name default

/-- The parts of a link are written as the desktop writes them, the last value of a name says what
the first one says, and the value of `spx` decodes to itself. -/
structure Canonical : Prop where
  uuid : ∃ uuid : Uuid, Java.decode platform [] link.userInfo = uuid.text
  host : link.host.head? ≠ some '[' ∧ ∀ c ∈ link.host, c.isUpper = false
  port : decimal link.port ≤ 65535 ∧ link.port.length ≤ Url.maxStrDigits
  security : lower unicode (link.trimmed "security" "") = requiredSecurity
  flow : link.last platform "flow" = some requiredFlow ∧ link.trimmed "flow" "" = requiredFlow
  publicKey : link.last platform "pbk" = some (link.trimmed "pbk" "") ∧ link.trimmed "pbk" "" ≠ ""
  network : (link.last platform "type").getD "tcp" =
    orElse (link.trimmed "type" defaultNetwork) defaultNetwork
  sni : ((link.last platform "sni").or (link.last platform "peer")).getD "" =
    orElse (link.trimmed "sni" "") (link.trimmed "host" "")
  fingerprint : (link.last platform "fp").getD "chrome" =
    orElse (link.trimmed "fp" defaultFingerprint) defaultFingerprint
  shortId : (link.last platform "sid").getD "" = link.trimmed "sid" ""
  spiderX : ((link.last platform "spx").elim "" fun value =>
    String.ofList (decoded platform value.toList)) = (link.first "spx").getD ""

end UriParts

/-! ## The same text -/

section Text

variable {rawLink : String}

theorem isSpace_of_isWhitespace {c : Char} (h : Java.isWhitespace c = true) :
    Python.isSpace c = true := by
  have hspace : ∀ n ∈ Java.spaceChars, n ∈ Python.spaces := by decide
  have hlow : ∀ n < 14, 9 ≤ n → n ∈ Python.spaces := by decide
  have hhigh : ∀ n < 32, 28 ≤ n → n ∈ Python.spaces := by decide
  simp only [Java.isWhitespace, Java.isSpaceChar, Bool.or_eq_true, Bool.and_eq_true,
    decide_eq_true_eq, List.contains_iff_mem] at h
  rw [Python.isSpace, List.contains_iff_mem]
  rcases h with (hmem | ⟨hle, hlt⟩) | ⟨hle, hlt⟩
  · exact hspace _ hmem
  · exact hlow _ hlt hle
  · exact hhigh _ hlt hle

theorem not_isSpace_of_visible {c : Char} (h : Java.IsVisible c) : Python.isSpace c = false := by
  have hspaces : ∀ n ∈ Python.spaces, n ∈ Java.spaceChars ∨ n < 32 ∨ 127 ≤ n ∧ n < 160 := by
    decide
  obtain ⟨hspace, hcontrol⟩ := h
  rw [Java.isSpaceChar, ← Bool.not_eq_true, List.contains_iff_mem] at hspace
  simp only [Java.isISOControl, Bool.or_eq_false_iff, Bool.and_eq_false_iff,
    decide_eq_false_iff_not] at hcontrol
  rw [Python.isSpace, ← Bool.not_eq_true, List.contains_iff_mem]
  intro hmem
  rcases hspaces _ hmem with hmem' | hrange
  · exact hspace hmem'
  · omega

theorem dropWhile_dropWhile {α : Type} {p q : α → Bool} (h : ∀ a, p a = true → q a = true)
    (as : List α) : (as.dropWhile p).dropWhile q = as.dropWhile q := by
  induction as with
  | nil => rfl
  | cons a as ih =>
    by_cases hp : p a = true
    · rw [List.dropWhile_cons_of_pos hp, List.dropWhile_cons_of_pos (h a hp), ih]
    · rw [List.dropWhile_cons_of_neg hp]

/-- What is left of a link after Kotlin's `trim` has no blanks for Python's `strip`. -/
theorem strip_of_trim (hne : Java.trim rawLink.toList ≠ [])
    (hvisible : ∀ c ∈ Java.trim rawLink.toList, Java.IsVisible c) :
    Python.strip rawLink = String.ofList (Java.trim rawLink.toList) := by
  have hreverse : (Java.trim rawLink.toList).reverse =
      (rawLink.toList.dropWhile Java.isWhitespace).reverse.dropWhile Java.isWhitespace :=
    List.reverse_reverse _
  generalize Java.trim rawLink.toList = text at hne hvisible hreverse ⊢
  -- the front of the link, and then its end
  have hfront : rawLink.toList.dropWhile Python.isSpace =
      rawLink.toList.dropWhile Java.isWhitespace := by
    rw [← dropWhile_dropWhile (fun _ => isSpace_of_isWhitespace)]
    have hsuffix := List.dropWhile_suffix Java.isWhitespace
      (l := (rawLink.toList.dropWhile Java.isWhitespace).reverse)
    rw [← hreverse] at hsuffix
    obtain ⟨before, hbefore⟩ := hsuffix
    have hrest : rawLink.toList.dropWhile Java.isWhitespace = text ++ before.reverse := by
      rw [← List.reverse_inj, ← hbefore, List.reverse_append, List.reverse_reverse]
    rw [hrest]
    cases text with
    | nil => exact absurd rfl hne
    | cons c text =>
      refine List.dropWhile_cons_of_neg ?_
      rw [not_isSpace_of_visible (hvisible c List.mem_cons_self)]
      decide
  have hend : text.reverse.dropWhile Python.isSpace = text.reverse :=
    Uuid.dropWhile_eq_self fun c hc => not_isSpace_of_visible (hvisible c (List.mem_reverse.mp hc))
  unfold Python.strip
  rw [hfront, ← dropWhile_dropWhile (fun _ => isSpace_of_isWhitespace), ← hreverse, hend,
    List.reverse_reverse]

end Text

/-! ## A link of the app's form -/

section Link

variable {platform : Platform} {unicode : Unicode} {rawLink : String} {link : UriParts}

/-- The parts in which `urlsplit` takes a link of the app's form. -/
structure SameParts (rawLink : String) (link : UriParts) (name path : Chars) : Prop where
  nonempty : Python.strip rawLink ≠ ""
  server : Java.HasServer name link.userInfo link.host link.port
  parts : linkParts rawLink = ⟨link.scheme.map Char.toLower, name, path, link.query.getD [],
    link.fragment.getD []⟩
  scheme : ∀ c ∈ link.scheme, Url.isAscii c = true

theorem AndroidLink.sameParts (h : AndroidLink platform rawLink link) :
    ∃ name path, SameParts rawLink link name path := by
  obtain ⟨name, path, hparts⟩ := HasParts.of_link h.uri
  have hserver := Java.hasServer_of_server hparts.server_eq
  have hne : Java.trim rawLink.toList ≠ [] := by
    rw [hparts.text_eq]
    simp
  have hstrip := strip_of_trim hne (hparts.visible hserver)
  refine ⟨name, path, ?_, hserver, ?_, fun c hc => ?_⟩
  · rw [hstrip]
    intro hempty
    refine hne ?_
    rw [← String.toList_ofList (l := Java.trim rawLink.toList), hempty]
    rfl
  · rw [linkParts, hstrip, String.toList_ofList, hparts.splitParts_eq hserver]
  · exact Url.isAscii_of_printable
      (Java.isPrintable_of_schemeChar (List.all_eq_true.mp hparts.scheme_chars c hc))

theorem vless_ascii : ∀ c ∈ "vless".toList, Url.isAscii c = true :=
  List.all_eq_true.mp (by decide)

/-- Both platforms read the same scheme. -/
theorem AndroidLink.lower_scheme (hplatform : platform.Lawful) (hunicode : unicode.Lawful)
    (h : AndroidLink platform rawLink link) (hascii : ∀ c ∈ link.scheme, Url.isAscii c = true) :
    lower unicode (String.ofList (link.scheme.map Char.toLower)) = "vless" := by
  have hscheme : link.scheme.map Char.toLower = "vless".toList := by
    rw [← hplatform.lowercase _ hascii, h.scheme]
  rw [hscheme, String.ofList_toList]
  exact lower_eq_self hunicode vless_ascii (by decide)

/-- The name of a server consists of ASCII characters where its user information does. -/
theorem ascii_of_server {name userInfo host digits : Chars}
    (h : Java.HasServer name userInfo host digits) (hname : (Url.Host.name host).Valid)
    (huser : ∀ c ∈ userInfo, Url.isAscii c = true) : ∀ c ∈ name, Url.isAscii c = true := by
  intro c hc
  rw [h.name_eq, Url.authority, List.mem_append, List.mem_cons, List.mem_append,
    List.mem_cons] at hc
  rcases hc with hc | rfl | hc | rfl | hc
  · exact huser c hc
  · rfl
  · exact Url.isAscii_of_unreserved (hname.2 c hc)
  · rfl
  · refine Url.isAscii_of_unreserved (Java.isUnreserved_of_alphanum ?_)
    rw [Char.isAlphanum, List.all_eq_true.mp h.digits_all c hc, Bool.or_true]

/-- The canonical text of a UUID, however it is escaped. -/
theorem uuid_of_decode (hplatform : platform.Lawful) {userInfo : Chars} {uuid : Uuid}
    (h : Java.decode platform [] userInfo = uuid.text) :
    (∀ c ∈ userInfo, Url.isAscii c = true) ∧
      (∀ c, Url.isUnreserved c = false ∧ c ≠ '%' → c ∉ userInfo) ∧
      Url.unquote userInfo = uuid.text := by
  have htext : ∀ c ∈ uuid.text, Url.isUnreserved c = true := fun c hc =>
    Link.isUnreserved_uuid hc
  obtain ⟨hascii, hunquote⟩ := Java.unquote_of_decode hplatform userInfo fun c hc => by
    rw [h] at hc
    exact Url.isAscii_of_unreserved (htext c hc)
  refine ⟨hascii, fun c ⟨hreserved, hpercent⟩ hmem => ?_, hunquote.trans h⟩
  have hhex : Hex.value c = none := by
    by_contra hsome
    rw [Url.isUnreserved_of_hex (Option.isSome_iff_ne_none.mpr hsome)] at hreserved
    cases hreserved
  have hdecoded := @Java.mem_decode platform [] userInfo c hmem hpercent hhex
  rw [h] at hdecoded
  rw [htext c hdecoded] at hreserved
  cases hreserved

theorem strip_uuid (uuid : Uuid) :
    Python.strip (String.ofList uuid.text) = String.ofList uuid.text := by
  refine strip_of_not_space fun c hc => ?_
  rw [String.toList_ofList] at hc
  exact isSpace_of_printable (Url.isPrintable_of_unreserved (Link.isUnreserved_uuid hc))

/-- The desktop reads the UUID of a canonical link. -/
theorem SameParts.uuid (hplatform : platform.Lawful) {name path : Chars}
    (hs : SameParts rawLink link name path) {uuid : Uuid}
    (h : Java.decode platform [] link.userInfo = uuid.text) :
    Uuid.ofText (Python.strip (String.ofList
      (Url.unquote ((linkParts rawLink).username.getD [])))).toList = some uuid := by
  obtain ⟨-, hspecial, hunquote⟩ := uuid_of_decode hplatform h
  have husername : (linkParts rawLink).username.getD [] = link.userInfo := by
    rw [hs.parts, hs.server.username_eq, Text.partition_of_not_mem (hspecial ':' (by decide))]
    rfl
  rw [husername, hunquote, strip_uuid, String.toList_ofList, Uuid.ofText_text]

theorem SameParts.name_of_head {name path : Chars} (hs : SameParts rawLink link name path)
    (h : link.host.head? ≠ some '[') : (Url.Host.name link.host).Valid := by
  rcases hs.server.host with hname | ⟨address, haddress, -⟩
  · exact hname
  · exact absurd (by rw [haddress]; rfl) h

theorem SameParts.hostname (hunicode : unicode.Lawful) {name path : Chars}
    (hs : SameParts rawLink link name path) (hname : (Url.Host.name link.host).Valid) :
    (linkParts rawLink).hostname unicode = some (link.host.map Char.toLower) := by
  rw [hs.parts]
  exact hs.server.hostname_of_name hunicode hname

theorem SameParts.port_eq_ok_iff {name path : Chars} (hs : SameParts rawLink link name path)
    {port : Option ℕ} :
    (linkParts rawLink).port = .ok port ↔
      (decimal link.port ≤ 65535 ∧ link.port.length ≤ Url.maxStrDigits) ∧
        some (decimal link.port) = port := by
  rw [hs.parts]
  exact hs.server.port_eq_ok_iff

/-- The desktop accepts a canonical link. -/
theorem UriParts.Canonical.desktopLink (hplatform : platform.Lawful) (hunicode : unicode.Lawful)
    (h : AndroidLink platform rawLink link) (hc : link.Canonical platform unicode) :
    DesktopLink unicode rawLink := by
  obtain ⟨name, path, hs⟩ := h.sameParts
  obtain ⟨uuid, huuid⟩ := hc.uuid
  obtain ⟨huser, hspecial, -⟩ := uuid_of_decode hplatform huuid
  have hname := hs.name_of_head hc.host.1
  have hdigits : ∀ {c : Char}, c.isDigit = false → c ∉ link.port :=
    Java.not_mem_of_digits hs.server.digits_all
  have hquery : (linkParts rawLink).query = link.query.getD [] := by rw [hs.parts]
  exact {
    nonempty := hs.nonempty
    netloc := by
      have hbrackets := Url.checkBrackets_authority (hspecial '[' (by decide))
        (hspecial ']' (by decide)) hname (hdigits rfl) (hdigits rfl)
      have hname_eq : Url.authority link.userInfo (Url.Host.name link.host).text link.port =
        name := hs.server.name_eq.symm
      rw [hname_eq] at hbrackets
      obtain ⟨hbalanced, hbracketed⟩ := (Url.checkBrackets_eq_ok_iff name).mp hbrackets
      rw [hs.parts]
      exact ⟨hbalanced, hbracketed, Or.inl (ascii_of_server hs.server hname huser)⟩
    scheme := by
      rw [hs.parts]
      exact h.lower_scheme hplatform hunicode hs.scheme
    hostname := by
      obtain ⟨c, cs, hcs⟩ := List.exists_cons_of_ne_nil hname.1
      refine ⟨c.toLower, cs.map Char.toLower, ?_⟩
      rw [hs.hostname hunicode hname, hcs, List.map_cons]
    uuid := ⟨uuid, hs.uuid hplatform huuid⟩
    port := ⟨some (decimal link.port), hs.port_eq_ok_iff.mpr ⟨hc.port, rfl⟩, h.port, hc.port.1⟩
    security := by
      rw [hquery]
      exact hc.security
    flow := by
      rw [hquery]
      exact hc.flow.2
    publicKey := by
      rw [hquery]
      exact hc.publicKey.2 }

/-- The settings say what the profile says. -/
structure SameFields (outbound : VlessOutbound) (p : ServerProfile) : Prop where
  uuid : outbound.id = p.uuid
  flow : outbound.flow = p.flow
  address : outbound.address = p.address
  port : (outbound.port : ℤ) = p.port.toInt
  network : outbound.type = p.network
  sni : outbound.sni = p.sni
  fingerprint : outbound.fp = p.fingerprint
  publicKey : outbound.publicKey = p.publicKeyB64
  shortId : outbound.shortId = p.shortIdHex
  spiderX : outbound.spiderX = p.spiderX

theorem matches_iff {outbound : VlessOutbound} {p : ServerProfile} {q : Bimarz.ServerProfile}
    (h : q.outboundConfig = outbound.config) : Matches p q ↔ SameFields outbound p := by
  have hstr : ∀ {s s' : String}, some (PyValue.str s) = some (.str s') ↔ s = s' :=
    fun {s s'} => ⟨fun h => PyValue.str.inj (Option.some.inj h), fun h => by rw [h]⟩
  have hint : ∀ {n n' : ℤ}, some (PyValue.int n) = some (.int n') ↔ n = n' :=
    fun {n n'} => ⟨fun h => PyValue.int.inj (Option.some.inj h), fun h => by rw [h]⟩
  constructor
  · rintro ⟨h₁, h₂, h₃, h₄, h₅, h₆, h₇, h₈, h₉, h₁₀⟩
    rw [h] at h₁ h₂ h₃ h₄ h₅ h₆ h₇ h₈ h₉ h₁₀
    exact ⟨hstr.mp h₁, hstr.mp h₂, hstr.mp h₃, hint.mp h₄, hstr.mp h₅, hstr.mp h₆, hstr.mp h₇,
      hstr.mp h₈, hstr.mp h₉, hstr.mp h₁₀⟩
  · rintro ⟨h₁, h₂, h₃, h₄, h₅, h₆, h₇, h₈, h₉, h₁₀⟩
    constructor <;> rw [h]
    · exact hstr.mpr h₁
    · exact hstr.mpr h₂
    · exact hstr.mpr h₃
    · exact hint.mpr h₄
    · exact hstr.mpr h₅
    · exact hstr.mpr h₆
    · exact hstr.mpr h₇
    · exact hstr.mpr h₈
    · exact hstr.mpr h₉
    · exact hstr.mpr h₁₀

/-- The value of a name that has one. -/
theorem eq_some_of_getD {value : Option String} {text : String} (hne : text ≠ "")
    (h : text = value.getD "") : value = some text := by
  cases value with
  | none => exact absurd h hne
  | some value => rw [h]; rfl

/-- What the two parsers make of a link that both accept is the same where the link is canonical. -/
theorem sameFields_iff (hplatform : platform.Lawful) (hunicode : unicode.Lawful)
    (h : AndroidLink platform rawLink link) (hd : DesktopLink unicode rawLink)
    {profileId hostname : String} {currentTimeMillis : ℕ} {uuid : Uuid} {port : ℕ}
    {outbound : VlessOutbound}
    (hhostname : linkHostname unicode (linkParts rawLink) = .ok hostname)
    (huuid : linkUuid (linkParts rawLink) = .ok uuid)
    (hport : linkPort (linkParts rawLink) = .ok port)
    (hreads : ReadsAs (linkParts rawLink).query hostname uuid port outbound) :
    SameFields outbound (link.profile platform profileId currentTimeMillis) ↔
      link.Canonical platform unicode := by
  obtain ⟨name, path, hs⟩ := h.sameParts
  obtain ⟨c, cs, hcs, rfl⟩ := linkHostname_eq_ok_iff.mp hhostname
  obtain ⟨port', hport', -, rfl⟩ := linkPort_eq_ok_iff.mp hport
  obtain ⟨hrange, rfl⟩ := hs.port_eq_ok_iff.mp hport'
  have hquery : (linkParts rawLink).query = link.query.getD [] := by rw [hs.parts]
  have hint : ((Int32.ofNat (decimal link.port)).toInt : ℤ) = decimal link.port :=
    Int32.toInt_ofNat_of_lt (Nat.lt_of_le_of_lt hs.server.le (by decide))
  obtain ⟨raddress, rport, rid, rflow, rsni, rfp, rpublicKey, rshortId, rspiderX, rtype⟩ := hreads
  obtain ⟨-, -, -, -, -, -, dsecurity, dflow, dpublicKey⟩ := hd
  rw [hquery] at rsni rfp rpublicKey rshortId rspiderX rtype dsecurity dflow dpublicKey
  constructor
  · rintro ⟨suuid, sflow, saddress, -, snetwork, ssni, sfingerprint, spublicKey, sshortId,
      sspiderX⟩
    rw [rid] at suuid
    rw [raddress] at saddress
    have hhost : c :: cs = link.host := String.ofList_inj.mp saddress
    have hname : (Url.Host.name link.host).Valid := by
      by_contra hnot
      rw [hs.parts] at hcs
      exact hs.server.hostname_ne_bracketed hunicode hnot hcs hhost
    have hlower := hs.hostname hunicode hname
    rw [hcs, hhost] at hlower
    exact {
      uuid := ⟨uuid, (String.ofList_inj.mp suuid).symm⟩
      host := by
        refine ⟨fun hhead => ?_, (Url.map_toLower_eq_self_iff _).mp (Option.some.inj hlower).symm⟩
        have := hname.2 '[' (List.mem_of_head? hhead)
        revert this
        decide
      port := hrange
      security := dsecurity
      flow := by
        rw [rflow] at sflow
        exact ⟨eq_some_of_getD (by decide) sflow, dflow⟩
      publicKey := by
        rw [rpublicKey] at spublicKey
        exact ⟨eq_some_of_getD dpublicKey spublicKey, dpublicKey⟩
      network := (rtype.symm.trans snetwork).symm
      sni := (rsni.symm.trans ssni).symm
      fingerprint := (rfp.symm.trans sfingerprint).symm
      shortId := (rshortId.symm.trans sshortId).symm
      spiderX := (rspiderX.symm.trans sspiderX).symm }
  · intro hc
    obtain ⟨uuid', huuid'⟩ := hc.uuid
    have hsame := hs.uuid hplatform huuid'
    rw [linkUuid_eq_ok_iff.mp huuid] at hsame
    cases hsame
    have hname := hs.name_of_head hc.host.1
    have hhost : c :: cs = link.host := by
      rw [hs.hostname hunicode hname, (Url.map_toLower_eq_self_iff _).mpr hc.host.2] at hcs
      exact (Option.some.inj hcs).symm
    exact {
      uuid := by rw [rid, ← huuid']; rfl
      flow := by
        rw [rflow]
        exact (congrArg (fun value => Option.getD value "") hc.flow.1).symm
      address := by rw [raddress, hhost]; rfl
      port := by
        rw [rport]
        exact hint.symm
      network := rtype.trans hc.network.symm
      sni := rsni.trans hc.sni.symm
      fingerprint := rfp.trans hc.fingerprint.symm
      publicKey := by
        rw [rpublicKey]
        exact (congrArg (fun value => Option.getD value "") hc.publicKey.1).symm
      shortId := rshortId.trans hc.shortId.symm
      spiderX := rspiderX.trans hc.spiderX.symm }

/-- What both parsers make of a link of the app's form. -/
theorem matches_of_parsed_iff (hplatform : platform.Lawful) (hunicode : unicode.Lawful)
    (h : AndroidLink platform rawLink link) (profileId : String) (currentTimeMillis : ℕ)
    {profileId' addedAtIso : String} {q : Bimarz.ServerProfile}
    (hq : parseVlessLink unicode rawLink profileId' addedAtIso = .ok q) :
    Matches (link.profile platform profileId currentTimeMillis) q ↔
      link.Canonical platform unicode := by
  have hd := (exists_parseVlessLink_iff profileId' addedAtIso).mp ⟨q, hq⟩
  obtain ⟨parsed, hostname, uuid, port, outbound, hurl, -, hhostname, huuid, hport, houtbound,
    hprofile⟩ := parseVlessLink_eq_ok_iff.mp hq
  obtain ⟨-, -, rfl⟩ := linkUrl_eq_ok_iff.mp hurl
  have hconfig : q.outboundConfig = outbound.config := hprofile ▸ rfl
  rw [matches_iff hconfig]
  exact sameFields_iff hplatform hunicode h hd hhostname huuid hport
    (readsAs_of_linkOutbound houtbound)

theorem agree_of_link_iff (hplatform : platform.Lawful) (hunicode : unicode.Lawful)
    (h : AndroidLink platform rawLink link) (profileId profileId' addedAtIso : String)
    (currentTimeMillis : ℕ) :
    Agree (VlessLinkParser.parse platform rawLink profileId currentTimeMillis)
        (parseVlessLink unicode rawLink profileId' addedAtIso) ↔
      link.Canonical platform unicode := by
  rw [parse_eq_ok_iff.mpr ⟨link, h, rfl⟩]
  constructor
  · intro hagree
    cases hq : parseVlessLink unicode rawLink profileId' addedAtIso with
    | error error =>
      rw [hq] at hagree
      exact hagree.elim
    | ok q =>
      rw [hq] at hagree
      exact (matches_of_parsed_iff hplatform hunicode h profileId currentTimeMillis hq).mp hagree
  · intro hc
    have hd := hc.desktopLink hplatform hunicode h
    obtain ⟨q, hq⟩ := (exists_parseVlessLink_iff profileId' addedAtIso).mpr hd
    rw [hq]
    exact (matches_of_parsed_iff hplatform hunicode h profileId currentTimeMillis hq).mpr hc

/-- **Where the parsers agree.** They do on a canonical link of the app's form, and on a link that
neither form takes. -/
theorem parsers_agree_iff (hplatform : platform.Lawful) (hunicode : unicode.Lawful)
    (rawLink profileId profileId' addedAtIso : String) (currentTimeMillis : ℕ) :
    Agree (VlessLinkParser.parse platform rawLink profileId currentTimeMillis)
        (parseVlessLink unicode rawLink profileId' addedAtIso) ↔
      (∃ link, AndroidLink platform rawLink link ∧ link.Canonical platform unicode) ∨
        (∀ link, ¬AndroidLink platform rawLink link) ∧ ¬DesktopLink unicode rawLink := by
  by_cases hlink : ∃ link, AndroidLink platform rawLink link
  · -- the parts of a link are those that the app finds in it
    obtain ⟨link, hlink⟩ := hlink
    have hagree : ∀ {link}, AndroidLink platform rawLink link → _ := fun hlink =>
      agree_of_link_iff hplatform hunicode hlink profileId profileId' addedAtIso currentTimeMillis
    constructor
    · intro h
      exact Or.inl ⟨link, hlink, (hagree hlink).mp h⟩
    · rintro (⟨link', hlink', hc⟩ | ⟨hnone, -⟩)
      · exact (hagree hlink').mpr hc
      · exact absurd hlink (hnone link)
  · have hnone : ∀ link, ¬AndroidLink platform rawLink link := not_exists.mp hlink
    cases happ : VlessLinkParser.parse platform rawLink profileId currentTimeMillis with
    | ok p =>
      obtain ⟨link, h, -⟩ := parse_eq_ok_iff.mp happ
      exact absurd h (hnone link)
    | error error =>
      rw [← exists_parseVlessLink_iff profileId' addedAtIso]
      cases parseVlessLink unicode rawLink profileId' addedAtIso with
      | ok q => simp [Agree, hnone]
      | error error' => simp [Agree, hnone]

/-- A link that the desktop alone takes. -/
theorem not_agree_of_desktop (hplatform : platform.Lawful) (hunicode : unicode.Lawful)
    {profileId profileId' addedAtIso : String} {currentTimeMillis : ℕ} {e : ParseExc}
    {q : Bimarz.ServerProfile}
    (happ : VlessLinkParser.parse platform rawLink profileId currentTimeMillis = .error e)
    (hdesktop : parseVlessLink unicode rawLink profileId' addedAtIso = .ok q) :
    ¬∀ (platform : Platform) (unicode : Unicode), platform.Lawful → unicode.Lawful →
      ∀ (rawLink profileId profileId' addedAtIso : String) (currentTimeMillis : ℕ),
        Agree (VlessLinkParser.parse platform rawLink profileId currentTimeMillis)
          (parseVlessLink unicode rawLink profileId' addedAtIso) := by
  intro h
  have hagree := h platform unicode hplatform hunicode rawLink profileId profileId' addedAtIso
    currentTimeMillis
  rw [happ, hdesktop] at hagree
  exact hagree

end Link

/-! ## Links -/

/-- A canonical link. -/
def homeLink : String :=
  "vless://27848739-7e62-4138-9fd3-098a63964b6b@a.org:443" ++
    "?security=reality&flow=xtls-rprx-vision&pbk=A"

def homeParts : UriParts where
  scheme := "vless".toList
  userInfo := "27848739-7e62-4138-9fd3-098a63964b6b".toList
  host := "a.org".toList
  port := "443".toList
  query := some "security=reality&flow=xtls-rprx-vision&pbk=A".toList
  fragment := none

theorem homeLink_android : AndroidLink examplePlatform homeLink homeParts where
  uri := by decide
  scheme := by decide
  port := by decide
  security := ⟨"reality", by decide, by decide⟩
  publicKey := by decide
  spiderX := by
    have hnone : homeParts.last examplePlatform "spx" = none := by decide
    rw [hnone]
    nofun

theorem homeLink_canonical : homeParts.Canonical examplePlatform asciiUnicode where
  uuid := ⟨⟨0x278487397e6241389fd3098a63964b6b, by decide⟩, by decide⟩
  host := ⟨by decide, (Url.map_toLower_eq_self_iff _).mp (by decide)⟩
  port := by decide
  security := by decide
  flow := by decide
  publicKey := by decide
  network := by decide
  sni := by decide
  fingerprint := by decide
  shortId := by decide
  spiderX := by decide

theorem homeLink_agrees :
    Agree (VlessLinkParser.parse examplePlatform homeLink "1" 0)
      (parseVlessLink asciiUnicode homeLink "7f" "2026-01-01") := by
  rw [parsers_agree_iff examplePlatform_lawful asciiUnicode_lawful homeLink "1" "7f" "2026-01-01" 0]
  exact Or.inl ⟨homeParts, homeLink_android, homeLink_canonical⟩

/-- The same link without a port, for which the desktop has a default. -/
def portlessLink : String :=
  "vless://27848739-7e62-4138-9fd3-098a63964b6b@a.org" ++
    "?security=reality&flow=xtls-rprx-vision&pbk=A"

theorem portlessLink_disagrees :
    ¬∀ (platform : Platform) (unicode : Unicode), platform.Lawful → unicode.Lawful →
      ∀ (rawLink profileId profileId' addedAtIso : String) (currentTimeMillis : ℕ),
        Agree (VlessLinkParser.parse platform rawLink profileId currentTimeMillis)
          (parseVlessLink unicode rawLink profileId' addedAtIso) := by
  have happ : VlessLinkParser.parse examplePlatform portlessLink "1" 0 =
      .error (.vlessLinkParse "Missing or invalid port") := rfl
  obtain ⟨q, hq⟩ : ∃ q, parseVlessLink asciiUnicode portlessLink "7f" "2026-01-01" = .ok q :=
    ⟨_, rfl⟩
  exact not_agree_of_desktop examplePlatform_lawful asciiUnicode_lawful happ hq

end Bimarz.Android
