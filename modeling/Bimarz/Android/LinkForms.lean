import Bimarz.Android.VlessLinkParser
import Bimarz.Java.UrlSplit
import Bimarz.Parsers.RoundTrip

/-!
# The links that the two parsers accept

What a link has to be for `VlessLinkParser.parse` of the app and for `parse_vless_link` of the
desktop, in terms of its text: the parts in which each platform takes it apart, and the values of
the names in its query. The app goes by the last value of a name, the desktop by the first.
-/

namespace Bimarz.Android

open Effect
open Url (Chars Unicode decimal)
open Java (Platform Uri urlDecode)
open VlessLinkParser (decodeComponent parsePair parseQuery param orThrow linkUri security decodedOr
  parse)

/-! ## The query -/

/-- A component as `URLDecoder` reads it. -/
def decoded (platform : Platform) (text : Chars) : Chars := (urlDecode platform text).getD []

/-- A pair with an equals sign. -/
def pairOf (platform : Platform) (pair : Chars) : Option (Chars × Chars) :=
  match Text.partition '=' pair with
  | (name, true, value) => some (decoded platform name, decoded platform value)
  | _ => none

/-- The names and values of a query, as the app reads them. -/
def pairs (platform : Platform) (query : Chars) : List (Chars × Chars) :=
  (query.splitOn '&').filterMap (pairOf platform)

/-- The last value of a name. -/
def lastValue (platform : Platform) (query : Chars) (name : String) : Option String :=
  (Dict.find name.toList (pairs platform query).reverse).map String.ofList

/-- The first value of a name, as the desktop reads the query. -/
def firstValue (query : Chars) (name : String) : Option String :=
  (Dict.find name.toList (Url.parseQsl query)).map String.ofList

theorem get?_ofList_reverse {κ ν : Type} [DecidableEq κ] (items : List (κ × ν)) (k : κ) :
    (Dict.ofList items).get? k = Dict.find k items.reverse := by
  induction items using List.reverseRecOn with
  | nil => rfl
  | append_singleton items item ih =>
    obtain ⟨k', v⟩ := item
    have hset : Dict.ofList (items ++ [(k', v)]) = (Dict.ofList items).set k' v := by
      unfold Dict.ofList
      rw [List.foldl_append]
      rfl
    rw [hset, Dict.get?_set, ih, List.reverse_append, List.reverse_singleton,
      List.singleton_append, Dict.find]
    simp only [eq_comm]

theorem param_ofList (platform : Platform) (query : Chars) (name : String) :
    param (Dict.ofList (pairs platform query)) name = lastValue platform query name := by
  unfold param lastValue
  rw [get?_ofList_reverse]

theorem getQueryValue_eq (query : Chars) (name default : String) :
    getQueryValue (Url.parseQs query) name default = (firstValue query name).getD default := by
  unfold getQueryValue firstValue
  rw [Url.queryValue_parseQs]
  cases Dict.find name.toList (Url.parseQsl query) with
  | none => exact String.ofList_toList
  | some value => rfl

theorem uric_percent : Java.isUric '%' = false := by decide

theorem decodeComponent_of_legal (platform : Platform) {text : Chars}
    (h : Java.legal Java.isUric text = true) :
    decodeComponent platform text = .ok (decoded platform text) := by
  obtain ⟨decoded', hdecoded⟩ := Java.urlDecode_of_legal platform uric_percent h
  unfold decodeComponent decoded
  rw [hdecoded]
  rfl

theorem parsePair_of_legal (platform : Platform) {pair : Chars}
    (h : Java.legal Java.isUric pair = true) :
    parsePair platform pair = .ok (pairOf platform pair) := by
  unfold parsePair pairOf
  rcases Text.partition_cases '=' pair with ⟨-, hcut⟩ | ⟨name, value, rfl, -, hcut⟩
  · rw [hcut]
  · obtain ⟨hname, hvalue⟩ := Java.legal_append uric_percent (by decide) (by decide) h
    rw [hcut]
    simp only [decodeComponent_of_legal platform hname, decodeComponent_of_legal platform hvalue]
    rfl

/-- The query of a URI is read without an exception. -/
theorem parseQuery_of_legal (platform : Platform) {query : Chars}
    (h : Java.legal Java.isUric query = true) :
    parseQuery platform query = .ok (Dict.ofList (pairs platform query)) := by
  have hmap : ∀ parts : List Chars, (∀ part ∈ parts, Java.legal Java.isUric part = true) →
      parts.mapM (parsePair platform) = .ok (parts.map (pairOf platform)) := by
    intro parts hparts
    rw [mapM_eq_ok_iff, List.forall₂_map_right_iff, List.forall₂_same]
    exact fun part hpart => parsePair_of_legal platform (hparts part hpart)
  unfold parseQuery
  split
  next hempty =>
    rw [hempty]
    rfl
  next =>
    rw [hmap _ (Java.legal_splitOn uric_percent (by decide) (by decide) h), ok_bind]
    unfold pairs List.reduceOption
    rw [List.filterMap_map]
    rfl

/-! ## The app -/

/-- The parts of a link, as they are written. -/
structure UriParts where
  scheme : Chars
  userInfo : Chars
  host : Chars
  port : Chars
  query : Option Chars
  fragment : Option Chars

namespace UriParts

variable (platform : Platform) (link : UriParts)

def uri : Uri where
  scheme := some link.scheme
  server := some ⟨some link.userInfo, link.host, some link.port⟩
  rawQuery := link.query
  rawFragment := link.fragment

/-- The last value of a name. -/
def last (name : String) : Option String := lastValue platform (link.query.getD []) name

/-- The first value of a name, as the desktop reads it. -/
def first (name : String) : Option String := firstValue (link.query.getD []) name

/-- What the app makes of the parts. The value of `spx` is decoded again. -/
def profile (profileId : String) (currentTimeMillis : ℕ) : ServerProfile where
  profileId := profileId
  label := String.ofList (link.fragment.elim link.host (decoded platform))
  tag := s!"bimarz-{currentTimeMillis}"
  uuid := String.ofList (Java.decode platform [] link.userInfo)
  flow := (link.last platform "flow").getD ""
  address := String.ofList link.host
  port := .ofNat (decimal link.port)
  network := (link.last platform "type").getD "tcp"
  sni := ((link.last platform "sni").or (link.last platform "peer")).getD ""
  fingerprint := (link.last platform "fp").getD "chrome"
  publicKeyB64 := (link.last platform "pbk").getD ""
  shortIdHex := (link.last platform "sid").getD ""
  spiderX :=
    (link.last platform "spx").elim "" fun value => String.ofList (decoded platform value.toList)

end UriParts

/-- A link that the app accepts, with its parts. -/
structure AndroidLink (platform : Platform) (rawLink : String) (link : UriParts) : Prop where
  uri : Uri.ofText (Java.trim rawLink.toList) = some link.uri
  scheme : platform.lowercase link.scheme = "vless".toList
  port : 0 < decimal link.port
  security : ∃ value, link.last platform "security" = some value ∧
    platform.lowercase value.toList = "reality".toList
  publicKey : link.last platform "pbk" ≠ none
  spiderX : ∀ value, link.last platform "spx" = some value → urlDecode platform value.toList ≠ none

section Android

variable {platform : Platform} {rawLink profileId : String} {currentTimeMillis : ℕ}
  {link : UriParts} {profile : ServerProfile}

theorem orThrow_eq_ok_iff {α : Type} {value : Option α} {message : String} {a : α} :
    orThrow value message = .ok a ↔ value = some a := by
  cases value with
  | none => simp [orThrow]
  | some a' => simp [orThrow]

/-- The parts of a URI with a server. -/
theorem HasParts.of_link (h : Uri.ofText (Java.trim rawLink.toList) = some link.uri) :
    ∃ name path, Java.HasParts (Java.trim rawLink.toList) link.scheme name path link.query
      link.fragment ⟨some link.userInfo, link.host, some link.port⟩ :=
  Java.hasParts_of_ofText h rfl rfl

theorem legal_query (h : Uri.ofText (Java.trim rawLink.toList) = some link.uri) :
    Java.legal Java.isUric (link.query.getD []) = true := by
  obtain ⟨name, path, hparts⟩ := HasParts.of_link h
  cases hquery : link.query with
  | none => rfl
  | some query => exact (hparts.query_chars query hquery).2

theorem decodedOr_eq_ok_iff {value : Option Chars} {default text : String} :
    decodedOr platform value default = .ok text ↔
      (∀ v, value = some v → urlDecode platform v ≠ none) ∧
        value.elim default (fun v => String.ofList (decoded platform v)) = text := by
  cases value with
  | none => simp [decodedOr]
  | some v =>
    unfold decodedOr decodeComponent decoded
    cases hdecoded : urlDecode platform v with
    | none => simp [hdecoded, Except.map]
    | some cs => simp [hdecoded, Except.map]

theorem get?_pairs (platform : Platform) (query : Chars) (name : String) :
    (Dict.ofList (pairs platform query)).get? name.toList =
      (lastValue platform query name).map String.toList := by
  unfold lastValue
  rw [get?_ofList_reverse, Option.map_map]
  cases Dict.find name.toList (pairs platform query).reverse with
  | none => rfl
  | some value => exact congrArg some String.toList_ofList.symm

theorem checkSecurity_eq_ok_iff {query : Chars} :
    VlessLinkParser.checkSecurity platform (Dict.ofList (pairs platform query)) = .ok () ↔
      ∃ value, lastValue platform query "security" = some value ∧
        platform.lowercase value.toList = "reality".toList := by
  have hsecurity : security platform (Dict.ofList (pairs platform query)) =
      (lastValue platform query "security").map fun value =>
        String.ofList (platform.lowercase value.toList) := by
    unfold security
    rw [get?_pairs, Option.map_map]
    rfl
  simp only [VlessLinkParser.checkSecurity, check_eq_ok_iff, hsecurity, ne_eq, not_not, and_true,
    Option.map_eq_some_iff]
  refine exists_congr fun value => and_congr_right fun _ => ?_
  rw [← String.toList_inj, String.toList_ofList]

/-- The parts of a URI with user information, a host and a port. -/
theorem exists_parts {uri : Uri} {scheme userInfo host : Chars} {port : ℕ}
    (hscheme : uri.scheme = some scheme) (huserInfo : uri.userInfo platform = some userInfo)
    (hhost : uri.host = some host) (hport : uri.port = some port) :
    ∃ link : UriParts, uri = link.uri ∧ link.scheme = scheme ∧
      Java.decode platform [] link.userInfo = userInfo ∧ link.host = host ∧
      decimal link.port = port := by
  obtain ⟨s, hserver, rfl⟩ := Option.map_eq_some_iff.mp hhost
  simp only [Uri.userInfo, hserver, Option.bind_some, Option.map_eq_some_iff] at huserInfo
  obtain ⟨text, htext, rfl⟩ := huserInfo
  simp only [Uri.port, hserver, Option.bind_some, Option.map_eq_some_iff] at hport
  obtain ⟨digits, hdigits, rfl⟩ := hport
  refine ⟨⟨scheme, text, s.host, digits, uri.rawQuery, uri.rawFragment⟩, ?_, rfl, rfl, rfl, rfl⟩
  obtain ⟨uriScheme, server, query, fragment⟩ := uri
  obtain ⟨serverUserInfo, serverHost, serverPort⟩ := s
  simp only at hscheme hserver htext hdigits
  subst hscheme hserver htext hdigits
  rfl

/-- The profile as `parse` puts it together. -/
theorem UriParts.profile_eq (link : UriParts) {publicKey : String}
    (hpublicKey : lastValue platform (link.query.getD []) "pbk" = some publicKey) :
    link.profile platform profileId currentTimeMillis = {
      profileId := profileId
      label := link.uri.rawFragment.elim (String.ofList link.host) fun value =>
        String.ofList (decoded platform value)
      tag := s!"bimarz-{currentTimeMillis}"
      uuid := String.ofList (Java.decode platform [] link.userInfo)
      flow := (param (Dict.ofList (pairs platform (link.query.getD []))) "flow").getD ""
      address := String.ofList link.host
      port := .ofNat (decimal link.port)
      network := (param (Dict.ofList (pairs platform (link.query.getD []))) "type").getD "tcp"
      sni := ((param (Dict.ofList (pairs platform (link.query.getD []))) "sni").or
        (param (Dict.ofList (pairs platform (link.query.getD []))) "peer")).getD ""
      fingerprint := (param (Dict.ofList (pairs platform (link.query.getD []))) "fp").getD "chrome"
      publicKeyB64 := publicKey
      shortIdHex := (param (Dict.ofList (pairs platform (link.query.getD []))) "sid").getD ""
      spiderX := ((Dict.ofList (pairs platform (link.query.getD []))).get? "spx".toList).elim ""
        fun value => String.ofList (decoded platform value) } := by
  have hlabel : link.uri.rawFragment.elim (String.ofList link.host) (fun value =>
      String.ofList (decoded platform value)) =
      String.ofList (link.fragment.elim link.host (decoded platform)) := by
    change link.fragment.elim _ _ = _
    cases link.fragment with
    | none => rfl
    | some fragment => rfl
  rw [hlabel]
  simp only [param_ofList, get?_pairs, Option.elim_map]
  unfold UriParts.profile UriParts.last
  rw [hpublicKey]
  rfl

/-- The app accepts a link when its parts are in order. -/
theorem parse_eq_ok_iff :
    parse platform rawLink profileId currentTimeMillis = .ok profile ↔
      ∃ link, AndroidLink platform rawLink link ∧
        link.profile platform profileId currentTimeMillis = profile := by
  unfold parse
  simp only [bind_eq_ok_iff, linkUri, VlessLinkParser.checkScheme, orThrow_eq_ok_iff,
    check_eq_ok_iff, ne_eq, not_not, decodedOr_eq_ok_iff, Option.filter_eq_some_iff]
  constructor
  · rintro ⟨uri, huri, _, ⟨hscheme, -⟩, userInfo, huserInfo, host, hhost, port, ⟨hport, hpositive⟩,
      params, hparams, _, hsecurity, publicKey, hpublicKey, spiderX, ⟨hspx, rfl⟩, label,
      ⟨hfragment, rfl⟩, hprofile⟩
    obtain ⟨scheme, hscheme', hlower⟩ := Option.map_eq_some_iff.mp hscheme
    obtain ⟨link, rfl, rfl, rfl, rfl, rfl⟩ := exists_parts hscheme' huserInfo hhost hport
    have hparams' := parseQuery_of_legal platform (legal_query huri)
    rw [show link.uri.rawQuery = link.query from rfl, hparams'] at hparams
    cases hparams
    rw [param_ofList] at hpublicKey
    rw [get?_pairs] at hspx
    refine ⟨link, {
      uri := huri
      scheme := hlower
      port := of_decide_eq_true hpositive
      security := checkSecurity_eq_ok_iff.mp hsecurity
      publicKey := fun hnone => by
        rw [UriParts.last, hpublicKey] at hnone
        cases hnone
      spiderX := fun value hvalue => hspx _ (congrArg (Option.map String.toList) hvalue) }, ?_⟩
    rw [link.profile_eq hpublicKey]
    exact Except.ok.inj hprofile
  · rintro ⟨link, h, rfl⟩
    obtain ⟨publicKey, hpublicKey⟩ := Option.ne_none_iff_exists'.mp h.publicKey
    refine ⟨link.uri, h.uri, (), ⟨congrArg some h.scheme, trivial⟩, _, rfl, _, rfl, _,
      ⟨rfl, decide_eq_true h.port⟩, _, parseQuery_of_legal platform (legal_query h.uri), (),
      checkSecurity_eq_ok_iff.mpr h.security, publicKey, ?_, _, ⟨fun v hv => ?_, rfl⟩, _,
      ⟨fun text htext => ?_, rfl⟩, ?_⟩
    · rw [param_ofList]
      exact hpublicKey
    · rw [get?_pairs] at hv
      obtain ⟨value, hvalue, rfl⟩ := Option.map_eq_some_iff.mp hv
      exact h.spiderX value hvalue
    · obtain ⟨name, path, hparts⟩ := HasParts.of_link h.uri
      obtain ⟨decoded, hdecoded⟩ :=
        Java.urlDecode_of_legal platform uric_percent (hparts.fragment_chars text htext)
      rw [hdecoded]
      exact Option.some_ne_none decoded
    · rw [link.profile_eq hpublicKey]
      rfl

end Android

/-! ## The desktop -/

/-- The parts of a stripped link, as `urlsplit` finds them. -/
def linkParts (rawLink : String) : Url.SplitResult :=
  Url.splitParts (Python.strip rawLink).toList

/-- The first value of a name, without the blanks around it. -/
def stripped (query : Chars) (name default : String) : String :=
  Python.strip ((firstValue query name).getD default)

/-- A link that the desktop accepts. -/
structure DesktopLink (unicode : Unicode) (rawLink : String) : Prop where
  nonempty : Python.strip rawLink ≠ ""
  netloc : Url.AllowedNetloc unicode (linkParts rawLink).netloc
  scheme : lower unicode (String.ofList (linkParts rawLink).scheme) = "vless"
  hostname : ∃ c cs, (linkParts rawLink).hostname unicode = some (c :: cs)
  uuid : ∃ uuid, Uuid.ofText (Python.strip (String.ofList
    (Url.unquote ((linkParts rawLink).username.getD [])))).toList = some uuid
  port : ∃ port, (linkParts rawLink).port = .ok port ∧ 1 ≤ port.getD defaultPort ∧
    port.getD defaultPort ≤ 65535
  security : lower unicode (stripped (linkParts rawLink).query "security" "") = requiredSecurity
  flow : stripped (linkParts rawLink).query "flow" "" = requiredFlow
  publicKey : stripped (linkParts rawLink).query "pbk" "" ≠ ""

section Desktop

variable {unicode : Unicode} {rawLink : String} {parsed : Url.SplitResult}

theorem linkUrl_eq_ok_iff :
    linkUrl unicode rawLink = .ok parsed ↔ Python.strip rawLink ≠ "" ∧
      Url.AllowedNetloc unicode (linkParts rawLink).netloc ∧ linkParts rawLink = parsed := by
  simp only [linkUrl, check_eq_ok_iff, mapError_eq_ok_iff, Url.urlsplit_eq_ok_iff, linkParts]

theorem linkHostname_eq_ok_iff {hostname : String} :
    linkHostname unicode parsed = .ok hostname ↔
      ∃ c cs, parsed.hostname unicode = some (c :: cs) ∧ String.ofList (c :: cs) = hostname := by
  unfold linkHostname
  split
  next c cs heq => simp [heq]
  next hnot =>
    constructor
    · nofun
    · rintro ⟨c, cs, heq, -⟩
      exact (hnot c cs heq).elim

theorem linkUuid_eq_ok_iff {uuid : Uuid} :
    linkUuid parsed = .ok uuid ↔ Uuid.ofText (Python.strip (String.ofList
      (Url.unquote (parsed.username.getD [])))).toList = some uuid := by
  simp only [linkUuid, check_eq_ok_iff]
  constructor
  · rintro ⟨-, h⟩
    split at h
    next uuid' heq => rw [heq, Except.ok.inj h]
    next => cases h
  · intro h
    refine ⟨fun hempty => ?_, by rw [h]⟩
    have hnone : Uuid.ofText "".toList = none := by decide
    rw [hempty, hnone] at h
    cases h

theorem linkPort_eq_ok_iff {port : ℕ} :
    linkPort parsed = .ok port ↔ ∃ port', parsed.port = .ok port' ∧
      (1 ≤ port'.getD defaultPort ∧ port'.getD defaultPort ≤ 65535) ∧
        port'.getD defaultPort = port := by
  unfold linkPort
  cases parsed.port with
  | error error => simp
  | ok port' =>
    simp only
    split
    next hrange => simp [hrange]
    next hrange => simp [hrange]

/-- What the desktop makes of the parts, of what the app has too. -/
structure ReadsAs (query : Chars) (hostname : String) (uuid : Uuid) (port : ℕ)
    (outbound : VlessOutbound) : Prop where
  address : outbound.address = hostname
  port : outbound.port = port
  id : outbound.id = String.ofList uuid.text
  flow : outbound.flow = requiredFlow
  sni : outbound.sni = orElse (stripped query "sni" "") (stripped query "host" "")
  fp : outbound.fp = orElse (stripped query "fp" defaultFingerprint) defaultFingerprint
  publicKey : outbound.publicKey = stripped query "pbk" ""
  shortId : outbound.shortId = stripped query "sid" ""
  spiderX : outbound.spiderX = (firstValue query "spx").getD ""
  type : outbound.type = orElse (stripped query "type" defaultNetwork) defaultNetwork

theorem stripped_eq (query : Chars) (name default : String) :
    stripped query name default =
      Python.strip (getQueryValue (Url.parseQs query) name default) := by
  rw [getQueryValue_eq]
  rfl

theorem exists_linkOutbound_iff {query : Chars} {hostname : String} {uuid : Uuid} {port : ℕ} :
    (∃ outbound, linkOutbound unicode (Url.parseQs query) hostname uuid port = .ok outbound) ↔
      lower unicode (stripped query "security" "") = requiredSecurity ∧
        stripped query "flow" "" = requiredFlow ∧ stripped query "pbk" "" ≠ "" := by
  simp only [stripped_eq]
  constructor
  · rintro ⟨outbound, h⟩
    unfold linkOutbound at h
    simp only [check_eq_ok_iff] at h
    exact ⟨not_not.mp h.1, not_not.mp h.2.1, h.2.2.1⟩
  · rintro ⟨hsecurity, hflow, hpublicKey⟩
    exact ⟨_, check_eq_ok_iff.mpr ⟨not_not.mpr hsecurity,
      check_eq_ok_iff.mpr ⟨not_not.mpr hflow, check_eq_ok_iff.mpr ⟨hpublicKey, rfl⟩⟩⟩⟩

theorem readsAs_of_linkOutbound {query : Chars} {hostname : String} {uuid : Uuid} {port : ℕ}
    {outbound : VlessOutbound}
    (h : linkOutbound unicode (Url.parseQs query) hostname uuid port = .ok outbound) :
    ReadsAs query hostname uuid port outbound := by
  unfold linkOutbound at h
  simp only [check_eq_ok_iff] at h
  obtain ⟨-, hflow, -, h⟩ := h
  cases h
  constructor
  · rfl
  · rfl
  · rfl
  · exact not_not.mp hflow
  · rw [stripped_eq, stripped_eq]
  · rw [stripped_eq]
  · rw [stripped_eq]
  · rw [stripped_eq]
  · rw [← getQueryValue_eq]
  · rw [stripped_eq]

/-- The desktop accepts the links of its form. -/
theorem exists_parseVlessLink_iff (profileId addedAtIso : String) :
    (∃ profile, parseVlessLink unicode rawLink profileId addedAtIso = .ok profile) ↔
      DesktopLink unicode rawLink := by
  constructor
  · rintro ⟨profile, h⟩
    obtain ⟨parsed, hostname, uuid, port, outbound, hurl, hscheme, hhostname, huuid, hport,
      houtbound, -⟩ := parseVlessLink_eq_ok_iff.mp h
    obtain ⟨hnonempty, hnetloc, rfl⟩ := linkUrl_eq_ok_iff.mp hurl
    obtain ⟨c, cs, hname, -⟩ := linkHostname_eq_ok_iff.mp hhostname
    obtain ⟨port', hport', hrange, -⟩ := linkPort_eq_ok_iff.mp hport
    obtain ⟨hsecurity, hflow, hpublicKey⟩ := exists_linkOutbound_iff.mp ⟨outbound, houtbound⟩
    exact {
      nonempty := hnonempty
      netloc := hnetloc
      scheme := hscheme
      hostname := ⟨c, cs, hname⟩
      uuid := ⟨uuid, linkUuid_eq_ok_iff.mp huuid⟩
      port := ⟨port', hport', hrange⟩
      security := hsecurity
      flow := hflow
      publicKey := hpublicKey }
  · intro h
    obtain ⟨c, cs, hname⟩ := h.hostname
    obtain ⟨uuid, huuid⟩ := h.uuid
    obtain ⟨port, hport, hrange⟩ := h.port
    obtain ⟨outbound, houtbound⟩ :=
      exists_linkOutbound_iff.mpr ⟨h.security, h.flow, h.publicKey⟩
    exact ⟨_, parseVlessLink_eq_ok_iff.mpr ⟨linkParts rawLink, _, uuid, _, outbound,
      linkUrl_eq_ok_iff.mpr ⟨h.nonempty, h.netloc, rfl⟩, h.scheme,
      linkHostname_eq_ok_iff.mpr ⟨c, cs, hname, rfl⟩, linkUuid_eq_ok_iff.mpr huuid,
      linkPort_eq_ok_iff.mpr ⟨port, hport, hrange, rfl⟩, houtbound, rfl⟩⟩

end Desktop

end Bimarz.Android
