import Bimarz.Android.LinkForms

/-!
# What a pasted link does

A link is handled when `parse` makes a profile of it whose fields are the values of the link decoded
once, or raises the exception of the parser, the only one that the app expects. `handled_iff` says
for which links this fails: the value of `spx` is decoded with its query and then again on its own.
-/

namespace Bimarz.Android

open Effect
open Url (Chars decimal)
open Java (Platform Uri urlDecode)
open VlessLinkParser (param orThrow decodedOr parsePair security parse)

/-! ## The raw values of a query -/

/-- A pair with its name decoded and its value as it is written. -/
def rawPairOf (platform : Platform) (pair : Chars) : Option (Chars × Chars) :=
  match Text.partition '=' pair with
  | (name, true, value) => some (decoded platform name, value)
  | _ => none

def rawPairs (platform : Platform) (query : Chars) : List (Chars × Chars) :=
  (query.splitOn '&').filterMap (rawPairOf platform)

/-- The last value of a name, as it is written. -/
def rawLast (platform : Platform) (query : Chars) (name : String) : Option Chars :=
  Dict.find name.toList (rawPairs platform query).reverse

theorem pairs_eq_rawPairs (platform : Platform) (query : Chars) :
    pairs platform query =
      (rawPairs platform query).map fun item => (item.1, decoded platform item.2) := by
  unfold pairs rawPairs
  rw [List.map_filterMap]
  refine congrArg (List.filterMap · _) (funext fun pair => ?_)
  unfold pairOf rawPairOf
  rcases Text.partition_cases '=' pair with ⟨-, hcut⟩ | ⟨name, value, rfl, -, hcut⟩
  · rw [hcut]
    rfl
  · rw [hcut]
    rfl

/-- The value that counts is the raw one, decoded. -/
theorem lastValue_eq (platform : Platform) (query : Chars) (name : String) :
    lastValue platform query name =
      (rawLast platform query name).map fun raw => String.ofList (decoded platform raw) := by
  unfold lastValue rawLast
  rw [pairs_eq_rawPairs, ← List.map_reverse, Dict.find_map, Option.map_map]
  rfl

/-- The raw values of a legal query can be decoded. -/
theorem urlDecode_rawLast {platform : Platform} {query : Chars}
    (h : Java.legal Java.isUric query = true) {name : String} {raw : Chars}
    (hraw : rawLast platform query name = some raw) :
    urlDecode platform raw = some (decoded platform raw) := by
  have hmem := List.mem_reverse.mp (Dict.mem_of_find hraw)
  obtain ⟨pair, hpair, hcut⟩ := List.mem_filterMap.mp hmem
  have hlegal := Java.legal_splitOn uric_percent (by decide) (by decide) h pair hpair
  unfold rawPairOf at hcut
  rcases Text.partition_cases '=' pair with ⟨-, heq⟩ | ⟨name', value, rfl, -, heq⟩
  · rw [heq] at hcut
    cases hcut
  · rw [heq] at hcut
    obtain ⟨-, rfl⟩ := Prod.mk.inj (Option.some.inj hcut)
    obtain ⟨-, hvalue⟩ := Java.legal_append uric_percent (by decide) (by decide) hlegal
    obtain ⟨text, htext⟩ := Java.urlDecode_of_legal platform uric_percent hvalue
    unfold decoded
    rw [htext]
    rfl

/-! ## Fields that are decoded once -/

/-- A field is the raw value decoded, or the default where there is none. -/
def DecodedFrom (platform : Platform) (raw : Option Chars) (default text : String) : Prop :=
  match raw with
  | some raw => urlDecode platform raw = some text.toList
  | none => text = default

/-- The raw value of a name. -/
def UriParts.raw (platform : Platform) (link : UriParts) (name : String) : Option Chars :=
  rawLast platform (link.query.getD []) name

/-- Every field that is written with escapes is its raw value decoded. -/
structure DecodedOnce (platform : Platform) (link : UriParts) (profile : ServerProfile) : Prop where
  label : DecodedFrom platform link.fragment (String.ofList link.host) profile.label
  flow : DecodedFrom platform (link.raw platform "flow") "" profile.flow
  network : DecodedFrom platform (link.raw platform "type") "tcp" profile.network
  sni : DecodedFrom platform ((link.raw platform "sni").or (link.raw platform "peer")) ""
    profile.sni
  fingerprint : DecodedFrom platform (link.raw platform "fp") "chrome" profile.fingerprint
  publicKeyB64 : link.raw platform "pbk" ≠ none ∧
    DecodedFrom platform (link.raw platform "pbk") "" profile.publicKeyB64
  shortIdHex : DecodedFrom platform (link.raw platform "sid") "" profile.shortIdHex
  spiderX : DecodedFrom platform (link.raw platform "spx") "" profile.spiderX

/-- `VlessLinkParseException`. -/
def ParseExc.IsLinkError : ParseExc → Prop
  | .vlessLinkParse _ => True
  | .illegalArgument => False

/-- A link that `parse` refuses with its own exception, or of which it makes a profile with fields
that are decoded once. -/
def Handled (platform : Platform) (rawLink profileId : String) (currentTimeMillis : ℕ) : Prop :=
  match parse platform rawLink profileId currentTimeMillis with
  | .ok profile => ∃ link : UriParts, Uri.ofText (Java.trim rawLink.toList) = some link.uri ∧
      DecodedOnce platform link profile
  | .error e => e.IsLinkError

/-! ## Links of the app -/

/-- A link with everything that the app asks for but a readable `spx`. -/
structure RealityLink (platform : Platform) (rawLink : String) (link : UriParts) : Prop where
  uri : Uri.ofText (Java.trim rawLink.toList) = some link.uri
  scheme : platform.lowercase link.scheme = "vless".toList
  port : 0 < decimal link.port
  security : ∃ value, link.last platform "security" = some value ∧
    platform.lowercase value.toList = "reality".toList
  publicKey : link.last platform "pbk" ≠ none

/-- The value of `spx`, decoded with the query, is its own decoding. -/
def SpiderXStable (platform : Platform) (link : UriParts) : Prop :=
  ∀ value, link.last platform "spx" = some value →
    urlDecode platform value.toList = some value.toList

section Links

variable {platform : Platform} {rawLink profileId : String} {currentTimeMillis : ℕ}
  {link link' : UriParts}

theorem uri_injective (h : link.uri = link'.uri) : link = link' := by
  obtain ⟨scheme, userInfo, host, port, query, fragment⟩ := link
  obtain ⟨scheme', userInfo', host', port', query', fragment'⟩ := link'
  simp only [UriParts.uri, Uri.mk.injEq, Option.some.injEq, Java.Server.mk.injEq] at h
  obtain ⟨rfl, ⟨rfl, rfl, rfl⟩, rfl, rfl⟩ := h
  rfl

theorem AndroidLink.realityLink (h : AndroidLink platform rawLink link) :
    RealityLink platform rawLink link :=
  ⟨h.uri, h.scheme, h.port, h.security, h.publicKey⟩

theorem RealityLink.androidLink (h : RealityLink platform rawLink link)
    (hspx : ∀ value, link.last platform "spx" = some value →
      urlDecode platform value.toList ≠ none) : AndroidLink platform rawLink link :=
  ⟨h.uri, h.scheme, h.port, h.security, h.publicKey, hspx⟩

theorem RealityLink.unique (h : RealityLink platform rawLink link)
    (h' : RealityLink platform rawLink link') : link = link' := by
  have huri := h.uri
  rw [h'.uri] at huri
  exact uri_injective (Option.some.inj huri).symm

theorem RealityLink.linkUri (h : RealityLink platform rawLink link) :
    VlessLinkParser.linkUri platform rawLink = .ok link.uri := orThrow_eq_ok_iff.mpr h.uri

theorem RealityLink.checkScheme (h : RealityLink platform rawLink link) :
    VlessLinkParser.checkScheme platform link.uri = .ok () :=
  check_eq_ok_iff.mpr ⟨not_not.mpr (congrArg some h.scheme), rfl⟩

theorem RealityLink.parseQuery (h : RealityLink platform rawLink link) :
    VlessLinkParser.parseQuery platform (link.uri.rawQuery.getD []) =
      .ok (Dict.ofList (pairs platform (link.query.getD []))) :=
  parseQuery_of_legal platform (legal_query h.uri)

theorem RealityLink.port_filter (h : RealityLink platform rawLink link) :
    link.uri.port.filter (fun port => 0 < port) = some (decimal link.port) :=
  Option.filter_eq_some_iff.mpr ⟨rfl, decide_eq_true h.port⟩

/-- A link whose `spx` cannot be decoded again raises the exception of the decoder. -/
theorem RealityLink.parse_error (h : RealityLink platform rawLink link) {value : String}
    (hvalue : link.last platform "spx" = some value)
    (hnone : urlDecode platform value.toList = none) :
    parse platform rawLink profileId currentTimeMillis = .error .illegalArgument := by
  obtain ⟨publicKey, hpublicKey⟩ := Option.ne_none_iff_exists'.mp h.publicKey
  have hparam : param (Dict.ofList (pairs platform (link.query.getD []))) "pbk" =
      some publicKey := (param_ofList platform _ _).trans hpublicKey
  have hspx : (Dict.ofList (pairs platform (link.query.getD []))).get? "spx".toList =
      some value.toList := (get?_pairs platform _ _).trans (congrArg _ hvalue)
  have hdecoded : decodedOr platform (some value.toList) "" = .error .illegalArgument := by
    simp [decodedOr, VlessLinkParser.decodeComponent, hnone, Except.map]
  unfold parse
  rw [h.linkUri, ok_bind, h.checkScheme, ok_bind,
    show link.uri.userInfo platform = some (Java.decode platform [] link.userInfo) from rfl,
    show link.uri.host = some link.host from rfl, h.port_filter, h.parseQuery]
  simp only [orThrow, ok_bind, checkSecurity_eq_ok_iff.mpr h.security, hparam, hspx, hdecoded]
  rfl

theorem orThrow_raises {α : Type} (value : Option α) (message : String) :
    RaisesOnly ParseExc.IsLinkError (orThrow value message) := by
  cases value with
  | some a => exact raisesOnly_ok a
  | none => exact raisesOnly_error_iff.mpr trivial

theorem checkScheme_raises (uri : Uri) :
    RaisesOnly ParseExc.IsLinkError (VlessLinkParser.checkScheme platform uri) := by
  unfold VlessLinkParser.checkScheme
  split
  · exact raisesOnly_error_iff.mpr trivial
  · exact raisesOnly_ok _

theorem checkSecurity_raises (params : Dict Chars Chars) :
    RaisesOnly ParseExc.IsLinkError (VlessLinkParser.checkSecurity platform params) := by
  unfold VlessLinkParser.checkSecurity
  simp only
  split
  · exact raisesOnly_error_iff.mpr trivial
  · exact raisesOnly_ok _

theorem decodedOr_raises {value : Option Chars} {default : String}
    (h : ∀ v, value = some v → urlDecode platform v ≠ none) :
    RaisesOnly ParseExc.IsLinkError (decodedOr platform value default) := by
  obtain ⟨text, htext⟩ : ∃ text, decodedOr platform value default = .ok text :=
    ⟨_, decodedOr_eq_ok_iff.mpr ⟨h, rfl⟩⟩
  rw [htext]
  exact raisesOnly_ok text

/-- Up to `spx` every failure is the parser's own. -/
theorem parse_raises (h : ∀ link value, RealityLink platform rawLink link →
      link.last platform "spx" = some value → urlDecode platform value.toList ≠ none) :
    RaisesOnly ParseExc.IsLinkError (parse platform rawLink profileId currentTimeMillis) := by
  refine raisesOnly_bind (orThrow_raises _ _) fun uri huri => ?_
  refine raisesOnly_bind (checkScheme_raises _) fun _ hscheme => ?_
  refine raisesOnly_bind (orThrow_raises _ _) fun userInfo huserInfo => ?_
  refine raisesOnly_bind (orThrow_raises _ _) fun host hhost => ?_
  refine raisesOnly_bind (orThrow_raises _ _) fun port hport => ?_
  have huri := orThrow_eq_ok_iff.mp huri
  rw [orThrow_eq_ok_iff] at huserInfo hhost hport
  obtain ⟨hscheme, -⟩ := check_eq_ok_iff.mp hscheme
  obtain ⟨scheme, hscheme, hlower⟩ := Option.map_eq_some_iff.mp (not_not.mp hscheme)
  obtain ⟨hport, hpositive⟩ := Option.filter_eq_some_iff.mp hport
  obtain ⟨link, rfl, rfl, rfl, rfl, rfl⟩ := exists_parts hscheme huserInfo hhost hport
  rw [show link.uri.rawQuery = link.query from rfl, parseQuery_of_legal platform (legal_query huri),
    ok_bind]
  refine raisesOnly_bind (checkSecurity_raises _) fun _ hsecurity => ?_
  refine raisesOnly_bind (orThrow_raises _ _) fun publicKey hpublicKey => ?_
  rw [orThrow_eq_ok_iff, param_ofList] at hpublicKey
  have hlink : RealityLink platform rawLink link := {
    uri := huri
    scheme := hlower
    port := of_decide_eq_true hpositive
    security := checkSecurity_eq_ok_iff.mp hsecurity
    publicKey := Option.ne_none_iff_exists'.mpr ⟨publicKey, hpublicKey⟩ }
  refine raisesOnly_bind (decodedOr_raises fun v hv => ?_) fun spiderX _ => ?_
  · rw [get?_pairs] at hv
    obtain ⟨value, hvalue, rfl⟩ := Option.map_eq_some_iff.mp hv
    exact h link value hlink hvalue
  refine raisesOnly_bind (decodedOr_raises fun text htext => ?_) fun label _ => raisesOnly_ok _
  obtain ⟨name, path, hparts⟩ := HasParts.of_link huri
  obtain ⟨label, hlabel⟩ :=
    Java.urlDecode_of_legal platform uric_percent (hparts.fragment_chars text htext)
  rw [hlabel]
  nofun

/-! ## The fields of a profile -/

theorem decodedFrom_of_map {raw : Option Chars} (default : String)
    (h : ∀ text, raw = some text → urlDecode platform text = some (decoded platform text)) :
    DecodedFrom platform raw default
      ((raw.map fun text => String.ofList (decoded platform text)).getD default) := by
  cases raw with
  | none => rfl
  | some text =>
    change urlDecode platform text = some (String.ofList (decoded platform text)).toList
    rw [h text rfl, String.toList_ofList]

theorem UriParts.last_eq (name : String) :
    link.last platform name =
      (link.raw platform name).map fun raw => String.ofList (decoded platform raw) :=
  lastValue_eq platform _ name

/-- A value of the query. -/
theorem RealityLink.decodedFrom_last (h : RealityLink platform rawLink link)
    (name default : String) :
    DecodedFrom platform (link.raw platform name) default
      ((link.last platform name).getD default) := by
  rw [UriParts.last_eq]
  exact decodedFrom_of_map default fun text htext => urlDecode_rawLast (legal_query h.uri) htext

theorem RealityLink.decodedFrom_sni (h : RealityLink platform rawLink link) :
    DecodedFrom platform ((link.raw platform "sni").or (link.raw platform "peer")) ""
      (((link.last platform "sni").or (link.last platform "peer")).getD "") := by
  cases hsni : link.raw platform "sni" with
  | none =>
    rw [UriParts.last_eq "sni", hsni]
    exact h.decodedFrom_last "peer" ""
  | some text =>
    have hdecoded := h.decodedFrom_last "sni" ""
    rw [UriParts.last_eq "sni", hsni] at hdecoded ⊢
    exact hdecoded

theorem RealityLink.decodedFrom_label (h : RealityLink platform rawLink link) :
    DecodedFrom platform link.fragment (String.ofList link.host)
      (String.ofList (link.fragment.elim link.host (decoded platform))) := by
  obtain ⟨name, path, hparts⟩ := HasParts.of_link h.uri
  cases hfragment : link.fragment with
  | none => rfl
  | some text =>
    obtain ⟨label, hlabel⟩ :=
      Java.urlDecode_of_legal platform uric_percent (hparts.fragment_chars text hfragment)
    change urlDecode platform text = some (String.ofList (decoded platform text)).toList
    unfold decoded
    rw [String.toList_ofList, hlabel]
    rfl

variable (profileId currentTimeMillis) in
/-- The value of `spx` is decoded twice, which has to be the same. -/
theorem AndroidLink.decodedFrom_spiderX_iff (h : AndroidLink platform rawLink link) :
    DecodedFrom platform (link.raw platform "spx") ""
      (link.profile platform profileId currentTimeMillis).spiderX ↔ SpiderXStable platform link := by
  unfold SpiderXStable UriParts.profile
  cases hlast : link.last platform "spx" with
  | none =>
    rw [UriParts.last_eq, Option.map_eq_none_iff] at hlast
    rw [hlast]
    exact iff_of_true rfl nofun
  | some value =>
    obtain ⟨text, htext⟩ := Option.ne_none_iff_exists'.mp (h.spiderX value hlast)
    have honce := h.realityLink.decodedFrom_last "spx" ""
    rw [hlast] at honce
    rw [UriParts.last_eq, Option.map_eq_some_iff] at hlast
    obtain ⟨raw, hraw, -⟩ := hlast
    rw [hraw] at honce ⊢
    have htwice : decoded platform value.toList = text := by
      unfold decoded
      rw [htext]
      rfl
    change urlDecode platform raw = some value.toList at honce
    change urlDecode platform raw = some (String.ofList (decoded platform value.toList)).toList ↔ _
    rw [htwice, String.toList_ofList, honce, Option.some.injEq]
    constructor
    · rintro rfl value' hvalue'
      cases hvalue'
      exact htext
    · intro hstable
      exact Option.some.inj ((hstable value rfl).symm.trans htext)

theorem AndroidLink.decodedOnce_iff (h : AndroidLink platform rawLink link) :
    DecodedOnce platform link (link.profile platform profileId currentTimeMillis) ↔
      SpiderXStable platform link := by
  rw [← h.decodedFrom_spiderX_iff profileId currentTimeMillis]
  constructor
  · exact DecodedOnce.spiderX
  · intro hspiderX
    have hlink := h.realityLink
    have hraw : link.raw platform "pbk" ≠ none := by
      have hpublicKey := h.publicKey
      rw [UriParts.last_eq, ne_eq, Option.map_eq_none_iff] at hpublicKey
      exact hpublicKey
    exact {
      label := hlink.decodedFrom_label
      flow := hlink.decodedFrom_last "flow" ""
      network := hlink.decodedFrom_last "type" "tcp"
      sni := hlink.decodedFrom_sni
      fingerprint := hlink.decodedFrom_last "fp" "chrome"
      publicKeyB64 := ⟨hraw, hlink.decodedFrom_last "pbk" ""⟩
      shortIdHex := hlink.decodedFrom_last "sid" ""
      spiderX := hspiderX }

/-- A link is handled when the second decoding of its `spx` changes nothing. -/
theorem handled_iff (platform : Platform) (rawLink profileId : String) (currentTimeMillis : ℕ) :
    Handled platform rawLink profileId currentTimeMillis ↔
      ∀ link, RealityLink platform rawLink link → SpiderXStable platform link := by
  constructor
  · intro h link hlink
    have hspx : ∀ value, link.last platform "spx" = some value →
        urlDecode platform value.toList ≠ none := by
      intro value hvalue hnone
      unfold Handled at h
      rw [hlink.parse_error hvalue hnone] at h
      exact h
    have handroid := hlink.androidLink hspx
    have hparse : parse platform rawLink profileId currentTimeMillis =
        .ok (link.profile platform profileId currentTimeMillis) :=
      parse_eq_ok_iff.mpr ⟨link, handroid, rfl⟩
    unfold Handled at h
    rw [hparse] at h
    obtain ⟨link', huri, honce⟩ := h
    rw [hlink.uri] at huri
    obtain rfl := uri_injective (Option.some.inj huri)
    exact handroid.decodedOnce_iff.mp honce
  · intro h
    have hraises : RaisesOnly ParseExc.IsLinkError
        (parse platform rawLink profileId currentTimeMillis) := by
      apply parse_raises
      intro link value hlink hvalue hnone
      rw [h link hlink value hvalue] at hnone
      cases hnone
    unfold Handled
    cases hparse : parse platform rawLink profileId currentTimeMillis with
    | error e => exact hraises e hparse
    | ok profile =>
      obtain ⟨link, hlink, rfl⟩ := parse_eq_ok_iff.mp hparse
      exact ⟨link, hlink.uri, hlink.decodedOnce_iff.mpr (h link hlink.realityLink)⟩

end Links

/-! ## A link that crashes -/

/-- The value of `spx` is a percent sign, escaped. -/
def percentLink : String :=
  "vless://27848739-7e62-4138-9fd3-098a63964b6b@a.org:443" ++
    "?security=reality&pbk=A&spx=%25"

theorem percentLink_not_handled : ¬Handled Java.examplePlatform percentLink "1" 0 := by
  have hparse : parse Java.examplePlatform percentLink "1" 0 = .error .illegalArgument := by decide
  unfold Handled
  rw [hparse]
  exact id

-- A value that is escaped twice is decoded twice.
example : (parse Java.examplePlatform
    "vless://27848739-7e62-4138-9fd3-098a63964b6b@a.org:443?security=reality&pbk=A&spx=%252F" "1"
    0).map ServerProfile.spiderX = .ok "/" := by decide

end Bimarz.Android
