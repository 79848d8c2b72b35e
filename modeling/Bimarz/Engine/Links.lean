import Bimarz.Engine.VlessBuilder
import Bimarz.Parsers.RoundTrip

/-!
# From a link to an outbound

The parser and the builder check a link separately. Which accepted links the builder takes too, and
which of the parameters of a link reach the outbound.
-/

namespace Bimarz

open Effect Engine
open Url (Unicode)

/-! ## The parameters of a link -/

/-- The value of a parameter of a link. -/
def linkParameter (unicode : Unicode) (link key default : String) : String :=
  match linkUrl unicode link with
  | .ok parsed => getQueryValue (Url.parseQs parsed.query) key default
  | .error _ => default

/-- The value without the blanks around it. -/
def linkTrimmed (unicode : Unicode) (link key : String) : String :=
  Python.strip (linkParameter unicode link key "")

/-- The value without the blanks around it; the default when it is blank. -/
def linkOrDefault (unicode : Unicode) (link key default : String) : String :=
  orElse (Python.strip (linkParameter unicode link key default)) default

/-! ## The settings of an accepted link -/

/-- The values that the builder takes. -/
def VlessOutbound.settings (outbound : VlessOutbound) : OutboundSettings where
  id := outbound.id
  flow := outbound.flow
  address := outbound.address
  port := outbound.port
  type := outbound.type
  sni := outbound.sni
  fp := outbound.fp
  publicKey := outbound.publicKey
  shortId := outbound.shortId
  spiderX := outbound.spiderX

theorem VlessOutbound.settings_of {outbound : VlessOutbound} {profile : ServerProfile}
    (h : profile.outboundConfig = outbound.config)
    (hport : 1 ≤ outbound.port ∧ outbound.port ≤ 65535) :
    outbound.settings.Of profile where
  id := by rw [h]; rfl
  flow := by rw [h]; rfl
  address := by rw [h]; rfl
  port := by rw [h]; rfl
  type := by rw [h]; rfl
  sni := by rw [h]; rfl
  fp := by rw [h]; rfl
  publicKey := by rw [h]; rfl
  shortId := by rw [h]; rfl
  spiderX := by rw [h]; rfl
  validPort := hport

/-- The parameters that belong to the transport. -/
inductive TransportKey
  | path
  | host
  | serviceName
  | authority
  | mode
  | headerType
  | seed
  deriving DecidableEq

def TransportKey.name : TransportKey → String
  | path => "path"
  | host => "host"
  | serviceName => "serviceName"
  | authority => "authority"
  | mode => "mode"
  | headerType => "headerType"
  | seed => "seed"

def VlessOutbound.transport (outbound : VlessOutbound) : TransportKey → String
  | .path => outbound.path
  | .host => outbound.host
  | .serviceName => outbound.serviceName
  | .authority => outbound.authority
  | .mode => outbound.mode
  | .headerType => outbound.headerType
  | .seed => outbound.seed

/-- What is known of the settings of an accepted link. -/
structure VlessOutbound.Read (outbound : VlessOutbound) (unicode : Unicode) (link : String) :
    Prop where
  id : outbound.id ≠ ""
  address : outbound.address ≠ ""
  port : 1 ≤ outbound.port ∧ outbound.port ≤ 65535
  publicKey : outbound.publicKey = linkTrimmed unicode link "pbk"
  shortId : outbound.shortId = linkTrimmed unicode link "sid"
  encryption : outbound.encryption = linkOrDefault unicode link "encryption" defaultEncryption
  type : outbound.type = linkOrDefault unicode link "type" defaultNetwork
  transport : ∀ key, outbound.transport key = linkParameter unicode link key.name ""

theorem linkHostname_ne {unicode : Unicode} {parsed : Url.SplitResult} {hostname : String}
    (h : linkHostname unicode parsed = .ok hostname) : hostname ≠ "" := by
  unfold linkHostname at h
  split at h
  · rename_i c cs _
    cases h
    intro hempty
    have hchars := congrArg String.toList hempty
    rw [String.toList_ofList] at hchars
    cases hchars
  · cases h

theorem linkPort_range {parsed : Url.SplitResult} {port : ℕ} (h : linkPort parsed = .ok port) :
    1 ≤ port ∧ port ≤ 65535 := by
  unfold linkPort at h
  split at h
  · cases h
  · simp only at h
    split at h
    · rename_i hrange
      cases h
      exact hrange
    · cases h

/-- The settings of an accepted link. -/
theorem read_of_parse {unicode : Unicode} {link profileId addedAtIso : String}
    {profile : ServerProfile}
    (h : parseVlessLink unicode link profileId addedAtIso = .ok profile) :
    ∃ outbound : VlessOutbound, profile.outboundConfig = outbound.config ∧
      outbound.Read unicode link := by
  rw [parseVlessLink_eq_ok_iff] at h
  obtain ⟨parsed, hostname, parsedUuid, port, outbound, hparsed, -, hhostname, -, hport,
    houtbound, rfl⟩ := h
  have hparameter : ∀ key default, linkParameter unicode link key default =
      getQueryValue (Url.parseQs parsed.query) key default := by
    intro key default
    unfold linkParameter
    rw [hparsed]
  unfold linkOutbound at houtbound
  simp only [check_eq_ok_iff] at houtbound
  obtain ⟨-, -, -, houtbound⟩ := houtbound
  cases houtbound
  refine ⟨_, rfl, ?_⟩
  constructor
  · exact Uuid.text_ne parsedUuid
  · exact linkHostname_ne hhostname
  · exact linkPort_range hport
  · rw [linkTrimmed, hparameter]
  · rw [linkTrimmed, hparameter]
  · rw [linkOrDefault, hparameter]
  · rw [linkOrDefault, hparameter]
  · intro key
    rw [hparameter]
    cases key <;> rfl

/-- The parameters of a link that was formatted. -/
theorem linkParameter_format (unicode : Unicode) {link : Link} {order : List (String × String)}
    (horder : order.Perm link.fields) (key default : String) :
    linkParameter unicode (link.format order) key default =
      (Dict.find key link.fields).getD default := by
  unfold linkParameter
  rw [Link.linkUrl_format unicode horder]
  exact Link.getQueryValue_query horder key default

/-! ## Links that the builder takes -/

/-- The text of some bytes in base64url without padding. -/
def CanonicalKey (key : String) : Prop := ∃ bytes, Base64.encode bytes = key.toList

/-- An even number of hexadecimal digits. -/
def HexPairs (sid : String) : Prop :=
  sid.toList.length % 2 = 0 ∧ ∀ c ∈ sid.toList, (Hex.value c).isSome = true

section Accepted

variable {crates : Crates} {unicode : Unicode} {link profileId addedAtIso : String}
  {profile : ServerProfile}

theorem valid_params {outbound : VlessOutbound} (hid : outbound.id ≠ "")
    (haddress : outbound.address ≠ "") (hrange : 1 ≤ outbound.port ∧ outbound.port ≤ 65535) :
    outbound.settings.params.Valid := by
  have hport : outbound.settings.params.port.toNat = outbound.port := toNat_port hrange.2
  constructor
  · exact (by decide : activeOutboundTag ≠ "")
  · exact hid
  · exact haddress
  · intro hzero
    have hnone : outbound.settings.params.port.toNat = 0 := congrArg UInt32.toNat hzero
    omega
  · have hbound : (65535 : UInt32).toNat = 65535 := rfl
    rw [UInt32.le_iff_toNat_le, hport, hbound]
    exact hrange.2

/-- The builder takes an accepted link exactly when it can decode the public key and the short id:
the parser only wants a public key that is not blank. -/
theorem accepted_link_usable_iff (crates : Crates)
    (h : parseVlessLink unicode link profileId addedAtIso = .ok profile) :
    (∃ outbound, addedOutbound crates profile = .ok outbound) ↔
      CanonicalKey (linkTrimmed unicode link "pbk") ∧
        HexPairs (linkTrimmed unicode link "sid") := by
  obtain ⟨outbound, hconfig, hread⟩ := read_of_parse h
  have hof := VlessOutbound.settings_of hconfig hread.port
  rw [addedOutbound_of hof]
  simp only [mapError_eq_ok_iff, buildVlessRealityOutbound_eq_ok_iff]
  have hpublicKey : outbound.settings.params.publicKeyB64 = linkTrimmed unicode link "pbk" :=
    hread.publicKey
  have hshortId : outbound.settings.params.shortIdHex = linkTrimmed unicode link "sid" :=
    hread.shortId
  rw [hpublicKey, hshortId]
  constructor
  · rintro ⟨_, -, publicKey, shortId, hkey, hsid, -⟩
    exact ⟨⟨publicKey, Base64.encode_of_decode hkey⟩,
      (Hex.decode_isSome_iff _).mp (Option.isSome_iff_exists.mpr ⟨shortId, hsid⟩)⟩
  · rintro ⟨⟨publicKey, hkey⟩, hsid⟩
    obtain ⟨shortId, hshortId⟩ := Option.isSome_iff_exists.mp ((Hex.decode_isSome_iff _).mpr hsid)
    exact ⟨_, valid_params hread.id hread.address hread.port, publicKey, shortId,
      Base64.decode_eq_some_iff.mpr hkey, hshortId, rfl⟩

end Accepted

/-- A link as it was formatted. -/
def Link.text (link : Link) : String := link.format link.fields

theorem parse_text (link : Link) :
    parseVlessLink asciiUnicode link.text "7f" "2026-01-01" =
      .ok (link.profile "7f" "2026-01-01") :=
  Link.parse_format asciiUnicode_lawful (List.Perm.refl _) "7f" "2026-01-01"

theorem sampleLink_usable_iff :
    (∃ outbound, addedOutbound wireCrates (sampleLink.profile "7f" "2026-01-01") = .ok outbound) ↔
      CanonicalKey (linkTrimmed asciiUnicode sampleLink.text "pbk") ∧
        HexPairs (linkTrimmed asciiUnicode sampleLink.text "sid") :=
  accepted_link_usable_iff wireCrates (parse_text sampleLink)

/-- A link with an odd number of digits in its short id. -/
def oddLink : Link :=
  { sampleLink with
    params := { sampleParams with sid := "abc" }
    validParams := { sampleParams_valid with sid := ⟨by decide, by decide⟩ } }

/-- The parser accepts a short id that the builder does not. -/
theorem oddLink_not_usable :
    parseVlessLink asciiUnicode oddLink.text "7f" "2026-01-01" =
        .ok (oddLink.profile "7f" "2026-01-01") ∧
      ∀ crates outbound,
        addedOutbound crates (oddLink.profile "7f" "2026-01-01") ≠ .ok outbound := by
  refine ⟨parse_text oddLink, fun crates outbound hadded => ?_⟩
  have hof : oddLink.outbound.settings.Of (oddLink.profile "7f" "2026-01-01") :=
    VlessOutbound.settings_of rfl oddLink.validPort
  rw [addedOutbound_of hof, mapError_eq_ok_iff, buildVlessRealityOutbound_eq_ok_iff] at hadded
  obtain ⟨-, -, shortId, -, hshortId, -⟩ := hadded
  have hnone : Hex.decode oddLink.outbound.settings.params.shortIdHex.toList = none := by decide
  rw [hnone] at hshortId
  cases hshortId

/-- The outbound of a link whose key and short id can be decoded. -/
theorem addedOutbound_link (crates : Crates) {link : Link} {publicKey shortId : Bytes}
    (hpublicKey : Base64.decode link.params.pbk.toList = some publicKey)
    (hshortId : Hex.decode link.params.sid.toList = some shortId) :
    addedOutbound crates (link.profile "7f" "2026-01-01") =
      .ok (outboundHandlerConfig crates link.outbound.settings.params publicKey shortId) := by
  have hof : link.outbound.settings.Of (link.profile "7f" "2026-01-01") :=
    VlessOutbound.settings_of rfl link.validPort
  have haddress : link.outbound.address ≠ "" := by
    intro hempty
    have hchars : link.host.bare.map Char.toLower = [] := by
      rw [← String.toList_ofList (l := link.host.bare.map Char.toLower)]
      exact congrArg String.toList hempty
    exact link.validHost.bare_ne (List.map_eq_nil_iff.mp hchars)
  rw [addedOutbound_of hof, mapError_eq_ok_iff, buildVlessRealityOutbound_eq_ok_iff]
  exact ⟨valid_params link.uuid.text_ne haddress link.validPort, publicKey, shortId, hpublicKey,
    hshortId, rfl⟩

/-! ## The parameters that reach the outbound -/

/-- The outbound has the encryption of the link, and for every parameter of the link's network that
is not empty a transport setting that carries it. Which parameters a network uses, and how a
setting carries one, is for the reader of the outbound to say. -/
def Honoured (unicode : Unicode) (link : String) (uses : String → TransportKey → Prop)
    (carries : TransportConfig → TransportKey → String → Prop) (view : OutboundView) : Prop :=
  view.encryption = linkOrDefault unicode link "encryption" defaultEncryption ∧
    ∀ key, uses (linkOrDefault unicode link "type" defaultNetwork) key →
      linkParameter unicode link key.name "" ≠ "" →
        ∃ config ∈ view.transportSettings,
          carries config key (linkParameter unicode link key.name "")

section Honoured

variable {crates : Crates} {unicode : Unicode} {link profileId addedAtIso : String}
  {profile : ServerProfile} {outbound : OutboundHandlerConfig}

/-- The outbound of an accepted link has no encryption and no transport settings. -/
theorem readOutbound_of_parse (hprost : crates.prost.Undoes)
    (hparse : parseVlessLink unicode link profileId addedAtIso = .ok profile)
    (hadded : addedOutbound crates profile = .ok outbound) :
    ∃ view, readOutbound crates.prost outbound = some view ∧ view.encryption = "none" ∧
      view.transportSettings = [] := by
  obtain ⟨settings, hconfig, hread⟩ := read_of_parse hparse
  obtain ⟨publicKey, shortId, -, -, hview⟩ :=
    readOutbound_addedOutbound hprost (VlessOutbound.settings_of hconfig hread.port) hadded
  exact ⟨_, hview, rfl, rfl⟩

/-- The outbound is for the configuration of the link exactly when the link asks for no encryption
and gives no parameter for its network. -/
theorem parameters_honoured_iff (hprost : crates.prost.Undoes)
    (hparse : parseVlessLink unicode link profileId addedAtIso = .ok profile)
    (hadded : addedOutbound crates profile = .ok outbound)
    (uses : String → TransportKey → Prop)
    (carries : TransportConfig → TransportKey → String → Prop) :
    (∃ view, readOutbound crates.prost outbound = some view ∧
        Honoured unicode link uses carries view) ↔
      linkOrDefault unicode link "encryption" defaultEncryption = "none" ∧
        ∀ key, uses (linkOrDefault unicode link "type" defaultNetwork) key →
          linkParameter unicode link key.name "" = "" := by
  obtain ⟨view, hview, hencryption, htransport⟩ := readOutbound_of_parse hprost hparse hadded
  constructor
  · rintro ⟨view', hview', hhonoured⟩
    rw [hview] at hview'
    cases hview'
    obtain ⟨hsame, hcarried⟩ := hhonoured
    refine ⟨by rw [← hsame, hencryption], fun key huses => ?_⟩
    by_contra hne
    obtain ⟨config, hmem, -⟩ := hcarried key huses hne
    rw [htransport] at hmem
    cases hmem
  · rintro ⟨hnone, hempty⟩
    refine ⟨view, hview, by rw [hencryption, hnone], fun key huses hne => ?_⟩
    exact absurd (hempty key huses) hne

end Honoured

theorem sampleLink_honoured_iff :
    (∃ view, readOutbound wireCrates.prost (outboundHandlerConfig wireCrates
        sampleLink.outbound.settings.params (List.replicate 32 0) [0xa1, 0xb2]) = some view ∧
        Honoured asciiUnicode sampleLink.text (fun _ _ => True) (fun _ _ _ => False) view) ↔
      linkOrDefault asciiUnicode sampleLink.text "encryption" defaultEncryption = "none" ∧
        ∀ key : TransportKey, True → linkParameter asciiUnicode sampleLink.text key.name "" = "" :=
  parameters_honoured_iff wire_undoes (parse_text sampleLink)
    (addedOutbound_link wireCrates (by decide) (by decide)) (fun _ _ => True) (fun _ _ _ => False)

/-- A link with encryption over a WebSocket. -/
def wsLink : Link :=
  { sampleLink with
    params := { sampleParams with
      encryption := "mlkem768x25519plus.native.0rtt", type := "ws", path := "/ray" }
    validParams := { sampleParams_valid with
      encryption := ⟨by decide, by decide⟩
      type := ⟨by decide, by decide⟩ } }

/-- Neither the encryption nor the path of the link is in the outbound that is built. -/
theorem wsLink_dropped :
    ∃ outbound view,
      parseVlessLink asciiUnicode wsLink.text "7f" "2026-01-01" =
        .ok (wsLink.profile "7f" "2026-01-01") ∧
      addedOutbound wireCrates (wsLink.profile "7f" "2026-01-01") = .ok outbound ∧
      readOutbound wireCrates.prost outbound = some view ∧
      linkOrDefault asciiUnicode wsLink.text "encryption" defaultEncryption ≠ view.encryption ∧
      linkParameter asciiUnicode wsLink.text "path" "" ≠ "" ∧ view.transportSettings = [] := by
  have hadded := @addedOutbound_link wireCrates wsLink (List.replicate 32 0) [0xa1, 0xb2]
    (by decide) (by decide)
  obtain ⟨view, hview, hencryption, htransport⟩ :=
    readOutbound_of_parse wire_undoes (parse_text wsLink) hadded
  have horder : List.Perm wsLink.fields wsLink.fields := List.Perm.refl _
  refine ⟨_, view, parse_text wsLink, hadded, hview, ?_, ?_, htransport⟩
  · rw [hencryption, linkOrDefault, Link.text, linkParameter_format asciiUnicode horder]
    decide
  · rw [Link.text, linkParameter_format asciiUnicode horder]
    decide

end Bimarz
