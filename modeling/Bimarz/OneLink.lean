import Bimarz.Android.Agreement
import Bimarz.Android.ProfileRepository
import Bimarz.Android.Service
import Bimarz.Commands.Book

/-!
# One link on the desktop and in the app

A link is read, stored, loaded again and sent to xray-core as the active outbound: on the desktop
by `parse_vless_link`, `ProfileStore` and `EngineService.add_outbound`, in the app by
`VlessLinkParser.parse`, `ProfileRepository` and `MobileEngineClient.add_vless_reality_outbound`.
Both ways end in the same builder. `one_link_one_outbound` says when they end in the same message.
-/

namespace Bimarz

open Effect
open Android (AndroidLink Matches UriParts VlessLinkParser.parse OrgJson toServerProfile)
open Engine (Crates OutboundHandlerConfig OutboundSettings VlessRealityParams addedOutbound
  buildVlessRealityOutbound)
open Commands (Rendering ofRecord toStore)
open Java (Platform)
open Url (Unicode)

/-! ## The two ways -/

section Ways

variable {φ ψ : Type}

/-- The outbound that the app sends for a profile, once it has been saved and loaded. -/
def appOutbound (json : OrgJson φ) (crates : Crates) (profile : Android.ServerProfile) :
    Option OutboundHandlerConfig := do
  let loaded ← (toServerProfile json profile.toJson).toOption
  (buildVlessRealityOutbound crates loaded.toUniffiProfile).toOption

/-- The outbound that the desktop sends for a profile, once it has been saved and loaded. -/
def desktopOutbound (rendering : Rendering ψ) (crates : Crates) (profile : ServerProfile) :
    Option OutboundHandlerConfig := do
  let loaded ← ofRecord rendering (toStore profile).record
  (addedOutbound crates loaded).toOption

end Ways

/-! ## One builder -/

namespace Engine

section Builder

variable {crates : Crates} {s s' : OutboundSettings}

theorem OutboundSettings.Same.params_eq (h : s.Same s') : { s.params with
    address := s'.address, shortIdHex := s'.shortId } = s'.params := by
  unfold OutboundSettings.params
  rw [h.id, h.flow, h.port, h.type, h.sni, h.fp, h.publicKey, h.spiderX]

theorem OutboundSettings.Same.addressVariant_eq (h : s.Same s') :
    addressVariant s.address = addressVariant s'.address := by
  rcases h.address with heq | ⟨octets, hocts, hocts'⟩
  · rw [heq]
  · rw [addressVariant_eq_ip_iff.mpr hocts, addressVariant_eq_ip_iff.mpr hocts']

/-- Values that are the same are built into the same message. -/
theorem OutboundSettings.Same.built (h : s.Same s') (haddress : s'.address ≠ "")
    {outbound : OutboundHandlerConfig}
    (hbuilt : buildVlessRealityOutbound crates s.params = .ok outbound) :
    buildVlessRealityOutbound crates s'.params = .ok outbound := by
  rw [buildVlessRealityOutbound_eq_ok_iff] at hbuilt ⊢
  obtain ⟨hvalid, publicKey, shortId, hpublicKey, hshortId, rfl⟩ := hbuilt
  rw [← h.params_eq]
  refine ⟨?_, publicKey, shortId, hpublicKey, ?_, ?_⟩
  · exact ⟨hvalid.tag, hvalid.uuid, haddress, hvalid.port_pos, hvalid.port_le⟩
  · rw [← hshortId]
    exact (Hex.decode_congr h.shortId).symm
  · unfold outboundHandlerConfig vlessOutboundConfig buildIpOrDomain
    rw [← h.addressVariant_eq]
    rfl

/-- What is built says the values it is built from. -/
theorem read_built (hprost : crates.prost.Undoes) {outbound : OutboundHandlerConfig}
    (h : buildVlessRealityOutbound crates s.params = .ok outbound) :
    s.params.Valid ∧ ∃ publicKey shortId, Base64.decode s.publicKey.toList = some publicKey ∧
      Hex.decode s.shortId.toList = some shortId ∧
      readOutbound crates.prost outbound = some (s.view publicKey shortId) := by
  obtain ⟨hvalid, publicKey, shortId, hpublicKey, hshortId, rfl⟩ :=
    buildVlessRealityOutbound_eq_ok_iff.mp h
  exact ⟨hvalid, publicKey, shortId, hpublicKey, hshortId,
    readOutbound_outboundHandlerConfig hprost publicKey shortId⟩

theorem port_le_of_valid (hport : s.port < 2 ^ 32) (hvalid : s.params.Valid) : s.port ≤ 65535 := by
  have hle := UInt32.le_iff_toNat_le.mp hvalid.port_le
  have hnat : s.params.port.toNat = s.port := UInt32.toNat_ofNat_of_lt' hport
  rw [hnat] at hle
  exact hle

/-- Two ways into the builder end in one message exactly if the values are the same and the builder
takes them. -/
theorem built_same_iff (hprost : crates.prost.Undoes) (haddress : s'.address ≠ "")
    (hport : s.port < 2 ^ 32) (hport' : s'.port ≤ 65535) :
    (∃ outbound, buildVlessRealityOutbound crates s.params = .ok outbound ∧
        buildVlessRealityOutbound crates s'.params = .ok outbound) ↔
      (∃ outbound, buildVlessRealityOutbound crates s.params = .ok outbound) ∧ s.Same s' := by
  constructor
  · rintro ⟨outbound, hbuilt, hbuilt'⟩
    refine ⟨⟨outbound, hbuilt⟩, ?_⟩
    obtain ⟨hvalid, publicKey, shortId, hpublicKey, hshortId, hview⟩ := read_built hprost hbuilt
    obtain ⟨-, publicKey', shortId', hpublicKey', hshortId', hview'⟩ := read_built hprost hbuilt'
    rw [hview] at hview'
    exact same_of_view (port_le_of_valid hport hvalid) hport' hpublicKey hpublicKey' hshortId
      hshortId' (Option.some.inj hview')
  · rintro ⟨⟨outbound, hbuilt⟩, h⟩
    exact ⟨outbound, hbuilt, h.built haddress hbuilt⟩

end Builder

end Engine

/-! ## The values of the two profiles -/

/-- The values that the builder gets from a profile of the app. -/
def Android.ServerProfile.settings (p : Android.ServerProfile) : OutboundSettings where
  id := p.uuid
  flow := p.flow
  address := p.address
  port := p.port.toUInt32.toNat
  type := p.network
  sni := p.sni
  fp := p.fingerprint
  publicKey := p.publicKeyB64
  shortId := p.shortIdHex
  spiderX := p.spiderX

/-- The values that the builder gets from a profile of the desktop. -/
def ServerProfile.settings (q : ServerProfile) : OutboundSettings where
  id := q.setting "id" ""
  flow := q.setting "flow" "xtls-rprx-vision"
  address := q.setting "address" ""
  port := (match outboundPort q with | .ok port => port | .error _ => 0).toNat
  type := q.setting "type" "tcp"
  sni := q.setting "sni" ""
  fp := q.setting "fp" "chrome"
  publicKey := q.setting "publicKey" ""
  shortId := q.setting "shortId" ""
  spiderX := q.setting "spiderX" ""

section Values

variable {φ ψ : Type} {json : OrgJson φ} {rendering : Rendering ψ} {crates : Crates}

theorem appOutbound_eq (hjson : json.Lawful) (p : Android.ServerProfile) :
    appOutbound json crates p =
      (buildVlessRealityOutbound crates p.settings.params).toOption := by
  have hparams : p.toUniffiProfile = p.settings.params := by
    have hport : UInt32.ofNat p.port.toUInt32.toNat = p.port.toUInt32 := UInt32.ofNat_toNat
    unfold Android.ServerProfile.settings OutboundSettings.params
    rw [hport]
    rfl
  unfold appOutbound
  rw [Android.toServerProfile_toJson hjson, ← hparams]
  rfl

theorem settings_eq_of {q : ServerProfile} {s : OutboundSettings} (h : s.Of q) : q.settings = s := by
  have hport : (match outboundPort q with | .ok port => port | .error _ => 0).toNat = s.port := by
    rw [Engine.outboundPort_of h]
    exact Int.toNat_natCast s.port
  unfold ServerProfile.settings
  rw [hport, Engine.setting_of_str h.id, Engine.setting_of_str h.flow,
    Engine.setting_of_str h.address, Engine.setting_of_str h.type, Engine.setting_of_str h.sni,
    Engine.setting_of_str h.fp, Engine.setting_of_str h.publicKey,
    Engine.setting_of_str h.shortId, Engine.setting_of_str h.spiderX]

theorem desktopOutbound_eq {unicode : Unicode} {rawLink profileId addedAtIso : String}
    {q : ServerProfile} (h : parseVlessLink unicode rawLink profileId addedAtIso = .ok q) :
    desktopOutbound rendering crates q =
        (buildVlessRealityOutbound crates q.settings.params).toOption ∧
      q.settings.address ≠ "" ∧ q.settings.port ≤ 65535 := by
  obtain ⟨outbound, hconfig, hread⟩ := read_of_parse h
  have hof := VlessOutbound.settings_of hconfig hread.port
  rw [settings_eq_of hof]
  refine ⟨?_, hread.address, hread.port.2⟩
  unfold desktopOutbound
  rw [Commands.ofRecord_toStore rendering (Commands.storable_of_parse h)]
  show (addedOutbound crates q).toOption = _
  rw [Engine.addedOutbound_of hof]
  cases buildVlessRealityOutbound crates outbound.settings.params <;> rfl

theorem toNat_toUInt32 {n : Int32} (h : 0 ≤ n.toInt) : (n.toUInt32.toNat : ℤ) = n.toInt := by
  have hnat : n.toUInt32.toNat = n.toBitVec.toNat := rfl
  have hint : n.toInt = n.toBitVec.toInt := rfl
  rw [hint] at h ⊢
  rw [hnat]
  have hcond := BitVec.toInt_eq_toNat_cond n.toBitVec
  split at hcond
  · exact hcond.symm
  · have hlt := n.toBitVec.isLt
    omega

/-- Profiles with the same fields have the same values. -/
theorem settings_eq_of_matches {unicode : Unicode} {rawLink profileId addedAtIso : String}
    {p : Android.ServerProfile} {q : ServerProfile}
    (h : parseVlessLink unicode rawLink profileId addedAtIso = .ok q) (hm : Matches p q) :
    q.settings = p.settings := by
  obtain ⟨outbound, hconfig, hread⟩ := read_of_parse h
  have hport : (outbound.port : ℤ) = p.port.toInt := ((Android.matches_iff hconfig).mp hm).port
  have hnat : (p.settings.port : ℤ) = p.port.toInt := toNat_toUInt32 (by omega)
  have hrange := hread.port
  refine settings_eq_of ⟨hm.uuid, hm.flow, hm.address, ?_, hm.network, hm.sni, hm.fingerprint,
    hm.publicKey, hm.shortId, hm.spiderX, by omega⟩
  rw [hnat]
  exact hm.port

end Values

/-! ## One message -/

section OneLink

variable {φ ψ : Type} {json : OrgJson φ} {crates : Crates} {platform : Platform}
  {unicode : Unicode} {rawLink profileId profileId' addedAtIso : String} {currentTimeMillis : ℕ}
  {p : Android.ServerProfile} {q : ServerProfile}

/-- **One link, one outbound.** A link that both sides take ends in the same message exactly if the
app can send it and both read the same values, up to the case of the short id and the spelling of an
IP address; and a link in its canonical form ends in the same message on both sides, or in none. -/
theorem one_link_one_outbound (hplatform : platform.Lawful) (hunicode : unicode.Lawful)
    (hjson : json.Lawful) (rendering : Rendering ψ) (hprost : crates.prost.Undoes)
    (hp : VlessLinkParser.parse platform rawLink profileId currentTimeMillis = .ok p)
    (hq : parseVlessLink unicode rawLink profileId' addedAtIso = .ok q) :
    ((∃ outbound, appOutbound json crates p = some outbound ∧
        desktopOutbound rendering crates q = some outbound) ↔
      (appOutbound json crates p).isSome ∧ p.settings.Same q.settings) ∧
    ∀ link, AndroidLink platform rawLink link → link.Canonical platform unicode →
      appOutbound json crates p = desktopOutbound rendering crates q := by
  have hsome {x : Except Engine.EngineError OutboundHandlerConfig} {outbound} :
      x.toOption = some outbound ↔ x = .ok outbound := by
    cases x with
    | error e => exact iff_of_false nofun nofun
    | ok outbound' => exact ⟨fun h => congrArg _ (Option.some.inj h), fun h => by rw [h]; rfl⟩
  obtain ⟨hdesktop, haddress, hport⟩ := desktopOutbound_eq hq
  rw [appOutbound_eq hjson, hdesktop]
  constructor
  · simp only [hsome, Option.isSome_iff_exists]
    exact Engine.built_same_iff hprost haddress p.port.toUInt32.toNat_lt hport
  · intro link hlink hcanonical
    have hparse : VlessLinkParser.parse platform rawLink profileId currentTimeMillis =
        .ok (link.profile platform profileId currentTimeMillis) :=
      Android.parse_eq_ok_iff.mpr ⟨link, hlink, rfl⟩
    obtain rfl := Except.ok.inj (hp.symm.trans hparse)
    have hmatches := (Android.matches_of_parsed_iff hplatform hunicode hlink profileId
      currentTimeMillis hq).mpr hcanonical
    rw [settings_eq_of_matches hq hmatches]

end OneLink

/-! ## A link -/

/-- A canonical link with a public key of three bytes. -/
def keyLink : String := Android.homeLink ++ "AAA"

def keyParts : UriParts :=
  { Android.homeParts with query := some "security=reality&flow=xtls-rprx-vision&pbk=AAAA".toList }

theorem keyLink_android : AndroidLink Java.examplePlatform keyLink keyParts where
  uri := by decide
  scheme := by decide
  port := by decide
  security := ⟨"reality", by decide, by decide⟩
  publicKey := by decide
  spiderX := by
    have hnone : keyParts.last Java.examplePlatform "spx" = none := by decide
    rw [hnone]
    nofun

theorem keyLink_canonical : keyParts.Canonical Java.examplePlatform asciiUnicode where
  uuid := ⟨⟨0x278487397e6241389fd3098a63964b6b, by decide⟩, by decide⟩
  host := ⟨by decide, (Url.map_toLower_eq_self_iff _).mp (by decide)⟩
  port := by decide
  security := by decide
  flow := by decide
  publicKey := by decide
  network := by decide
  sni := by decide
  fingerprint := by decide
  shortId := by decide
  spiderX := by decide

theorem keyLink_sent : ∃ outbound, appOutbound Android.orgJson Engine.wireCrates
    (keyParts.profile Java.examplePlatform "1" 0) = some outbound := by
  have hvalid : (keyParts.profile Java.examplePlatform "1" 0).settings.params.Valid := {
    tag := by decide
    uuid := by decide
    address := by decide
    port_pos := by decide
    port_le := by decide }
  have hbuilt : buildVlessRealityOutbound Engine.wireCrates _ = .ok _ :=
    Engine.buildVlessRealityOutbound_eq_ok_iff.mpr
      ⟨hvalid, [0, 0, 0], [], by decide, by decide, rfl⟩
  rw [appOutbound_eq Android.orgJson_lawful, hbuilt]
  exact ⟨_, rfl⟩

theorem one_link_one_outbound_key : ∃ p q outbound,
    VlessLinkParser.parse Java.examplePlatform keyLink "1" 0 = .ok p ∧
      parseVlessLink asciiUnicode keyLink "7f" "2026-01-01" = .ok q ∧
      appOutbound Android.orgJson Engine.wireCrates p = some outbound ∧
      desktopOutbound Commands.plainRendering Engine.wireCrates q = some outbound := by
  have hp : VlessLinkParser.parse Java.examplePlatform keyLink "1" 0 =
      .ok (keyParts.profile Java.examplePlatform "1" 0) :=
    Android.parse_eq_ok_iff.mpr ⟨keyParts, keyLink_android, rfl⟩
  obtain ⟨q, hq⟩ := (Android.exists_parseVlessLink_iff "7f" "2026-01-01").mpr
    (keyLink_canonical.desktopLink Java.examplePlatform_lawful asciiUnicode_lawful keyLink_android)
  obtain ⟨outbound, hsent⟩ := keyLink_sent
  have hprost : Engine.wireCrates.prost.Undoes := Engine.wire_undoes
  have hsame := (one_link_one_outbound Java.examplePlatform_lawful asciiUnicode_lawful
    Android.orgJson_lawful Commands.plainRendering hprost hp hq).2 keyParts
    keyLink_android keyLink_canonical
  exact ⟨_, q, outbound, hp, hq, hsent, hsame.symm.trans hsent⟩

end Bimarz
