import Bimarz.Models

/-!
# Helper functions (`helpers.py`)
-/

namespace Bimarz

/-- The arguments of `add_vless_reality_outbound`. -/
structure OutboundKwargs where
  tag : String
  uuid : String
  flow : String
  address : String
  port : ℤ
  network : String
  sni : String
  fingerprint : String
  publicKeyB64 : String
  shortIdHex : String
  spiderX : String
  deriving DecidableEq, Repr

/-- `str(outbound.get(key, default))`. -/
def ServerProfile.setting (profile : ServerProfile) (key default : String) : String :=
  ((profile.outboundConfig.get? key).getD (.str default)).toStr

/-- `int(raw_port)`, with the two classes of errors that become one. -/
def outboundPort (profile : ServerProfile) : Except Exc ℤ :=
  let rawPort := (profile.outboundConfig.get? "port").getD (.int 443)
  match rawPort.toInt with
  | .ok port =>
    if 1 ≤ port ∧ port ≤ 65535 then .ok port
    else .error (.error .valueError s!"Outbound port out of range: {port}")
  | .error e =>
    match e with
    | .error .typeError _ => .error (.error .valueError s!"Invalid outbound port: {rawPort.repr}")
    | .error .valueError _ => .error (.error .valueError s!"Invalid outbound port: {rawPort.repr}")
    | e => .error e

def outboundKwargs (profile : ServerProfile) : Except Exc OutboundKwargs := do
  let port ← outboundPort profile
  return {
    tag := activeOutboundTag
    uuid := profile.setting "id" ""
    flow := profile.setting "flow" "xtls-rprx-vision"
    address := profile.setting "address" ""
    port
    network := profile.setting "type" "tcp"
    sni := profile.setting "sni" ""
    fingerprint := profile.setting "fp" "chrome"
    publicKeyB64 := profile.setting "publicKey" ""
    shortIdHex := profile.setting "shortId" ""
    spiderX := profile.setting "spiderX" "" }

/-- The arguments with which a profile becomes the active outbound. -/
def activeOutbound (profile : ServerProfile) : Except Exc OutboundKwargs := do
  let kwargs ← outboundKwargs profile
  return { kwargs with tag := activeOutboundTag }

/-- `{profile.profile_id: profile for profile in profiles}`. -/
def profilesById (profiles : List ServerProfile) : Dict String ServerProfile :=
  .ofList (profiles.map fun profile => (profile.profileId, profile))

/-- A table of profiles in which every profile stands under its own id. -/
def Keyed (profiles : Dict String ServerProfile) : Prop :=
  ∀ id profile, profiles.get? id = some profile → profile.profileId = id

theorem keyed_profilesById (profiles : List ServerProfile) : Keyed (profilesById profiles) := by
  refine Dict.get?_ofList_induction (P := fun id (profile : ServerProfile) => profile.profileId = id)
    fun item hitem => ?_
  obtain ⟨profile, -, rfl⟩ := List.mem_map.mp hitem
  rfl

theorem Keyed.set {profiles : Dict String ServerProfile} (h : Keyed profiles)
    (profile : ServerProfile) : Keyed (profiles.set profile.profileId profile) :=
  Dict.get?_set_induction h rfl

/-- An entry found under an id of `profilesById` is one of the profiles. -/
theorem mem_of_get?_profilesById {profiles : List ServerProfile} {id : String}
    {profile : ServerProfile} (h : (profilesById profiles).get? id = some profile) :
    profile ∈ profiles := by
  refine Dict.get?_ofList_induction (P := fun _ profile => profile ∈ profiles) (fun item hitem => ?_)
    id profile h
  obtain ⟨p, hp, rfl⟩ := List.mem_map.mp hitem
  exact hp

end Bimarz
