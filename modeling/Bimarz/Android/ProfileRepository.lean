import Bimarz.Android.VlessLinkParser
import Bimarz.Json.Text

/-!
# The profiles of the Android app (`data/ProfileRepository.kt`)

The list of profiles as a JSON text under one key of the preferences. `org.json` is a parameter:
what the library reads where it wrote is what it wrote, and `getInt` of an `int` is the number.
-/

namespace Bimarz.Android

open Effect
open Json (Value)

/-- `org.json`. -/
structure OrgJson (φ : Type) where
  codec : Json.Codec φ
  toInteger : Value φ → Option Int32

/-- The documented behaviour. -/
structure OrgJson.Lawful {φ : Type} (json : OrgJson φ) : Prop where
  undoes : json.codec.Undoes
  toInteger : ∀ n : Int32, json.toInteger (.int n.toInt) = some n

/-- A `JSONException`. -/
inductive JsonExc
  | notAnArray
  | notAnObject
  | noValue (name : String)
  | typeMismatch (name : String)
  deriving DecidableEq

variable {φ : Type}

/-! ## One profile -/

namespace ServerProfile

def items (profile : ServerProfile) : List (String × Value φ) := [
  ("profileId", .str profile.profileId), ("label", .str profile.label), ("tag", .str profile.tag),
  ("uuid", .str profile.uuid), ("flow", .str profile.flow), ("address", .str profile.address),
  ("port", .int profile.port.toInt), ("network", .str profile.network), ("sni", .str profile.sni),
  ("fingerprint", .str profile.fingerprint), ("publicKeyB64", .str profile.publicKeyB64),
  ("shortIdHex", .str profile.shortIdHex), ("spiderX", .str profile.spiderX)]

def toJson (profile : ServerProfile) : Value φ := .dict profile.items

end ServerProfile

section Read

variable (json : OrgJson φ)

def get (items : List (String × Value φ)) (name : String) : Except JsonExc (Value φ) :=
  match Dict.find name items with
  | some v => .ok v
  | none => .error (.noValue name)

/-- `getString`: a value that is not a string becomes its text. -/
def getString (items : List (String × Value φ)) (name : String) : Except JsonExc String := do
  match ← get items name with
  | .str s => return s
  | v => return json.codec.dumps v

def getInt (items : List (String × Value φ)) (name : String) : Except JsonExc Int32 := do
  match json.toInteger (← get items name) with
  | some n => return n
  | none => throw (.typeMismatch name)

def toServerProfile (v : Value φ) : Except JsonExc ServerProfile :=
  match v with
  | .dict items => do
    let profileId ← getString json items "profileId"
    let label ← getString json items "label"
    let tag ← getString json items "tag"
    let uuid ← getString json items "uuid"
    let flow ← getString json items "flow"
    let address ← getString json items "address"
    let port ← getInt json items "port"
    let network ← getString json items "network"
    let sni ← getString json items "sni"
    let fingerprint ← getString json items "fingerprint"
    let publicKeyB64 ← getString json items "publicKeyB64"
    let shortIdHex ← getString json items "shortIdHex"
    let spiderX ← getString json items "spiderX"
    return {
      profileId, label, tag, uuid, flow, address, port, network, sni, fingerprint, publicKeyB64,
      shortIdHex, spiderX }
  | _ => .error .notAnObject

/-! ## All profiles -/

/-- What the preferences hold under `profiles_json`. -/
abbrev Prefs := Option String

def loadAll (prefs : Prefs) : Except JsonExc (List ServerProfile) :=
  match prefs with
  | none => .ok []
  | some raw =>
    match json.codec.loads raw with
    | some (.list elems) => elems.mapM (toServerProfile json)
    | _ => .error .notAnArray

def save (profiles : List ServerProfile) : Prefs :=
  some (json.codec.dumps (.list (profiles.map ServerProfile.toJson)))

end Read

/-! ## The round trip -/

theorem wellFormed_toJson (profile : ServerProfile) :
    (profile.toJson : Value φ).WellFormed := by
  refine ⟨by simp [ServerProfile.items], ?_⟩
  rw [Json.wellFormedItems_iff]
  simp [ServerProfile.items, Value.WellFormed]

theorem wellFormed_profiles (profiles : List ServerProfile) :
    (Value.list (profiles.map ServerProfile.toJson) : Value φ).WellFormed := by
  show Json.WellFormedElems _
  induction profiles with
  | nil => trivial
  | cons profile profiles ih => exact ⟨wellFormed_toJson profile, ih⟩

theorem toServerProfile_toJson {json : OrgJson φ} (h : json.Lawful) (profile : ServerProfile) :
    toServerProfile json profile.toJson = .ok profile := by
  have hport : getInt json profile.items "port" = .ok profile.port := by
    unfold getInt
    rw [show get (profile.items : List (String × Value φ)) "port" = .ok (.int profile.port.toInt)
      from rfl, ok_bind, h.toInteger]
    rfl
  unfold toServerProfile ServerProfile.toJson
  simp only [hport]
  rfl

/-- Reading undoes writing. -/
@[simp] theorem loadAll_save {json : OrgJson φ} (h : json.Lawful) (profiles : List ServerProfile) :
    loadAll json (save json profiles) = .ok profiles := by
  unfold loadAll save
  simp only [h.undoes.dumps _ (wellFormed_profiles profiles)]
  rw [mapM_eq_ok_iff, List.forall₂_map_left_iff]
  exact List.forall₂_same.mpr fun profile _ => toServerProfile_toJson h profile

/-- The library of the examples. -/
def orgJson : OrgJson Empty where
  codec := Json.text
  toInteger
    | .int n => some (.ofInt n)
    | _ => none

theorem orgJson_lawful : orgJson.Lawful where
  undoes := Json.text_undoes
  toInteger n := congrArg some (Int32.ofInt_toInt n)

end Bimarz.Android
