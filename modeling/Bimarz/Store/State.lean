import Bimarz.Effect.Except
import Bimarz.Exceptions
import Bimarz.Json.Value
import Bimarz.Text.Base64

/-!
# The contents of the profile store (`profiles.py`)

A file of the store is a JSON object with a salt and a ciphertext, whose plaintext is the JSON of a
mapping from profile ids to profiles. `readState` and `payload` are the two halves of a store that
compute; key derivation, the cipher and the JSON library are a `Library`, with their documented
behaviour as its laws.
-/

namespace Bimarz.Store

open Effect

/-! ## The libraries -/

/-- What the store uses: JSON, `_derive_key`, and Fernet, whose `encrypt` draws a nonce and whose
`decrypt` raises `InvalidToken` where there is no plaintext. -/
structure Library (κ φ : Type) where
  json : Json.Codec φ
  deriveKey : String → Bytes → κ
  encrypt : κ → Bytes → Bytes → String
  decrypt : κ → String → Option Bytes

/-- The documented behaviour. -/
structure Library.Lawful {κ φ : Type} (lib : Library κ φ) : Prop where
  json : lib.json.Undoes
  /-- tokens are base64 -/
  ascii : ∀ key nonce plaintext, ∀ c ∈ (lib.encrypt key nonce plaintext).toList, c.toNat < 128
  decrypt_encrypt : ∀ key nonce plaintext,
    lib.decrypt key (lib.encrypt key nonce plaintext) = some plaintext
  decrypt_other : ∀ key key' nonce plaintext, key' ≠ key →
    lib.decrypt key' (lib.encrypt key nonce plaintext) = none
  deriveKey_injective : ∀ password password' salt,
    lib.deriveKey password salt = lib.deriveKey password' salt → password = password'

/-- The exceptions of the store, and those it lets through. -/
inductive StoreExc
  | storeError (message : String)
  | wrongPassword (message : String)
  | notFound (message : String)
  | raised (e : Exc)
  deriving DecidableEq

def StoreExc.isException : StoreExc → Bool
  | .raised e => e.isException
  | _ => true

def invalidData : StoreExc := .storeError "profile store contains invalid data"

def notDecrypted : StoreExc := .wrongPassword
  "could not decrypt the profile store: wrong password, or the file is corrupted"

def notMapping : StoreExc := .storeError "profile store payload must be a mapping"

def noProfile (profileId : String) : StoreExc := .notFound s!"no profile with id '{profileId}'"

/-! ## Profiles -/

section Data

variable {φ : Type}

/-- A profile with a JSON object as its `outbound_config`. -/
structure Profile (φ : Type) where
  profileId : String
  tag : String
  remark : String
  outboundConfig : Dict String (Json.Value φ)
  addedAtIso : String
  wellFormed : Json.WellFormedItems outboundConfig.items

/-- What `ServerProfile(**data)` builds of a stored profile: the class checks no types. -/
structure Record (φ : Type) where
  profileId : Json.Value φ
  tag : Json.Value φ
  remark : Json.Value φ
  outboundConfig : Json.Value φ
  addedAtIso : Json.Value φ

/-- `asdict(profile)`. -/
def Profile.asdict (profile : Profile φ) : Json.Value φ := .dict [
  ("profile_id", .str profile.profileId),
  ("tag", .str profile.tag),
  ("remark", .str profile.remark),
  ("outbound_config", .dict profile.outboundConfig.items),
  ("added_at_iso", .str profile.addedAtIso)]

/-- A profile as the store returns it. -/
def Profile.record (profile : Profile φ) : Record φ where
  profileId := .str profile.profileId
  tag := .str profile.tag
  remark := .str profile.remark
  outboundConfig := .dict profile.outboundConfig.items
  addedAtIso := .str profile.addedAtIso

/-- `ServerProfile(**data)`: exactly the five fields, each given once. -/
def serverProfile (data : Json.Value φ) : Except StoreExc (Record φ) :=
  match data with
  | .dict items =>
    let data := Dict.ofList items
    match data.get? "profile_id", data.get? "tag", data.get? "remark", data.get? "outbound_config",
      data.get? "added_at_iso" with
    | some profileId, some tag, some remark, some outboundConfig, some addedAtIso =>
      if data.items.length = 5 then .ok ⟨profileId, tag, remark, outboundConfig, addedAtIso⟩
      else .error (.raised (.error .typeError "unexpected keyword argument"))
    | _, _, _, _, _ => .error (.raised (.error .typeError "missing required argument"))
  | _ => .error (.raised (.error .typeError "argument after ** must be a mapping"))

theorem record_injective : Function.Injective (Profile.record (φ := φ)) := by
  rintro ⟨profileId, tag, remark, outboundConfig, addedAtIso, h⟩
    ⟨profileId', tag', remark', outboundConfig', addedAtIso', h'⟩ heq
  simp only [Profile.record, Record.mk.injEq, Json.Value.str.injEq, Json.Value.dict.injEq] at heq
  obtain ⟨rfl, rfl, rfl, hconfig, rfl⟩ := heq
  cases Dict.ext hconfig
  rfl

/-- A stored profile comes back. -/
theorem serverProfile_asdict (profile : Profile φ) :
    serverProfile profile.asdict = .ok profile.record := rfl

theorem asdict_wellFormed (profile : Profile φ) : profile.asdict.WellFormed := by
  have hkeys : ["profile_id", "tag", "remark", "outbound_config", "added_at_iso"].Nodup := by decide
  simp only [Profile.asdict, Json.Value.WellFormed, Json.WellFormedItems]
  exact ⟨hkeys, trivial, trivial, trivial, ⟨profile.outboundConfig.nodup, profile.wellFormed⟩,
    trivial, trivial⟩

/-- The mapping that is stored for a mapping of profiles. -/
def stored (profiles : Dict String (Profile φ)) : Dict String (Json.Value φ) :=
  profiles.map Profile.asdict

theorem stored_wellFormed (profiles : Dict String (Profile φ)) :
    (Json.Value.dict (stored profiles).items).WellFormed := by
  refine ⟨(stored profiles).nodup, (Json.wellFormedItems_iff _).mpr fun item hitem => ?_⟩
  obtain ⟨⟨k, profile⟩, -, rfl⟩ := List.mem_map.mp hitem
  exact asdict_wellFormed profile

end Data

/-! ## Reading and writing a file -/

section Files

variable {κ φ : Type} (lib : Library κ φ)

/-- `raw[key]`; every failure is of a class that the reader turns into `ProfileStoreError`. -/
def subscript (raw : Json.Value φ) (key : String) : Except StoreExc (Json.Value φ) :=
  match raw with
  | .dict items =>
    match (Dict.ofList items).get? key with
    | some v => .ok v
    | none => .error invalidData
  | _ => .error invalidData

/-- The class of a value, as an `AttributeError` names it. -/
def typeName : Json.Value φ → String
  | .null => "NoneType"
  | .bool _ => "bool"
  | .int _ => "int"
  | .float _ => "float"
  | .str _ => "str"
  | .list _ => "list"
  | .dict _ => "dict"

/-- `base64.urlsafe_b64decode(salt_b64)`, of a text. -/
def decodeSalt (saltB64 : Json.Value φ) : Except StoreExc (String × Bytes) :=
  match saltB64 with
  | .str saltB64 =>
    match Base64.urlsafeB64decode saltB64.toList with
    | some salt => .ok (saltB64, salt)
    | none => .error invalidData
  | _ => .error invalidData

/-- `ciphertext.encode("ascii")`: what is not a text has no such method. -/
def encodeAscii (ciphertext : Json.Value φ) : Except StoreExc String :=
  match ciphertext with
  | .str token => if token.toList.all fun c => c.toNat < 128 then .ok token else .error invalidData
  | v => .error (.raised (.error .other s!"'{typeName v}' object has no attribute 'encode'"))

def loads (text : String) : Except StoreExc (Json.Value φ) :=
  match lib.json.loads text with
  | some v => .ok v
  | none => .error invalidData

def decodeUtf8 (content : Bytes) : Except StoreExc String :=
  match Utf8.decode content with
  | some text => .ok text
  | none => .error invalidData

def decrypt (key : κ) (token : String) : Except StoreExc Bytes :=
  match lib.decrypt key token with
  | some plaintext => .ok plaintext
  | none => .error notDecrypted

/-- The salt and the mapping of an existing file: `_read_encrypted_state` without the lookup of the
file. -/
def readState (password : String) (content : Bytes) :
    Except StoreExc (String × Dict String (Json.Value φ)) := do
  let raw ← loads lib (← decodeUtf8 content)
  let saltB64 ← subscript raw "salt"
  let ciphertext ← subscript raw "ciphertext"
  let (saltB64, salt) ← decodeSalt saltB64
  let key := lib.deriveKey password salt
  let decrypted ← decrypt lib key (← encodeAscii ciphertext)
  let profiles ← loads lib (← decodeUtf8 decrypted)
  match profiles with
  | .dict items => return (saltB64, Dict.ofList items)
  | _ => .error notMapping

/-- The text of a file: the first statements of `_write_encrypted_state`. -/
def payload (password : String) (nonce : Bytes) (saltB64 : String)
    (profiles : Dict String (Json.Value φ)) : Except StoreExc Bytes :=
  match Base64.urlsafeB64decode saltB64.toList with
  | some salt =>
    let key := lib.deriveKey password salt
    let plaintext := Utf8.encode (lib.json.dumps (.dict profiles.items))
    let ciphertext := lib.encrypt key nonce plaintext
    .ok (Utf8.encode (lib.json.dumpsIndented
      (.dict [("salt", .str saltB64), ("ciphertext", .str ciphertext)])))
  | none => .error (.raised (.error .valueError "Incorrect padding"))

/-- `base64.urlsafe_b64encode(salt).decode("ascii")`. -/
def saltText (salt : Bytes) : String := String.ofList (Base64.urlsafeB64encode salt)

/-- The file of a mapping of profiles. -/
def fileOf (password : String) (salt nonce : Bytes) (profiles : Dict String (Profile φ)) : Bytes :=
  Utf8.encode (lib.json.dumpsIndented (.dict [
    ("salt", .str (saltText salt)),
    ("ciphertext", .str (lib.encrypt (lib.deriveKey password salt) nonce
      (Utf8.encode (lib.json.dumps (.dict (stored profiles).items)))))]))

theorem payload_stored (password : String) (salt nonce : Bytes)
    (profiles : Dict String (Profile φ)) :
    payload lib password nonce (saltText salt) (stored profiles) =
      .ok (fileOf lib password salt nonce profiles) := by
  unfold payload saltText
  rw [String.toList_ofList, Base64.urlsafeB64decode_encode]
  rfl

variable {lib}

/-- The object that a file consists of. -/
def envelope (saltB64 token : String) : Json.Value φ :=
  .dict [("salt", .str saltB64), ("ciphertext", .str token)]

theorem envelope_wellFormed (saltB64 token : String) :
    (envelope saltB64 token : Json.Value φ).WellFormed := by
  have hkeys : ["salt", "ciphertext"].Nodup := by decide
  simp only [envelope, Json.Value.WellFormed, Json.WellFormedItems]
  exact ⟨hkeys, trivial, trivial, trivial⟩

theorem decodeUtf8_encode (text : String) : decodeUtf8 (Utf8.encode text) = .ok text := by
  unfold decodeUtf8
  rw [Utf8.decode_encode]

theorem encodeAscii_token (h : lib.Lawful) (key : κ) (nonce plaintext : Bytes) :
    encodeAscii (.str (lib.encrypt key nonce plaintext) : Json.Value φ) =
      .ok (lib.encrypt key nonce plaintext) := by
  have hall : (lib.encrypt key nonce plaintext).toList.all (fun c => c.toNat < 128) = true :=
    List.all_eq_true.mpr fun c hc => decide_eq_true (h.ascii key nonce plaintext c hc)
  simp only [encodeAscii]
  rw [if_pos hall]

theorem decodeSalt_saltText (salt : Bytes) :
    decodeSalt (.str (saltText salt) : Json.Value φ) = .ok (saltText salt, salt) := by
  simp only [decodeSalt, saltText]
  rw [String.toList_ofList, Base64.urlsafeB64decode_encode]

theorem subscript_salt (saltB64 token : String) :
    subscript (envelope saltB64 token : Json.Value φ) "salt" = .ok (.str saltB64) := rfl

theorem subscript_ciphertext (saltB64 token : String) :
    subscript (envelope saltB64 token : Json.Value φ) "ciphertext" = .ok (.str token) := rfl

theorem loads_envelope (h : lib.Lawful) (saltB64 token : String) :
    loads lib (lib.json.dumpsIndented (envelope saltB64 token)) = .ok (envelope saltB64 token) := by
  unfold loads
  rw [h.json.dumpsIndented _ (envelope_wellFormed saltB64 token)]

theorem loads_stored (h : lib.Lawful) (profiles : Dict String (Profile φ)) :
    loads lib (lib.json.dumps (.dict (stored profiles).items)) =
      .ok (.dict (stored profiles).items) := by
  unfold loads
  rw [h.json.dumps _ (stored_wellFormed profiles)]

/-- Up to the decryption, which takes the key of the password that is given. -/
theorem readState_fileOf (h : lib.Lawful) (password password' : String) (salt nonce : Bytes)
    (profiles : Dict String (Profile φ)) :
    readState lib password' (fileOf lib password salt nonce profiles) =
      (do
        let decrypted ← decrypt lib (lib.deriveKey password' salt)
          (lib.encrypt (lib.deriveKey password salt) nonce
            (Utf8.encode (lib.json.dumps (.dict (stored profiles).items))))
        let profiles ← loads lib (← decodeUtf8 decrypted)
        match profiles with
        | .dict items => return (saltText salt, Dict.ofList items)
        | _ => .error notMapping) := by
  have hfile : fileOf lib password salt nonce profiles = Utf8.encode (lib.json.dumpsIndented
      (envelope (saltText salt) (lib.encrypt (lib.deriveKey password salt) nonce
        (Utf8.encode (lib.json.dumps (.dict (stored profiles).items)))))) := rfl
  unfold readState
  rw [hfile]
  simp only [decodeUtf8_encode, ok_bind, loads_envelope h, subscript_salt, subscript_ciphertext,
    decodeSalt_saltText, encodeAscii_token h]

/-- The password that wrote the file reads the mapping. -/
theorem readState_same (h : lib.Lawful) (password : String) (salt nonce : Bytes)
    (profiles : Dict String (Profile φ)) :
    readState lib password (fileOf lib password salt nonce profiles) =
      .ok (saltText salt, stored profiles) := by
  rw [readState_fileOf h]
  unfold decrypt
  rw [h.decrypt_encrypt]
  simp only [ok_bind, decodeUtf8_encode, loads_stored h]
  have hitems : Dict.ofList (stored profiles).items = stored profiles :=
    Dict.ext (Dict.ofList_items (stored profiles).nodup)
  rw [hitems]
  rfl

/-- Another password does not. -/
theorem readState_other (h : lib.Lawful) {password password' : String}
    (hne : password' ≠ password) (salt nonce : Bytes) (profiles : Dict String (Profile φ)) :
    readState lib password' (fileOf lib password salt nonce profiles) = .error notDecrypted := by
  have hkey : lib.deriveKey password' salt ≠ lib.deriveKey password salt :=
    fun heq => hne (h.deriveKey_injective _ _ _ heq)
  rw [readState_fileOf h]
  unfold decrypt
  rw [h.decrypt_other _ _ _ _ hkey]
  rfl

end Files

end Bimarz.Store
