import Bimarz.Effect.Except
import Bimarz.Store.Failures
import Bimarz.Store.Profiles
import Mathlib.Data.List.Perm.Subperm

/-!
# What a corrupted store raises

The contents of a file that exists and can be read may be anything. `listProfiles_reports_iff` and
`getProfile_reports_iff` say for which of them the two readers raise nothing but the errors of the
store: a ciphertext that is not a text, and an entry that is not a profile, fail in a call whose
exception no clause translates.
-/

namespace Bimarz.Store

open Effect Effect.Act

variable {κ φ : Type}

/-- `ProfileStoreError` or one of its subclasses. -/
def StoreExc.IsStoreError : StoreExc → Prop
  | .raised _ => False
  | _ => True

/-! ## Entries -/

/-- The names of the fields of `ServerProfile`. -/
def fieldNames : List String := ["profile_id", "tag", "remark", "outbound_config", "added_at_iso"]

/-- An object with exactly the fields of a profile. -/
def IsProfile (data : Json.Value φ) : Prop :=
  ∃ items, data = .dict items ∧ ∀ name, (Dict.ofList items).get? name ≠ none ↔ name ∈ fieldNames

theorem mem_keys_iff (d : Dict String (Json.Value φ)) (name : String) :
    name ∈ d.items.map Prod.fst ↔ d.get? name ≠ none := by
  rw [Option.ne_none_iff_exists']
  constructor
  · intro h
    obtain ⟨⟨name, v⟩, hmem, rfl⟩ := List.mem_map.mp h
    exact ⟨v, Dict.get?_eq_some_iff.mpr hmem⟩
  · rintro ⟨v, hv⟩
    exact List.mem_map.mpr ⟨(name, v), Dict.get?_eq_some_iff.mp hv, rfl⟩

theorem fieldNames_nodup : fieldNames.Nodup := by decide

/-- Five keys, all of them fields, are the fields. -/
theorem keys_eq_iff {d : Dict String (Json.Value φ)}
    (h : ∀ name ∈ fieldNames, d.get? name ≠ none) :
    d.items.length = 5 ↔ ∀ name, d.get? name ≠ none ↔ name ∈ fieldNames := by
  have hsubset : fieldNames ⊆ d.items.map Prod.fst := fun name hname =>
    (mem_keys_iff d name).mpr (h name hname)
  have hsubperm : List.Subperm fieldNames (d.items.map Prod.fst) :=
    List.subperm_of_subset fieldNames_nodup hsubset
  constructor
  · intro hlength name
    have hperm : fieldNames.Perm (d.items.map Prod.fst) :=
      hsubperm.perm_of_length_le (by rw [List.length_map, hlength]; rfl)
    rw [← mem_keys_iff]
    exact hperm.mem_iff.symm
  · intro hkeys
    have hperm : fieldNames.Perm (d.items.map Prod.fst) := by
      rw [List.perm_ext_iff_of_nodup fieldNames_nodup d.nodup]
      intro name
      rw [mem_keys_iff]
      exact (hkeys name).symm
    have hlength := hperm.length_eq
    rw [List.length_map] at hlength
    exact hlength.symm

theorem isProfile_dict_iff (items : List (String × Json.Value φ)) :
    IsProfile (.dict items) ↔
      ∀ name, (Dict.ofList items).get? name ≠ none ↔ name ∈ fieldNames := by
  constructor
  · rintro ⟨items', heq, h⟩
    cases heq
    exact h
  · exact fun h => ⟨items, rfl, h⟩

/-- `ServerProfile(**data)` goes through exactly for profiles. -/
theorem exists_serverProfile_iff (data : Json.Value φ) :
    (∃ record, serverProfile data = .ok record) ↔ IsProfile data := by
  cases data with
  | dict items =>
    simp only [serverProfile, isProfile_dict_iff]
    split
    next profileId tag remark outboundConfig addedAtIso hid htag hremark hconfig hadded =>
      have hfields : ∀ name ∈ fieldNames, (Dict.ofList items).get? name ≠ none := by
        simp [fieldNames, hid, htag, hremark, hconfig, hadded]
      rw [← keys_eq_iff hfields]
      by_cases hlength : (Dict.ofList items).items.length = 5
      · rw [if_pos hlength]
        exact iff_of_true ⟨_, rfl⟩ hlength
      · rw [if_neg hlength]
        exact iff_of_false not_exists_ok hlength
    next hmissing =>
      refine iff_of_false not_exists_ok fun hkeys => ?_
      have hfields : ∀ name ∈ fieldNames, ∃ v, (Dict.ofList items).get? name = some v :=
        fun name hname => Option.ne_none_iff_exists'.mp ((hkeys name).mpr hname)
      simp only [fieldNames, List.forall_mem_cons] at hfields
      obtain ⟨⟨profileId, hid⟩, ⟨tag, htag⟩, ⟨remark, hremark⟩, ⟨config, hconfig⟩,
        ⟨addedAtIso, hadded⟩, -⟩ := hfields
      exact hmissing profileId tag remark config addedAtIso hid htag hremark hconfig hadded
  | null | bool _ | int _ | float _ | str _ | list _ =>
    refine iff_of_false not_exists_ok ?_
    rintro ⟨items, heq, -⟩
    cases heq

/-- Where it does not go through it raises a `TypeError`. -/
theorem serverProfile_error {data : Json.Value φ} {e : StoreExc}
    (h : serverProfile data = .error e) : ∃ message, e = .raised (.error .typeError message) := by
  unfold serverProfile at h
  split at h
  · simp only at h
    split at h
    · split at h
      · cases h
      · cases h
        exact ⟨_, rfl⟩
    · cases h
      exact ⟨_, rfl⟩
  · cases h
    exact ⟨_, rfl⟩

theorem serverProfile_ok_of_reports (data : Json.Value φ)
    (h : RaisesOnly StoreExc.IsStoreError (serverProfile data)) :
    ∃ record, serverProfile data = .ok record := by
  cases hdata : serverProfile data with
  | ok record => exact ⟨record, rfl⟩
  | error e =>
    obtain ⟨message, rfl⟩ := serverProfile_error hdata
    exact (h _ hdata).elim

theorem serverProfile_reports_iff (data : Json.Value φ) :
    RaisesOnly StoreExc.IsStoreError (serverProfile data) ↔ IsProfile data := by
  rw [← exists_serverProfile_iff]
  constructor
  · exact serverProfile_ok_of_reports data
  · rintro ⟨record, hrecord⟩
    rw [hrecord]
    exact raisesOnly_ok record

/-! ## Files -/

section Files

variable (lib : Library κ φ)

/-- The file is an object with a salt, of which these are the bytes, and with this ciphertext. -/
def Envelope (content salt : Bytes) (ciphertext : Json.Value φ) : Prop :=
  ∃ text items saltB64, Utf8.decode content = some text ∧
    lib.json.loads text = some (.dict items) ∧
    (Dict.ofList items).get? "salt" = some (.str saltB64) ∧
    Base64.urlsafeB64decode saltB64.toList = some salt ∧
    (Dict.ofList items).get? "ciphertext" = some ciphertext

/-- The ciphertext of the file is a token that the password decrypts to this mapping. -/
def Payload (password : String) (content : Bytes) (entries : Dict String (Json.Value φ)) : Prop :=
  ∃ salt token plaintext text items, Envelope lib content salt (.str token) ∧
    (∀ c ∈ token.toList, c.toNat < 128) ∧
    lib.decrypt (lib.deriveKey password salt) token = some plaintext ∧
    Utf8.decode plaintext = some text ∧ lib.json.loads text = some (.dict items) ∧
    entries = Dict.ofList items

end Files

/-! ## The steps of a reading -/

section Steps

variable {lib : Library κ φ}

theorem decodeUtf8_eq_ok_iff {content : Bytes} {text : String} :
    decodeUtf8 content = .ok text ↔ Utf8.decode content = some text := by
  unfold decodeUtf8
  cases Utf8.decode content with
  | none => simp
  | some text' => simp

theorem loads_eq_ok_iff {text : String} {v : Json.Value φ} :
    loads lib text = .ok v ↔ lib.json.loads text = some v := by
  unfold loads
  cases lib.json.loads text with
  | none => simp
  | some v' => simp

theorem decrypt_eq_ok_iff {key : κ} {token : String} {plaintext : Bytes} :
    decrypt lib key token = .ok plaintext ↔ lib.decrypt key token = some plaintext := by
  unfold decrypt
  cases lib.decrypt key token with
  | none => simp
  | some plaintext' => simp

theorem subscript_eq_ok_iff {raw v : Json.Value φ} {key : String} :
    subscript raw key = .ok v ↔
      ∃ items, raw = .dict items ∧ (Dict.ofList items).get? key = some v := by
  cases raw with
  | dict items =>
    simp only [subscript, Json.Value.dict.injEq, exists_eq_left']
    cases (Dict.ofList items).get? key with
    | none => simp
    | some v' => simp
  | null | bool _ | int _ | float _ | str _ | list _ => simp [subscript]

theorem decodeSalt_eq_ok_iff {v : Json.Value φ} {saltB64 : String} {salt : Bytes} :
    decodeSalt v = .ok (saltB64, salt) ↔
      v = .str saltB64 ∧ Base64.urlsafeB64decode saltB64.toList = some salt := by
  cases v with
  | str text =>
    simp only [decodeSalt, Json.Value.str.injEq]
    cases hsalt : Base64.urlsafeB64decode text.toList with
    | none =>
      refine iff_of_false error_ne_ok ?_
      rintro ⟨rfl, h⟩
      rw [hsalt] at h
      cases h
    | some bytes =>
      constructor
      · intro h
        cases h
        exact ⟨rfl, hsalt⟩
      · rintro ⟨rfl, h⟩
        rw [hsalt] at h
        cases h
        rfl
  | null | bool _ | int _ | float _ | list _ | dict _ => simp [decodeSalt]

theorem encodeAscii_eq_ok_iff {v : Json.Value φ} {token : String} :
    encodeAscii v = .ok token ↔ v = .str token ∧ ∀ c ∈ token.toList, c.toNat < 128 := by
  cases v with
  | str text =>
    simp only [encodeAscii, Json.Value.str.injEq]
    by_cases hascii : text.toList.all (fun c => c.toNat < 128) = true
    · rw [if_pos hascii]
      constructor
      · intro h
        cases h
        exact ⟨rfl, fun c hc => of_decide_eq_true (List.all_eq_true.mp hascii c hc)⟩
      · rintro ⟨rfl, -⟩
        rfl
    · rw [if_neg hascii]
      refine iff_of_false error_ne_ok ?_
      rintro ⟨rfl, h⟩
      exact hascii (List.all_eq_true.mpr fun c hc => decide_eq_true (h c hc))
  | null | bool _ | int _ | float _ | list _ | dict _ => simp [encodeAscii]

/-- A ciphertext that is not a text has no method `encode`. -/
theorem encodeAscii_reports_iff {v : Json.Value φ} :
    RaisesOnly StoreExc.IsStoreError (encodeAscii v) ↔ ∃ token, v = .str token := by
  cases v with
  | str token =>
    refine iff_of_true ?_ ⟨token, rfl⟩
    simp only [encodeAscii]
    split
    · exact raisesOnly_ok _
    · exact raisesOnly_error_iff.mpr trivial
  | null | bool _ | int _ | float _ | list _ | dict _ =>
    exact iff_of_false (fun h => h _ rfl) (by simp)

theorem decodeUtf8_reports (content : Bytes) :
    RaisesOnly StoreExc.IsStoreError (decodeUtf8 content) := by
  unfold decodeUtf8
  split
  · exact raisesOnly_ok _
  · exact raisesOnly_error_iff.mpr trivial

theorem loads_reports (text : String) : RaisesOnly StoreExc.IsStoreError (loads lib text) := by
  unfold loads
  split
  · exact raisesOnly_ok _
  · exact raisesOnly_error_iff.mpr trivial

theorem decrypt_reports (key : κ) (token : String) :
    RaisesOnly StoreExc.IsStoreError (decrypt lib key token) := by
  unfold decrypt
  split
  · exact raisesOnly_ok _
  · exact raisesOnly_error_iff.mpr trivial

theorem subscript_reports (raw : Json.Value φ) (key : String) :
    RaisesOnly StoreExc.IsStoreError (subscript raw key) := by
  unfold subscript
  split
  · split
    · exact raisesOnly_ok _
    · exact raisesOnly_error_iff.mpr trivial
  · exact raisesOnly_error_iff.mpr trivial

theorem decodeSalt_reports (v : Json.Value φ) :
    RaisesOnly StoreExc.IsStoreError (decodeSalt v) := by
  unfold decodeSalt
  split
  · split
    · exact raisesOnly_ok _
    · exact raisesOnly_error_iff.mpr trivial
  · exact raisesOnly_error_iff.mpr trivial

end Steps

/-! ## The state of a file -/

section State

variable {lib : Library κ φ} {password : String} {content : Bytes}

variable (password) in
/-- The reading of an object with a salt, from its ciphertext on. -/
theorem readState_of_envelope {salt : Bytes} {ciphertext : Json.Value φ}
    (h : Envelope lib content salt ciphertext) :
    ∃ saltB64, readState lib password content = (do
      let decrypted ← decrypt lib (lib.deriveKey password salt) (← encodeAscii ciphertext)
      let profiles ← loads lib (← decodeUtf8 decrypted)
      match profiles with
      | .dict items => return (saltB64, Dict.ofList items)
      | _ => .error notMapping) := by
  obtain ⟨text, items, saltB64, htext, hitems, hsalt, hbytes, hciphertext⟩ := h
  refine ⟨saltB64, ?_⟩
  unfold readState
  rw [decodeUtf8_eq_ok_iff.mpr htext, ok_bind, loads_eq_ok_iff.mpr hitems, ok_bind,
    subscript_eq_ok_iff.mpr ⟨items, rfl, hsalt⟩, ok_bind,
    subscript_eq_ok_iff.mpr ⟨items, rfl, hciphertext⟩, ok_bind,
    decodeSalt_eq_ok_iff.mpr ⟨rfl, hbytes⟩]
  rfl

/-- An object whose salt and ciphertext were read. -/
theorem envelope_of_steps {text saltB64 : String} {salt : Bytes} {raw v ciphertext : Json.Value φ}
    (htext : decodeUtf8 content = .ok text) (hraw : loads lib text = .ok raw)
    (hv : subscript raw "salt" = .ok v) (hciphertext : subscript raw "ciphertext" = .ok ciphertext)
    (hsalt : decodeSalt v = .ok (saltB64, salt)) : Envelope lib content salt ciphertext := by
  obtain ⟨items, rfl, hfound⟩ := subscript_eq_ok_iff.mp hv
  obtain ⟨items', hitems, hfound'⟩ := subscript_eq_ok_iff.mp hciphertext
  cases hitems
  obtain ⟨rfl, hbytes⟩ := decodeSalt_eq_ok_iff.mp hsalt
  exact ⟨text, items, saltB64, decodeUtf8_eq_ok_iff.mp htext, loads_eq_ok_iff.mp hraw, hfound,
    hbytes, hfound'⟩

variable (password) in
/-- Only a ciphertext that is not a text gives another exception. -/
theorem readState_reports_iff :
    RaisesOnly StoreExc.IsStoreError (readState lib password content) ↔
      ∀ salt ciphertext, Envelope lib content salt ciphertext → ∃ token, ciphertext = .str token := by
  constructor
  · intro h salt ciphertext henvelope
    rw [← encodeAscii_reports_iff]
    obtain ⟨saltB64, hread⟩ := readState_of_envelope password henvelope
    rw [hread] at h
    intro e he
    rw [he] at h
    exact h e rfl
  · intro h
    refine raisesOnly_bind (decodeUtf8_reports _) fun text htext => ?_
    refine raisesOnly_bind (loads_reports _) fun raw hraw => ?_
    refine raisesOnly_bind (subscript_reports _ _) fun v hv => ?_
    refine raisesOnly_bind (subscript_reports _ _) fun ciphertext hciphertext => ?_
    refine raisesOnly_bind (decodeSalt_reports _) fun decoded hsalt => ?_
    have henvelope := envelope_of_steps htext hraw hv hciphertext hsalt
    refine raisesOnly_bind (encodeAscii_reports_iff.mpr (h _ _ henvelope)) fun token _ => ?_
    refine raisesOnly_bind (decrypt_reports _ _) fun plaintext _ => ?_
    refine raisesOnly_bind (decodeUtf8_reports _) fun text' _ => ?_
    refine raisesOnly_bind (loads_reports _) fun profiles _ => ?_
    split
    · exact raisesOnly_ok _
    · exact raisesOnly_error_iff.mpr trivial

theorem exists_readState_iff {entries : Dict String (Json.Value φ)} :
    (∃ saltB64, readState lib password content = .ok (saltB64, entries)) ↔
      Payload lib password content entries := by
  constructor
  · rintro ⟨saltB64, h⟩
    unfold readState at h
    obtain ⟨text, htext, h⟩ := bind_eq_ok_iff.mp h
    obtain ⟨raw, hraw, h⟩ := bind_eq_ok_iff.mp h
    obtain ⟨v, hv, h⟩ := bind_eq_ok_iff.mp h
    obtain ⟨ciphertext, hciphertext, h⟩ := bind_eq_ok_iff.mp h
    obtain ⟨⟨saltB64', salt⟩, hsalt, h⟩ := bind_eq_ok_iff.mp h
    obtain ⟨token, htoken, h⟩ := bind_eq_ok_iff.mp h
    obtain ⟨plaintext, hplaintext, h⟩ := bind_eq_ok_iff.mp h
    obtain ⟨text', htext', h⟩ := bind_eq_ok_iff.mp h
    obtain ⟨profiles, hprofiles, h⟩ := bind_eq_ok_iff.mp h
    have henvelope := envelope_of_steps htext hraw hv hciphertext hsalt
    obtain ⟨rfl, hascii⟩ := encodeAscii_eq_ok_iff.mp htoken
    cases profiles with
    | dict items =>
      cases h
      exact ⟨salt, token, plaintext, text', items, henvelope, hascii,
        decrypt_eq_ok_iff.mp hplaintext, decodeUtf8_eq_ok_iff.mp htext',
        loads_eq_ok_iff.mp hprofiles, rfl⟩
    | null | bool _ | int _ | float _ | str _ | list _ => cases h
  · rintro ⟨salt, token, plaintext, text, items, henvelope, hascii, hplaintext, htext, hitems, rfl⟩
    obtain ⟨saltB64, hread⟩ := readState_of_envelope password henvelope
    refine ⟨saltB64, ?_⟩
    rw [hread, encodeAscii_eq_ok_iff.mpr ⟨rfl, hascii⟩, ok_bind, decrypt_eq_ok_iff.mpr hplaintext,
      ok_bind, decodeUtf8_eq_ok_iff.mpr htext, ok_bind, loads_eq_ok_iff.mpr hitems]
    rfl

end State

/-! ## The readers -/

section Readers

variable {lib : Library κ φ} {store : ProfileStore} {env : Env} {d : Disk} {content : Bytes}

/-- The outcome of a call is the profiles that it returns or an error of the store. -/
def Reports {α : Type} (m : Act StoreExc Disk α) (d : Disk) : Prop :=
  RaisesOnly StoreExc.IsStoreError (m d).1

/-- The file has no ciphertext other than a text. -/
def CiphertextIsText (lib : Library κ φ) (content : Bytes) : Prop :=
  ∀ salt ciphertext, Envelope lib content salt ciphertext → ∃ token, ciphertext = .str token

/-- The reader goes on with the mapping of the file, if it has one. -/
theorem reports_read_iff {α : Type} (hread : env.fault .read = none)
    (hfile : d.files store.name = some content) (f : Dict String (Json.Value φ) → Except StoreExc α) :
    Reports (readEncryptedState lib store env >>= fun state => ofExcept (f state.2)) d ↔
      CiphertextIsText lib content ∧ ∀ entries, Payload lib store.password content entries →
        RaisesOnly StoreExc.IsStoreError (f entries) := by
  have hstate : readEncryptedState lib store env d = (readState lib store.password content, d) :=
    readEncryptedState_present hread hfile
  simp only [← exists_readState_iff]
  unfold Reports CiphertextIsText
  rw [← readState_reports_iff store.password, bind_apply, hstate]
  cases readState lib store.password content with
  | error e => simp [raisesOnly_error_iff]
  | ok state =>
    obtain ⟨saltB64, entries⟩ := state
    simp [raisesOnly_ok]

/-- `list_profiles` fails on any entry that is not a profile. -/
theorem listProfiles_reports_iff (hread : env.fault .read = none)
    (hfile : d.files store.name = some content) :
    Reports (listProfiles lib store env) d ↔
      CiphertextIsText lib content ∧
        ∀ entries, Payload lib store.password content entries → ∀ data ∈ entries.values,
          IsProfile data := by
  refine (reports_read_iff hread hfile fun entries => entries.values.mapM serverProfile).trans ?_
  refine and_congr_right fun _ => forall₂_congr fun entries _ => ?_
  rw [raisesOnly_mapM_iff serverProfile_ok_of_reports]
  exact forall₂_congr fun data _ => serverProfile_reports_iff data

/-- What `get_profile` makes of the mapping. -/
def lookup (profileId : String) (entries : Dict String (Json.Value φ)) :
    Except StoreExc (Record φ) :=
  match entries.get? profileId with
  | none => .error (noProfile profileId)
  | some data => serverProfile data

theorem getProfile_eq (profileId : String) :
    getProfile lib store env profileId =
      readEncryptedState lib store env >>= fun state => ofExcept (lookup profileId state.2) := by
  unfold getProfile lookup
  refine congrArg _ (funext fun state => ?_)
  obtain ⟨saltB64, entries⟩ := state
  simp only
  cases entries.get? profileId with
  | none => rfl
  | some data => rfl

theorem lookup_reports_iff {profileId : String} {entries : Dict String (Json.Value φ)} :
    RaisesOnly StoreExc.IsStoreError (lookup profileId entries) ↔
      ∀ data, entries.get? profileId = some data → IsProfile data := by
  unfold lookup
  cases entries.get? profileId with
  | none => exact iff_of_true (raisesOnly_error_iff.mpr trivial) nofun
  | some data => simp [serverProfile_reports_iff]

/-- `get_profile` fails on the entry that is asked for. -/
theorem getProfile_reports_iff (hread : env.fault .read = none)
    (hfile : d.files store.name = some content) (profileId : String) :
    Reports (getProfile lib store env profileId) d ↔
      CiphertextIsText lib content ∧
        ∀ entries, Payload lib store.password content entries → ∀ data,
          entries.get? profileId = some data → IsProfile data := by
  rw [getProfile_eq, reports_read_iff hread hfile (lookup profileId)]
  exact and_congr_right fun _ => forall₂_congr fun entries _ => lookup_reports_iff

/-- The contents for which the two readers raise nothing but errors of the store. -/
theorem corrupted_store_reports_iff (hread : env.fault .read = none)
    (hfile : d.files store.name = some content) :
    (Reports (listProfiles lib store env) d ↔
      CiphertextIsText lib content ∧
        ∀ entries, Payload lib store.password content entries → ∀ data ∈ entries.values,
          IsProfile data) ∧
    ∀ profileId, Reports (getProfile lib store env profileId) d ↔
      CiphertextIsText lib content ∧
        ∀ entries, Payload lib store.password content entries → ∀ data,
          entries.get? profileId = some data → IsProfile data :=
  ⟨listProfiles_reports_iff hread hfile, getProfile_reports_iff hread hfile⟩

end Readers

/-! ## Examples -/

/-- The file of an object with this ciphertext. -/
def envelopeFile (ciphertext : Json.Value Empty) : Bytes :=
  Utf8.encode (plain.json.dumps (.dict [("salt", .str ""), ("ciphertext", ciphertext)]))

/-- A store whose file is such an object. -/
def envelopeDisk (ciphertext : Json.Value Empty) : Disk :=
  ⟨put "profiles.json" (some (envelopeFile ciphertext)) fun _ => none, []⟩

theorem envelopeDisk_file (ciphertext : Json.Value Empty) :
    (envelopeDisk ciphertext).files homeStore.name = some (envelopeFile ciphertext) := rfl

theorem envelopeFile_iff {ciphertext : Json.Value Empty} (h : ciphertext.WellFormed) (salt : Bytes)
    (ciphertext' : Json.Value Empty) :
    Envelope plain (envelopeFile ciphertext) salt ciphertext' ↔
      salt = [] ∧ ciphertext' = ciphertext := by
  have hwellFormed : (Json.Value.dict [("salt", .str ""), ("ciphertext", ciphertext)]).WellFormed := by
    have hkeys : ["salt", "ciphertext"].Nodup := by decide
    simp only [Json.Value.WellFormed, Json.WellFormedItems]
    exact ⟨hkeys, trivial, h, trivial⟩
  have hloads := plain_lawful.json.dumps _ hwellFormed
  constructor
  · rintro ⟨text, items, saltB64, htext, hitems, hsalt, hdecode, hciphertext⟩
    rw [envelopeFile, Utf8.decode_encode] at htext
    cases htext
    rw [hloads] at hitems
    cases hitems
    cases hsalt
    cases hdecode
    cases hciphertext
    exact ⟨rfl, rfl⟩
  · rintro ⟨rfl, rfl⟩
    exact ⟨_, _, "", Utf8.decode_encode _, hloads, rfl, rfl, rfl⟩

/-- A ciphertext that nothing was encrypted to raises errors of the store only. -/
theorem corrupted_store_tampered :
    Reports (listProfiles plain homeStore (calm [])) (envelopeDisk (.str "tampered")) ∧
      ∀ profileId,
        Reports (getProfile plain homeStore (calm []) profileId) (envelopeDisk (.str "tampered")) := by
  have hwellFormed : (Json.Value.str "tampered" : Json.Value Empty).WellFormed := by
    simp only [Json.Value.WellFormed]
  have htext : CiphertextIsText plain (envelopeFile (.str "tampered")) := by
    intro salt ciphertext henvelope
    exact ⟨"tampered", ((envelopeFile_iff hwellFormed salt ciphertext).mp henvelope).2⟩
  have hpayload (entries : Dict String (Json.Value Empty)) :
      ¬Payload plain "right" (envelopeFile (.str "tampered")) entries := by
    rintro ⟨salt, token, plaintext, text, items, henvelope, -, hdecrypts, -⟩
    obtain ⟨rfl, htoken⟩ := (envelopeFile_iff hwellFormed salt _).mp henvelope
    cases htoken
    cases hdecrypts
  obtain ⟨hlist, hget⟩ := @corrupted_store_reports_iff _ _ plain homeStore (calm [])
    (envelopeDisk (.str "tampered")) _ rfl (envelopeDisk_file _)
  exact ⟨hlist.mpr ⟨htext, fun entries h => absurd h (hpayload entries)⟩,
    fun profileId => (hget profileId).mpr ⟨htext, fun entries h => absurd h (hpayload entries)⟩⟩

/-- Both readers raise an `AttributeError` on a number. -/
theorem corrupted_store_number :
    ¬Reports (listProfiles plain homeStore (calm [])) (envelopeDisk (.int 5)) ∧
      ∀ profileId,
        ¬Reports (getProfile plain homeStore (calm []) profileId) (envelopeDisk (.int 5)) := by
  have hwellFormed : (Json.Value.int 5 : Json.Value Empty).WellFormed := by
    simp only [Json.Value.WellFormed]
  have hnumber : ¬CiphertextIsText plain (envelopeFile (.int 5)) := by
    intro h
    obtain ⟨token, htoken⟩ := h _ _ ((envelopeFile_iff hwellFormed [] (.int 5)).mpr ⟨rfl, rfl⟩)
    cases htoken
  constructor
  · rw [listProfiles_reports_iff rfl (envelopeDisk_file _)]
    exact fun h => hnumber h.1
  · intro profileId
    rw [getProfile_reports_iff rfl (envelopeDisk_file _)]
    exact fun h => hnumber h.1

end Bimarz.Store
