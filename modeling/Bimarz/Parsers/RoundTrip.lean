import Bimarz.Parsers.Vless

/-!
# Reading what was formatted

A `Link` is what a share link says: a UUID, a host, a port, the parameters and a remark. Its text is
`vless://uuid@host:port?parameters#remark` with the parameters in any order, and the parser gives
back what the link says, with the letters of the host in lower case.
-/

namespace Bimarz

open Url (Chars Unicode Host IsVisible IsPrintable isUnreserved isAscii isAscii_of_printable
  isPrintable_of_unreserved)

/-! ## Texts that the parser leaves as they are -/

/-- Not blank and without blanks around it. -/
def Trimmed (s : String) : Prop := s ≠ "" ∧ Python.strip s = s

theorem strip_of_not_space {s : String} (h : ∀ c ∈ s.toList, Python.isSpace c = false) :
    Python.strip s = s := by
  unfold Python.strip
  rw [Uuid.strip_eq_self h, String.ofList_toList]

theorem orElse_of_ne {s : String} (h : s ≠ "") (default : String) : orElse s default = s :=
  if_neg h

theorem lower_eq_self {unicode : Unicode} (h : unicode.Lawful) {s : String}
    (hascii : ∀ c ∈ s.toList, isAscii c = true) (hlower : s.toList.map Char.toLower = s.toList) :
    lower unicode s = s := by
  unfold lower
  rw [h.lower _ hascii, hlower, String.ofList_toList]

theorem isSpace_of_printable {c : Char} (h : IsPrintable c) : Python.isSpace c = false := by
  obtain ⟨hlow, hhigh⟩ := h
  unfold Python.isSpace
  rw [← Bool.not_eq_true, List.contains_iff_mem]
  simp only [Python.spaces, Python.asciiSpaces, Python.wideSpaces, List.cons_append,
    List.nil_append, List.mem_cons, List.not_mem_nil, or_false]
  omega

/-! ## Links -/

/-- The values of the parameters that a link may choose. -/
structure LinkParams where
  pbk : String
  sni : String
  fp : String
  sid : String
  encryption : String
  type : String
  spx : String
  path : String
  host : String
  serviceName : String
  authority : String
  mode : String
  alpn : String
  headerType : String
  seed : String
  packetEncoding : String
  mux : String
  allowInsecure : String
  ech : String
  echForceQuery : String
  pqv : String

/-- The trimmed fields, and a recognised word for `allowInsecure`. -/
structure LinkParams.Valid (params : LinkParams) : Prop where
  pbk : Trimmed params.pbk
  sni : Trimmed params.sni
  fp : Trimmed params.fp
  sid : Trimmed params.sid
  encryption : Trimmed params.encryption
  type : Trimmed params.type
  allowInsecure : params.allowInsecure ∈ trueWords ++ falseWords

/-- What a share link says. -/
structure Link where
  uuid : Uuid
  host : Host
  port : ℕ
  params : LinkParams
  remark : String
  validHost : host.Valid
  validPort : 1 ≤ port ∧ port ≤ 65535
  validParams : params.Valid
  trimmedRemark : Trimmed remark

namespace Link

variable (link : Link)

/-- The parameters, each of them once. -/
def fields : List (String × String) := [
  ("security", requiredSecurity), ("flow", requiredFlow), ("pbk", link.params.pbk),
  ("sni", link.params.sni), ("fp", link.params.fp), ("sid", link.params.sid),
  ("encryption", link.params.encryption), ("type", link.params.type), ("spx", link.params.spx),
  ("path", link.params.path), ("host", link.params.host),
  ("serviceName", link.params.serviceName), ("authority", link.params.authority),
  ("mode", link.params.mode), ("alpn", link.params.alpn),
  ("headerType", link.params.headerType), ("seed", link.params.seed),
  ("packetEncoding", link.params.packetEncoding), ("mux", link.params.mux),
  ("allowInsecure", link.params.allowInsecure), ("ech", link.params.ech),
  ("echForceQuery", link.params.echForceQuery), ("pqv", link.params.pqv)]

/-- The query string of parameters in a given order. -/
def query (order : List (String × String)) : Chars :=
  Url.formatQuery (order.map fun (name, value) => (name.toList, value.toList))

def netloc : Chars :=
  Url.authority link.uuid.text link.host.text (Nat.toDigits 10 link.port)

/-- The text of the link. -/
def format (order : List (String × String)) : String :=
  String.ofList ("vless".toList ++ ':' :: '/' :: '/' ::
    (link.netloc ++ '?' :: (query order ++ '#' :: Url.quote link.remark.toList)))

/-- The host without brackets, in lower case. -/
def address : String := String.ofList (link.host.bare.map Char.toLower)

/-- The settings that the link says. -/
def outbound : VlessOutbound where
  protocol := "vless"
  address := link.address
  port := link.port
  id := String.ofList link.uuid.text
  flow := requiredFlow
  security := requiredSecurity
  sni := link.params.sni
  fp := link.params.fp
  publicKey := link.params.pbk
  shortId := link.params.sid
  spiderX := link.params.spx
  encryption := link.params.encryption
  type := link.params.type
  path := link.params.path
  host := link.params.host
  serviceName := link.params.serviceName
  authority := link.params.authority
  mode := link.params.mode
  alpn := link.params.alpn
  headerType := link.params.headerType
  seed := link.params.seed
  packetEncoding := link.params.packetEncoding
  mux := link.params.mux
  allowInsecure := link.params.allowInsecure ∈ trueWords
  ech := link.params.ech
  echForceQuery := link.params.echForceQuery
  pqv := link.params.pqv

/-- The profile that the link says, apart from id and time. -/
def profile (profileId addedAtIso : String) : ServerProfile :=
  ⟨profileId, profileId, link.remark, link.outbound.config, addedAtIso⟩

/-! ## The characters of the text -/

variable {link}

theorem isUnreserved_uuid {uuid : Uuid} {c : Char} (h : c ∈ uuid.text) :
    isUnreserved c = true := by
  rcases Uuid.mem_text h with rfl | ⟨d, hd, rfl⟩
  · rfl
  · clear h
    revert d
    decide

theorem isUnreserved_port {n : ℕ} {c : Char} (h : c ∈ Nat.toDigits 10 n) :
    isUnreserved c = true := by
  have hdigit := Nat.isDigit_of_mem_toDigits (by decide) (by decide) h
  simp only [isUnreserved, Char.isAlphanum, hdigit, Bool.or_true, Bool.true_or]

/-- The characters of an authority. -/
def IsNetlocChar (c : Char) : Prop :=
  isUnreserved c = true ∨ c = ':' ∨ c = '@' ∨ c = '[' ∨ c = ']'

theorem isNetlocChar_netloc : ∀ c ∈ link.netloc, IsNetlocChar c := by
  have hcolon : IsNetlocChar ':' := Or.inr (Or.inl rfl)
  have hat : IsNetlocChar '@' := Or.inr (Or.inr (Or.inl rfl))
  have hbare : ∀ c ∈ link.host.bare, IsNetlocChar c := by
    intro c hc
    rcases link.validHost.chars c hc with h | rfl
    · exact Or.inl h
    · exact hcolon
  have hhost : ∀ c ∈ link.host.text, IsNetlocChar c := by
    cases hlink : link.host with
    | name text =>
      rw [hlink] at hbare
      exact hbare
    | bracketed address =>
      rw [hlink] at hbare
      have hopen : IsNetlocChar '[' := Or.inr (Or.inr (Or.inr (Or.inl rfl)))
      have hclose : IsNetlocChar ']' := Or.inr (Or.inr (Or.inr (Or.inr rfl)))
      simp only [Host.text, List.forall_mem_cons, List.forall_mem_append]
      exact ⟨hopen, hbare, hclose, List.forall_mem_nil _⟩
  simp only [netloc, Url.authority, List.forall_mem_append, List.forall_mem_cons]
  exact ⟨fun _ h => Or.inl (isUnreserved_uuid h), hat, hhost, hcolon,
    fun _ h => Or.inl (isUnreserved_port h)⟩

theorem IsNetlocChar.isPrintable {c : Char} (h : IsNetlocChar c) : IsPrintable c := by
  rcases h with h | rfl | rfl | rfl | rfl
  · exact isPrintable_of_unreserved h
  all_goals exact ⟨by decide, by decide⟩

theorem IsNetlocChar.not_delimiter {c : Char} (h : IsNetlocChar c) :
    Url.isDelimiter c = false := by
  by_contra hdelimiter
  simp only [Url.isDelimiter, Bool.not_eq_false, Bool.or_eq_true, decide_eq_true_eq]
    at hdelimiter
  rcases hdelimiter with (rfl | rfl) | rfl <;> revert h <;> unfold IsNetlocChar <;> decide

theorem isPrintable_quote {cs : Chars} {c : Char} (h : c ∈ Url.quote cs) : IsPrintable c := by
  rcases Url.mem_quote h with h | rfl
  · exact isPrintable_of_unreserved h
  · exact ⟨by decide, by decide⟩

/-! ## The query string -/

/-- The names of the parameters. -/
def names : List String := [
  "security", "flow", "pbk", "sni", "fp", "sid", "encryption", "type", "spx", "path", "host",
  "serviceName", "authority", "mode", "alpn", "headerType", "seed", "packetEncoding", "mux",
  "allowInsecure", "ech", "echForceQuery", "pqv"]

theorem map_fst_fields (link : Link) : link.fields.map Prod.fst = names := rfl

theorem nodup_names : names.Nodup := by
  simp [names]

theorem plain_of_mem_names {name : String} (h : name ∈ names) : Url.Plain name.toList := by
  have hall : names.all (fun name => name.toList.all isUnreserved) = true := by decide
  exact List.all_eq_true.mp (List.all_eq_true.mp hall name h)

variable {order : List (String × String)}

theorem mem_names (horder : order.Perm link.fields) {field : String × String}
    (h : field ∈ order) : field.1 ∈ names := by
  rw [← map_fst_fields link]
  exact List.mem_map_of_mem (horder.mem_iff.mp h)

theorem parseQsl_query (horder : order.Perm link.fields) :
    Url.parseQsl (query order) = order.map fun (name, value) => (name.toList, value.toList) := by
  apply Url.parseQsl_formatQuery
  intro f hf
  obtain ⟨field, hfield, rfl⟩ := List.mem_map.mp hf
  exact plain_of_mem_names (mem_names horder hfield)

/-- The order of the parameters does not matter to their values. -/
theorem getQueryValue_query (horder : order.Perm link.fields) (key default : String) :
    getQueryValue (Url.parseQs (query order)) key default =
      (Dict.find key link.fields).getD default := by
  have hkeys : (order.map fun (name, value) => (name.toList, value.toList)).map Prod.fst =
      (order.map Prod.fst).map String.toList := by
    rw [List.map_map, List.map_map]
    rfl
  have hnodup :
      ((order.map fun (name, value) => (name.toList, value.toList)).map Prod.fst).Nodup := by
    rw [hkeys]
    apply List.Nodup.map fun _ _ => String.toList_injective
    rw [(horder.map Prod.fst).nodup_iff, map_fst_fields]
    exact nodup_names
  have hfind : Dict.find key.toList
      (order.map fun (name, value) => (name.toList, value.toList)) =
        (Dict.find key link.fields).map String.toList := by
    cases hfield : Dict.find key link.fields with
    | some value =>
      apply Dict.find_eq_some_of_mem hnodup
      exact List.mem_map.mpr ⟨(key, value), horder.mem_iff.mpr (Dict.mem_of_find hfield), rfl⟩
    | none =>
      rw [Option.map_none, Option.eq_none_iff_forall_ne_some]
      intro chars hchars
      obtain ⟨⟨name, value⟩, hmem, heq⟩ := List.mem_map.mp (Dict.mem_of_find hchars)
      have hname : name = key := String.toList_injective (congrArg Prod.fst heq)
      have hnodup' : (link.fields.map Prod.fst).Nodup := nodup_names
      rw [hname] at hmem
      rw [Dict.find_eq_some_of_mem hnodup' (horder.mem_iff.mp hmem)] at hfield
      cases hfield
  unfold getQueryValue
  rw [Url.queryValue_parseQs, parseQsl_query horder, hfind]
  cases Dict.find key link.fields with
  | some value => exact String.ofList_toList
  | none => exact String.ofList_toList

theorem mem_query (horder : order.Perm link.fields) {c : Char} (h : c ∈ query order) :
    c = '&' ∨ c = '=' ∨ c = '%' ∨ isUnreserved c = true := by
  rcases Url.mem_intercalate h with h | ⟨text, htext, hc⟩
  · exact Or.inl h
  · right
    obtain ⟨f, hf, rfl⟩ := List.mem_map.mp htext
    obtain ⟨field, hfield, rfl⟩ := List.mem_map.mp hf
    rcases List.mem_append.mp hc with hc | hc
    · exact Or.inr (Or.inr (plain_of_mem_names (mem_names horder hfield) c hc))
    rcases List.mem_cons.mp hc with rfl | hc
    · exact Or.inl rfl
    · exact Or.inr ((Url.mem_quote hc).symm)

theorem isPrintable_query (horder : order.Perm link.fields) {c : Char} (h : c ∈ query order) :
    IsPrintable c := by
  rcases mem_query horder h with rfl | rfl | rfl | hc
  · exact ⟨by decide, by decide⟩
  · exact ⟨by decide, by decide⟩
  · exact ⟨by decide, by decide⟩
  · exact isPrintable_of_unreserved hc

/-! ## The parts come back -/

theorem toList_format (link : Link) (order : List (String × String)) :
    (link.format order).toList = "vless".toList ++ ':' :: '/' :: '/' ::
      (link.netloc ++ '?' :: (query order ++ '#' :: Url.quote link.remark.toList)) :=
  String.toList_ofList

theorem isPrintable_format (horder : order.Perm link.fields) :
    ∀ c ∈ (link.format order).toList, IsPrintable c := by
  have hscheme : ∀ c ∈ "vless".toList, IsPrintable c := by
    intro c hc
    have hall : "vless".toList.all isUnreserved = true := by decide
    exact isPrintable_of_unreserved (List.all_eq_true.mp hall c hc)
  have hcolon : IsPrintable ':' := ⟨by decide, by decide⟩
  have hslash : IsPrintable '/' := ⟨by decide, by decide⟩
  have hquestion : IsPrintable '?' := ⟨by decide, by decide⟩
  have hhash : IsPrintable '#' := ⟨by decide, by decide⟩
  rw [toList_format]
  simp only [List.forall_mem_append, List.forall_mem_cons]
  exact ⟨hscheme, hcolon, hslash, hslash, fun c hc => (isNetlocChar_netloc c hc).isPrintable,
    hquestion, fun _ => isPrintable_query horder, hhash, fun _ => isPrintable_quote⟩

/-- What the text is split into. -/
def parsed (link : Link) (order : List (String × String)) : Url.SplitResult :=
  ⟨"vless".toList, link.netloc, [], query order, Url.quote link.remark.toList⟩

theorem not_mem_uuid {uuid : Uuid} {d : Char} (hd : isUnreserved d = false) : d ∉ uuid.text := by
  intro hmem
  rw [isUnreserved_uuid hmem] at hd
  cases hd

theorem linkUrl_format (unicode : Unicode) (horder : order.Perm link.fields) :
    linkUrl unicode (link.format order) = .ok (link.parsed order) := by
  have hstrip : Python.strip (link.format order) = link.format order :=
    strip_of_not_space fun c hc => isSpace_of_printable (isPrintable_format horder c hc)
  have hne : link.format order ≠ "" := by
    intro hempty
    have htext := toList_format link order
    rw [hempty] at htext
    cases htext
  have hvisible : ∀ c ∈ "vless".toList ++ link.netloc ++ query order ++
      Url.quote link.remark.toList, IsVisible c := by
    have hall := isPrintable_format horder
    rw [toList_format] at hall
    simp only [List.forall_mem_append, List.forall_mem_cons] at hall ⊢
    obtain ⟨hscheme, -, -, -, hnetloc, -, hquery, -, hremark⟩ := hall
    exact ⟨⟨⟨fun c hc => (hscheme c hc).1, fun c hc => (hnetloc c hc).1⟩,
      fun c hc => (hquery c hc).1⟩, fun c hc => (hremark c hc).1⟩
  have hnetloc : ∀ c ∈ link.netloc, isAscii c = true ∧ Url.isDelimiter c = false := by
    intro c hc
    have hchar := isNetlocChar_netloc c hc
    exact ⟨isAscii_of_printable hchar.isPrintable, hchar.not_delimiter⟩
  have hbrackets : Url.checkBrackets link.netloc = .ok () :=
    Url.checkBrackets_authority (not_mem_uuid rfl) (not_mem_uuid rfl) link.validHost
      (Url.not_mem_digits rfl) (Url.not_mem_digits rfl)
  have hquery : '#' ∉ query order := by
    intro hmem
    rcases mem_query horder hmem with h | h | h | h <;> revert h <;> decide
  have hsplit := Url.urlsplit_append unicode rfl rfl rfl hvisible hnetloc hbrackets hquery
  unfold linkUrl
  simp only [hstrip, if_neg hne]
  rw [toList_format, hsplit]
  rfl

theorem linkHostname_format {unicode : Unicode} (h : unicode.Lawful) (link : Link)
    (order : List (String × String)) :
    linkHostname unicode (link.parsed order) = .ok link.address := by
  have hhostname : (link.parsed order).hostname unicode = some (link.host.bare.map Char.toLower) :=
    Url.hostname_authority h link.validHost (Url.not_mem_digits rfl) (Url.not_mem_digits rfl)
  unfold linkHostname address
  rw [hhostname]
  cases hbare : link.host.bare with
  | nil => exact absurd hbare link.validHost.bare_ne
  | cons c cs => rfl

theorem linkUuid_format (link : Link) (order : List (String × String)) :
    linkUuid (link.parsed order) = .ok link.uuid := by
  have husername : (link.parsed order).username = some link.uuid.text :=
    Url.username_authority (not_mem_uuid rfl) link.validHost (Url.not_mem_digits rfl)
  have hunquote : Url.unquote link.uuid.text = link.uuid.text := if_neg (not_mem_uuid rfl)
  have hstrip : Python.strip (String.ofList link.uuid.text) = String.ofList link.uuid.text := by
    apply strip_of_not_space
    intro c hc
    rw [String.toList_ofList] at hc
    exact isSpace_of_printable (isPrintable_of_unreserved (isUnreserved_uuid hc))
  unfold linkUuid
  simp only [husername, Option.getD_some, hunquote, hstrip, if_neg link.uuid.text_ne,
    String.toList_ofList,
    Uuid.ofText_text]

theorem linkPort_format (link : Link) (order : List (String × String)) :
    linkPort (link.parsed order) = .ok link.port := by
  have hport : (link.parsed order).port = .ok (some link.port) :=
    Url.port_authority link.validHost link.validPort.2
  unfold linkPort
  simp only [hport, Option.getD_some, if_pos link.validPort]

theorem linkRemark_format (link : Link) (order : List (String × String)) (hostname : String)
    (port : ℕ) : linkRemark (link.parsed order) hostname port = link.remark := by
  have hunquote : Url.unquote (link.parsed order).fragment = link.remark.toList :=
    Url.unquote_quote link.remark.toList
  unfold linkRemark
  rw [hunquote, String.ofList_toList, link.trimmedRemark.2, orElse_of_ne link.trimmedRemark.1]

/-- A recognised word is in lower case and has no blanks around it. -/
theorem getBoolQueryValue_query {unicode : Unicode} (h : unicode.Lawful)
    (horder : order.Perm link.fields) :
    getBoolQueryValue unicode (Url.parseQs (query order)) "allowInsecure" false =
      decide (link.params.allowInsecure ∈ trueWords) := by
  have hvalue : getQueryValue (Url.parseQs (query order)) "allowInsecure" "" =
      link.params.allowInsecure := getQueryValue_query horder _ _
  have hwords : ∀ word ∈ trueWords ++ falseWords, lower unicode (Python.strip word) = word := by
    intro word hword
    have hstrip : Python.strip word = word ∧ word.toList.all isAscii = true ∧
        word.toList.map Char.toLower = word.toList := by
      revert word
      decide
    rw [hstrip.1]
    exact lower_eq_self h (List.all_eq_true.mp hstrip.2.1) hstrip.2.2
  unfold getBoolQueryValue
  rw [hvalue, hwords _ link.validParams.allowInsecure]
  by_cases hmem : link.params.allowInsecure ∈ trueWords
  · simp [hmem]
  · simp [hmem]

theorem linkOutbound_format {unicode : Unicode} (h : unicode.Lawful)
    (horder : order.Perm link.fields) :
    linkOutbound unicode (Url.parseQs (query order)) link.address link.uuid link.port =
      .ok link.outbound := by
  have hsecurity : lower unicode (Python.strip requiredSecurity) = requiredSecurity := by
    have hstrip : Python.strip requiredSecurity = requiredSecurity := by decide
    rw [hstrip]
    apply lower_eq_self h
    · have hall : requiredSecurity.toList.all isAscii = true := by decide
      exact List.all_eq_true.mp hall
    · decide
  have hflow : Python.strip requiredFlow = requiredFlow := by decide
  have hvalid := link.validParams
  have hpbk : Python.strip ((Dict.find "pbk" link.fields).getD "") = link.params.pbk :=
    hvalid.pbk.2
  have hsni : Python.strip ((Dict.find "sni" link.fields).getD "") = link.params.sni := hvalid.sni.2
  have hfp : Python.strip ((Dict.find "fp" link.fields).getD defaultFingerprint) =
      link.params.fp := hvalid.fp.2
  have hsid : Python.strip ((Dict.find "sid" link.fields).getD "") = link.params.sid := hvalid.sid.2
  have hencryption :
      Python.strip ((Dict.find "encryption" link.fields).getD defaultEncryption) =
        link.params.encryption := hvalid.encryption.2
  have htype : Python.strip ((Dict.find "type" link.fields).getD defaultNetwork) =
      link.params.type := hvalid.type.2
  have hsecurity' : (Dict.find "security" link.fields).getD "" = requiredSecurity := rfl
  have hflow' : (Dict.find "flow" link.fields).getD "" = requiredFlow := rfl
  unfold linkOutbound
  simp only [getQueryValue_query horder, getBoolQueryValue_query h horder, hsecurity', hflow',
    hpbk, hsni, hfp, hsid, hencryption, htype]
  rw [hsecurity, hflow, if_neg (not_not_intro rfl), if_neg (not_not_intro rfl),
    if_neg hvalid.pbk.1, orElse_of_ne hvalid.sni.1, orElse_of_ne hvalid.fp.1,
    orElse_of_ne hvalid.encryption.1, orElse_of_ne hvalid.type.1]
  rfl

/-- What was formatted is read, whatever the order of the parameters. -/
theorem parse_format {unicode : Unicode} (h : unicode.Lawful) (horder : order.Perm link.fields)
    (profileId addedAtIso : String) :
    parseVlessLink unicode (link.format order) profileId addedAtIso =
      .ok (link.profile profileId addedAtIso) := by
  have hscheme : lower unicode (String.ofList (link.parsed order).scheme) = "vless" := by
    have htext : String.ofList (link.parsed order).scheme = "vless" := String.ofList_toList
    rw [htext]
    apply lower_eq_self h
    · have hall : "vless".toList.all isAscii = true := by decide
      exact List.all_eq_true.mp hall
    · decide
  rw [parseVlessLink_eq_ok_iff]
  refine ⟨link.parsed order, link.address, link.uuid, link.port, link.outbound,
    linkUrl_format unicode horder, hscheme, linkHostname_format h link order,
    linkUuid_format link order, linkPort_format link order, linkOutbound_format h horder, ?_⟩
  rw [linkProfile, linkRemark_format]
  rfl

theorem address_of_lower (h : ∀ c ∈ link.host.bare, c.isUpper = false) :
    link.address = String.ofList link.host.bare := by
  rw [address, (Url.map_toLower_eq_self_iff _).mpr h]

end Link

/-! ## The round trip -/

/-- For every host, port, UUID, remark and parameters in any order, the parser returns what the link
says: the host in lower case, so a host without upper-case letters as it stands. -/
theorem parse_undoes_format {unicode : Unicode} (h : unicode.Lawful) (link : Link)
    {order : List (String × String)} (horder : order.Perm link.fields)
    (profileId addedAtIso : String) :
    parseVlessLink unicode (link.format order) profileId addedAtIso =
        .ok (link.profile profileId addedAtIso) ∧
      ((∀ c ∈ link.host.bare, c.isUpper = false) →
        link.outbound.address = String.ofList link.host.bare) :=
  ⟨Link.parse_format h horder profileId addedAtIso, Link.address_of_lower⟩

/-- The lower-case letters of ASCII texts. -/
def asciiUnicode : Unicode where
  lower := fun cs => cs.map Char.toLower
  nfkc := id

theorem asciiUnicode_lawful : asciiUnicode.Lawful where
  lower := fun _ _ => rfl

def sampleParams : LinkParams where
  pbk := "AAAAAAAAAAAAAAAAAAAAAAAAAAAAAAAAAAAAAAAAAAA"
  sni := "example.com"
  fp := "firefox"
  sid := "a1b2"
  encryption := "none"
  type := "grpc"
  spx := "/?a=1&b=2#c"
  path := ""
  host := " + "
  serviceName := "%41"
  authority := ""
  mode := "gun"
  alpn := "h2,http/1.1"
  headerType := ""
  seed := ""
  packetEncoding := ""
  mux := ""
  allowInsecure := "yes"
  ech := ""
  echForceQuery := ""
  pqv := ""

theorem sampleParams_valid : sampleParams.Valid where
  pbk := ⟨by decide, by decide⟩
  sni := ⟨by decide, by decide⟩
  fp := ⟨by decide, by decide⟩
  sid := ⟨by decide, by decide⟩
  encryption := ⟨by decide, by decide⟩
  type := ⟨by decide, by decide⟩
  allowInsecure := by decide

/-- A link to the address `2001:DB8::1`. -/
def sampleLink : Link where
  uuid := ⟨1, by decide⟩
  host := .bracketed "2001:DB8::1".toList
  port := 8443
  params := sampleParams
  remark := "a b"
  validHost := ⟨by decide, by decide⟩
  validPort := ⟨by decide, by decide⟩
  validParams := sampleParams_valid
  trimmedRemark := ⟨by decide, by decide⟩

theorem parse_undoes_format_sample :
    parseVlessLink asciiUnicode (sampleLink.format sampleLink.fields.reverse) "7f" "2026-01-01" =
        .ok (sampleLink.profile "7f" "2026-01-01") ∧
      ((∀ c ∈ sampleLink.host.bare, c.isUpper = false) →
        sampleLink.outbound.address = String.ofList sampleLink.host.bare) :=
  parse_undoes_format asciiUnicode_lawful sampleLink (List.reverse_perm _) "7f" "2026-01-01"

/-- An IPv6 literal with upper-case letters does not come back as it was written. -/
theorem address_in_lower_case :
    ¬∀ unicode : Unicode, unicode.Lawful → ∀ (link : Link) (order : List (String × String)),
      order.Perm link.fields → ∀ profileId addedAtIso, ∃ profile,
        parseVlessLink unicode (link.format order) profileId addedAtIso = .ok profile ∧
          profile.outboundConfig.get? "address" = some (.str (String.ofList link.host.bare)) := by
  intro hall
  obtain ⟨profile, hprofile, haddress⟩ :=
    hall asciiUnicode asciiUnicode_lawful sampleLink _ (List.Perm.refl _) "7f" "2026-01-01"
  rw [Link.parse_format asciiUnicode_lawful (List.Perm.refl _)] at hprofile
  cases hprofile
  have hget : (sampleLink.profile "7f" "2026-01-01").outboundConfig.get? "address" =
      some (.str sampleLink.address) := rfl
  rw [hget] at haddress
  have hsame : sampleLink.address = String.ofList sampleLink.host.bare :=
    PyValue.str.inj (Option.some.inj haddress)
  revert hsame
  decide

end Bimarz
