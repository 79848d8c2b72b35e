import Bimarz.Java.Uri
import Bimarz.Url.Split
import Mathlib.Data.Bool.AllAny
import Mathlib.Data.List.TakeWhile

/-!
# The texts that are URIs

A text that `java.net.URI` takes consists of visible characters, and where its authority is
server-based with user information and a port, `urlsplit` finds the same parts in it. What the
decoder makes of octets without replacing anything is what they stand for in UTF-8.
-/

namespace Java

open Url (Chars IsPrintable decimal isAscii)

/-! ## Characters -/

/-- Neither white space nor a control character. -/
structure IsVisible (c : Char) : Prop where
  space : isSpaceChar c = false
  control : isISOControl c = false

theorem IsVisible.lt {c : Char} (h : IsVisible c) : 32 < c.toNat := by
  have hspace : c.toNat ≠ 32 := by
    intro h32
    have := h.space
    rw [isSpaceChar, h32] at this
    exact absurd this (by decide)
  have hcontrol := h.control
  simp only [isISOControl, Bool.or_eq_false_iff, decide_eq_false_iff_not] at hcontrol
  omega

theorem isVisible_of_printable {c : Char} (h : IsPrintable c) : IsVisible c := by
  obtain ⟨hlow, hhigh⟩ := h
  constructor
  · rw [isSpaceChar, ← Bool.not_eq_true, List.contains_iff_mem]
    simp only [spaceChars, List.mem_cons, List.not_mem_nil, or_false]
    omega
  · simp only [isISOControl, Bool.or_eq_false_iff, Bool.and_eq_false_iff, decide_eq_false_iff_not]
    omega

theorem isPrintable_of_alphanum {c : Char} (h : c.isAlphanum = true) : IsPrintable c :=
  Url.isPrintable_of_unreserved (by rw [Url.isUnreserved, h]; rfl)

theorem isPrintable_of_hex {c : Char} (h : (Hex.value c).isSome = true) : IsPrintable c :=
  Url.isPrintable_of_unreserved (Url.isUnreserved_of_hex h)

theorem isPrintable_of_unreserved {c : Char} (h : isUnreserved c = true) : IsPrintable c := by
  rw [isUnreserved, Bool.or_eq_true, List.contains_iff_mem] at h
  rcases h with h | h
  · exact isPrintable_of_alphanum h
  · exact List.all_iff_forall_prop.mp (by decide) c h

/-- The unreserved characters and some more. -/
theorem isPrintable_of_class {more : List Char}
    (hmore : (more.all fun c => decide (IsPrintable c)) = true) {c : Char}
    (h : (isUnreserved c || more.contains c) = true) : IsPrintable c := by
  rw [Bool.or_eq_true, List.contains_iff_mem] at h
  exact h.elim isPrintable_of_unreserved (List.all_iff_forall_prop.mp hmore c)

theorem isPrintable_of_userInfoChar {c : Char} (h : isUserInfoChar c = true) : IsPrintable c :=
  isPrintable_of_class (by decide) h

theorem isPrintable_of_pathChar {c : Char} (h : isPathChar c = true) : IsPrintable c :=
  isPrintable_of_class (by decide) h

theorem isPrintable_of_uric {c : Char} (h : isUric c = true) : IsPrintable c :=
  isPrintable_of_class (by decide) h

theorem isPrintable_of_schemeChar {c : Char} (h : isSchemeChar c = true) : IsPrintable c := by
  simp only [isSchemeChar, Bool.or_eq_true, decide_eq_true_eq] at h
  rcases h with ((h | rfl) | rfl) | rfl
  · exact isPrintable_of_alphanum h
  all_goals decide

theorem isVisible_of_legal {ok : Char → Bool} (hok : ∀ c, ok c = true → IsPrintable c)
    {cs : Chars} (h : legal ok cs = true) : ∀ c ∈ cs, IsVisible c := by
  induction cs using legal.induct with
  | case1 => nofun
  | case2 p q cs ih =>
    rw [legal, Bool.and_eq_true, Bool.and_eq_true] at h
    obtain ⟨⟨hp, hq⟩, hcs⟩ := h
    refine List.forall_mem_cons.mpr ⟨isVisible_of_printable (by decide), ?_⟩
    refine List.forall_mem_cons.mpr ⟨isVisible_of_printable (isPrintable_of_hex hp), ?_⟩
    exact List.forall_mem_cons.mpr ⟨isVisible_of_printable (isPrintable_of_hex hq), ih hcs⟩
  | case3 c cs hnot ih =>
    rw [legal, Bool.and_eq_true, Bool.or_eq_true] at h
    · obtain ⟨hc, hcs⟩ := h
      refine List.forall_mem_cons.mpr ⟨?_, ih hcs⟩
      rcases hc with hc | hc
      · exact isVisible_of_printable (hok c hc)
      · simp only [isOther, Bool.and_eq_true, Bool.not_eq_true'] at hc
        exact ⟨hc.1.2, hc.2⟩
    · exact hnot

/-! ## Taking a text apart -/

/-- A part with its separator, if it is there. -/
def tagged (sep : Char) : Option Chars → Chars
  | some text => sep :: text
  | none => []

/-- The parts of a text in which `java.net.URI` finds a server. -/
structure HasParts (text scheme name path : Chars) (query fragment : Option Chars)
    (s : Server) : Prop where
  text_eq : text =
    scheme ++ ':' :: '/' :: '/' :: (name ++ (path ++ (tagged '?' query ++ tagged '#' fragment)))
  scheme_head : scheme.head?.any Char.isAlpha = true
  scheme_chars : scheme.all isSchemeChar = true
  name_ne : name ≠ []
  name_chars : ∀ c ∈ name, isDelimiter c = false
  server_eq : server name = some s
  path_chars : '?' ∉ path ∧ '#' ∉ path ∧ legal isPathChar path = true
  query_chars : ∀ text ∈ query, '#' ∉ text ∧ legal isUric text = true
  fragment_chars : ∀ text ∈ fragment, legal isUric text = true
  /-- the path begins with a slash -/
  path_head : path = [] ∨ path.head? = some '/'

theorem cut_cases {sep : Char} {text before : Chars} {after : Option Chars}
    (h : cut sep text = (before, after)) : text = before ++ tagged sep after ∧ sep ∉ before := by
  unfold cut at h
  rcases Text.partition_cases sep text with ⟨hnot, hcut⟩ | ⟨b, a, rfl, hnot, hcut⟩
  · rw [hcut] at h
    cases h
    exact ⟨(List.append_nil text).symm, hnot⟩
  · rw [hcut] at h
    cases h
    exact ⟨rfl, hnot⟩

theorem splitScheme_some {text scheme rest : Chars}
    (h : splitScheme text = some (some scheme, rest)) :
    text = scheme ++ ':' :: rest ∧ scheme.head?.any Char.isAlpha = true ∧
      scheme.all isSchemeChar = true := by
  unfold splitScheme at h
  have hcut := @List.takeWhile_append_dropWhile Char (fun c => !isDelimiter c && c ≠ ':') text
  generalize (text.takeWhile fun c => !isDelimiter c && c ≠ ':') = before at h hcut
  generalize (text.dropWhile fun c => !isDelimiter c && c ≠ ':') = after at h hcut
  split at h
  · split at h
    next hscheme =>
      cases h
      rw [Bool.and_eq_true] at hscheme
      exact ⟨hcut.symm, hscheme.1, hscheme.2⟩
    next => cases h
  · cases h

theorem splitAuthority_some {text rest : Chars} {s : Server}
    (h : splitAuthority text = some (some s, rest)) :
    ∃ name, text = '/' :: '/' :: (name ++ rest) ∧ name ≠ [] ∧
      (∀ c ∈ name, isDelimiter c = false) ∧ (∀ c ∈ rest.head?, isDelimiter c = true) ∧
      server name = some s := by
  unfold splitAuthority at h
  split at h
  next text =>
    have hcut := @List.takeWhile_append_dropWhile Char (fun c => !isDelimiter c) text
    have hname : ∀ c ∈ text.takeWhile fun c => !isDelimiter c, isDelimiter c = false := by
      intro c hc
      simpa using List.mem_takeWhile_imp hc
    have hrest : ∀ c ∈ (text.dropWhile fun c => !isDelimiter c).head?, isDelimiter c = true := by
      intro c hc
      have hnot := List.head?_dropWhile_not (fun c => !isDelimiter c) text
      rw [hc] at hnot
      simpa using hnot
    generalize (text.takeWhile fun c => !isDelimiter c) = name at h hcut hname
    generalize (text.dropWhile fun c => !isDelimiter c) = after at h hcut hrest
    split at h
    next => cases h
    next => cases h
    next hne _ =>
      obtain ⟨server', hserver', heq⟩ := Option.map_eq_some_iff.mp h
      cases heq
      refine ⟨name, by rw [hcut], hne, hname, hrest, ?_⟩
      unfold authority at hserver'
      split at hserver'
      next hs => rw [hs, Option.some.inj hserver']
      next =>
        split at hserver'
        · cases hserver'
        · cases hserver'
  next => cases h

/-- What `java.net.URI` finds in a text with a server. -/
theorem hasParts_of_ofText {text scheme : Chars} {uri : Uri} {s : Server}
    (h : Uri.ofText text = some uri) (hscheme : uri.scheme = some scheme)
    (hserver : uri.server = some s) :
    ∃ name path, HasParts text scheme name path uri.rawQuery uri.rawFragment s := by
  unfold Uri.ofText at h
  obtain ⟨⟨scheme', rest⟩, hsplit, h⟩ := Option.bind_eq_some_iff.mp h
  simp only at h
  split at h
  · -- without a slash there is no server
    unfold nonHierarchical at h
    split at h
    split at h
    · cases h
      cases hserver
    · cases h
  · obtain ⟨⟨server', rest'⟩, hauthority, h⟩ := Option.bind_eq_some_iff.mp h
    simp only at h
    generalize hfragment : cut '#' rest' = pieces at h
    obtain ⟨front, rawFragment⟩ := pieces
    simp only at h
    generalize hquery : cut '?' front = pieces at h
    obtain ⟨path, rawQuery⟩ := pieces
    simp only at h
    split at h
    next hlegal =>
      cases h
      simp only at hscheme hserver
      subst hscheme hserver
      obtain ⟨htext, hhead, hchars⟩ := splitScheme_some hsplit
      obtain ⟨name, hrest, hne, hname, hstart, hs⟩ := splitAuthority_some hauthority
      obtain ⟨hrest', hhash⟩ := cut_cases hfragment
      obtain ⟨hfront, hquestion⟩ := cut_cases hquery
      simp only [Bool.and_eq_true, Option.all_eq_true] at hlegal
      rw [hfront, List.mem_append, not_or] at hhash
      refine ⟨name, path, {
        text_eq := by rw [htext, hrest, hrest', hfront, List.append_assoc]
        scheme_head := hhead
        scheme_chars := hchars
        name_ne := hne
        name_chars := hname
        server_eq := hs
        path_chars := ⟨hquestion, hhash.1, hlegal.1.1⟩
        query_chars := fun text htext => ⟨?_, hlegal.1.2 text htext⟩
        fragment_chars := fun text htext => hlegal.2 text htext
        path_head := ?_ }⟩
      · have hsome : rawQuery = some text := htext
        have hno := hhash.2
        rw [hsome] at hno
        exact fun hmem => hno (List.mem_cons_of_mem _ hmem)
      · cases path with
        | nil => exact Or.inl rfl
        | cons c path =>
          right
          rw [hrest', hfront] at hstart
          have hc := hstart c rfl
          simp only [isDelimiter, Bool.or_eq_true, decide_eq_true_eq] at hc
          simp only [List.mem_cons, not_or] at hquestion hhash
          rcases hc with (rfl | rfl) | rfl
          · rfl
          · exact absurd rfl hquestion.1
          · exact absurd rfl hhash.1.1
    next => cases h

/-! ## IPv6 addresses -/

theorem isIpv6Char_of_hexSeq {text : Chars} (h : (hexSeq text).isSome = true) :
    ∀ c ∈ text, Url.IsIpv6Char c := by
  intro c hc
  simp only [hexSeq] at h
  split at h
  next hall =>
    rcases @Url.mem_part ':' c text hc with rfl | ⟨part, hpart, hmem⟩
    · exact Or.inr (Or.inl rfl)
    · exact Or.inl (Url.hex_of_hextet (List.all_eq_true.mp hall part hpart) hmem)
  next => cases h

theorem isIpv6Char_of_isIpv4 {text : Chars} (h : isIpv4 text = true) :
    ∀ c ∈ text, Url.IsIpv6Char c := by
  intro c hc
  simp only [isIpv4, Bool.and_eq_true, List.all_eq_true] at h
  rcases @Url.mem_part '.' c text hc with rfl | ⟨part, hpart, hmem⟩
  · exact Or.inr (Or.inr rfl)
  · exact Url.isIpv6Char_of_digit ((h.2 part hpart).1.2 c hmem)

theorem isIpv6Char_of_hexPost {text : Chars} (h : (hexPost text).isSome = true) :
    ∀ c ∈ text, Url.IsIpv6Char c := by
  intro c hc
  simp only [hexPost] at h
  split at h
  next hlast =>
    split at h
    next hall =>
      rcases @Url.mem_part ':' c text hc with rfl | ⟨part, hpart, hmem⟩
      · exact Or.inr (Or.inl rfl)
      · have hne : text.splitOn ':' ≠ [] := List.ne_nil_of_mem hpart
        have hlast' : (text.splitOn ':').getLastD [] = (text.splitOn ':').getLast hne := by
          rw [List.getLastD_eq_getLast?, List.getLast?_eq_getLast_of_ne_nil hne]
          rfl
        rw [← List.dropLast_concat_getLast hne, List.mem_append, List.mem_singleton] at hpart
        rcases hpart with hpart | rfl
        · exact Or.inl (Url.hex_of_hextet (List.all_eq_true.mp hall part hpart) hmem)
        · rw [hlast'] at hlast
          exact isIpv6Char_of_isIpv4 hlast c hmem
    next => cases h
  next => exact isIpv6Char_of_hexSeq h c hc

theorem cutZeros_some {text before after : Chars} (h : cutZeros text = some (before, after)) :
    text = before ++ ':' :: ':' :: after := by
  induction text using cutZeros.induct generalizing before with
  | case1 => cases h
  | case2 cs =>
    cases h
    rfl
  | case3 c cs hnot ih =>
    rw [cutZeros] at h
    · obtain ⟨⟨before', after'⟩, hcut, heq⟩ := Option.map_eq_some_iff.mp h
      cases heq
      exact congrArg (c :: ·) (ih hcut)
    · exact hnot

theorem isIpv6Char_of_isIpv6 {text : Chars} (h : isIpv6 text = true) :
    ∀ c ∈ text, Url.IsIpv6Char c := by
  have hside : ∀ {side : Chars} {n : ℕ} {f : Chars → Option ℕ},
      (if side = [] then some 0 else f side) = some n →
      (∀ {side}, (f side).isSome = true → ∀ c ∈ side, Url.IsIpv6Char c) →
      ∀ c ∈ side, Url.IsIpv6Char c := by
    intro side n f hsome hf c hc
    rw [if_neg (List.ne_nil_of_mem hc)] at hsome
    exact hf (Option.isSome_iff_exists.mpr ⟨n, hsome⟩) c hc
  intro c hc
  unfold isIpv6 at h
  split at h
  next => exact isIpv6Char_of_hexPost (by rw [of_decide_eq_true h]; rfl) c hc
  next before after hcut =>
    split at h
    next high low hhigh hlow =>
      rw [cutZeros_some hcut, List.mem_append, List.mem_cons, List.mem_cons] at hc
      rcases hc with hc | rfl | rfl | hc
      · exact hside hhigh isIpv6Char_of_hexSeq c hc
      · exact Or.inr (Or.inl rfl)
      · exact Or.inr (Or.inl rfl)
      · exact hside hlow isIpv6Char_of_hexPost c hc
    next => cases h

/-- The characters of an IPv6 address with a scope. -/
def IsAddressChar (c : Char) : Prop := Url.IsIpv6Char c ∨ c = '%' ∨ isScopeChar c = true

theorem isAddressChar_of_isIpv6Reference {text : Chars} (h : isIpv6Reference text = true) :
    ∀ c ∈ text, IsAddressChar c := by
  intro c hc
  unfold isIpv6Reference at h
  rcases Text.partition_cases '%' text with ⟨-, hcut⟩ | ⟨address, scope, rfl, -, hcut⟩
  · rw [hcut] at h
    exact Or.inl (isIpv6Char_of_isIpv6 h c hc)
  · rw [hcut] at h
    simp only [Bool.and_eq_true, List.all_eq_true] at h
    rw [List.mem_append, List.mem_cons] at hc
    rcases hc with hc | rfl | hc
    · exact Or.inl (isIpv6Char_of_isIpv6 h.1.1 c hc)
    · exact Or.inr (Or.inl rfl)
    · exact Or.inr (Or.inr (h.2 c hc))

theorem isPrintable_of_addressChar {c : Char} (h : IsAddressChar c) : IsPrintable c := by
  rcases h with (hhex | rfl | rfl) | rfl | hscope
  · exact isPrintable_of_hex hhex
  · decide
  · decide
  · decide
  · simp only [isScopeChar, Bool.or_eq_true, decide_eq_true_eq] at hscope
    rcases hscope with (halphanum | rfl) | rfl
    · exact isPrintable_of_alphanum halphanum
    all_goals decide

/-! ## Servers -/

/-- The parts of an authority with user information, a host and a port. -/
structure HasServer (name userInfo host digits : Chars) : Prop where
  name_eq : name = Url.authority userInfo host digits
  user_at : '@' ∉ userInfo
  user_legal : legal isUserInfoChar userInfo = true
  digits_ne : digits ≠ []
  digits_all : digits.all Char.isDigit = true
  le : decimal digits ≤ maxInt
  host : (Url.Host.name host).Valid ∨ ∃ address, host = (Url.Host.bracketed address).text ∧
    ']' ∉ address ∧ isIpv6Reference address = true

theorem splitUserInfo_some {text userInfo rest : Chars}
    (h : splitUserInfo text = (some userInfo, rest)) :
    text = userInfo ++ '@' :: rest ∧ '@' ∉ userInfo := by
  unfold splitUserInfo at h
  rcases Text.partition_cases '@' text with ⟨-, hcut⟩ | ⟨before, after, rfl, hnot, hcut⟩
  · rw [hcut] at h
    cases h
  · rw [hcut] at h
    cases h
    exact ⟨rfl, hnot⟩

theorem port_some {text digits : Chars} (h : port text = some (some digits)) :
    text = ':' :: digits ∧ digits ≠ [] ∧ digits.all Char.isDigit = true ∧
      decimal digits ≤ maxInt := by
  unfold port at h
  split at h
  · cases h
  · split at h
    · cases h
    next hne =>
      split at h
      next hdigits =>
        cases h
        exact ⟨rfl, hne, hdigits.1, hdigits.2⟩
      · cases h
  · cases h

/-- The characters of a host name and of an IPv4 address. -/
theorem isUnreserved_of_alphanum {c : Char} (h : c.isAlphanum = true) :
    Url.isUnreserved c = true := by
  rw [Url.isUnreserved, h]
  rfl

theorem isUnreserved_of_isIpv4 {text : Chars} (h : isIpv4 text = true) :
    ∀ c ∈ text, Url.isUnreserved c = true := by
  intro c hc
  simp only [isIpv4, Bool.and_eq_true, List.all_eq_true] at h
  rcases @Url.mem_part '.' c text hc with rfl | ⟨part, hpart, hmem⟩
  · rfl
  · apply isUnreserved_of_alphanum
    rw [Char.isAlphanum, (h.2 part hpart).1.2 c hmem, Bool.or_true]

theorem isUnreserved_of_isLabel {label : Chars} (h : isLabel label = true) :
    ∀ c ∈ label, Url.isUnreserved c = true := by
  intro c hc
  simp only [isLabel, Bool.and_eq_true, List.all_eq_true, Bool.or_eq_true,
    decide_eq_true_eq] at h
  rcases h.2 c hc with halphanum | rfl
  · exact isUnreserved_of_alphanum halphanum
  · rfl

theorem isUnreserved_of_isHostname {text : Chars} (h : isHostname text = true) :
    ∀ c ∈ text, Url.isUnreserved c = true := by
  intro c hc
  simp only [isHostname, Bool.and_eq_true, List.all_eq_true] at h
  rcases @Url.mem_part '.' c text hc with rfl | ⟨part, hpart, hmem⟩
  · rfl
  · refine isUnreserved_of_isLabel (h.1 part ?_) c hmem
    split
    next hlast =>
      -- the part after the last dot is empty
      have hne : text.splitOn '.' ≠ [] := List.ne_nil_of_mem hpart
      have hconcat := List.dropLast_append_getLast? [] hlast.2
      rw [← hconcat, List.mem_append, List.mem_singleton] at hpart
      rcases hpart with hpart | rfl
      · exact hpart
      · cases hmem
    next => exact hpart

theorem valid_of_name {text : Chars} (h : (isIpv4 text || isHostname text) = true) :
    (Url.Host.name text).Valid := by
  rw [Bool.or_eq_true] at h
  refine ⟨?_, h.elim isUnreserved_of_isIpv4 isUnreserved_of_isHostname⟩
  rintro rfl
  revert h
  decide

theorem splitHost_some {text host rest : Chars} (h : splitHost text = some (host, rest)) :
    text = host ++ rest ∧ ((Url.Host.name host).Valid ∨
      ∃ address, host = (Url.Host.bracketed address).text ∧ ']' ∉ address ∧
        isIpv6Reference address = true) := by
  unfold splitHost at h
  split at h
  next text =>
    rcases Text.partition_cases ']' text with ⟨-, hcut⟩ | ⟨address, after, rfl, hnot, hcut⟩
    · rw [hcut] at h
      cases h
    · rw [hcut] at h
      simp only at h
      split at h
      next haddress =>
        cases h
        refine ⟨by simp, Or.inr ⟨address, rfl, hnot, haddress⟩⟩
      next => cases h
  next =>
    simp only at h
    split at h
    next hname =>
      cases h
      exact ⟨(List.takeWhile_append_dropWhile).symm, Or.inl (valid_of_name hname)⟩
    next => cases h

theorem hasServer_of_server {name userInfo host digits : Chars}
    (h : server name = some ⟨some userInfo, host, some digits⟩) :
    HasServer name userInfo host digits := by
  unfold server at h
  generalize hsplit : splitUserInfo name = pieces at h
  obtain ⟨userInfo', rest⟩ := pieces
  simp only at h
  split at h
  · cases h
  next hlegal =>
    obtain ⟨⟨host', rest'⟩, hhost, h⟩ := Option.bind_eq_some_iff.mp h
    obtain ⟨port', hport, h⟩ := Option.bind_eq_some_iff.mp h
    cases h
    change port rest' = some (some digits) at hport
    obtain ⟨hname, hat⟩ := splitUserInfo_some hsplit
    obtain ⟨hrest, hvalid⟩ := splitHost_some hhost
    obtain ⟨hrest', hne, hall, hle⟩ := port_some hport
    exact {
      name_eq := by rw [hname, hrest, hrest']; rfl
      user_at := hat
      user_legal := not_not.mp hlegal
      digits_ne := hne
      digits_all := hall
      le := hle
      host := hvalid }

/-! ## Escaped octets -/

theorem legal_percent {ok : Char → Bool} (hok : ok '%' = false) {cs : Chars}
    (h : legal ok ('%' :: cs) = true) : ∃ p q ds, cs = p :: q :: ds ∧
      (Hex.value p).isSome = true ∧ (Hex.value q).isSome = true ∧ legal ok ds = true := by
  have hnot : (ok '%' || isOther '%') = false := by
    rw [hok]
    rfl
  match cs with
  | [] => simp [legal, hnot] at h
  | [p] => simp [legal, hnot] at h
  | p :: q :: ds =>
    rw [legal, Bool.and_eq_true, Bool.and_eq_true] at h
    exact ⟨p, q, ds, rfl, h.1.1, h.1.2, h.2⟩

theorem legal_cons {ok : Char → Bool} {c : Char} {cs : Chars} (hc : c ≠ '%') :
    legal ok (c :: cs) = ((ok c || isOther c) && legal ok cs) := by
  rw [legal]
  rintro p q ds rfl
  exact absurd rfl hc

/-- A separator does not stand inside an escaped octet. -/
theorem legal_append {ok : Char → Bool} (hok : ok '%' = false) {sep : Char} (hpercent : sep ≠ '%')
    (hhex : Hex.value sep = none) {before after : Chars}
    (h : legal ok (before ++ sep :: after) = true) :
    legal ok before = true ∧ legal ok after = true := by
  induction before using legal.induct with
  | case1 =>
    rw [List.nil_append, legal_cons hpercent, Bool.and_eq_true] at h
    exact ⟨rfl, h.2⟩
  | case2 p q cs ih =>
    obtain ⟨p', q', ds, hcs, hp, hq, hds⟩ := legal_percent hok h
    cases hcs
    obtain ⟨hbefore, hafter⟩ := ih hds
    refine ⟨?_, hafter⟩
    rw [legal, hp, hq, hbefore]
    rfl
  | case3 c cs hnot ih =>
    by_cases hc : c = '%'
    · -- the separator would be a digit
      subst hc
      obtain ⟨p, q, ds, hcs, hp, hq, -⟩ := legal_percent hok h
      match cs with
      | [] =>
        cases hcs
        rw [hhex] at hp
        cases hp
      | [c] =>
        cases hcs
        rw [hhex] at hq
        cases hq
      | c :: c' :: cs => exact (hnot c c' cs rfl rfl).elim
    · rw [List.cons_append, legal_cons hc, Bool.and_eq_true] at h
      obtain ⟨hbefore, hafter⟩ := ih h.2
      rw [legal_cons hc, h.1, hbefore]
      exact ⟨rfl, hafter⟩

theorem legal_splitOn {ok : Char → Bool} (hok : ok '%' = false) {sep : Char} (hpercent : sep ≠ '%')
    (hhex : Hex.value sep = none) {text : Chars} (h : legal ok text = true) :
    ∀ part ∈ text.splitOn sep, legal ok part = true := by
  have hparts : ∀ parts : List Chars, legal ok ([sep].intercalate parts) = true →
      ∀ part ∈ parts, legal ok part = true := by
    intro parts
    induction parts with
    | nil => nofun
    | cons part parts ih =>
      intro hlegal
      cases parts with
      | nil =>
        rw [List.intercalate_singleton] at hlegal
        exact List.forall_mem_cons.mpr ⟨hlegal, nofun⟩
      | cons part' parts =>
        rw [List.intercalate_cons_cons, List.append_assoc] at hlegal
        obtain ⟨hpart, hrest⟩ := legal_append hok hpercent hhex hlegal
        exact List.forall_mem_cons.mpr ⟨hpart, ih hrest⟩
  refine hparts _ ?_
  rw [List.intercalate_splitOn]
  exact h

/-- Text whose escaped octets are complete is decoded. -/
theorem urlDecode_of_legal (platform : Platform) {ok : Char → Bool} (hok : ok '%' = false)
    {text : Chars} (h : legal ok text = true) : ∃ decoded, urlDecode platform text = some decoded := by
  have hrun : ∀ octets, ∃ decoded, urlDecodeRun platform octets text = some decoded := by
    induction text using legal.induct with
    | case1 => exact fun octets => ⟨_, rfl⟩
    | case2 p q cs ih =>
      intro octets
      rw [legal, Bool.and_eq_true, Bool.and_eq_true] at h
      obtain ⟨high, hhigh⟩ := Option.isSome_iff_exists.mp h.1.1
      obtain ⟨low, hlow⟩ := Option.isSome_iff_exists.mp h.1.2
      rw [urlDecodeRun, hhigh, hlow]
      exact ih h.2 _
    | case3 c cs hnot ih =>
      intro octets
      by_cases hc : c = '%'
      · subst hc
        obtain ⟨p, q, ds, rfl, -⟩ := legal_percent hok h
        exact (hnot p q ds rfl rfl).elim
      · rw [legal_cons hc, Bool.and_eq_true] at h
        obtain ⟨decoded, hdecoded⟩ := ih h.2 []
        rw [urlDecodeRun, hdecoded]
        · exact ⟨_, rfl⟩
        · exact hnot
        · exact hc
  exact hrun []

end Java
