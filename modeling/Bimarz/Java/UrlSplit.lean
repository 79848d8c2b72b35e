import Bimarz.Java.UriText
import Bimarz.Url.Netloc

/-!
# The same text for `urlsplit`

Where `java.net.URI` finds a server with user information and a port, `urlsplit` finds the same
authority, query and fragment, and the user name, the host and the port are those of the server.
-/

namespace Java

open Url (Chars IsPrintable decimal SplitResult Unicode)

/-! ## The parts -/

section Parts

variable {text scheme name path userInfo host digits : Chars} {query fragment : Option Chars}
  {s : Server}

theorem HasServer.visible (h : HasServer name userInfo host digits) : ∀ c ∈ name, IsVisible c := by
  have hhost : ∀ c ∈ host, IsPrintable c := by
    intro c hc
    rcases h.host with hname | ⟨address, rfl, -, haddress⟩
    · exact Url.isPrintable_of_unreserved (hname.2 c hc)
    · rw [Url.Host.text, List.mem_cons, List.mem_append, List.mem_singleton] at hc
      rcases hc with rfl | hc | rfl
      · decide
      · exact isPrintable_of_addressChar (isAddressChar_of_isIpv6Reference haddress c hc)
      · decide
  intro c hc
  rw [h.name_eq, Url.authority, List.mem_append, List.mem_cons, List.mem_append,
    List.mem_cons] at hc
  rcases hc with hc | rfl | hc | rfl | hc
  · exact isVisible_of_legal (fun _ => isPrintable_of_userInfoChar) h.user_legal c hc
  · exact isVisible_of_printable (by decide)
  · exact isVisible_of_printable (hhost c hc)
  · exact isVisible_of_printable (by decide)
  · refine isVisible_of_printable (isPrintable_of_alphanum ?_)
    rw [Char.isAlphanum, List.all_eq_true.mp h.digits_all c hc, Bool.or_true]

theorem isVisible_of_tagged {sep : Char} {part : Option Chars} (hsep : IsVisible sep)
    (h : ∀ text ∈ part, legal isUric text = true) : ∀ c ∈ tagged sep part, IsVisible c := by
  cases part with
  | none => nofun
  | some part =>
    exact List.forall_mem_cons.mpr
      ⟨hsep, isVisible_of_legal (fun _ => isPrintable_of_uric) (h part rfl)⟩

/-- The characters of a URI. -/
theorem HasParts.visible (h : HasParts text scheme name path query fragment s)
    (hs : HasServer name userInfo host digits) : ∀ c ∈ text, IsVisible c := by
  have hcolon : IsVisible ':' := isVisible_of_printable (by decide)
  have hslash : IsVisible '/' := isVisible_of_printable (by decide)
  have hquestion : IsVisible '?' := isVisible_of_printable (by decide)
  have hhash : IsVisible '#' := isVisible_of_printable (by decide)
  intro c hc
  simp only [h.text_eq, List.mem_append, List.mem_cons] at hc
  rcases hc with hc | rfl | rfl | rfl | hc | hc | hc | hc
  · exact isVisible_of_printable
      (isPrintable_of_schemeChar (List.all_eq_true.mp h.scheme_chars c hc))
  · exact hcolon
  · exact hslash
  · exact hslash
  · exact hs.visible c hc
  · exact isVisible_of_legal (fun _ => isPrintable_of_pathChar) h.path_chars.2.2 c hc
  · exact isVisible_of_tagged hquestion (fun text htext => (h.query_chars text htext).2) c hc
  · exact isVisible_of_tagged hhash h.fragment_chars c hc

theorem splitOnce_tagged {sep : Char} {before : Chars} (h : sep ∉ before) (after : Option Chars) :
    Url.splitOnce sep (before ++ tagged sep after) = (before, after.getD []) := by
  cases after with
  | some after => exact Url.splitOnce_append h after
  | none =>
    unfold Url.splitOnce tagged
    rw [List.append_nil, Text.partition_of_not_mem h]
    rfl

/-- `urlsplit` takes the text apart in the same way. -/
theorem HasParts.splitParts_eq (h : HasParts text scheme name path query fragment s)
    (hs : HasServer name userInfo host digits) :
    Url.splitParts text =
      ⟨scheme.map Char.toLower, name, path, query.getD [], fragment.getD []⟩ := by
  have hvisible := Url.filter_visible fun c hc => (h.visible hs c hc).lt
  have hcolon : ':' ∉ scheme := by
    intro hmem
    have := List.all_eq_true.mp h.scheme_chars _ hmem
    revert this
    decide
  have hscheme : ∀ rest,
      Url.splitScheme (scheme ++ ':' :: rest) = (scheme.map Char.toLower, rest) := by
    intro rest
    unfold Url.splitScheme
    rw [Text.partition_append hcolon]
    exact if_pos (by rw [h.scheme_head, Bool.true_and]; exact h.scheme_chars)
  have hrest : ∀ c ∈ (path ++ (tagged '?' query ++ tagged '#' fragment)).head?,
      Url.isDelimiter c = true := by
    rcases h.path_head with rfl | hslash
    · cases query with
      | some query =>
        rintro c ⟨⟩
        rfl
      | none =>
        cases fragment with
        | some fragment =>
          rintro c ⟨⟩
          rfl
        | none => nofun
    · cases path with
      | nil => cases hslash
      | cons c path =>
        cases hslash
        rintro c ⟨⟩
        rfl
  have hname : ∀ c ∈ name, (!Url.isDelimiter c) = true := fun c hc => by
    rw [show Url.isDelimiter c = isDelimiter c from rfl, h.name_chars c hc]
    rfl
  have hnetloc : ∀ rest : Chars, (∀ c ∈ rest.head?, Url.isDelimiter c = true) →
      Url.splitNetloc ('/' :: '/' :: (name ++ rest)) = (name, rest) := by
    intro rest hhead
    show ((name ++ rest).takeWhile fun c => !Url.isDelimiter c,
      (name ++ rest).dropWhile fun c => !Url.isDelimiter c) = (name, rest)
    rw [List.takeWhile_append_of_pos hname, List.dropWhile_append_of_pos hname]
    cases rest with
    | nil => rw [List.takeWhile_nil, List.dropWhile_nil, List.append_nil]
    | cons c rest =>
      have hc : Url.isDelimiter c = true := hhead c rfl
      simp [hc]
  have hhash : '#' ∉ path ++ tagged '?' query := by
    rw [List.mem_append, not_or]
    refine ⟨h.path_chars.2.1, ?_⟩
    cases query with
    | none => exact List.not_mem_nil
    | some query =>
      rw [tagged, List.mem_cons, not_or]
      exact ⟨by decide, (h.query_chars query rfl).1⟩
  have hfragment : Url.splitOnce '#' (path ++ (tagged '?' query ++ tagged '#' fragment)) =
      (path ++ tagged '?' query, fragment.getD []) := by
    rw [← List.append_assoc]
    exact splitOnce_tagged hhash fragment
  unfold Url.splitParts
  simp only [hvisible]
  simp only [h.text_eq, hscheme, hnetloc _ hrest, hfragment, splitOnce_tagged h.path_chars.1]

end Parts

/-! ## The server -/

section Server

variable {unicode : Unicode} {scheme name path query fragment userInfo host digits : Chars}

/-- An authority as a part of a URL. -/
theorem not_mem_of_digits (h : digits.all Char.isDigit = true) {c : Char} (hc : c.isDigit = false) :
    c ∉ digits := by
  intro hmem
  rw [List.all_eq_true.mp h c hmem] at hc
  cases hc

theorem not_mem_of_addressChar {address : Chars} (h : isIpv6Reference address = true) {c : Char}
    (hc : ¬IsAddressChar c) : c ∉ address :=
  fun hmem => hc (isAddressChar_of_isIpv6Reference h c hmem)

theorem not_isAddressChar {c : Char} (hhex : Hex.value c = none) (hcolon : c ≠ ':')
    (hdot : c ≠ '.') (hpercent : c ≠ '%') (hscope : isScopeChar c = false) : ¬IsAddressChar c := by
  rintro ((h | h | h) | h | h)
  · rw [hhex] at h
    cases h
  · exact hcolon h
  · exact hdot h
  · exact hpercent h
  · rw [hscope] at h
    cases h

theorem HasServer.at_not_mem (h : HasServer name userInfo host digits) :
    '@' ∉ host ++ ':' :: digits := by
  have hdigits := not_mem_of_digits h.digits_all (c := '@') rfl
  rcases h.host with hname | ⟨address, rfl, -, haddress⟩
  · exact Url.at_not_mem hname hdigits
  · have hnot := not_mem_of_addressChar haddress (c := '@')
      (not_isAddressChar (by decide) (by decide) (by decide) (by decide) (by decide))
    simpa [Url.Host.text, hdigits] using hnot

theorem HasServer.username_eq (h : HasServer name userInfo host digits) :
    SplitResult.username ⟨scheme, name, path, query, fragment⟩ =
      some (Text.partition ':' userInfo).1 := by
  unfold SplitResult.username
  simp only [h.name_eq, Url.authority, Text.rpartition_append h.at_not_mem]

theorem HasServer.hostinfo_eq (h : HasServer name userInfo host digits)
    (scheme path query fragment : Chars) :
    SplitResult.hostinfo ⟨scheme, name, path, query, fragment⟩ = (host, digits) ∧
        (Url.Host.name host).Valid ∨
      ∃ address, host = (Url.Host.bracketed address).text ∧ isIpv6Reference address = true ∧
        SplitResult.hostinfo ⟨scheme, name, path, query, fragment⟩ = (address, digits) := by
  rcases h.host with hname | ⟨address, rfl, hbracket, haddress⟩
  · left
    refine ⟨?_, hname⟩
    rw [h.name_eq]
    exact Url.hostinfo_authority hname (not_mem_of_digits h.digits_all rfl)
      (not_mem_of_digits h.digits_all rfl)
  · right
    refine ⟨address, rfl, haddress, ?_⟩
    have htext : (Url.Host.bracketed address).text ++ ':' :: digits =
        [] ++ '[' :: (address ++ ']' :: ([] ++ ':' :: digits)) := by simp [Url.Host.text]
    unfold SplitResult.hostinfo
    simp only [h.name_eq, Url.authority, Text.rpartition_append h.at_not_mem]
    simp only [htext, Text.partition_append (List.not_mem_nil (a := '[')),
      Text.partition_append hbracket, Text.partition_append (List.not_mem_nil (a := ':'))]

theorem HasServer.port_eq_ok_iff (h : HasServer name userInfo host digits) {port : Option ℕ} :
    SplitResult.port ⟨scheme, name, path, query, fragment⟩ = .ok port ↔
      (decimal digits ≤ 65535 ∧ digits.length ≤ Url.maxStrDigits) ∧
        some (decimal digits) = port := by
  have hinfo : (SplitResult.hostinfo ⟨scheme, name, path, query, fragment⟩).2 = digits := by
    rcases h.hostinfo_eq scheme path query fragment with ⟨hinfo, -⟩ | ⟨address, -, -, hinfo⟩
    · rw [hinfo]
    · rw [hinfo]
  unfold SplitResult.port
  simp only [hinfo, if_neg h.digits_ne, Effect.check_eq_ok_iff, h.digits_all, not_true_eq_false,
    false_or, not_lt, Except.ok.injEq]
  constructor
  · rintro ⟨hlength, hrange, heq⟩
    exact ⟨⟨hrange, hlength⟩, heq⟩
  · rintro ⟨⟨hrange, hlength⟩, heq⟩
    exact ⟨hlength, hrange, heq⟩

theorem HasServer.hostname_of_name (hunicode : unicode.Lawful)
    (h : HasServer name userInfo host digits) (hname : (Url.Host.name host).Valid) :
    SplitResult.hostname unicode ⟨scheme, name, path, query, fragment⟩ =
      some (host.map Char.toLower) := by
  rw [h.name_eq]
  exact @Url.hostname_authority userInfo digits (.name host) unicode hunicode _ _ _ _ hname
    (not_mem_of_digits h.digits_all rfl) (not_mem_of_digits h.digits_all rfl)

theorem eq_of_toLower {c : Char} (hascii : Url.isAscii c = true) (h : c.toLower = '[') :
    c = '[' := by
  have hall : ∀ n < 128, (Char.ofNat n).toLower = '[' → Char.ofNat n = '[' := by decide
  have hc := hall c.toNat (of_decide_eq_true hascii)
  rw [Char.ofNat_toNat] at hc
  exact hc h

/-- The host of a link with an IPv6 address comes without brackets. -/
theorem HasServer.hostname_ne_bracketed (hunicode : unicode.Lawful)
    (h : HasServer name userInfo host digits) (hname : ¬(Url.Host.name host).Valid) {cs : Chars}
    (hcs : SplitResult.hostname unicode ⟨scheme, name, path, query, fragment⟩ = some cs) :
    cs ≠ host := by
  rcases h.hostinfo_eq scheme path query fragment with
    ⟨-, hvalid⟩ | ⟨address, rfl, haddress, hinfo⟩
  · exact absurd hvalid hname
  rintro rfl
  have hbracket : '[' ∉ address := not_mem_of_addressChar haddress
    (not_isAddressChar (by decide) (by decide) (by decide) (by decide) (by decide))
  have hlower : ∀ part : Chars, (∀ c ∈ part, c ∈ address) → '[' ∉ unicode.lower part := by
    intro part hpart hmem
    have hascii : ∀ c ∈ part, Url.isAscii c = true := fun c hc => Url.isAscii_of_printable
      (isPrintable_of_addressChar (isAddressChar_of_isIpv6Reference haddress c (hpart c hc)))
    rw [hunicode.lower part hascii] at hmem
    obtain ⟨c, hc, heq⟩ := List.mem_map.mp hmem
    rw [eq_of_toLower (hascii c hc) heq] at hc
    exact hbracket (hpart _ hc)
  have hmem : '[' ∈ (Url.Host.bracketed address).text := List.mem_cons_self
  unfold SplitResult.hostname at hcs
  rw [hinfo] at hcs
  simp only at hcs
  split at hcs
  · cases hcs
  · rcases Text.partition_cases '%' address with ⟨-, hcut⟩ | ⟨before, after, heq, -, hcut⟩
    · rw [hcut] at hcs
      rw [← Option.some.inj hcs] at hmem
      exact hlower address (fun _ => id) hmem
    · rw [hcut] at hcs
      rw [← Option.some.inj hcs, List.mem_append, List.mem_cons] at hmem
      rcases hmem with hmem | hmem | hmem
      · refine hlower before (fun c hc => ?_) hmem
        rw [heq]
        exact List.mem_append_left _ hc
      · cases hmem
      · refine hbracket ?_
        rw [heq]
        exact List.mem_append_right _ (List.mem_cons_of_mem _ hmem)

end Server

/-! ## Decoding -/

section Decoding

variable {platform : Platform}

/-- Octets that nothing is replaced in. -/
theorem flush_eq (h : platform.Lawful) {octets : Bytes} (hkept : replacement ∉ flush platform octets) :
    octets = Utf8.encodeChars (flush platform octets) := by
  unfold flush at hkept ⊢
  split
  next hnil => rw [hnil]; rfl
  next hne =>
    rw [if_neg hne] at hkept
    obtain ⟨cs, rfl⟩ : ∃ cs, octets = Utf8.encodeChars cs := by
      by_contra hmalformed
      exact hkept (h.malformed octets fun cs heq => hmalformed ⟨cs, heq⟩)
    rw [h.utf8]

/-- Where nothing is replaced, the characters are those that the octets stand for. -/
theorem decode_eq (h : platform.Lawful) {octets : Bytes} {cs : Chars}
    (hkept : replacement ∉ decode platform octets cs) :
    octets ++ Url.unquoteToBytes cs = Utf8.encodeChars (decode platform octets cs) := by
  have happend : ∀ before c after, replacement ∉ before ++ c :: after →
      replacement ∉ before ∧ replacement ∉ after := by
    intro before c after hnot
    rw [List.mem_append, List.mem_cons, not_or, not_or] at hnot
    exact ⟨hnot.1, hnot.2.2⟩
  have hencode : ∀ before c after, Utf8.encodeChars (before ++ c :: after) =
      Utf8.encodeChars before ++ (String.utf8EncodeChar c ++ Utf8.encodeChars after) := by
    intro before c after
    unfold Utf8.encodeChars
    rw [List.flatMap_append, List.flatMap_cons]
  induction octets, cs using decode.induct with
  | case1 octets =>
    rw [decode] at hkept ⊢
    rw [Url.unquoteToBytes, List.append_nil]
    exact flush_eq h hkept
  | case2 octets p q cs high low hlow hhigh ih =>
    rw [decode, hhigh, hlow] at hkept ⊢
    rw [Url.unquoteToBytes, hhigh, hlow]
    have hbytes := ih hkept
    rw [List.append_assoc] at hbytes
    exact hbytes
  | case3 octets p q cs hnot ih =>
    have hdecode : decode platform octets ('%' :: p :: q :: cs) =
        flush platform octets ++ '%' :: decode platform [] (p :: q :: cs) := by
      rw [decode]
      split
      next high low hhigh hlow => exact (hnot high low hhigh hlow).elim
      next => rfl
    have hbytes : Url.unquoteToBytes ('%' :: p :: q :: cs) =
        String.utf8EncodeChar '%' ++ Url.unquoteToBytes (p :: q :: cs) := by
      rw [Url.unquoteToBytes]
      split
      next high low hhigh hlow => exact (hnot high low hhigh hlow).elim
      next => rfl
    rw [hdecode] at hkept ⊢
    obtain ⟨hbefore, hafter⟩ := happend _ _ _ hkept
    rw [hbytes, hencode, ← ih hafter, ← flush_eq h hbefore, List.nil_append]
  | case4 octets c cs hnot ih =>
    have hdecode : decode platform octets (c :: cs) =
        flush platform octets ++ c :: decode platform [] cs := by
      rw [decode]
      exact hnot
    have hbytes : Url.unquoteToBytes (c :: cs) =
        String.utf8EncodeChar c ++ Url.unquoteToBytes cs := by
      rw [Url.unquoteToBytes]
      exact hnot
    rw [hdecode] at hkept ⊢
    obtain ⟨hbefore, hafter⟩ := happend _ _ _ hkept
    rw [hbytes, hencode, ← ih hafter, ← flush_eq h hbefore, List.nil_append]

/-- A character that is not part of an escaped octet is there after decoding. -/
theorem mem_decode {octets : Bytes} {cs : Chars} {c : Char} (hc : c ∈ cs) (hpercent : c ≠ '%')
    (hhex : Hex.value c = none) : c ∈ decode platform octets cs := by
  induction octets, cs using decode.induct with
  | case1 octets => cases hc
  | case2 octets p q cs high low hlow hhigh ih =>
    rw [decode, hhigh, hlow]
    simp only [List.mem_cons] at hc
    rcases hc with rfl | rfl | rfl | hc
    · exact absurd rfl hpercent
    · rw [hhex] at hhigh
      cases hhigh
    · rw [hhex] at hlow
      cases hlow
    · exact ih hc
  | case3 octets p q cs hnot ih =>
    rw [decode]
    split
    next high low hhigh hlow => exact (hnot high low hhigh hlow).elim
    next =>
      rcases List.mem_cons.mp hc with rfl | hc
      · exact absurd rfl hpercent
      · exact List.mem_append_right _ (List.mem_cons_of_mem _ (ih hc))
  | case4 octets c' cs hnot ih =>
    rw [decode]
    · rcases List.mem_cons.mp hc with rfl | hc
      · exact List.mem_append_right _ List.mem_cons_self
      · exact List.mem_append_right _ (List.mem_cons_of_mem _ (ih hc))
    · exact hnot

/-- An ASCII text without a replacement comes from an ASCII text, which `unquote` reads alike. -/
theorem unquote_of_decode (h : platform.Lawful) (cs : Chars)
    (hascii : ∀ c ∈ decode platform [] cs, Url.isAscii c = true) :
    (∀ c ∈ cs, Url.isAscii c = true) ∧ Url.unquote cs = decode platform [] cs := by
  have hkept : replacement ∉ decode platform [] cs := fun hmem => by
    have := hascii _ hmem
    revert this
    decide
  have hcs : ∀ c ∈ cs, Url.isAscii c = true := by
    intro c hc
    by_contra hnot
    have hpercent : c ≠ '%' := by
      rintro rfl
      exact hnot rfl
    have hhex : Hex.value c = none := by
      by_contra hsome
      have hprintable := isPrintable_of_hex (Option.isSome_iff_ne_none.mpr hsome)
      exact hnot (Url.isAscii_of_printable hprintable)
    exact hnot (hascii c (mem_decode hc hpercent hhex))
  refine ⟨hcs, ?_⟩
  have hbytes := decode_eq h hkept
  rw [List.nil_append] at hbytes
  rw [Url.unquote_of_ascii hcs, hbytes, Utf8.decodeReplace_encodeChars]

end Decoding

end Java
