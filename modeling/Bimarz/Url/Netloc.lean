import Bimarz.Effect.Except
import Bimarz.Url.Split
import Mathlib.Data.List.TakeWhile

/-!
# The authorities that `urlsplit` takes

`urlsplit` takes a URL apart and then looks at its authority alone: at the brackets, and at the
characters that NFKC would bring in.
-/

namespace Url

/-- What may stand between the brackets of an authority. -/
inductive BracketedHost : Chars → Prop
  | ipvFuture {version rest : Chars} : version ≠ [] →
      (∀ c ∈ version, (Hex.value c).isSome = true) → rest ≠ [] →
      BracketedHost ('v' :: (version ++ '.' :: rest))
  | ipv6 {address : Chars} : address.head? ≠ some 'v' → ipAddress address = some .v6 →
      BracketedHost address

/-- The text of an authority whose characters NFKC folds. -/
def foldable (netloc : Chars) : Chars :=
  netloc.filter fun c => c ≠ '@' ∧ c ≠ ':' ∧ c ≠ '#' ∧ c ≠ '?'

/-- The characters that NFKC must not bring into an authority. -/
def endsHost (c : Char) : Bool := isDelimiter c || c = '@' || c = ':'

structure AllowedNetloc (unicode : Unicode) (netloc : Chars) : Prop where
  balanced : '[' ∈ netloc ↔ ']' ∈ netloc
  bracketed : '[' ∈ netloc →
    BracketedHost (Text.partition ']' (Text.partition '[' netloc).2.2).1
  folded : (∀ c ∈ netloc, isAscii c = true) ∨
    ∀ c ∈ unicode.nfkc (foldable netloc), endsHost c = false

/-- The authority and what follows it. -/
def splitNetloc : Chars → Chars × Chars
  | '/' :: '/' :: url =>
    (url.takeWhile fun c => !isDelimiter c, url.dropWhile fun c => !isDelimiter c)
  | url => ([], url)

/-- The parts of a URL before `urlsplit` looks at its authority. -/
def splitParts (url : Chars) : SplitResult :=
  let url := (url.dropWhile fun c => c.toNat ≤ 32).filter fun c => !isUnsafe c
  let netloc := splitNetloc (splitScheme url).2
  let fragment := splitOnce '#' netloc.2
  let query := splitOnce '?' fragment.1
  { scheme := (splitScheme url).1
    netloc := netloc.1
    path := query.1
    query := query.2
    fragment := fragment.2 }

theorem not_delimiter_splitNetloc (url : Chars) :
    ∀ c ∈ (splitNetloc url).1, isDelimiter c = false := by
  intro c hc
  unfold splitNetloc at hc
  split at hc
  · simpa using List.mem_takeWhile_imp hc
  · cases hc

theorem allowedNetloc_nil {unicode : Unicode} : AllowedNetloc unicode [] where
  balanced := by simp
  bracketed := by simp
  folded := Or.inl (by simp)

/-- A hexadecimal prefix is cut off where the dot stands. -/
theorem takeWhile_version {version : Chars} (h : ∀ c ∈ version, (Hex.value c).isSome = true)
    (rest : Chars) :
    ((version ++ '.' :: rest).takeWhile fun c => (Hex.value c).isSome) = version ∧
      ((version ++ '.' :: rest).dropWhile fun c => (Hex.value c).isSome) = '.' :: rest := by
  constructor
  · rw [List.takeWhile_append_of_pos h, List.takeWhile_cons_of_neg (by decide), List.append_nil]
  · rw [List.dropWhile_append_of_pos h, List.dropWhile_cons_of_neg (by decide)]

theorem checkBracketedHost_eq_ok_iff (hostname : Chars) :
    checkBracketedHost hostname = .ok () ↔ BracketedHost hostname := by
  unfold checkBracketedHost
  by_cases hv : hostname.head? = some 'v'
  · rw [if_pos hv]
    obtain ⟨cs, rfl⟩ : ∃ cs, hostname = 'v' :: cs :=
      ⟨hostname.tail, List.eq_cons_of_mem_head? hv⟩
    constructor
    · intro h
      simp only [List.tail_cons] at h
      split at h
      · rename_i c rest hdrop
        obtain ⟨hversion, -⟩ := Effect.check_eq_ok_iff.mp h
        have hhex : ∀ c ∈ cs.takeWhile fun c => (Hex.value c).isSome,
            (Hex.value c).isSome = true := fun c hc =>
          @List.mem_takeWhile_imp Char (fun c => (Hex.value c).isSome) cs c hc
        have hcut := @List.takeWhile_append_dropWhile Char (fun c => (Hex.value c).isSome) cs
        rw [hdrop] at hcut
        rw [← hcut]
        exact .ipvFuture hversion hhex (List.cons_ne_nil _ _)
      · cases h
    · intro h
      cases h with
      | ipvFuture hversion hhex hrest =>
        rename_i version rest
        obtain ⟨htake, hdrop⟩ := takeWhile_version hhex rest
        obtain ⟨c, rest, rfl⟩ := List.exists_cons_of_ne_nil hrest
        simp only [List.tail_cons, htake, hdrop]
        rw [if_neg hversion]
      | ipv6 hhead _ => exact absurd hv hhead
  · rw [if_neg hv]
    constructor
    · intro h
      split at h
      · rename_i haddress
        exact .ipv6 hv haddress
      · cases h
      · cases h
    · intro h
      cases h with
      | ipvFuture => exact absurd rfl hv
      | ipv6 _ haddress => rw [haddress]

theorem checkBrackets_eq_ok_iff (netloc : Chars) :
    checkBrackets netloc = .ok () ↔
      ('[' ∈ netloc ↔ ']' ∈ netloc) ∧
        ('[' ∈ netloc → BracketedHost (Text.partition ']' (Text.partition '[' netloc).2.2).1) := by
  unfold checkBrackets
  rw [Effect.check_eq_ok_iff]
  by_cases hopen : '[' ∈ netloc
  · rw [if_pos hopen, checkBracketedHost_eq_ok_iff]
    simp [hopen]
  · rw [if_neg hopen]
    simp [hopen]

/-- Folding that changes nothing brings nothing in. -/
theorem not_endsHost_foldable {netloc : Chars} (h : ∀ c ∈ netloc, isDelimiter c = false) :
    ∀ c ∈ foldable netloc, endsHost c = false := by
  intro c hc
  obtain ⟨hmem, hkept⟩ := List.mem_filter.mp hc
  simp only [decide_eq_true_eq] at hkept
  simp [endsHost, h c hmem, hkept.1, hkept.2.1]

theorem checkNetloc_eq_ok_iff (unicode : Unicode) {netloc : Chars}
    (h : ∀ c ∈ netloc, isDelimiter c = false) :
    checkNetloc unicode netloc = .ok () ↔
      (∀ c ∈ netloc, isAscii c = true) ∨
        ∀ c ∈ unicode.nfkc (foldable netloc), endsHost c = false := by
  have hfold : (netloc.filter fun c => c ≠ '@' ∧ c ≠ ':' ∧ c ≠ '#' ∧ c ≠ '?') = foldable netloc :=
    rfl
  unfold checkNetloc
  simp only [hfold, ← List.all_eq_true (p := isAscii)]
  by_cases hascii : netloc.all isAscii = true
  · rw [if_pos hascii]
    simp [hascii]
  · rw [if_neg hascii]
    rw [or_iff_right hascii]
    by_cases hsame : unicode.nfkc (foldable netloc) = foldable netloc
    · rw [if_pos hsame, hsame]
      exact iff_of_true rfl (not_endsHost_foldable h)
    · rw [if_neg hsame]
      have hany : ((unicode.nfkc (foldable netloc)).any
            fun c => isDelimiter c || c = '@' || c = ':') = true ↔
          ¬∀ c ∈ unicode.nfkc (foldable netloc), endsHost c = false := by
        rw [List.any_eq_true]
        simp only [endsHost, not_forall, Bool.not_eq_false, exists_prop]
      rw [Effect.check_eq_ok_iff, hany, not_not]
      simp

/-- `urlsplit` looks at the authority alone. -/
theorem urlsplit_eq_ok_iff (unicode : Unicode) (url : Chars) (parsed : SplitResult) :
    urlsplit unicode url = .ok parsed ↔
      AllowedNetloc unicode (splitParts url).netloc ∧ splitParts url = parsed := by
  have hsplit : urlsplit unicode url = (do
      checkBrackets (splitParts url).netloc
      checkNetloc unicode (splitParts url).netloc
      return splitParts url) := rfl
  rw [hsplit]
  simp only [Effect.bind_eq_ok_iff]
  constructor
  · rintro ⟨⟨⟩, hbrackets, ⟨⟩, hnetloc, hparsed⟩
    cases hparsed
    obtain ⟨hbalanced, hbracketed⟩ := (checkBrackets_eq_ok_iff _).mp hbrackets
    have hfolded := (checkNetloc_eq_ok_iff unicode (not_delimiter_splitNetloc _)).mp hnetloc
    exact ⟨⟨hbalanced, hbracketed, hfolded⟩, rfl⟩
  · rintro ⟨⟨hbalanced, hbracketed, hfolded⟩, rfl⟩
    exact ⟨(), (checkBrackets_eq_ok_iff _).mpr ⟨hbalanced, hbracketed⟩, (),
      (checkNetloc_eq_ok_iff unicode (not_delimiter_splitNetloc _)).mpr hfolded, rfl⟩

end Url
