import Bimarz.Parsers.RoundTrip
import Bimarz.Url.Netloc

/-!
# The errors of the share-link parser

`urlsplit` looks at the authority of a URL alone, and what it raises leaves the parser as it is.
Every other failure of a library is translated.
-/

namespace Bimarz

open Effect
open Url (Unicode)

/-! ## What the parser raises -/

/-- The instances of `VlessParseError`. -/
def VlessError.IsVlessParseError : VlessError → Prop
  | .unsupported _ => True
  | .malformed _ => True
  | .valueError _ => False

instance : DecidablePred VlessError.IsVlessParseError := fun error => by
  cases error <;> unfold VlessError.IsVlessParseError <;> infer_instance

section Steps

variable (unicode : Unicode) (parsed : Url.SplitResult)

theorem checkScheme_raises :
    RaisesOnly VlessError.IsVlessParseError (checkScheme unicode parsed) :=
  raisesOnly_check trivial (raisesOnly_ok ())

theorem linkHostname_raises :
    RaisesOnly VlessError.IsVlessParseError (linkHostname unicode parsed) := by
  unfold linkHostname
  split
  · exact raisesOnly_ok _
  · exact raisesOnly_error_iff.mpr trivial

theorem linkUuid_raises : RaisesOnly VlessError.IsVlessParseError (linkUuid parsed) := by
  simp only [linkUuid]
  refine raisesOnly_check trivial ?_
  split
  · exact raisesOnly_ok _
  · exact raisesOnly_error_iff.mpr trivial

/-- The `ValueError` of `.port` is translated. -/
theorem linkPort_raises : RaisesOnly VlessError.IsVlessParseError (linkPort parsed) := by
  unfold linkPort
  split
  · exact raisesOnly_error_iff.mpr trivial
  · simp only
    split
    · exact raisesOnly_ok _
    · exact raisesOnly_error_iff.mpr trivial

theorem linkOutbound_raises (query : Query) (hostname : String) (parsedUuid : Uuid) (port : ℕ) :
    RaisesOnly VlessError.IsVlessParseError
      (linkOutbound unicode query hostname parsedUuid port) := by
  simp only [linkOutbound]
  refine raisesOnly_check trivial ?_
  refine raisesOnly_check trivial ?_
  refine raisesOnly_check trivial ?_
  exact raisesOnly_ok _

end Steps

/-- What `urlparse` raises is the first thing that the parser meets; after it every failure is
translated. -/
theorem parse_raises_iff (unicode : Unicode) (link profileId addedAtIso : String) :
    RaisesOnly VlessError.IsVlessParseError (parseVlessLink unicode link profileId addedAtIso) ↔
      RaisesOnly VlessError.IsVlessParseError (linkUrl unicode link) := by
  constructor
  · intro h error hurl
    refine h error ?_
    unfold parseVlessLink
    rw [hurl]
    rfl
  · intro h
    refine raisesOnly_bind h fun parsed _ => ?_
    refine raisesOnly_bind (checkScheme_raises unicode parsed) fun _ _ => ?_
    refine raisesOnly_bind (linkHostname_raises unicode parsed) fun hostname _ => ?_
    refine raisesOnly_bind (linkUuid_raises parsed) fun parsedUuid _ => ?_
    refine raisesOnly_bind (linkPort_raises parsed) fun port _ => ?_
    refine raisesOnly_bind (linkOutbound_raises unicode _ hostname parsedUuid port)
      fun outbound _ => ?_
    exact raisesOnly_ok _

/-- The authority that `urlparse` finds in the stripped link. -/
def linkNetloc (link : String) : Url.Chars := (Url.splitParts (Python.strip link).toList).netloc

theorem linkUrl_raises_iff (unicode : Unicode) (link : String) :
    RaisesOnly VlessError.IsVlessParseError (linkUrl unicode link) ↔
      Url.AllowedNetloc unicode (linkNetloc link) := by
  unfold linkUrl linkNetloc
  by_cases hempty : Python.strip link = ""
  · have hnetloc : (Url.splitParts "".toList).netloc = [] := by decide
    simp only [hempty, if_true, hnetloc]
    exact iff_of_true (raisesOnly_error_iff.mpr trivial) Url.allowedNetloc_nil
  · simp only [if_neg hempty]
    constructor
    · intro h
      cases hurl : Url.urlsplit unicode (Python.strip link).toList with
      | error error =>
        rw [hurl] at h
        exact (raisesOnly_error_iff.mp h).elim
      | ok parsed => exact ((Url.urlsplit_eq_ok_iff _ _ _).mp hurl).1
    · intro h
      rw [(Url.urlsplit_eq_ok_iff _ _ _).mpr ⟨h, rfl⟩]
      exact raisesOnly_ok _

/-- The parser fails with its own errors exactly on the links whose authority `urlparse` takes. -/
theorem own_errors_iff (unicode : Unicode) (link profileId addedAtIso : String) :
    (∀ error, parseVlessLink unicode link profileId addedAtIso = .error error →
        error.IsVlessParseError) ↔
      Url.AllowedNetloc unicode (linkNetloc link) := by
  rw [← linkUrl_raises_iff, ← parse_raises_iff unicode link profileId addedAtIso]
  rfl

/-- An opening bracket alone. -/
theorem unclosed_bracket_raises :
    parseVlessLink asciiUnicode "vless://[::1" "7f" "2026-01-01" =
        .error (.valueError .invalidIpv6Url) ∧
      ¬(VlessError.valueError .invalidIpv6Url).IsVlessParseError := by
  refine ⟨?_, id⟩
  have hurl : linkUrl asciiUnicode "vless://[::1" = .error (.valueError .invalidIpv6Url) := by
    decide
  unfold parseVlessLink
  rw [hurl]
  rfl

end Bimarz
