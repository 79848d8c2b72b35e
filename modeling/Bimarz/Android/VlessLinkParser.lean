import Bimarz.Effect.Except
import Bimarz.Java.Uri

/-!
# The share-link parser of the Android app (`data/VlessLinkParser.kt`)

`parse` with the profile that it makes (`data/ServerProfile.kt`). The fresh id and the time of day
are arguments. Only the first of the two exceptions is the parser's own; the other one comes from
`URLDecoder`.
-/

namespace Bimarz.Android

open Url (Chars)
open Java (Platform Uri)

structure ServerProfile where
  profileId : String
  label : String
  tag : String
  uuid : String
  flow : String
  address : String
  port : Int32
  network : String
  sni : String
  fingerprint : String
  publicKeyB64 : String
  shortIdHex : String
  spiderX : String
  deriving DecidableEq

inductive ParseExc
  | vlessLinkParse (message : String)
  | illegalArgument
  deriving DecidableEq

namespace VlessLinkParser

section Parser

variable (platform : Platform)

def decodeComponent (value : Chars) : Except ParseExc Chars :=
  match Java.urlDecode platform value with
  | some text => .ok text
  | none => .error .illegalArgument

/-- The name and the value of a pair; a pair without an equals sign has none. -/
def parsePair (pair : Chars) : Except ParseExc (Option (Chars × Chars)) :=
  match Text.partition '=' pair with
  | (key, true, value) => do
    let key ← decodeComponent platform key
    let value ← decodeComponent platform value
    return some (key, value)
  | _ => .ok none

/-- The last value of a name is the one that counts. -/
def parseQuery (rawQuery : Chars) : Except ParseExc (Dict Chars Chars) :=
  if rawQuery = [] then .ok Dict.empty
  else do
    let pairs ← (rawQuery.splitOn '&').mapM (parsePair platform)
    return Dict.ofList pairs.reduceOption

/-- `params[key]`. -/
def param (params : Dict Chars Chars) (key : String) : Option String :=
  (params.get? key.toList).map String.ofList

/-- `value ?: throw VlessLinkParseException(message)`. -/
def orThrow {α : Type} (value : Option α) (message : String) : Except ParseExc α :=
  match value with
  | some a => .ok a
  | none => .error (.vlessLinkParse message)

/-- `URI(trimmed)`. -/
def linkUri (rawLink : String) : Except ParseExc Uri :=
  let trimmed := Java.trim rawLink.toList
  let message := platform.uriSyntaxMessage trimmed
  orThrow (Uri.ofText trimmed) s!"Malformed vless:// link: {message}"

def checkScheme (uri : Uri) : Except ParseExc Unit :=
  if uri.scheme.map platform.lowercase ≠ some "vless".toList then
    .error (.vlessLinkParse "Not a vless:// link")
  else .ok ()

/-- `params["security"]?.lowercase()`. -/
def security (params : Dict Chars Chars) : Option String :=
  (params.get? "security".toList).map fun value => String.ofList (platform.lowercase value)

def checkSecurity (params : Dict Chars Chars) : Except ParseExc Unit :=
  let shown := (security platform params).getD "null"
  if security platform params ≠ some "reality" then
    .error (.vlessLinkParse s!"Only VLESS+Reality is supported, got security={shown}")
  else .ok ()

/-- A component that is decoded once more, or the default if there is none. -/
def decodedOr (value : Option Chars) (default : String) : Except ParseExc String :=
  match value with
  | some value => (decodeComponent platform value).map String.ofList
  | none => .ok default

def parse (rawLink profileId : String) (currentTimeMillis : ℕ) :
    Except ParseExc ServerProfile := do
  let uri ← linkUri platform rawLink
  checkScheme platform uri
  let uuid ← orThrow (uri.userInfo platform) "Missing UUID before '@'"
  let address ← orThrow uri.host "Missing server address"
  let port ← orThrow (uri.port.filter fun port => 0 < port) "Missing or invalid port"
  let params ← parseQuery platform (uri.rawQuery.getD [])
  checkSecurity platform params
  let publicKeyB64 ← orThrow (param params "pbk") "Missing pbk (Reality public key)"
  let spiderX ← decodedOr platform (params.get? "spx".toList) ""
  let label ← decodedOr platform uri.rawFragment (String.ofList address)
  return {
    profileId := profileId
    label := label
    tag := s!"bimarz-{currentTimeMillis}"
    uuid := String.ofList uuid
    flow := (param params "flow").getD ""
    address := String.ofList address
    port := .ofNat port
    network := (param params "type").getD "tcp"
    sni := ((param params "sni").or (param params "peer")).getD ""
    fingerprint := (param params "fp").getD "chrome"
    publicKeyB64 := publicKeyB64
    shortIdHex := (param params "sid").getD ""
    spiderX := spiderX }

end Parser

end VlessLinkParser

end Bimarz.Android
