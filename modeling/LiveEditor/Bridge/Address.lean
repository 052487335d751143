import LiveEditor.Bridge.Exchange
import LiveEditor.Bridge.Host

/-! # Addresses

A request goes to an address.  An address can be written carelessly, with
slashes turned around, the user in front of the host, dots in the path, or
characters that have to stand in percent signs; it is read from all of these
and written in one form.  What cannot be sent is reported with the address in
that form.
-/

namespace LiveEditor

structure Address where
  host : Host
  port : Option Nat
  path : List Text
  query : Option Text
  fragment : Option Text
  deriving DecidableEq, Repr

namespace Address

def usualPort : Nat := 80

/-! ## Percent signs -/

def percentEncode (character : Char) : Text :=
  (Utf8.encode [character]).flatMap fun byte =>
    ['%', Number.upperHexDigit (byte.toNat / 16),
      Number.upperHexDigit (byte.toNat % 16)]

def escape (reserved : String) (text : Text) : Text :=
  text.flatMap fun character =>
    if character.toNat ≤ 0x20 || 0x7F ≤ character.toNat ||
        reserved.toList.contains character then
      percentEncode character
    else
      [character]

/-! ## Paths -/

inductive PathPart where
  | here
  | up
  | named (text : Text)
  deriving DecidableEq, Repr

def withPlainDots : Text → Text
  | [] => []
  | '%' :: '2' :: 'e' :: rest => '.' :: withPlainDots rest
  | '%' :: '2' :: 'E' :: rest => '.' :: withPlainDots rest
  | character :: rest => character :: withPlainDots rest

def PathPart.ofText (text : Text) : PathPart :=
  let plain := withPlainDots text
  if plain = ['.'] then .here
  else if plain = ['.', '.'] then .up
  else .named (escape "\"<>`#?\x7b\x7d" text)

/-- Follow the parts of a path; `passed` are the parts so far, the last one
first.  A path that ends with dots ends with a slash. -/
def walk (passed : List Text) : List Text → List Text
  | [] => passed.reverse
  | part :: rest =>
      match PathPart.ofText part with
      | .named text => walk (text :: passed) rest
      | .here => walk (if rest.isEmpty then [] :: passed else passed) rest
      | .up => walk (if rest.isEmpty then [] :: passed.tail else passed.tail) rest

/-! ## Reading -/

def isSlash (character : Char) : Bool :=
  character == '/' || character == '\\'

def endsAuthority (character : Char) : Bool :=
  isSlash character || character == '?' || character == '#'

def cutBefore (kind : Char → Bool) (text : Text) : Text × Text :=
  text.span fun character => !kind character

def withoutUser (authority : Text) : Text :=
  (authority.reverse.takeWhile (· != '@')).reverse

def cutAtPort (inBrackets : Bool) : Text → Text × Text
  | [] => ([], [])
  | character :: rest =>
      if character = ':' ∧ !inBrackets then
        ([], character :: rest)
      else
        let inside := character == '[' || (inBrackets && character != ']')
        let (host, port) := cutAtPort inside rest
        (character :: host, port)

def port? : Text → Option (Option Nat)
  | [] | [':'] => some none
  | _ :: digits => do
      let port ← Number.ofText? 10 digits
      if port < Number.bound16 then
        some (if port = usualPort then none else some port)
      else
        none

def partsOf (path : Text) : List Text :=
  (path.map fun character => if isSlash character then '/' else character).splitOn '/'

def ofText? (text : Text) : Option Address := do
  let seen := text.filter fun character => !"\t\n\r".toList.contains character
  let (authority, behind) := cutBefore endsAuthority (seen.dropWhile isSlash)
  let (hostText, portText) := cutAtPort false (withoutUser authority)
  let host ← if hostText.isEmpty then none else Host.ofText? hostText
  let port ← port? portText
  let (beforeFragment, fragment) := cutBefore (· == '#') behind
  let (path, query) := cutBefore (· == '?') beforeFragment
  return {
    host, port
    path := walk [] (partsOf (path.drop 1))
    query := if query.isEmpty then none else some (escape "\"<>\x27" (query.drop 1))
    fragment :=
      if fragment.isEmpty then none else some (escape "\"<>`" (fragment.drop 1)) }

/-! ## Writing -/

def toText (address : Address) : Text :=
  "http://".toList ++ address.host.toText ++
    (match address.port with
      | none => []
      | some port => ':' :: Nat.toDigits 10 port) ++
    '/' :: ['/'].intercalate address.path ++
    (match address.query with
      | none => []
      | some query => '?' :: query) ++
    (match address.fragment with
      | none => []
      | some fragment => '#' :: fragment)

example : (ofText? "//u:p@LocalHost:80\\a/../b c?d#e".toList).map toText =
    some "http://localhost/b%20c?d#e".toList := by decide +kernel
example : (ofText? "//localhost:65536/".toList) = none := by decide +kernel

end Address

def Endpoint.address? (endpoint : Endpoint) (path : String) : Option Address :=
  Address.ofText? ((endpoint.url path).drop "http:".length)

def Endpoint.sendFailure (endpoint : Endpoint) (path : String) : String :=
  match endpoint.address? path with
  | none => "builder error"
  | some address =>
      let shown := String.ofList address.toText
      if address.host.isSendable then s!"error sending request for url ({shown})"
      else s!"builder error for url ({shown})"

example : Endpoint.standard.sendFailure "health" =
    "error sending request for url (http://127.0.0.1:8177/health)" := by
  decide +kernel

end LiveEditor
