import Cupping.Text.Lines
import Cupping.Text.Utf8

/-!
Addresses of web services. An address is brought into the form in which it is requested: parts that
mean "here" or "up" are resolved, and characters that may not occur are percent-encoded.
-/

namespace Cupping.Http

/-- An address as it is requested. -/
structure Url where
  /-- The scheme with the host and port. -/
  origin : String
  path : String
  query : Option String
deriving DecidableEq, Repr

namespace Url

def percentByte (byte : UInt8) : List Char :=
  let digit (n : Nat) : Char := (Nat.digitChar n).toUpper
  ['%', digit (byte.toNat / 16), digit (byte.toNat % 16)]

/-- A text in which some characters, and all beyond ASCII, are percent-encoded. -/
def percentEncode (special : List Char) (text : List Char) : List Char :=
  text.flatMap fun c =>
    if c.toNat ≤ 0x20 || 0x7F ≤ c.toNat || special.contains c then
      (String.utf8EncodeChar c).flatMap percentByte
    else [c]

def pathSpecial : List Char := ['"', '<', '>', '`', '#', '?', '{', '}']

def querySpecial : List Char := ['"', '<', '>', '#', '\'']

def isHere (part : List Char) : Bool :=
  let part := String.ofList (part.map Char.toLower)
  part = "." || part = "%2e"

def isUp (part : List Char) : Bool :=
  let part := String.ofList (part.map Char.toLower)
  part = ".." || part = ".%2e" || part = "%2e." || part = "%2e%2e"

/-- Resolves the parts of a path after those already resolved, which are given in reverse. A last
part without a name of its own leaves an empty one. -/
def resolve (above : List (List Char)) : List (List Char) → List (List Char)
  | [] => above.reverse
  | part :: rest =>
    if isHere part then resolve (if rest.isEmpty then [] :: above else above) rest
    else if isUp part then
      resolve (if rest.isEmpty then [] :: above.drop 1 else above.drop 1) rest
    else resolve (part :: above) rest

/-- The path of an address, out of what stands between the host and the query. -/
def normalPath (text : List Char) : List Char :=
  let slashes := text.map fun c => if c = '\\' then '/' else c
  let parts := Text.splitAt '/' (if slashes.head? = some '/' then slashes.drop 1 else slashes)
  (resolve [] parts).flatMap fun part => '/' :: percentEncode pathSpecial part

def dropSlashes (text : List Char) : List Char :=
  text.dropWhile fun c => c = '/' || c = '\\'

def endsHost (c : Char) : Bool :=
  c = '/' || c = '\\' || c = '?' || c = '#'

def ofScheme? (scheme : String) (text : List Char) : Option Url :=
  let text := dropSlashes text
  let host := text.takeWhile (!endsHost ·)
  let rest := (text.dropWhile (!endsHost ·)).takeWhile (· ≠ '#')
  let path := rest.takeWhile (· ≠ '?')
  let query := match rest.dropWhile (· ≠ '?') with
    | [] => none
    | _ :: query => some (String.ofList (percentEncode querySpecial query))
  if host.isEmpty then none
  else some ⟨scheme ++ "://" ++ String.ofList host, String.ofList (normalPath path), query⟩

/-- The text of an address without the characters that do not count: controls and spaces in front,
tabs and line breaks anywhere. -/
def counted (text : List Char) : List Char :=
  (text.dropWhile (·.toNat ≤ 0x20)).filter fun c => c ≠ '\t' && c ≠ '\n' && c ≠ '\r'

def parse? (text : String) : Option Url :=
  let text := counted text.toList
  let scheme := String.ofList ((text.takeWhile (· ≠ ':')).map Char.toLower)
  let rest := (text.dropWhile (· ≠ ':')).drop 1
  if scheme = "http" || scheme = "https" then ofScheme? scheme rest else none

/-- A value as forms encode it: spaces as plus signs, and only letters, digits and few marks as they
are. -/
def formEncode (value : String) : List Char :=
  value.toList.flatMap fun c =>
    if c = ' ' then ['+']
    else if c.isAlphanum || c = '*' || c = '-' || c = '.' || c = '_' then [c]
    else (String.utf8EncodeChar c).flatMap percentByte

def withPair (url : Url) (name value : String) : Url :=
  let pair := name ++ "=" ++ String.ofList (formEncode value)
  { url with query := some (match url.query with
      | none | some "" => pair
      | some query => query ++ "&" ++ pair) }

def target (url : Url) : String :=
  match url.query with
  | none => url.path
  | some query => url.path ++ "?" ++ query

end Url
end Cupping.Http
