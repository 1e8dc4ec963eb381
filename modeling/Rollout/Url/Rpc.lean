import Rollout.Url.Address

/-!
# Addresses of endpoints

An endpoint is reached over HTTP, so its address must be a URL with the scheme `http` or `https`
and a host.  Blanks around the text and line breaks in it do not count; backslashes count as
slashes, and there may be any number of them before the host.
-/

namespace Rollout.Url

/-- A control character or the space. -/
def isControlOrSpace (c : Char) : Bool := c.toNat ≤ 0x20

/-- The text that counts: nothing around it, no tabulators or line breaks in it. -/
def significant (text : List Char) : List Char :=
  let trimmed :=
    ((text.dropWhile isControlOrSpace).reverse.dropWhile isControlOrSpace).reverse
  trimmed.filter fun c => c != '\t' && c != '\n' && c != '\r'

/-- What follows the scheme `http` or `https`. -/
def afterScheme? (text : List Char) : Option (List Char) :=
  let scheme := (text.takeWhile (· ≠ ':')).map Domain.lowerAscii
  match text.dropWhile (· ≠ ':') with
  | [] => none
  | _ :: rest =>
      if scheme = "http".toList ∨ scheme = "https".toList then some rest else none

/-- A slash in either direction. -/
def isSlash (c : Char) : Bool := c == '/' || c == '\\'

/-- What stands between the slashes and the path, query or fragment. -/
def authority (text : List Char) : List Char :=
  (text.dropWhile isSlash).takeWhile fun c => !(isSlash c || c == '?' || c == '#')

/-- An authority without the user before the last at sign. -/
def withoutUser (text : List Char) : List Char :=
  (text.reverse.takeWhile (· ≠ '@')).reverse

/-- Split an authority at the first colon outside brackets into host and port. -/
def splitPort (bracketed : Bool) : List Char → List Char × Option (List Char)
  | [] => ([], none)
  | c :: rest =>
      if c = ':' ∧ !bracketed then ([], some rest)
      else
        let bracketed := if c = '[' then true else if c = ']' then false else bracketed
        let (host, port) := splitPort bracketed rest
        (c :: host, port)

/-- Whether a port is a number that fits into sixteen bits; it may be empty. -/
def acceptsPort (port : List Char) : Bool :=
  port.all Text.isDecimalDigit && Text.numberInBase 10 port < 65536

/-- Replace percent signs with two digits by the byte that they write. -/
def percentDecode : List UInt8 → List UInt8
  | [] => []
  | [a] => [a]
  | [a, b] => [a, b]
  | percent :: high :: low :: rest =>
      let h := Char.ofNat high.toNat
      let l := Char.ofNat low.toNat
      if percent = 0x25 ∧ Text.isHexDigit h ∧ Text.isHexDigit l then
        UInt8.ofNat (Text.hexValue h * 16 + Text.hexValue l) :: percentDecode rest
      else percent :: percentDecode (high :: low :: rest)

/-- The domain name that a host writes, if its bytes are a text. -/
def decodeHost? (host : List Char) : Option (List Char) :=
  let bytes := percentDecode (host.flatMap String.utf8EncodeChar)
  (String.fromUTF8? ⟨bytes.toArray⟩).map String.toList

/-- Whether a host is a numeric address in brackets, a numeric address or a domain name. -/
def acceptsHost (host : List Char) : Bool :=
  match host with
  | [] => false
  | '[' :: inner => inner.getLast? == some ']' && isGroupedAddress inner.dropLast
  | host =>
      match (decodeHost? host).bind Domain.resolve? with
      | none => false
      | some name => !endsInNumber name || isFourByteAddress name

/-- Whether a text is the address of an endpoint. -/
def isRpcUrl (text : String) : Bool :=
  match afterScheme? (significant text.toList) with
  | none => false
  | some rest =>
      let (host, port) := splitPort false (withoutUser (authority rest))
      acceptsHost host && port.all acceptsPort

end Rollout.Url
