import Utterance.Decimal.Read
import Utterance.Text.Hex
import Utterance.Text.Split
import Utterance.Text.Utf8

/-!
Addresses on the web: which texts name a server that a request can be sent to.

Only the part up to the end of the server's name can be wrong; any path and any query can be sent.
-/

namespace Utterance.Http.Address

/-- A text without controls and blanks around it, and without tabs and line ends. -/
def bare (s : String) : List Char :=
  (Text.trimEnd (·.toNat ≤ 32) (Text.trimStart (·.toNat ≤ 32) s.toList)).filter fun c =>
    c != '\t' && c != '\n' && c != '\r'

/-- Where the server's name and all that belongs to it ends. -/
def isServerEnd (c : Char) : Bool :=
  c == '/' || c == '\\' || c == '?' || c == '#'

/-- What follows the scheme, if it is one of the web. -/
def afterScheme? (cs : List Char) : Option (List Char) :=
  let scheme := cs.takeWhile (· != ':')
  let name := String.ofList (scheme.map Char.toLower)
  if name == "http" || name == "https" then
    match cs.drop scheme.length with
    | ':' :: rest => some rest
    | _ => none
  else none

/-- The server, behind the name of a user. -/
def server (cs : List Char) : List Char :=
  let all := (cs.dropWhile fun c => c == '/' || c == '\\').takeWhile (!isServerEnd ·)
  (all.reverse.takeWhile (· != '@')).reverse

def isPort (cs : List Char) : Bool :=
  cs.all Char.isDigit && Decimal.natOfDigits cs < 65536

/-- Octets with those that a percent sign spells put in. -/
def unescaped : List Char → List UInt8
  | [] => []
  | '%' :: a :: b :: rest =>
    match Text.hexValue? a, Text.hexValue? b with
    | some m, some n => UInt8.ofNat (16 * m + n) :: unescaped rest
    | _, _ => Text.Utf8.encode "%" ++ unescaped (a :: b :: rest)
  | c :: rest => Text.Utf8.encode (String.singleton c) ++ unescaped rest

/-- Characters that no server's name may hold. -/
def isForbidden (c : Char) : Bool :=
  c.toNat ≤ 32 || c.toNat == 127 || "#/:<>?@[\\]^|%".toList.contains c

/-- A part of a number that stands for a server: a decimal, or an octal or hexadecimal number. -/
def numberPart? (cs : List Char) : Option Nat :=
  let digits (base : Nat) (ds : List Char) : Option Nat :=
    (ds.mapM fun c => (Text.hexValue? c).filter (· < base)).map fun vs =>
      vs.foldl (fun n v => n * base + v) 0
  match cs with
  | '0' :: c :: rest =>
    if c == 'x' || c == 'X' then digits 16 rest else digits 8 (c :: rest)
  | [] => none
  | cs => digits 10 cs

/-- Whether a part makes a name a number. -/
def isNumeric (cs : List Char) : Bool :=
  !cs.isEmpty && (cs.all Char.isDigit || (numberPart? cs).isSome)

/-- Whether numbers stand for a server: at most four, each an octet but the last, which takes what is
left. -/
def areOctets (parts : List Nat) : Bool :=
  parts.length ≤ 4 && parts.dropLast.all (· < 256) &&
    parts.getLast?.all (· < Nat.pow 256 (5 - parts.length))

/-- Whether a text names a server: by a number if its last part is one, or by any other name. -/
def isName (cs : List Char) : Bool :=
  let name := Text.Utf8.decode (unescaped cs)
  let parts := Text.splitWhere (· == '.') name
  let parts := if 1 < parts.length && parts.getLast? == some [] then parts.dropLast else parts
  !name.isEmpty && !name.any isForbidden &&
    (!parts.getLast?.any isNumeric || (parts.mapM numberPart?).any areOctets)

def isGroup (cs : List Char) : Bool :=
  1 ≤ cs.length && cs.length ≤ 4 && cs.all fun c => (Text.hexValue? c).isSome

/-- Whether a text is an octet as a decimal without zeros in front. -/
def isOctet (cs : List Char) : Bool :=
  !cs.isEmpty && cs.all Char.isDigit && Decimal.natOfDigits cs < 256 &&
    (cs.length == 1 || cs.head? != some '0')

/-- How many groups a text holds; where `mayEnd`, four octets may stand for the last two. -/
def groups? (mayEnd : Bool) (cs : List Char) : Option Nat :=
  let pieces := Text.splitWhere (· == ':') cs
  let octets := Text.splitWhere (· == '.') (pieces.getLast?.getD [])
  if cs.isEmpty then some 0
  else if pieces.all isGroup then some pieces.length
  else if mayEnd && pieces.dropLast.all isGroup && octets.length == 4 && octets.all isOctet then
    some (pieces.length + 1)
  else none

/-- Whether a text is a number of eight groups, where one gap may stand for groups of zeros. -/
def isLongNumber (cs : List Char) : Bool :=
  match Text.cut? [':', ':'] cs with
  | none => groups? true cs == some 8
  | some (front, back) =>
    match groups? false front, groups? true back with
    | some m, some n => m + n ≤ 7
    | _, _ => false

/-- Whether a request can be sent to an address. -/
def isValid (s : String) : Bool :=
  match afterScheme? (bare s) with
  | none => false
  | some rest =>
    match server rest with
    | '[' :: rest =>
      let number := rest.takeWhile (· != ']')
      match rest.drop number.length with
      | [_] => isLongNumber number
      | _ :: ':' :: port => isLongNumber number && isPort port
      | _ => false
    | name =>
      let host := name.takeWhile (· != ':')
      isName host && isPort ((name.drop host.length).drop 1)

end Utterance.Http.Address
