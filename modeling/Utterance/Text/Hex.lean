/-!
Numbers and octets to the base sixteen.
-/

namespace Utterance.Text

/-- The digits of `n` to the base sixteen, in small letters. -/
def hexDigits (n : Nat) : List Char :=
  Nat.toDigits 16 n

/-- The digits of `n`, at least `width` of them. -/
def hexPadded (width n : Nat) : List Char :=
  let digits := hexDigits n
  List.replicate (width - digits.length) '0' ++ digits

def hexOfOctets (octets : List UInt8) : String :=
  String.ofList (octets.flatMap fun b => hexPadded 2 b.toNat)

def hexValue? (c : Char) : Option Nat :=
  if c.isDigit then some (c.toNat - '0'.toNat)
  else if 'a' ≤ c && c ≤ 'f' then some (c.toNat - 'a'.toNat + 10)
  else if 'A' ≤ c && c ≤ 'F' then some (c.toNat - 'A'.toNat + 10)
  else none

/-- The octets that digits stand for, two each; nothing where a digit is none or stands alone. -/
def octetsOfHex? : List Char → Option (List UInt8)
  | [] => some []
  | a :: b :: rest => do
    let octet := UInt8.ofNat (16 * (← hexValue? a) + (← hexValue? b))
    return octet :: (← octetsOfHex? rest)
  | [_] => none

end Utterance.Text
