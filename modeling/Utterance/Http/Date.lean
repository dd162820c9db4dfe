import Utterance.Decimal.Read
import Utterance.Text.Blank

/-!
Dates as mail and web headers write them: an optional day of the week, the day, a month by its name,
the year, a time with or without seconds, and a zone. Comments in parentheses may follow.
-/

namespace Utterance.Http

/-- A date with a time; the offset says how many seconds its zone is ahead. -/
structure Date where
  year : Nat
  /-- From one on. -/
  month : Nat
  day : Nat
  hour : Nat
  minute : Nat
  second : Nat
  offset : Int

namespace Date

def isLeap (year : Nat) : Bool :=
  year % 4 == 0 && (year % 100 != 0 || year % 400 == 0)

def monthLengths (year : Nat) : List Nat :=
  [31, if isLeap year then 29 else 28, 31, 30, 31, 30, 31, 31, 30, 31, 30, 31]

/-- The days before a year, counted from the year nought. -/
def daysBefore (year : Nat) : Nat :=
  365 * year + (year + 3) / 4 - (year + 99) / 100 + (year + 399) / 400

/-- The days since the first of January 1970. -/
def days (d : Date) : Int :=
  (daysBefore d.year : Int) - daysBefore 1970 +
    (((monthLengths d.year).take (d.month - 1)).foldl (· + ·) 0 : Nat) + d.day - 1

/-- The day of the week, nought for a Monday. -/
def weekday (d : Date) : Nat :=
  ((d.days + 3) % 7).toNat

def seconds (d : Date) : Int :=
  d.days * 86400 + (d.hour * 3600 + d.minute * 60 + d.second : Nat) - d.offset

def lastYear : Nat := 262142

/-- Whether there is such a date; a minute may have a second more. -/
def isValid (d : Date) : Bool :=
  d.year ≤ lastYear && 1 ≤ d.month && d.month ≤ 12 && 1 ≤ d.day &&
    d.day ≤ (monthLengths d.year).getD (d.month - 1) 0 && d.hour ≤ 23 && d.minute ≤ 59 &&
    d.second ≤ 60 && d.offset.natAbs < 86400

def dayNames : List String := ["mon", "tue", "wed", "thu", "fri", "sat", "sun"]

def monthNames : List String :=
  ["jan", "feb", "mar", "apr", "may", "jun", "jul", "aug", "sep", "oct", "nov", "dec"]

/-- The zones that have names, and how many hours they are behind. -/
def zoneNames : List (String × Int) :=
  [("gmt", 0), ("ut", 0), ("edt", 4), ("est", 5), ("cdt", 5), ("cst", 6), ("mdt", 6),
    ("mst", 7), ("pdt", 7), ("pst", 8)]

/-- The place in a list of a name of three letters at the front, and what follows it. -/
def name? (names : List String) (cs : List Char) : Option (Nat × List Char) :=
  (names.idxOf? (String.ofList ((cs.take 3).map Char.toLower))).map fun n => (n, cs.drop 3)

/-- A number of at least `least` and at most `most` digits at the front, how many it has, and what
follows it. -/
def number? (least most : Nat) (cs : List Char) : Option (Nat × Nat × List Char) :=
  let digits := (cs.takeWhile Char.isDigit).take most
  if digits.length < least then none
  else some (Decimal.natOfDigits digits, digits.length, cs.drop digits.length)

/-- What follows the blanks at the front, if there is one at least. -/
def blanks? : List Char → Option (List Char)
  | c :: rest => if Text.isBlank c then some (Text.trimStart Text.isBlank rest) else none
  | [] => none

/-- What follows a colon at the front. -/
def colon? : List Char → Option (List Char)
  | ':' :: rest => some rest
  | _ => none

/-- A year of two or three digits stands for one near the year 2000. -/
def fullYear (n digits : Nat) : Nat :=
  if digits = 2 then if n < 50 then n + 2000 else n + 1900
  else if digits = 3 then n + 1900 else n

/-- A zone at the front, by its name or its offset, and what follows it. A single letter stands for no
offset. -/
def zone? (cs : List Char) : Option (Int × List Char) :=
  let letters := (cs.takeWhile Char.isAlpha).map Char.toLower
  let rest := cs.drop letters.length
  match letters with
  | [] =>
    match cs with
    | sign :: rest => do
      let back := sign == '-'
      if !back && sign != '+' then none
      let (hours, _, rest) ← number? 2 2 rest
      let (minutes, _, rest) ← number? 2 2 rest
      let n : Int := hours * 3600 + minutes * 60
      if 60 ≤ minutes then none else some (if back then -n else n, rest)
    | [] => none
  | [c] => if c == 'j' then none else some (0, rest)
  | _ => (zoneNames.lookup (String.ofList letters)).map fun behind => (-3600 * behind, rest)

/-- What follows a comment, the `depth` parentheses of which are open. -/
def comment? (depth : Nat) : List Char → Option (List Char)
  | [] => none
  | '\\' :: _ :: rest => comment? depth rest
  | c :: rest =>
    if c == '(' then comment? (depth + 1) rest
    else if c == ')' then if depth ≤ 1 then some rest else comment? (depth - 1) rest
    else comment? depth rest

/-- Whether nothing but comments is left, of which there are fewer than `fuel`. -/
def onlyComments : Nat → List Char → Bool
  | _, [] => true
  | 0, _ => false
  | fuel + 1, cs =>
    match Text.trimStart Text.isBlank cs with
    | '(' :: rest => (comment? 1 rest).any (onlyComments fuel)
    | _ => false

/-- The day of the week at the front, if one is told, and what follows it. -/
def weekday? (cs : List Char) : Option (Option Nat × List Char) :=
  match name? dayNames cs with
  | some (n, ',' :: rest) => some (some n, rest)
  | some _ => none
  | none => some (none, cs)

def read? (s : String) : Option Date := do
  let trim := Text.trimStart Text.isBlank
  let (weekday, cs) ← weekday? (trim s.toList)
  let (day, _, cs) ← number? 1 2 (trim cs)
  let (month, cs) ← name? monthNames (← blanks? cs)
  let (year, digits, cs) ← number? 2 cs.length (← blanks? cs)
  let (hour, _, cs) ← number? 2 2 (← blanks? cs)
  let (minute, _, cs) ← number? 2 2 (trim (← colon? (trim cs)))
  let (second, cs) ←
    match colon? (trim cs) with
    | some rest => (number? 2 2 rest).map fun (n, _, rest) => (n, rest)
    | none => some (0, cs)
  let (offset, cs) ← zone? (← blanks? cs)
  let d : Date := ⟨fullYear year digits, month + 1, day, hour, minute, second, offset⟩
  if onlyComments (cs.length + 1) cs && d.isValid && weekday.all (· == d.weekday) then some d
  else none

end Date

end Utterance.Http
