import Utterance.Json.Number
import Utterance.Text.Hex

/-!
Reading JSON text, one character at a time.

The reader is a machine whose state says what may come next and which arrays and objects are still
open. A document is read by running the machine over its characters, so what holds after a prefix of
a document can be said by the state the machine is in.
-/

namespace Utterance.Json

/-- An open container around the value that is being read: the items of an array so far, or the members
of an object so far and the key that waits for its value; the latest ones stand first. -/
inductive Frame where
  | array (items : List Json)
  | object (members : List (String × Json)) (key : String)

/-- What a string is read for: a value, or a key of an object with the given members. -/
inductive Role where
  | value
  | key (members : List (String × Json))

/-- Where a string stands: between escapes, behind a backslash, inside the four digits of an escape
by code (with the first half of a pair, once that is read), or between the halves of a pair. -/
inductive TextPhase where
  | plain
  | escape
  | code (digits : Nat) (n : Nat) (high : Option Nat)
  | pairMark (high : Nat)
  | pairLetter (high : Nat)

inductive NumberPhase where
  | minus
  | zero
  | whole
  | point
  | fraction
  | mark
  | markSign
  | power

inductive State where
  /-- A value, or the end of the array that was just opened. -/
  | value (mayClose : Bool) (open_ : List Frame)
  /-- A key, or the end of the object that was just opened. -/
  | key (mayClose : Bool) (members : List (String × Json)) (open_ : List Frame)
  /-- The colon behind a key. -/
  | colon (members : List (String × Json)) (key : String) (open_ : List Frame)
  /-- More of a string, whose characters so far are kept latest first. -/
  | text (role : Role) (phase : TextPhase) (sofar : List Char) (open_ : List Frame)
  /-- More of one of the three words. -/
  | word (rest : List Char) (v : Json) (open_ : List Frame)
  /-- More of a number. -/
  | number (phase : NumberPhase) (t : NumberText) (open_ : List Frame)
  /-- A comma, or the end of an array. -/
  | afterItem (items : List Json) (open_ : List Frame)
  /-- A comma, or the end of an object. -/
  | afterMember (members : List (String × Json)) (open_ : List Frame)
  /-- Nothing but blanks. -/
  | done (v : Json)

/-- The characters that stand between the parts of a document. -/
def isSpace (c : Char) : Bool :=
  c == ' ' || c == '\t' || c == '\n' || c == '\r'

def maxOpen : Nat := 127

def complete (v : Json) : List Frame → State
  | [] => .done v
  | .array items :: rest => .afterItem (v :: items) rest
  | .object ms k :: rest => .afterMember ((k, v) :: ms) rest

def closeText (role : Role) (sofar : List Char) (open_ : List Frame) : State :=
  let s := String.ofList sofar.reverse
  match role with
  | .value => complete (.str s) open_
  | .key ms => .colon ms s open_

/-- The character behind a backslash, where it stands for one other character. -/
def escaped? (c : Char) : Option Char :=
  match c with
  | '"' => some '"'
  | '\\' => some '\\'
  | '/' => some '/'
  | 'b' => some '\x08'
  | 'f' => some '\x0c'
  | 'n' => some '\n'
  | 'r' => some '\r'
  | 't' => some '\t'
  | _ => none

def stepText (role : Role) (phase : TextPhase) (sofar : List Char) (open_ : List Frame) (c : Char) :
    Option State :=
  match phase with
  | .plain =>
    if c == '"' then some (closeText role sofar open_)
    else if c == '\\' then some (.text role .escape sofar open_)
    else if c.toNat < 32 then none
    else some (.text role .plain (c :: sofar) open_)
  | .escape =>
    if c == 'u' then some (.text role (.code 0 0 none) sofar open_)
    else (escaped? c).map fun d => .text role .plain (d :: sofar) open_
  | .code digits n high =>
    (Text.hexValue? c).bind fun d =>
      let n := n * 16 + d
      if digits < 3 then some (.text role (.code (digits + 1) n high) sofar open_)
      else
        match high with
        | none =>
          if 0xd800 ≤ n && n < 0xdc00 then some (.text role (.pairMark n) sofar open_)
          else if 0xdc00 ≤ n && n < 0xe000 then none
          else some (.text role .plain (Char.ofNat n :: sofar) open_)
        | some h =>
          if 0xdc00 ≤ n && n < 0xe000 then
            let pair := Char.ofNat (0x10000 + (h - 0xd800) * 0x400 + (n - 0xdc00))
            some (.text role .plain (pair :: sofar) open_)
          else none
  | .pairMark high => if c == '\\' then some (.text role (.pairLetter high) sofar open_) else none
  | .pairLetter high =>
    if c == 'u' then some (.text role (.code 0 0 (some high)) sofar open_) else none

def stepNumber (phase : NumberPhase) (t : NumberText) (c : Char) : Option (NumberPhase × NumberText) :=
  let whole : NumberText := { t with whole := t.whole ++ [c] }
  let fraction : NumberText := { t with fraction := t.fraction ++ [c] }
  let power : NumberText := { t with power := t.power ++ [c] }
  let isMark := c == 'e' || c == 'E'
  match phase with
  | .minus =>
    if c == '0' then some (.zero, whole) else if c.isDigit then some (.whole, whole) else none
  | .zero => if c == '.' then some (.point, t) else if isMark then some (.mark, t) else none
  | .whole =>
    if c.isDigit then some (.whole, whole) else if c == '.' then some (.point, t)
    else if isMark then some (.mark, t) else none
  | .point => if c.isDigit then some (.fraction, fraction) else none
  | .fraction =>
    if c.isDigit then some (.fraction, fraction) else if isMark then some (.mark, t) else none
  | .mark =>
    if c.isDigit then some (.power, power) else if c == '+' then some (.markSign, t)
    else if c == '-' then some (.markSign, { t with powerNegative := true }) else none
  | .markSign => if c.isDigit then some (.power, power) else none
  | .power => if c.isDigit then some (.power, power) else none

def NumberPhase.mayEnd : NumberPhase → Bool
  | zero | whole | fraction | power => true
  | _ => false

def closeNumber (phase : NumberPhase) (t : NumberText) (open_ : List Frame) : Option State :=
  if phase.mayEnd then t.value?.map (complete · open_) else none

def stepValue (mayClose : Bool) (open_ : List Frame) (c : Char) : Option State :=
  if isSpace c then some (.value mayClose open_)
  else if c == '"' then some (.text .value .plain [] open_)
  else if c == '{' then
    if open_.length < maxOpen then some (.key true [] open_) else none
  else if c == '[' then
    if open_.length < maxOpen then some (.value true (.array [] :: open_)) else none
  else if c == ']' then
    match mayClose, open_ with
    | true, .array items :: rest => some (complete (.arr items.reverse) rest)
    | _, _ => none
  else if c == 't' then some (.word ['r', 'u', 'e'] (.bool true) open_)
  else if c == 'f' then some (.word ['a', 'l', 's', 'e'] (.bool false) open_)
  else if c == 'n' then some (.word ['u', 'l', 'l'] .null open_)
  else if c == '-' then some (.number .minus { negative := true } open_)
  else (stepNumber .minus {} c).map fun (phase, t) => .number phase t open_

def stepAfter (c : Char) : State → Option State
  | .afterItem items open_ =>
    if isSpace c then some (.afterItem items open_)
    else if c == ',' then some (.value false (.array items :: open_))
    else if c == ']' then some (complete (.arr items.reverse) open_)
    else none
  | .afterMember ms open_ =>
    if isSpace c then some (.afterMember ms open_)
    else if c == ',' then some (.key false ms open_)
    else if c == '}' then some (complete (.obj ms.reverse) open_)
    else none
  | .done v => if isSpace c then some (.done v) else none
  | _ => none

/-- One character of a document; none where no document goes on like this. -/
def step (s : State) (c : Char) : Option State :=
  match s with
  | .value mayClose open_ => stepValue mayClose open_ c
  | .key mayClose ms open_ =>
    if isSpace c then some s
    else if c == '"' then some (.text (.key ms) .plain [] open_)
    else if c == '}' && mayClose then some (complete (.obj ms.reverse) open_)
    else none
  | .colon ms k open_ =>
    if isSpace c then some s
    else if c == ':' then some (.value false (.object ms k :: open_))
    else none
  | .text role phase sofar open_ => stepText role phase sofar open_ c
  | .word rest v open_ =>
    match rest with
    | [] => none
    | [d] => if c == d then some (complete v open_) else none
    | d :: more => if c == d then some (.word more v open_) else none
  | .number phase t open_ =>
    match stepNumber phase t c with
    | some (phase, t) => some (.number phase t open_)
    | none => (closeNumber phase t open_).bind (stepAfter c)
  | .afterItem .. | .afterMember .. | .done _ => stepAfter c s

def start : State := .value false []

def run (s : State) : List Char → Option State
  | [] => some s
  | c :: rest => (step s c).bind (run · rest)

def State.result? : State → Option Json
  | .done v => some v
  | .number phase t [] => if phase.mayEnd then t.value? else none
  | _ => none

/-- The value that a whole text writes, with all members that it writes. -/
def written? (cs : List Char) : Option Json :=
  (run start cs).bind State.result?

/-- The value that a whole text stands for: of members with one key, the last one counts. -/
def decode? (cs : List Char) : Option Json :=
  (written? cs).map merged

def ofText? (s : String) : Option Json :=
  decode? s.toList

/-- The value that the front of a text writes, and what follows it. A number, which ends only where the next
character cannot belong to it, needs a blank or the end behind it. -/
def runFirst (s : State) : List Char → Option (Json × List Char)
  | [] => s.result?.map (·, [])
  | c :: rest =>
    (step s c).bind fun
      | .done v => some (v, rest)
      | s => runFirst s rest

def decodeFirst? (cs : List Char) : Option (Json × List Char) :=
  (runFirst start cs).map fun (v, rest) => (merged v, rest)

def unreadable : String := "<json error>"

end Utterance.Json
