import Utterance.Json.Record
import Utterance.Json.Reader

/-!
Values whose text is kept unread.

Whoever reads a record looks at the fields that it knows, and passes over all others. What is passed over
only has to be well formed: its numbers may have any size, its strings may hold halves of pairs, and its
containers may be open to any depth.
-/

namespace Utterance.Json

/-- The text of a value, which nobody has read. -/
structure Raw where
  text : List Char

namespace Raw

/-- What may come next in a value that is passed over. -/
inductive Passing where
  /-- A value, or the end of the array that was just opened. -/
  | value (mayClose : Bool)
  /-- A key, or the end of the object that was just opened. -/
  | key (mayClose : Bool)
  | colon
  /-- More of a string. -/
  | text (isKey : Bool)
  /-- A character behind a backslash. -/
  | escape (isKey : Bool)
  /-- So many more digits of an escape by code. -/
  | code (isKey : Bool) (left : Nat)
  | word (rest : List Char)
  | number (phase : NumberPhase)
  /-- A comma, or the end of a container. -/
  | next

/-- The containers that are open, the latest first: whether each one is an object. -/
abbrev Depth := List Bool

def afterValue (c : Char) : Depth → Option (Depth × Passing)
  | [] => none
  | isObject :: outer =>
    if isSpace c then some (isObject :: outer, .next)
    else if c == ',' then some (isObject :: outer, if isObject then .key false else .value false)
    else if c == (if isObject then '}' else ']') then some (outer, .next)
    else none

def startValue (mayClose : Bool) (depth : Depth) (c : Char) : Option (Depth × Passing) :=
  if isSpace c then some (depth, .value mayClose)
  else if c == '"' then some (depth, .text false)
  else if c == '{' then some (true :: depth, .key true)
  else if c == '[' then some (false :: depth, .value true)
  else if c == ']' && mayClose then some (depth.drop 1, .next)
  else if c == 't' then some (depth, .word ['r', 'u', 'e'])
  else if c == 'f' then some (depth, .word ['a', 'l', 's', 'e'])
  else if c == 'n' then some (depth, .word ['u', 'l', 'l'])
  else if c == '-' then some (depth, .number .minus)
  else (stepNumber .minus {} c).map fun (phase, _) => (depth, .number phase)

def pass (depth : Depth) (p : Passing) (c : Char) : Option (Depth × Passing) :=
  match p with
  | .value mayClose => startValue mayClose depth c
  | .key mayClose =>
    if isSpace c then some (depth, p)
    else if c == '"' then some (depth, .text true)
    else if c == '}' && mayClose then some (depth.drop 1, .next)
    else none
  | .colon => if isSpace c then some (depth, p) else if c == ':' then some (depth, .value false) else none
  | .text isKey =>
    if c == '"' then some (depth, if isKey then .colon else .next)
    else if c == '\\' then some (depth, .escape isKey)
    else if c.toNat < 32 then none
    else some (depth, p)
  | .escape isKey =>
    if c == 'u' then some (depth, .code isKey 4)
    else (escaped? c).map fun _ => (depth, .text isKey)
  | .code isKey left =>
    (Text.hexValue? c).map fun _ => (depth, if left ≤ 1 then .text isKey else .code isKey (left - 1))
  | .word rest =>
    if rest.head? == some c then some (depth, if rest.length ≤ 1 then .next else .word (rest.drop 1))
    else none
  | .number phase =>
    match stepNumber phase {} c with
    | some (phase, _) => some (depth, .number phase)
    | none => if phase.mayEnd then afterValue c depth else none
  | .next => afterValue c depth

def mayEnd (depth : Depth) : Passing → Bool
  | .next => depth.isEmpty
  | .number phase => depth.isEmpty && phase.mayEnd
  | _ => false

/-- The rest of a value, the start of which is `taken` with the latest character first, and what follows
it. -/
def goOn (depth : Depth) (p : Passing) (taken : List Char) : List Char → Option (Raw × List Char)
  | [] => if mayEnd depth p then some (⟨taken.reverse⟩, []) else none
  | c :: rest =>
    match pass depth p c with
    | some (depth, p) => goOn depth p (c :: taken) rest
    | none => if mayEnd depth p then some (⟨taken.reverse⟩, c :: rest) else none

def first? (cs : List Char) : Option (Raw × List Char) :=
  goOn [] (.value false) [] (cs.dropWhile isSpace)

def ofText? (s : String) : Option Raw :=
  (first? s.toList).bind fun (r, rest) => if rest.all isSpace then some r else none

def read? (r : Raw) : Option Json :=
  written? r.text

/-- What follows a key and its colon, with the key. -/
def key? (cs : List Char) : Option (String × List Char) :=
  match decodeFirst? cs with
  | some (.str k, rest) =>
    match rest.dropWhile isSpace with
    | ':' :: rest => some (k, rest)
    | _ => none
  | _ => none

/-- The members of an object from the next key on; there are fewer than `fuel`. -/
def membersFrom? : Nat → List Char → Option (List (String × Raw))
  | 0, _ => none
  | fuel + 1, cs => do
    let (k, rest) ← key? cs
    let (r, rest) ← first? rest
    match rest.dropWhile isSpace with
    | ',' :: rest => return (k, r) :: (← membersFrom? fuel rest)
    | ['}'] => return [(k, r)]
    | _ => none

def itemsFrom? : Nat → List Char → Option (List Raw)
  | 0, _ => none
  | fuel + 1, cs => do
    let (r, rest) ← first? cs
    match rest.dropWhile isSpace with
    | ',' :: rest => return r :: (← itemsFrom? fuel rest)
    | [']'] => return [r]
    | _ => none

/-- The fields of a record, as for a value that is read: the text of each if there is one. -/
def fields? (names : List String) (r : Raw) : Option (List (Option Raw)) := do
  match r.text with
  | '{' :: rest =>
    let ms ← if rest.dropWhile isSpace == ['}'] then some [] else membersFrom? rest.length rest
    if names.all fun name => (ms.filter (·.1 == name)).length ≤ 1 then
      some (names.map fun name => ms.lookup name)
    else none
  | '[' :: rest =>
    let xs ← if rest.dropWhile isSpace == [']'] then some [] else itemsFrom? rest.length rest
    if names.length < xs.length then none
    else some (xs.map some ++ List.replicate (names.length - xs.length) none)
  | _ => none

/-- A field that may be missing or `null`. -/
def optional {α : Type} (read : Raw → Option α) : Option Raw → Option (Option α)
  | none => some none
  | some r => if r.text == "null".toList then some none else (read r).map some

def text? (r : Raw) : Option String :=
  r.read?.bind Json.text?

def word? (r : Raw) : Option Nat :=
  r.read?.bind Json.word?

end Raw

end Utterance.Json
