import Utterance.Decimal.Read
import Utterance.Pattern.Written
import Utterance.Text.Blank
import Utterance.Text.Hex
import Utterance.Text.Split

/-!
Reading patterns from their usual notation.

Characters stand for themselves; classes, groups, flags, repetitions and places are written as in
most pattern languages. Looking ahead or behind and referring back to a group are refused, and so is
every unfinished or contradictory text. Of the flags, reading minds only the one that lets blanks and
comments stand in a pattern.
-/

namespace Utterance.Pattern

/-- What is left to read, whether blanks and comments may stand in it, and the groups so far. -/
structure Cursor where
  rest : List Char
  isVerbose : Bool := false
  groups : Nat := 0
  names : List (List Char) := []

def Cursor.at (cur : Cursor) (rest : List Char) : Cursor :=
  { cur with rest := rest }

/-- Text without the blanks and comments at its front, where a comment may be open. -/
def withoutBlanks (inComment : Bool) : List Char → List Char
  | [] => []
  | c :: rest =>
    if inComment then withoutBlanks (c != '\n') rest
    else if c == '#' then withoutBlanks true rest
    else if Text.isBlank c then withoutBlanks false rest
    else c :: rest

def skip (verbose : Bool) (cs : List Char) : List Char :=
  if verbose then withoutBlanks false cs else cs

def Cursor.skip (cur : Cursor) : Cursor :=
  cur.at (Pattern.skip cur.isVerbose cur.rest)

/-- The first characters that satisfy `p`, between which blanks and comments may stand, and what follows
them and the blanks behind them; there are fewer than `fuel`. -/
def takeSkipping (verbose : Bool) (p : Char → Bool) : Nat → List Char → List Char × List Char
  | 0, cs => ([], cs)
  | fuel + 1, cs =>
    match cs with
    | c :: rest =>
      if p c then
        let (taken, rest) := takeSkipping verbose p fuel (skip verbose rest)
        (c :: taken, rest)
      else ([], cs)
    | [] => ([], [])

def takeFront (verbose : Bool) (p : Char → Bool) (cs : List Char) : List Char × List Char :=
  if verbose then takeSkipping verbose p cs.length cs else cs.span p

/-- Characters that have a meaning of their own. -/
def isMeta (c : Char) : Bool :=
  "\\.+*?()|[]\x7b\x7d^$#&-~".toList.contains c

def isPlainEscape (c : Char) : Bool :=
  isMeta c || (c.toNat < 128 && !c.isAlphanum && c != '<' && c != '>')

def ofHex? (cs : List Char) : Option Char :=
  if cs.isEmpty then none
  else
    (cs.mapM Text.hexValue?).bind fun ds =>
      let n := ds.foldl (fun n d => n * 16 + d) 0
      if n < 0xd800 || (0xdfff < n && n < 0x110000) then some (Char.ofNat n) else none

/-- A code behind the letter of its escape: in braces, or with a fixed number of digits, of which two are
the number of an octet. -/
def hexEscape? (verbose : Bool) (width : Nat) (rest : List Char) : Option (Letter × List Char) :=
  match skip verbose rest with
  | '{' :: rest =>
    let (digits, tail) := takeFront verbose (· != '}') (skip verbose rest)
    match tail with
    | '}' :: tail => (ofHex? digits).map (⟨·, false⟩, tail)
    | _ => none
  | rest =>
    let isDigit (c : Char) := (Text.hexValue? c).isSome
    let (digits, tail) := takeSkipping verbose isDigit width rest
    if digits.length < width then none else (ofHex? digits).map (⟨·, width = 2⟩, tail)

def propertyQuery (name : List Char) : PropertyQuery :=
  let cutAt (mark : List Char) := Text.cut? mark name
  match cutAt ['!', '='] with
  | some (p, v) => .valued p v true
  | none =>
    match (cutAt [':']).or (cutAt ['=']) with
    | some (p, v) => .valued p v false
    | none => .named name

/-- A property behind the letter of its escape, in braces or by one letter. -/
def propertyEscape? (verbose : Bool) (rest : List Char) : Option (PropertyQuery × List Char) :=
  match skip verbose rest with
  | '{' :: rest =>
    let (name, tail) := takeFront verbose (· != '}') (skip verbose rest)
    match tail with
    | '}' :: tail => some (propertyQuery name, tail)
    | _ => none
  | '\\' :: _ => none
  | c :: rest => some (.named [c], rest)
  | [] => none

inductive Escape where
  | letter (c : Letter)
  | place (p : WrittenPlace)
  | property (q : PropertyQuery) (isNegated : Bool)
  | shorthand (k : Shorthand) (isNegated : Bool)

def wordPlace? (name : List Char) : Option WordPlace :=
  match String.ofList name with
  | "start" => some .start
  | "end" => some .finish
  | "start-half" => some .startHalf
  | "end-half" => some .finishHalf
  | _ => none

/-- The place behind the letter `b`: a boundary, or one that is named in braces. -/
def boundaryEscape? (verbose : Bool) (rest : List Char) : Option (WordPlace × List Char) :=
  match rest with
  | '{' :: more =>
    let isLetter (c : Char) := c.isAlpha || c == '-'
    let more := skip verbose more
    match more with
    | [] => none
    | c :: _ =>
      if !isLetter c then some (.boundary, rest)
      else
        let (name, tail) := takeFront verbose isLetter more
        match tail with
        | '}' :: tail => (wordPlace? name).map (·, tail)
        | _ => none
  | _ => some (.boundary, rest)

def letterEscape? (c : Char) : Option Char :=
  match c with
  | 'a' => some '\x07'
  | 'f' => some '\x0c'
  | 't' => some '\t'
  | 'n' => some '\n'
  | 'r' => some '\r'
  | 'v' => some '\x0b'
  | _ => none

def placeEscape? (c : Char) : Option WrittenPlace :=
  match c with
  | 'A' => some .start
  | 'z' => some .finish
  | 'B' => some (.word .inside)
  | '<' => some (.word .start)
  | '>' => some (.word .finish)
  | _ => none

/-- The class that has a letter of its own, which is negated by the capital letter. -/
def shorthand? (c : Char) : Option (Shorthand × Bool) :=
  match c with
  | 'd' => some (.digit, false)
  | 's' => some (.blank, false)
  | 'w' => some (.word, false)
  | 'D' => some (.digit, true)
  | 'S' => some (.blank, true)
  | 'W' => some (.word, true)
  | _ => none

def escape? (verbose : Bool) : List Char → Option (Escape × List Char)
  | [] => none
  | c :: rest =>
    if isPlainEscape c then some (.letter ⟨c, false⟩, rest)
    else
      match c with
      | 'p' => (propertyEscape? verbose rest).map fun (q, rest) => (.property q false, rest)
      | 'P' => (propertyEscape? verbose rest).map fun (q, rest) => (.property q true, rest)
      | 'x' => (hexEscape? verbose 2 rest).map fun (c, rest) => (.letter c, rest)
      | 'u' => (hexEscape? verbose 4 rest).map fun (c, rest) => (.letter c, rest)
      | 'U' => (hexEscape? verbose 8 rest).map fun (c, rest) => (.letter c, rest)
      | 'b' => (boundaryEscape? verbose rest).map fun (p, rest) => (.place (.word p), rest)
      | c =>
        match letterEscape? c, shorthand? c with
        | some d, _ => some (.letter ⟨d, false⟩, rest)
        | none, some (k, isNegated) => some (.shorthand k isNegated, rest)
        | none, none => (placeEscape? c).map (.place ·, rest)

def bracketNames : List String :=
  ["alnum", "alpha", "ascii", "blank", "cntrl", "digit", "graph", "lower", "print", "punct", "space", "upper",
    "word", "xdigit"]

def bracketName? : List Char → Option (Bracketed × List Char)
  | '[' :: ':' :: rest =>
    let (isNegated, rest) := match rest with
      | '^' :: more => (true, more)
      | more => (false, more)
    let name := rest.takeWhile (· != ':')
    match rest.drop name.length with
    | ':' :: ']' :: tail =>
      if bracketNames.contains (String.ofList name) then some (.named name isNegated, tail) else none
    | _ => none
  | _ => none

def bracketItem? (verbose : Bool) : List Char → Option (Bracketed × List Char)
  | [] => none
  | '\\' :: rest =>
    match escape? verbose rest with
    | some (.letter c, rest) => some (.letter c, rest)
    | some (.property q isNegated, rest) => some (.property q isNegated, rest)
    | some (.shorthand k isNegated, rest) => some (.shorthand k isNegated, rest)
    | _ => none
  | c :: rest => some (.letter ⟨c, false⟩, rest)

/-- The character behind a dash, where blanks are passed over and, once a comment has begun, the text of
the comment is taken for what follows. -/
def behindDash? (verbose : Bool) (rest : List Char) : Option Char :=
  if !verbose then rest.head?
  else
    let isPassed (c : Char) := Text.isBlank c
    match rest.dropWhile isPassed with
    | '#' :: more => ((more.dropWhile isPassed).head?).or rest.head?
    | c :: _ => some c
    | [] => rest.head?

/-- Brackets so far: what stands left of the last operation, and the items behind it, the latest first. -/
structure BracketsSoFar where
  left : Option (SetOperation × Bracketed) := none
  items : List Bracketed := []

namespace BracketsSoFar

def close (b : BracketsSoFar) : Bracketed :=
  let right := Bracketed.ofItems b.items.reverse
  match b.left with
  | none => right
  | some (o, left) => .operation o left right

def add (b : BracketsSoFar) (item : Bracketed) : BracketsSoFar :=
  { b with items := item :: b.items }

def push (b : BracketsSoFar) (o : SetOperation) : BracketsSoFar :=
  ⟨some (o, b.close), []⟩

end BracketsSoFar

mutual

def bracketOpen? (fuel : Nat) (verbose : Bool) (cs : List Char) : Option (Bracketed × Bool × List Char) :=
  match fuel with
  | 0 => none
  | fuel + 1 =>
    let cs := skip verbose cs
    let (isNegated, cs) := match cs with
      | '^' :: rest => (true, skip verbose rest)
      | rest => (false, rest)
    let (dashes, cs) := takeFront verbose (· == '-') cs
    let first : BracketsSoFar := ⟨none, dashes.map fun c => .letter ⟨c, false⟩⟩
    let (first, cs) := match cs, dashes.isEmpty with
      | ']' :: rest, true => (first.add (.letter ⟨']', false⟩), rest)
      | rest, _ => (first, rest)
    (bracketRest? fuel verbose first cs).map fun (b, rest) => (b, isNegated, rest)

def bracketRest? (fuel : Nat) (verbose : Bool) (b : BracketsSoFar) (cs : List Char) :
    Option (Bracketed × List Char) :=
  match fuel with
  | 0 => none
  | fuel + 1 =>
    match skip verbose cs with
    | [] => none
    | ']' :: rest => some (b.close, rest)
    | '&' :: '&' :: rest => bracketRest? fuel verbose (b.push .inter) rest
    | '-' :: '-' :: rest => bracketRest? fuel verbose (b.push .diff) rest
    | '~' :: '~' :: rest => bracketRest? fuel verbose (b.push .symDiff) rest
    | '[' :: rest =>
      match bracketName? ('[' :: rest) with
      | some (item, rest) => bracketRest? fuel verbose (b.add item) rest
      | none =>
        (bracketOpen? fuel verbose rest).bind fun (inner, isNegated, rest) =>
          bracketRest? fuel verbose (b.add (.bracket isNegated inner)) rest
    | cs =>
      (bracketItem? verbose cs).bind fun (item, rest) =>
        match skip verbose rest with
        | '-' :: more =>
          let next := behindDash? verbose more
          if next == some ']' || next == some '-' then
            bracketRest? fuel verbose (b.add item) ('-' :: more)
          else
            (bracketItem? verbose (skip verbose more)).bind fun (last, rest) =>
              match item, last with
              | .letter lo, .letter hi =>
                if lo.char ≤ hi.char then bracketRest? fuel verbose (b.add (.range lo hi)) rest
                else none
              | _, _ => none
        | [] => none
        | rest => bracketRest? fuel verbose (b.add item) rest

end

def flag? (c : Char) : Option Flag :=
  match c with
  | 'i' => some .caseless
  | 'm' => some .multiLine
  | 's' => some .dotAll
  | 'U' => some .swapGreed
  | 'u' => some .wide
  | 'R' => some .returns
  | 'x' => some .verbose
  | _ => none

/-- Flag letters up to the colon or parenthesis behind them; each letter may stand once, and one dash
turns those behind it off. -/
def flags? (seen : List Char) (on : Bool) : List Char → Option (FlagChange × Char × List Char)
  | [] => none
  | c :: rest =>
    if c == ':' || c == ')' then
      if seen.head? == some '-' then none else some ([], c, rest)
    else if seen.contains c then none
    else if c == '-' then flags? (c :: seen) false rest
    else do
      let f ← flag? c
      let (change, stop, rest) ← flags? (c :: seen) on rest
      return ((f, on) :: change, stop, rest)

def groupName? (cs : List Char) : Option (List Char × List Char) :=
  let name := cs.takeWhile (· != '>')
  let isFirst (c : Char) := c == '_' || Text.isAlphabetic c
  let isLater (c : Char) :=
    c == '_' || c == '.' || c == '[' || c == ']' || Text.isAlphanumeric c
  match cs.drop name.length with
  | '>' :: rest =>
    if (name.head?.any isFirst) && (name.drop 1).all isLater then some (name, rest) else none
  | _ => none

/-- A number of a repetition, and what follows it and the blanks behind it. -/
def count? (verbose : Bool) (cs : List Char) : Option (Nat × List Char) :=
  let cs := cs.dropWhile Text.isBlank
  let (digits, rest) := takeFront verbose Char.isDigit cs
  let n := Decimal.natOfDigits digits
  if digits.isEmpty || 2 ^ 32 ≤ n then none
  else some (n, skip verbose (rest.dropWhile Text.isBlank))

def counts? (verbose : Bool) (cs : List Char) : Option ((Nat × Option Nat) × List Char) :=
  (count? verbose (skip verbose cs)).bind fun (least, rest) =>
    match rest with
    | '}' :: rest => some ((least, some least), skip verbose rest)
    | ',' :: rest =>
      match skip verbose rest with
      | '}' :: rest => some ((least, none), skip verbose rest)
      | rest =>
        (count? verbose rest).bind fun (most, rest) =>
          match rest with
          | '}' :: rest =>
            if most < least then none else some ((least, some most), skip verbose rest)
          | _ => none
    | _ => none

def repetition? (verbose : Bool) : List Char → Option (Option ((Nat × Option Nat) × List Char))
  | '*' :: rest => some (some ((0, none), rest))
  | '+' :: rest => some (some ((1, none), rest))
  | '?' :: rest => some (some ((0, some 1), rest))
  | '{' :: rest => some (counts? verbose rest)
  | _ => none

def Written.isRepeatable : Written → Bool
  | empty | flags _ => false
  | _ => true

def isVerboseAfter (before : Bool) (change : FlagChange) : Bool :=
  (change.lookup .verbose).getD before

mutual

/-- Choices up to the end of a group; those read so far stand latest first. -/
def choices? (fuel : Nat) (cur : Cursor) (sofar : List Written) : Option (Written × Cursor) :=
  match fuel with
  | 0 => none
  | fuel + 1 =>
    (items? fuel cur []).bind fun (w, cur) =>
      match cur.rest with
      | '|' :: rest => choices? fuel (cur.at rest) (w :: sofar)
      | _ => some (Written.ofChoices (w :: sofar).reverse, cur)

def items? (fuel : Nat) (cur : Cursor) (sofar : List Written) : Option (Written × Cursor) :=
  match fuel with
  | 0 => none
  | fuel + 1 =>
    let cur := cur.skip
    let add (w : Written) (rest : List Char) := items? fuel (cur.at rest) (w :: sofar)
    match repetition? cur.isVerbose cur.rest with
    | some none => none
    | some (some ((least, most), rest)) =>
      let (isLazy, rest) := match rest with
        | '?' :: more => (true, more)
        | _ => (false, rest)
      match sofar with
      | w :: before =>
        if w.isRepeatable then
          items? fuel (cur.at rest) (.repeated least most isLazy w :: before)
        else none
      | [] => none
    | none =>
      match cur.rest with
      | [] | '|' :: _ | ')' :: _ => some (Written.ofParts sofar.reverse, cur)
      | '(' :: rest => group? fuel (cur.at rest) sofar
      | '[' :: rest =>
        (bracketOpen? fuel cur.isVerbose rest).bind fun (b, isNegated, rest) =>
          add (.bracket isNegated b) rest
      | '.' :: rest => add .dot rest
      | '^' :: rest => add (.place .lineStart) rest
      | '$' :: rest => add (.place .lineEnd) rest
      | '\\' :: rest =>
        match escape? cur.isVerbose rest with
        | some (.letter c, rest) => add (.letter c) rest
        | some (.place p, rest) => add (.place p) rest
        | some (.property q isNegated, rest) => add (.property q isNegated) rest
        | some (.shorthand k isNegated, rest) => add (.shorthand k isNegated) rest
        | none => none
      | c :: rest => add (.letter ⟨c, false⟩) rest

/-- A group, read behind its opening parenthesis, and the items behind it. -/
def group? (fuel : Nat) (cur : Cursor) (sofar : List Written) : Option (Written × Cursor) :=
  match fuel with
  | 0 => none
  | fuel + 1 =>
    let inside (inner : Cursor) (k : GroupKind) : Option (Written × Cursor) :=
      (choices? fuel inner []).bind fun (w, after) =>
        match after.rest with
        | ')' :: rest =>
          items? fuel { after with rest := rest, isVerbose := cur.isVerbose } (.group k w :: sofar)
        | _ => none
    let n := cur.groups + 1
    let named (cs : List Char) : Option (Written × Cursor) :=
      (groupName? cs).bind fun (name, rest) =>
        if cur.names.contains name then none
        else inside { cur with rest := rest, groups := n, names := name :: cur.names } (.numbered n)
    match cur.skip.rest with
    | '?' :: 'P' :: '<' :: rest => named rest
    | '?' :: '<' :: '=' :: _ | '?' :: '<' :: '!' :: _ | '?' :: '=' :: _ | '?' :: '!' :: _ => none
    | '?' :: '<' :: rest => named rest
    | '?' :: rest =>
      (flags? [] true rest).bind fun (change, stop, rest) =>
        let isVerbose := isVerboseAfter cur.isVerbose change
        if stop == ':' then inside { cur with rest, isVerbose } (.plain change)
        else if change.isEmpty then none
        else items? fuel { cur with rest, isVerbose } (.flags change :: sofar)
    | rest => inside { cur with rest := rest, groups := n } (.numbered n)

end

def read? (s : String) : Option (Written × Nat) :=
  let cs := s.toList
  match choices? (4 * cs.length + 4) ⟨cs, false, 0, []⟩ [] with
  | some (w, cur) =>
    if cur.rest.isEmpty && w.depth ≤ Written.maxDepth then some (w, cur.groups) else none
  | none => none

end Utterance.Pattern
