import Utterance.Pattern.Folding
import Utterance.Pattern.Property.Query
import Utterance.Text.Blank

/-!
What written patterns mean.

Flags hold from where they stand to the end of the group around them. Where characters are not taken
in their full width, a pattern may name only those with codes below 128 in sets, while single letters
may still be written as they are.
-/

namespace Utterance.Pattern

structure Flags where
  caseless : Bool := false
  multiLine : Bool := false
  dotAll : Bool := false
  swapGreed : Bool := false
  wide : Bool := true
  returns : Bool := false

namespace Flags

def set (f : Flags) (change : Flag × Bool) : Flags :=
  match change with
  | (.caseless, on) => { f with caseless := on }
  | (.multiLine, on) => { f with multiLine := on }
  | (.dotAll, on) => { f with dotAll := on }
  | (.swapGreed, on) => { f with swapGreed := on }
  | (.wide, on) => { f with wide := on }
  | (.returns, on) => { f with returns := on }
  | (.verbose, _) => f

def change (f : Flags) (c : FlagChange) : Flags :=
  c.foldl set f

/-- A set with the variants that the flags let in. -/
def folded (f : Flags) (s : CharSet) : CharSet :=
  if !f.caseless then s else if f.wide then Pattern.caseless s else asciiCaseless s

/-- A set, unless it holds characters that the flags do not allow. -/
def allowed? (f : Flags) (s : CharSet) : Option CharSet :=
  if f.wide || s.isAscii then some s else none

end Flags

def signed (isNegated : Bool) (s : CharSet) : CharSet :=
  if isNegated then s.compl else s

/-- A set with its variants, or the complement of both. -/
def Flags.signed? (f : Flags) (isNegated : Bool) (s : CharSet) : Option CharSet :=
  f.allowed? (signed isNegated (f.folded s))

def Shorthand.all : Shorthand → CharSet
  | digit => digits
  | blank => Text.blank
  | word => Pattern.word

def Shorthand.ascii : Shorthand → CharSet
  | digit => .range 48 57
  | blank => ⟨[(9, 13), (32, 32)]⟩
  | word => asciiWord

/-- The characters of a class; those of the full classes have no variants outside. -/
def Shorthand.set? (f : Flags) (isNegated : Bool) (k : Shorthand) : Option CharSet :=
  if f.wide then some (signed isNegated k.all) else f.allowed? (signed isNegated k.ascii)

def PropertyQuery.under? (f : Flags) (isNegated : Bool) (q : PropertyQuery) : Option CharSet :=
  if f.wide then q.set?.bind (f.signed? (isNegated != q.isNegated)) else none

def namedRanges (name : String) : List (Nat × Nat) :=
  match name with
  | "alnum" => [(48, 57), (65, 90), (97, 122)]
  | "alpha" => [(65, 90), (97, 122)]
  | "ascii" => [(0, 127)]
  | "blank" => [(9, 9), (32, 32)]
  | "cntrl" => [(0, 31), (127, 127)]
  | "digit" => [(48, 57)]
  | "graph" => [(33, 126)]
  | "lower" => [(97, 122)]
  | "print" => [(32, 126)]
  | "punct" => [(33, 47), (58, 64), (91, 96), (123, 126)]
  | "space" => [(9, 13), (32, 32)]
  | "upper" => [(65, 90)]
  | "word" => [(48, 57), (65, 90), (95, 95), (97, 122)]
  | "xdigit" => [(48, 57), (65, 70), (97, 102)]
  | _ => []

def SetOperation.apply : SetOperation → CharSet → CharSet → CharSet
  | inter, s, t => s.inter t
  | diff, s, t => s.diff t
  | symDiff, s, t => s.symDiff t

mutual

def Bracketed.set? (f : Flags) (b : Bracketed) : Option CharSet :=
  match b with
  | .nothing => some .none
  | .letter c => f.allowed? (.one c.char)
  | .range lo hi => f.allowed? (.range lo.char.toNat hi.char.toNat)
  | .named name isNegated => f.signed? isNegated ⟨namedRanges (String.ofList name)⟩
  | .property q isNegated => q.under? f isNegated
  | .shorthand k isNegated => k.set? f isNegated
  | .bracket isNegated b => (Bracketed.set? f b).bind (f.signed? isNegated)
  | .union bs => (Bracketed.sets? f bs).map .unions
  | .operation o left right => do
    return o.apply (f.folded (← Bracketed.set? f left)) (f.folded (← Bracketed.set? f right))

def Bracketed.sets? (f : Flags) (bs : List Bracketed) : Option (List CharSet) :=
  match bs with
  | [] => some []
  | b :: rest => do return (← Bracketed.set? f b) :: (← Bracketed.sets? f rest)

end

def Letter.pattern? (f : Flags) (c : Letter) : Option Pattern :=
  if !f.wide && c.isOctet && 128 ≤ c.char.toNat then none
  else if f.caseless then some (ofSet (f.folded (.one c.char)))
  else some (literal [c.char])

def Flags.dotSet? (f : Flags) : Option CharSet :=
  if !f.wide then none
  else if f.dotAll then some .all
  else if f.returns then some (CharSet.compl ⟨[(10, 10), (13, 13)]⟩)
  else some (CharSet.range 10 10).compl

def WrittenPlace.under (f : Flags) : WrittenPlace → Place
  | lineStart =>
    if !f.multiLine then .start else if f.returns then .returnLineStart else .lineStart
  | lineEnd =>
    if !f.multiLine then .finish else if f.returns then .returnLineEnd else .lineEnd
  | start => .start
  | finish => .finish
  | word p => .word p (!f.wide)

mutual

/-- What a written pattern means, and the flags behind it. -/
def Written.pattern? (f : Flags) (w : Written) : Option (Pattern × Flags) :=
  let here (p : Option Pattern) := p.map (·, f)
  match w with
  | .empty => some (Pattern.empty, f)
  | .flags change => some (Pattern.empty, f.change change)
  | .letter c => here (c.pattern? f)
  | .dot => here (f.dotSet?.map ofSet)
  | .place p => some (Pattern.place (p.under f), f)
  | .property q isNegated => here ((q.under? f isNegated).map ofSet)
  | .shorthand k isNegated => here ((k.set? f isNegated).map ofSet)
  | .bracket isNegated b => here (((b.set? f).bind (f.signed? isNegated)).map ofSet)
  | .repeated least most isLazy w => do
    let (p, f) ← Written.pattern? f w
    return (repeatOf least most (isLazy != f.swapGreed) p, f)
  | .group (.numbered n) w => here ((Written.pattern? f w).map fun (p, _) => Pattern.group n p)
  | .group (.plain change) w => here ((Written.pattern? (f.change change) w).map (·.1))
  | .seq ws => (Written.patterns? f ws).map fun (ps, f) => (seqOf ps, f)
  | .choice ws => (Written.patterns? f ws).map fun (ps, f) => (choiceOf ps, f)

def Written.patterns? (f : Flags) (ws : List Written) : Option (List Pattern × Flags) :=
  match ws with
  | [] => some ([], f)
  | w :: rest => do
    let (p, f) ← Written.pattern? f w
    let (ps, f) ← Written.patterns? f rest
    return (p :: ps, f)

end

end Utterance.Pattern
