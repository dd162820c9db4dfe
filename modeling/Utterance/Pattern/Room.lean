import Utterance.Pattern.Octets

/-!
The room that a pattern takes.

Patterns are refused when they would take too much room as a machine over octets. The machine is not
built; it is only told which states it has. Each state takes `stateRoom`, a state with several ways to
octets takes `wayRoom` more for each way, and a fork takes `branchRoom` more for each branch. The machine
is laid out twice: forwards, with marks where groups begin and end, and backwards without them.

States are shared inside the layout of one set of characters, as far as a small memory for states that
were laid out before goes: its places are found by a number that is mixed from a state's ways, and a new
state drives the one out that had its place.
-/

namespace Utterance.Pattern

def stateRoom : Nat := 32

/-- The room of a way from a state with several ways to octets. -/
def wayRoom : Nat := 8

def branchRoom : Nat := 4

/-- What has been laid out: the number of states, and the room of ways and branches. -/
structure Tally where
  states : Nat := 0
  heap : Nat := 0
  limit : Nat

def Tally.room (t : Tally) : Nat :=
  t.states * stateRoom + t.heap

/-- A step of the layout, which fails beyond the limit. -/
abbrev Layout := StateT Tally Option

inductive Direction where
  | forwards
  | backwards
  deriving DecidableEq

/-- A part of the machine by the numbers of its first and its last state. -/
structure Stretch where
  start : Nat
  finish : Nat
  /-- Whether the last state is a fork. -/
  isFork : Bool := false

namespace Layout

/-- Adds states one after the other that take the room `heap` besides their own; the number of the first
one. -/
def states (n heap : Nat) : Layout Nat := fun t =>
  let t' := { t with states := t.states + n, heap := t.heap + heap }
  if t'.limit < t'.room then none else some (t.states, t')

def branches (n : Nat) : Layout Unit := do
  let _ ← states 0 (n * branchRoom)

def lead (s : Stretch) : Layout Unit :=
  branches (if s.isFork then 1 else 0)

def single : Layout Stretch := do
  let n ← states 1 0
  return ⟨n, n, false⟩

def append (s t : Stretch) : Layout Stretch := do
  lead s
  return ⟨s.start, t.finish, t.isFork⟩

/-- `n` more copies behind a part. -/
def copies (one : Layout Stretch) (s : Stretch) : Nat → Layout Stretch
  | 0 => pure s
  | n + 1 => do copies one (← append s (← one)) n

def exactly (one : Layout Stretch) : Nat → Layout Stretch
  | 0 => single
  | n + 1 => do copies one (← one) n

/-- `n` more copies behind a part, in front of each of which a fork leads around the rest. -/
def optional (one : Layout Stretch) (s : Stretch) : Nat → Layout Stretch
  | 0 => pure s
  | n + 1 => do
    let fork ← states 1 0
    let t ← one
    lead s
    branches 2
    optional one ⟨fork, t.finish, t.isFork⟩ n

def bounded (one : Layout Stretch) (least most : Nat) : Layout Stretch := do
  let s ← exactly one least
  let out ← states 1 0
  lead (← optional one s (most - least))
  return ⟨s.start, out, false⟩

def zeroOrOne (one : Layout Stretch) : Layout Stretch := do
  let fork ← states 1 0
  let s ← one
  let out ← states 1 0
  branches 2
  lead s
  return ⟨fork, out, false⟩

/-- Any number of copies of a part that takes room, as told, or may not. -/
def zeroOrMore (one : Layout Stretch) (takesRoom : Bool) : Layout Stretch := do
  if takesRoom then
    let fork ← states 1 0
    let s ← one
    branches 1
    lead s
    return ⟨fork, fork, true⟩
  else
    let s ← one
    let fork ← states 2 0
    let out ← states 1 0
    lead s
    branches 4
    return ⟨fork + 1, out, false⟩

/-- A fork behind a part that leads back to its last copy. -/
def again (s : Stretch) : Layout Stretch := do
  let fork ← states 1 0
  lead s
  branches 1
  return ⟨s.start, fork, true⟩

def atLeast (one : Layout Stretch) (takesRoom : Bool) : Nat → Layout Stretch
  | 0 => zeroOrMore one takesRoom
  | 1 => do again (← one)
  | n + 2 => do again (← append (← exactly one (n + 1)) (← one))

def mix (h : UInt64) (n : Nat) : UInt64 :=
  (h ^^^ n.toUInt64) * 1099511628211

def mixStart : UInt64 := 14695981039346656037

/-- A way: over a range of octets to a state. -/
structure Way where
  octets : OctetRange
  target : Nat
  deriving DecidableEq

/-- States that were laid out before, each at the place that is mixed from its ways. -/
abbrev Memory (α : Type) := Array (Option (α × Nat))

/-- The state for a key: the one in the memory, or a new one that is put there. -/
def remembered {α : Type} [DecidableEq α] (place : Nat) (key : α) (fresh : Layout Nat)
    (m : Memory α) : Layout (Nat × Memory α) :=
  match m.getD place none with
  | some (k, n) => if k = key then pure (n, m) else renew
  | none => renew
where
  /-- Lays the state out, and puts it into the memory. -/
  renew : Layout (Nat × Memory α) := do
    let n ← fresh
    return (n, m.setIfInBounds place (some (key, n)))

def stateOf (ways : List Way) (m : Memory (List Way)) : Layout (Nat × Memory (List Way)) :=
  let h := ways.foldl (fun h w => mix (mix (mix h w.octets.1) w.octets.2) w.target) mixStart
  remembered (h.toNat % m.size) ways (states 1 (ways.length * wayRoom)) m

/-- A state to which ways are still added: those that are complete, the latest first, and the octets of
the one that is not. -/
structure OpenState where
  ways : List Way := []
  last : Option OctetRange := none

def OpenState.close (s : OpenState) (target : Nat) : OpenState :=
  match s.last with
  | some octets => ⟨⟨octets, target⟩ :: s.ways, none⟩
  | none => s

/-- Lays out states, the deepest first; the way of each leads to the one below it. The number of the last
one. -/
def closeAll (target : Nat) (m : Memory (List Way)) : List OpenState →
    Layout (Nat × Memory (List Way))
  | [] => pure (target, m)
  | s :: rest => do
    let (n, m) ← stateOf (s.close target).ways.reverse m
    closeAll n m rest

/-- Puts a row of octet ranges into the open states, which stand with the first one in front, where all
rows lead to `target`. -/
def addRow (target : Nat) (all : List OpenState × Memory (List Way)) (row : List OctetRange) :
    Layout (List OpenState × Memory (List Way)) := do
  let (opened, m) := all
  let kept := ((row.zip opened).takeWhile fun (r, s) => s.last == some r).length
  let (n, m) ← closeAll target m (opened.drop (kept + 1)).reverse
  let fork := ((opened.getD kept {}).close n).ways
  let added := (row.drop kept).mapIdx fun i r => ⟨if i = 0 then fork else [], some r⟩
  return (opened.take kept ++ added, m)

def forwardsMemory : Nat := 10000

def backwardsMemory : Nat := 1000

/-- The layout of rows of octet ranges forwards: rows that begin alike share their first states, and
states with the same ways are one. -/
def rowsForwards (rows : List (List OctetRange)) : Layout Stretch := do
  let target ← states 1 0
  let (opened, m) ← rows.foldlM (addRow target) ([{}], Array.replicate forwardsMemory none)
  let (n, _) ← closeAll target m opened.reverse
  return ⟨n, target, false⟩

/-- The layout of one row backwards, where its first octets lead to `target`. -/
def rowBackwards (target : Nat) (m : Memory (Nat × OctetRange)) : List OctetRange →
    Layout (Nat × Memory (Nat × OctetRange))
  | [] => pure (target, m)
  | r :: rest => do
    let h := mix (mix (mix mixStart target) r.1) r.2
    let (n, m) ← remembered (h.toNat % m.size) (target, r) (states 1 0) m
    rowBackwards n m rest

/-- The layout of rows of octet ranges backwards: a fork leads to each row, and rows that begin alike
share their first octets. -/
def rowsBackwards (rows : List (List OctetRange)) : Layout Stretch := do
  let fork ← states 2 0
  let _ ← rows.foldlM (fun m row => do
    let (_, m) ← rowBackwards (fork + 1) m row
    branches 1
    return m) (Array.replicate backwardsMemory none)
  return ⟨fork, fork + 1, false⟩

def set (d : Direction) (s : CharSet) : Layout Stretch := do
  if s.isAscii then
    let out ← states 2 (s.ranges.length * wayRoom)
    return ⟨out + 1, out, false⟩
  else
    match d with
    | .forwards => rowsForwards (octetRows s)
    | .backwards => rowsBackwards (octetRows s)

def literal (cs : List Char) : Layout Stretch := do
  let count := (cs.map fun c => octetCount c.toNat).foldl (· + ·) 0
  let n ← states count 0
  return ⟨n, n + count - 1, false⟩

end Layout

/-- Literals that are read at one go: what follows a place, with the octets that may come next; a literal
that ends between them, and all behind it, is worth less than those before. -/
inductive Trie where
  | done
  | stop (rest : Trie)
  | octet (b : Nat) (child rest : Trie)

namespace Trie

def hasStop : Trie → Bool
  | done => false
  | stop _ => true
  | octet _ _ rest => hasStop rest

def isLeaf : Trie → Bool
  | done => true
  | stop rest => isLeaf rest
  | octet .. => false

def path : List Nat → Trie
  | [] => stop done
  | b :: rest => octet b (path rest) done

/-- The trie with one more end of a literal behind all that is there. -/
def finish : Trie → Trie
  | done => stop done
  | stop rest => stop (finish rest)
  | octet b child rest => octet b child (finish rest)

/-- The trie with one more literal, which may share octets with those behind the last end only. -/
def insert : List Nat → Trie → Trie
  | [], t => if t.hasStop && t.isLeaf then t else finish t
  | b :: bs, done => path (b :: bs)
  | b :: bs, stop rest => stop (insert (b :: bs) rest)
  | b :: bs, octet c child rest =>
    if b = c && !rest.hasStop then octet c (insert bs child) rest
    else octet c child (insert (b :: bs) rest)

def wayState (ways : Nat) : Layout Unit := do
  let _ ← Layout.states (min ways 1) (if ways ≤ 1 then 0 else ways * wayRoom)

/-- Lays out a trie, the first `ways` ways of which come before `t`, and before those come so many
branches. -/
def lay (ways branches : Nat) (t : Trie) : Layout Unit :=
  match t with
  | done => do
    wayState ways
    let _ ← Layout.states 1 ((branches + min ways 1) * branchRoom)
  | stop rest => do
    wayState ways
    lay 0 (branches + min ways 1 + 1) rest
  | octet _ child rest => do
    if !child.isLeaf then lay 0 0 child
    lay (ways + 1) branches rest

end Trie

def literal? : Pattern → Option (List Char)
  | literal cs => some cs
  | _ => none

def layLiterals (d : Direction) (css : List (List Char)) : Layout Stretch := do
  let out ← Layout.states 1 0
  let rows := css.map fun cs => cs.flatMap fun c => octetsOf c.toNat
  let rows := match d with
    | .forwards => rows
    | .backwards => rows.map List.reverse
  (rows.foldl (fun t row => t.insert row) Trie.done).lay 0 0
  return ⟨(← get).states - 1, out, false⟩

mutual

def lay (d : Direction) (p : Pattern) : Layout Stretch :=
  match p with
  | empty | place _ => Layout.single
  | literal cs => Layout.literal cs
  | set s => Layout.set d s
  | repeated least most _ p =>
    match most with
    | none => Layout.atLeast (lay d p) ((leastLength p).any (0 < ·)) least
    | some most =>
      if least = 0 && most = 1 then Layout.zeroOrOne (lay d p)
      else if least = most then Layout.exactly (lay d p) least
      else Layout.bounded (lay d p) least most
  | group _ p =>
    match d with
    | .forwards => do
      let start ← Layout.states 1 0
      Layout.lead (← lay d p)
      let finish ← Layout.states 1 0
      return ⟨start, finish, false⟩
    | .backwards => lay d p
  | seq ps => do
    match ← laySeq d ps with
    | some s => return s
    | none => Layout.single
  | choice ps =>
    match ps.mapM literal? with
    | some css => layLiterals d css
    | none => layChoice d ps

def laySeq (d : Direction) (ps : List Pattern) : Layout (Option Stretch) :=
  match ps with
  | [] => return none
  | p :: rest =>
    match d with
    | .forwards => do
      let s ← lay d p
      match ← laySeq d rest with
      | some t => some <$> Layout.append s t
      | none => return some s
    | .backwards => do
      match ← laySeq d rest with
      | some s => some <$> Layout.append s (← lay d p)
      | none => some <$> lay d p

def layChoice (d : Direction) (ps : List Pattern) : Layout Stretch :=
  match ps with
  | [] => Layout.single
  | [p] => lay d p
  | p :: q :: rest => do
    let s ← lay d p
    let t ← lay d q
    let fork ← Layout.states 2 0
    Layout.branches 2
    Layout.lead s
    Layout.lead t
    layBranches d rest
    return ⟨fork, fork + 1, false⟩

def layBranches (d : Direction) (ps : List Pattern) : Layout Unit :=
  match ps with
  | [] => return ()
  | p :: rest => do
    Layout.lead (← lay d p)
    Layout.branches 1
    layBranches d rest

end

/-- The layout of a pattern that is searched for: any octets may come in front of it, unless it is bound to
the end of the text where reading begins. -/
def layWhole (d : Direction) (p : Pattern) : Layout Unit := do
  match d with
  | .forwards =>
    if isStarting p then let _ ← Layout.states 1 0 else let _ ← Layout.states 3 (wayRoom + 2 * branchRoom)
    let _ ← lay d (group 0 p)
    let _ ← Layout.states 1 0
  | .backwards =>
    if isFinishing p then let _ ← Layout.states 1 0 else let _ ← Layout.states 3 (wayRoom + 2 * branchRoom)
    let s ← lay d p
    let _ ← Layout.states 1 0
    Layout.lead s

/-- From how many literals on a choice among them is not laid out at all. -/
def manyLiterals : Nat := 3000

def isLexicon : Pattern → Bool
  | choice ps => manyLiterals ≤ ps.length && (ps.mapM literal?).isSome
  | _ => false

def fits (limit : Nat) (p : Pattern) : Bool :=
  let start : Tally := { limit }
  isLexicon p || ((layWhole .forwards p start).isSome && (layWhole .backwards p start).isSome)

end Utterance.Pattern
