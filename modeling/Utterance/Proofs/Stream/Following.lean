import Utterance.Proofs.Json.Outer
import Utterance.Proofs.Stream.Passage
import Utterance.Proofs.Stream.Spelling

/-! The gate follows the reader of documents: behind every front of a document whose outermost keys
differ, the gate knows whether the control packet is complete and what has come of the response. -/

namespace Utterance.Json

def Frame.isObject : Frame → Bool
  | .array _ => false
  | .object .. => true

/-- Whether the outermost of open containers is an object, if there is one. -/
def rooted : List Frame → Bool
  | [] => true
  | [f] => f.isObject
  | _ :: f :: rest => rooted (f :: rest)

/-- Whether the outermost value is an object, or may become one. -/
def State.rooted : State → Bool
  | .done v => v.isObject
  | .afterItem items o => Json.rooted (.array items :: o)
  | .value _ o | .key _ _ o | .colon _ _ o | .text _ _ _ o | .word _ _ o | .number _ _ o
  | .afterMember _ o => Json.rooted o

/-- Whether no two keys are equal but for their case. -/
def Outer.Distinct (a : Outer) : Prop := (a.keys.map fun k => Text.lower k.toList).Nodup

theorem rooted_cons {f : Frame} {o : List Frame} (h : o ≠ []) : rooted (f :: o) = rooted o := by
  cases o with
  | nil => exact absurd rfl h
  | cons g rest => rfl

end Utterance.Json

namespace Utterance.Stream.Gate

open Json (Frame State Outer outerOf rooted)

def isKey (name : List Char) (k : String) : Bool := Text.lower k.toList == name

def isControl (m : String × Json) : Bool := isKey controlKey m.1 && m.2.isObject

/-- The response among members, its latest character first. -/
def surfaceOf (ms : List (String × Json)) : List Char :=
  match ms.find? (fun m => isKey surfaceKey m.1) with
  | some (_, .str t) => t.toList.reverse
  | _ => []

/-- Whether the second of the open containers is the control packet. -/
def inControl : List Frame → Bool
  | [f, .object _ k] => f.isObject && isKey controlKey k
  | _ :: f :: rest => inControl (f :: rest)
  | _ => false

/-- What a string is for that stands below open containers. -/
def roleAt : List Frame → StringRole
  | [.object _ k] => if isKey surfaceKey k then .surface else .other
  | _ => .other

/-- A gate outside of strings, below open containers. -/
structure Standing (o : List Frame) (g : Gate) : Prop where
  string : g.string = none
  half : g.highHalf = none
  ended : g.ended = false
  depth : g.depth = o.length
  expects : g.expectsKey = false
  member : g.member = (outerOf o).waiting.map fun k => Text.lower k.toList
  opened : g.controlOpen = inControl o
  control : g.controlDone = (outerOf o).members.any isControl
  surface : g.surface = surfaceOf (outerOf o).members

/-- A gate in the outermost object, between members. -/
structure Resting (ms : List (String × Json)) (g : Gate) : Prop where
  string : g.string = none
  half : g.highHalf = none
  ended : g.ended = false
  depth : g.depth = 1
  opened : g.controlOpen = false
  control : g.controlDone = ms.any isControl
  surface : g.surface = surfaceOf ms

/-- The gate as it would be outside of the string. -/
def outside (g : Gate) : Gate := { g with string := none, highHalf := none }

/-- A gate in a string of a role. -/
def FollowsText (role : Json.Role) (r : StringRole) (sofar : List Char) (o : List Frame)
    (g : Gate) : Prop :=
  match role, o with
  | .key ms, [] => r = .key ∧ g.key = sofar ∧ Resting ms g.outside
  | .key _, f :: o => r = .other ∧ Standing (.object [] "" :: f :: o) g.outside
  | .value, o =>
    r = roleAt o ∧
      if r = .surface then g.surface = sofar ∧ Standing o { g.outside with surface := [] }
      else Standing o g.outside

/-- A gate that has come as far as the reader. -/
def Follows : State → Gate → Prop
  | .value _ o, g | .word _ _ o, g | .number _ _ o, g => Standing o g
  | .key _ ms [], g => g.expectsKey = true ∧ Resting ms g
  | .colon ms k [], g => g.key = k.toList.reverse ∧ Resting ms g
  | .afterMember ms [], g => Resting ms g
  | .key _ _ (f :: o), g | .colon _ _ (f :: o), g | .afterMember _ (f :: o), g =>
    Standing (.object [] "" :: f :: o) g
  | .afterItem _ o, g => Standing (.array [] :: o) g
  | .text role phase sofar o, g =>
    ∃ r e, g.string = some (r, e) ∧ Spelled phase e g.highHalf ∧ FollowsText role r sofar o g
  | .done v, g =>
    g.ended = true ∧ g.controlDone = (State.done v).outer.members.any isControl ∧
      g.surface = surfaceOf (State.done v).outer.members

/-! ## Steps of the gate outside of strings -/

theorem stepOutside_quiet {c : Char} (h : Json.isQuiet c) (g : Gate) : g.stepOutside c = g := by
  simp only [Json.isQuiet, Bool.not_eq_true', Bool.or_eq_false_iff] at h
  obtain ⟨⟨⟨⟨⟨⟨h1, h2⟩, h3⟩, h4⟩, h5⟩, h6⟩, h7⟩ := h
  simp [stepOutside, h1, h2, h3, h4, h5, h6, h7]

theorem Standing.step {o : List Frame} {g : Gate} (h : Standing o g) (c : Char) :
    g.step c = g.stepOutside c := step_of_outside h.ended h.string c

theorem Resting.step {ms : List (String × Json)} {g : Gate} (h : Resting ms g) (c : Char) :
    g.step c = g.stepOutside c := step_of_outside h.ended h.string c

theorem inControl_push {f f' : Frame} {o : List Frame} (hf : f.isObject = f'.isObject) :
    inControl (f :: o) = inControl (f' :: o) := by
  match o with
  | [] => cases f <;> cases f' <;> rfl
  | [.object _ k] => simp [inControl, hf]
  | [.array _] => cases f <;> cases f' <;> rfl
  | .object _ _ :: _ :: _ => cases f <;> cases f' <;> rfl
  | .array _ :: _ :: _ => cases f <;> cases f' <;> rfl

theorem inControl_deep {f g h : Frame} {o : List Frame} :
    inControl (f :: g :: h :: o) = inControl (g :: h :: o) := by
  cases f <;> cases g <;> rfl

/-- Only the kind of the innermost of several containers matters. -/
theorem Standing.retop {f f' : Frame} {o : List Frame} {g : Gate} (ho : o ≠ [])
    (hf : f.isObject = f'.isObject) (h : Standing (f :: o) g) : Standing (f' :: o) g := by
  obtain ⟨h1, h2, h3, h4, h5, h6, h7, h8, h9⟩ := h
  rw [Json.outerOf_cons ho] at h6 h8 h9
  exact ⟨h1, h2, h3, h4, h5, by rwa [Json.outerOf_cons ho], by rwa [← inControl_push hf],
    by rwa [Json.outerOf_cons ho], by rwa [Json.outerOf_cons ho]⟩

/-- The response is written once. -/
theorem surfaceOf_of_distinct {k : String} {ms : List (String × Json)}
    (hd : Outer.Distinct ⟨ms, some k⟩) (hk : isKey surfaceKey k) : surfaceOf ms = [] := by
  have hn : ∀ m ∈ ms, ¬(isKey surfaceKey m.1 = true) := by
    intro m hm he
    have hmem : Text.lower k.toList ∈ ms.map fun m => Text.lower m.1.toList :=
      List.mem_map.mpr ⟨m, hm, (beq_iff_eq.mp he).trans (beq_iff_eq.mp hk).symm⟩
    simp only [Outer.Distinct, Outer.keys, Option.toList_some, List.singleton_append, List.map_cons,
      List.map_map, List.nodup_cons] at hd
    exact hd.1 hmem
  unfold surfaceOf
  rw [List.find?_eq_none.mpr hn]

/-- A member that is no response changes nothing in the response. -/
theorem surfaceOf_cons {k : String} {v : Json} {ms : List (String × Json)}
    (hd : Outer.Distinct ⟨ms, some k⟩) (hv : v.text? = none) :
    surfaceOf ((k, v) :: ms) = surfaceOf ms := by
  cases hk : isKey surfaceKey k with
  | true =>
    rw [surfaceOf_of_distinct hd hk]
    simp only [surfaceOf, List.find?_cons, hk]
    cases v <;> first | rfl | cases hv
  | false => simp only [surfaceOf, List.find?_cons, hk]

/-- Whether a control packet begins with a container below open ones. -/
theorem inControl_cons (f : Frame) {o : List Frame} (ho : o ≠ []) :
    inControl (f :: o) = (inControl o || (o.length = 1 && f.isObject &&
      ((outerOf o).waiting.map fun k => Text.lower k.toList) == some controlKey)) := by
  match o with
  | [] => exact absurd rfl ho
  | [.object ms k] => simp [inControl, outerOf, isKey]
  | [.array items] => cases f <;> simp [inControl, outerOf]
  | g :: h :: rest => simp [inControl_deep]

theorem Standing.push {f : Frame} {o : List Frame} {g : Gate} (ho : o ≠ []) (h : Standing o g) :
    Standing (f :: o) (g.openContainer f.isObject) := by
  have hn : ¬(o.length = 0) := by simpa using ho
  have hc := Json.outerOf_cons (f := f) ho
  refine ⟨h.string, h.half, h.ended, ?_, ?_, ?_, ?_, ?_, ?_⟩
  · simp [openContainer, h.depth]
  · simp [openContainer, h.depth, h.expects, ho]
  · rw [hc]; exact h.member
  · rw [inControl_cons f ho, ← h.opened, ← h.depth, ← h.member]
    rfl
  · rw [hc]; exact h.control
  · rw [hc]; exact h.surface

theorem Standing.pushFirst {g : Gate} (h : Standing [] g) :
    (g.openContainer true).expectsKey = true ∧ Resting [] (g.openContainer true) := by
  have hd : g.depth = 0 := h.depth
  refine ⟨by simp [openContainer, hd], h.string, h.half, h.ended, ?_, ?_, h.control, h.surface⟩
  · simp [openContainer, hd]
  · have ho : g.controlOpen = false := h.opened
    simp [openContainer, hd, ho]

theorem closeContainer_eq {g : Gate} (h : g.depth ≠ 0) :
    g.closeContainer =
      { g with
        depth := g.depth - 1
        ended := g.ended || g.depth = 1
        controlOpen := g.controlOpen && g.depth ≠ 2
        controlDone := g.controlDone || (g.controlOpen && g.depth = 2) } := if_neg h

theorem Standing.popOuter {f : Frame} {k : String} {v : Json} {ms : List (String × Json)} {g : Gate}
    (hd : Outer.Distinct ⟨ms, some k⟩) (hv : v.text? = none) (hf : f.isObject = v.isObject)
    (h : Standing [f, .object ms k] g) : Resting ((k, v) :: ms) g.closeContainer := by
  have h2 : g.depth = 2 := h.depth
  have ho : outerOf [f, .object ms k] = ⟨ms, some k⟩ := Json.outerOf_cons (List.cons_ne_nil _ _)
  have hc := h.control
  have hs := h.surface
  rw [ho] at hc hs
  rw [closeContainer_eq (by omega)]
  refine ⟨h.string, h.half, ?_, ?_, ?_, ?_, ?_⟩
  · simp [h.ended, h2]
  · simp [h2]
  · simp [h2]
  · simp [hc, h2, h.opened, inControl, hf, isControl, Bool.or_comm, Bool.and_comm]
  · rw [surfaceOf_cons hd hv]; exact hs

theorem Standing.popInner {a b c : Frame} {o : List Frame} {g : Gate}
    (h : Standing (a :: b :: c :: o) g) : Standing (b :: c :: o) g.closeContainer := by
  have hn : g.depth = o.length + 3 := h.depth
  have hc : outerOf (a :: b :: c :: o) = outerOf (b :: c :: o) :=
    Json.outerOf_cons (List.cons_ne_nil _ _)
  obtain ⟨h1, h2, h3, h4, h5, h6, h7, h8, h9⟩ := h
  rw [hc] at h6 h8 h9
  rw [inControl_deep] at h7
  rw [closeContainer_eq (by omega)]
  refine ⟨h1, h2, ?_, ?_, h5, h6, ?_, ?_, h9⟩
  · simp [h3, hn]
  · simp [hn]
  · simp [h7, hn]
  · simp [h8, hn]

theorem Resting.pop {ms : List (String × Json)} {g : Gate} (h : Resting ms g) :
    Follows (.done (.obj ms.reverse)) g.closeContainer := by
  rw [closeContainer_eq (by simp [h.depth])]
  refine ⟨by simp [h.depth], ?_, ?_⟩
  · simp [Json.outer_done_obj, h.control, h.opened]
  · simp [Json.outer_done_obj, h.surface]

/-- A value without text that is finished, as its container closes. -/
theorem Standing.pop {f : Frame} {o : List Frame} {v : Json} {g : Gate} (ho : o ≠ [])
    (hd : (Json.complete v o).outer.Distinct) (hr : (Json.complete v o).rooted)
    (hv : v.text? = none) (hf : f.isObject = v.isObject) (h : Standing (f :: o) g) :
    Follows (Json.complete v o) g.closeContainer := by
  match o with
  | [] => exact absurd rfl ho
  | [.object ms k] => exact h.popOuter hd hv hf
  | [.array items] => cases hr
  | .array items :: c :: rest => exact .retop (List.cons_ne_nil _ _) (by rfl) h.popInner
  | .object ms k :: c :: rest => exact .retop (List.cons_ne_nil _ _) (by rfl) h.popInner

/-- A scalar that is finished, which the gate does not see. -/
theorem Standing.scalar {o : List Frame} {v : Json} {g : Gate} (hv : Json.isScalar v)
    (hd : (Json.complete v o).outer.Distinct) (hr : (Json.complete v o).rooted)
    (h : Standing o g) : Follows (Json.complete v o) g := by
  match o with
  | [] => 
    rw [show (Json.complete v []).rooted = v.isObject from rfl, Json.isObject_of_isScalar hv] at hr
    cases hr
  | [.object ms k] => 
    have ho : v.isObject = false := Json.isObject_of_isScalar hv
    refine ⟨h.string, h.half, h.ended, h.depth, h.opened, ?_, ?_⟩
    · rw [h.control]
      simp [outerOf, isControl, ho]
    · rw [h.surface]
      exact (surfaceOf_cons hd (by cases v <;> first | rfl | cases hv)).symm
  | [.array items] => cases hr
  | .array items :: c :: rest => exact .retop (List.cons_ne_nil _ _) (by rfl) h
  | .object ms k :: c :: rest => exact .retop (List.cons_ne_nil _ _) (by rfl) h

/-! ## Strings -/

theorem Standing.response {o : List Frame} {g : Gate} (h : Standing o g)
    (hm : (decide (g.depth = 1) && g.member == some surfaceKey) = true) :
    ∃ ms k, o = [.object ms k] ∧ isKey surfaceKey k = true := by
  rw [h.depth, h.member] at hm
  simp only [Bool.and_eq_true, decide_eq_true_eq, beq_iff_eq] at hm
  obtain ⟨f, rfl⟩ := List.length_eq_one_iff.mp hm.1
  cases f with
  | object ms k => exact ⟨ms, k, rfl, beq_iff_eq.mpr (Option.some.inj hm.2)⟩
  | array items => cases hm.2

theorem Standing.elsewhere {o : List Frame} {g : Gate} (h : Standing o g)
    (hm : (decide (g.depth = 1) && g.member == some surfaceKey) = false) : roleAt o = .other := by
  rw [h.depth, h.member] at hm
  unfold roleAt
  split
  case h_1 ms k => simp [show isKey surfaceKey k = false from hm]
  · rfl

theorem Standing.quote {o : List Frame} {g : Gate} (hd : (outerOf o).Distinct) (h : Standing o g) :
    Follows (.text .value .plain [] o) g.openString := by
  have hk : ¬((g.depth = 1 && g.expectsKey) = true) := by simp [h.expects]
  cases hm : (decide (g.depth = 1) && g.member == some surfaceKey) with
  | true =>
    have hg : g.openString =
        { g with string := some (.surface, .none), held := !g.controlDone } := by
      simp [openString, hk, hm]
    obtain ⟨ms, k, rfl, hs⟩ := h.response hm
    have hn : g.surface = [] := h.surface.trans (surfaceOf_of_distinct hd hs)
    rw [hg]
    refine ⟨.surface, .none, rfl, h.half, by simp [roleAt, hs], ?_⟩
    rw [if_pos rfl]
    exact ⟨hn, rfl, rfl, h.ended, h.depth, h.expects, h.member, h.opened, h.control,
      hn.symm.trans h.surface⟩
  | false =>
    have hg : g.openString = { g with string := some (.other, .none) } := by
      simp [openString, hk, hm]
    rw [hg]
    exact ⟨.other, .none, rfl, h.half, (h.elsewhere hm).symm, rfl, rfl, h.ended, h.depth, h.expects,
      h.member, h.opened, h.control, h.surface⟩

/-- The gate takes a character of the string that the reader is in. -/
theorem FollowsText.next {role : Json.Role} {r : StringRole} {sofar : List Char} {o : List Frame}
    {g : Gate} (e : Escape) (half : Option Nat) (d : Option Char)
    (h : FollowsText role r sofar o g) :
    FollowsText role r (d.toList ++ sofar) o ((g.inText r e half).takeAny r d) := by
  match role, o with
  | .key ms, [] =>
    obtain ⟨rfl, hk, h⟩ := h
    cases d with
    | none => exact ⟨rfl, hk, h⟩
    | some d =>
      refine ⟨rfl, congrArg (d :: ·) hk, ?_⟩
      exact ⟨h.string, h.half, h.ended, h.depth, h.opened, h.control, h.surface⟩
  | .key _, f :: o =>
    obtain ⟨rfl, h⟩ := h
    cases d <;> exact ⟨rfl, h⟩
  | .value, o =>
    obtain ⟨hr, h⟩ := h
    refine ⟨hr, ?_⟩
    cases r with
    | surface =>
      rw [if_pos rfl] at h ⊢
      cases d with
      | none => exact h
      | some d => exact ⟨congrArg (d :: ·) h.1, h.2⟩
    | key | other =>
      rw [if_neg (by simp)] at h ⊢
      cases d with
      | none => exact h
      | some d =>
        exact ⟨h.string, h.half, h.ended, h.depth, h.expects, h.member, h.opened, h.control,
          h.surface⟩

theorem FollowsText.ended {role : Json.Role} {r : StringRole} {sofar : List Char} {o : List Frame}
    {g : Gate} (h : FollowsText role r sofar o g) : g.ended = false := by
  match role, o with
  | .key ms, [] => exact h.2.2.ended
  | .key _, f :: o => exact h.2.ended
  | .value, o =>
    obtain ⟨-, h⟩ := h
    split at h
    · exact h.2.ended
    · exact h.ended

theorem takeAny_string (g : Gate) (r : StringRole) (d : Option Char) :
    (g.takeAny r d).string = g.string ∧ (g.takeAny r d).highHalf = g.highHalf := by
  cases d with
  | none => exact ⟨rfl, rfl⟩
  | some d => cases r <;> exact ⟨rfl, rfl⟩

theorem stepString_quote {g : Gate} {r : StringRole} (hr : r ≠ .surface) (hh : g.highHalf = none) :
    g.stepString r .none '"' = g.outside := by
  have hg : { g with string := none } = g.outside := by rw [outside, hh]
  cases r with
  | surface => exact absurd rfl hr
  | key | other => exact hg

/-- The end of a string that is the value of an outer member. -/
theorem FollowsText.closeMember {r : StringRole} {sofar : List Char} {ms : List (String × Json)}
    {k : String} {g : Gate} (hh : g.highHalf = none)
    (h : FollowsText .value r sofar [.object ms k] g) :
    Resting ((k, .str (String.ofList sofar.reverse)) :: ms) (g.stepString r .none '"') := by
  obtain ⟨rfl, h⟩ := h
  have hs : (String.ofList sofar.reverse).toList.reverse = sofar := by simp
  have hc (g : Gate) (h : Standing [.object ms k] g) (t : String) :
      g.controlDone = ((k, Json.str t) :: ms).any isControl := by
    rw [h.control]
    simp [outerOf, isControl, Json.isObject, Json.members?]
  cases hk : isKey surfaceKey k with
  | true =>
    have hrole : roleAt [.object ms k] = .surface := by simp [roleAt, hk]
    rw [hrole] at h ⊢
    obtain ⟨hsurface, h⟩ := h
    refine ⟨rfl, hh, h.ended, h.depth, h.opened, hc _ h _, ?_⟩
    simp only [surfaceOf, List.find?_cons, hk, hs]
    exact hsurface
  | false =>
    have hrole : roleAt [.object ms k] = .other := by simp [roleAt, hk]
    rw [hrole] at h ⊢
    have h : Standing [.object ms k] g.outside := h
    refine ⟨rfl, hh, h.ended, h.depth, h.opened, hc _ h _, ?_⟩
    simp only [surfaceOf, List.find?_cons, hk]
    exact h.surface

/-- The closing quote of a string. -/
theorem FollowsText.close {role : Json.Role} {r : StringRole} {sofar : List Char} {o : List Frame}
    {g : Gate} (hd : (Json.closeText role sofar o).outer.Distinct)
    (hr : (Json.closeText role sofar o).rooted) (hh : g.highHalf = none)
    (h : FollowsText role r sofar o g) :
    Follows (Json.closeText role sofar o) (g.stepString r .none '"') := by
  match role, o with
  | .key ms, [] =>
    obtain ⟨rfl, hk, h⟩ := h
    rw [stepString_quote (by simp) hh]
    exact ⟨hk.trans (by simp), h⟩
  | .key ms, f :: o =>
    obtain ⟨rfl, h⟩ := h
    rw [stepString_quote (by simp) hh]
    exact h
  | .value, [] => cases hr
  | .value, [.array items] => cases hr
  | .value, .array items :: c :: rest | .value, .object ms k :: c :: rest =>
    obtain ⟨rfl, h⟩ := h
    rw [stepString_quote (by simp [roleAt]) hh]
    exact .retop (List.cons_ne_nil _ _) (by rfl) h
  | .value, [.object ms k] => exact h.closeMember hh

theorem Follows.text {role : Json.Role} {phase : Json.TextPhase} {sofar : List Char}
    {o : List Frame} {c : Char} {s : State} {g : Gate}
    (hd : s.outer.Distinct) (hr : s.rooted) (h : Json.stepText role phase sofar o c = some s)
    (hf : Follows (.text role phase sofar o) g) : Follows s (g.step c) := by
  obtain ⟨r, e, hg, hs, ht⟩ := hf
  rw [step_of_string ht.ended hg]
  rcases Json.stepText_cases h with ⟨rfl, rfl, rfl⟩ | ⟨hq, -⟩
  · cases e <;> try exact hs.elim
    exact ht.close hd hr hs
  · obtain ⟨phase', e', half, d, rfl, hs', hstep⟩ := stepString_follows h hg hs hq
    rw [hstep]
    have hn := ht.next e' half d
    have hstr := takeAny_string (g.inText r e' half) r d
    refine ⟨r, e', hstr.1, ?_, hn⟩
    rw [hstr.2]
    exact hs'

/-! ## Steps of the reader -/

/-- What the end of a value leaves open. -/
theorem rooted_complete {v : Json} {o : List Frame} (ho : o ≠ []) :
    (Json.complete v o).rooted = rooted o := by
  match o with
  | [] => exact absurd rfl ho
  | [.array items] => rfl
  | [.object ms k] => rfl
  | .array items :: f :: rest => rfl
  | .object ms k :: f :: rest => rfl

theorem rooted_below {v : Json} {o : List Frame} (h : (Json.complete v o).rooted) : rooted o := by
  cases o with
  | nil => rfl
  | cons f rest => rwa [rooted_complete (List.cons_ne_nil _ _)] at h

theorem rooted_inner {f : Frame} {v : Json} {o : List Frame} (hv : v.isObject = f.isObject)
    (h : (Json.complete v o).rooted) : rooted (f :: o) := by
  cases o with
  | nil => exact hv.symm.trans h
  | cons g rest =>
    rwa [Json.rooted_cons (List.cons_ne_nil _ _), ← rooted_complete (List.cons_ne_nil _ _)]

theorem rooted_stepAfter {s s' : State} {c : Char} (h : Json.stepAfter c s = some s')
    (hr : s'.rooted) : s.rooted := by
  unfold Json.stepAfter at h
  repeat' split at h
  all_goals cases h
  · exact hr
  · exact hr
  · exact rooted_inner (f := .array _) rfl hr
  · exact hr
  · exact hr
  · exact rooted_below hr
  · exact hr

/-- What is no object at first never becomes one. -/
theorem rooted_step {s s' : State} {c : Char} (h : Json.step s c = some s') (hr : s'.rooted) :
    s.rooted := by
  cases s with
  | value b o =>
    cases Json.stepValue_cases h with
    | space | text | object | word | number => exact hr
    | array =>
      cases o with
      | nil => cases hr
      | cons f rest => exact hr
    | close items rest _ ho =>
      subst ho
      exact rooted_inner (f := .array items) rfl hr
  | key b ms o =>
    simp only [Json.step] at h
    repeat' split at h
    all_goals cases h
    · exact hr
    · exact hr
    · exact rooted_below hr
  | colon ms k o =>
    simp only [Json.step] at h
    repeat' split at h
    all_goals cases h
    · exact hr
    · cases o with
      | nil => rfl
      | cons f rest => exact hr
  | text role phase sofar o =>
    rcases Json.stepText_cases h with ⟨-, -, rfl⟩ | ⟨-, phase', sofar', rfl⟩
    · cases role with
      | value => exact rooted_below hr
      | key ms => exact hr
    · exact hr
  | word rest v o =>
    simp only [Json.step] at h
    repeat' split at h
    all_goals cases h
    · exact rooted_below hr
    · exact hr
  | number phase t o =>
    rcases Json.stepNumber_cases h with ⟨phase', t', -, rfl⟩ | ⟨v, -, ha⟩
    · exact hr
    · exact rooted_below (rooted_stepAfter ha hr)
  | afterItem items o => exact rooted_stepAfter (s := .afterItem items o) h hr
  | afterMember ms o => exact rooted_stepAfter (s := .afterMember ms o) h hr
  | done v => exact rooted_stepAfter (s := .done v) h hr

theorem distinct_of_suffix {a b : Outer} (h : a.keys <:+ b.keys) (hb : b.Distinct) : a.Distinct :=
  hb.sublist (h.sublist.map _)

theorem Follows.value {b : Bool} {o : List Frame} {c : Char} {s : State} {g : Gate}
    (hd : s.outer.Distinct) (hr : s.rooted) (h : Json.stepValue b o c = some s)
    (hf : Standing o g) : Follows s (g.step c) := by
  rw [hf.step]
  cases Json.stepValue_cases h with
  | space hc | word _ _ hc | number _ _ hc =>
    rw [stepOutside_quiet hc]
    exact hf
  | text hc =>
    subst hc
    exact hf.quote hd
  | object hc =>
    subst hc
    cases o with
    | nil => exact hf.pushFirst
    | cons f rest => exact hf.push (f := .object [] "") (List.cons_ne_nil _ _)
  | array hc =>
    subst hc
    cases o with
    | nil => cases hr
    | cons f rest => exact hf.push (f := .array []) (List.cons_ne_nil _ _)
  | close items rest hc ho =>
    subst hc ho
    cases rest with
    | nil => cases hr
    | cons f rest => exact hf.pop (List.cons_ne_nil _ _) hd hr rfl rfl

/-- Inside several containers nothing but strings and brackets matters. -/
theorem Standing.divide {a b : Frame} {o : List Frame} {c : Char} {g : Gate}
    (hc : c = ',' ∨ c = ':') (h : Standing (a :: b :: o) g) : g.stepOutside c = g := by
  have hd : ¬(g.depth = 1) := by simp [h.depth]
  rcases hc with rfl | rfl <;> simp [stepOutside, hd]

theorem Follows.afterItem {items : List Json} {o : List Frame} {s : State} {c : Char} {g : Gate}
    (hd : s.outer.Distinct) (hr : s.rooted)
    (h : Json.stepAfter c (.afterItem items o) = some s) (hf : Standing (.array [] :: o) g) :
    Follows s (g.step c) := by
  rw [hf.step]
  simp only [Json.stepAfter, beq_iff_eq] at h
  split at h
  case isTrue hc =>
    cases h
    rw [stepOutside_quiet (Json.isQuiet_of_isSpace hc)]
    exact hf
  split at h
  case isTrue hc =>
    cases h
    cases o with
    | nil => cases hr
    | cons f rest =>
      rw [hf.divide (.inl hc)]
      exact .retop (List.cons_ne_nil _ _) (by rfl) hf
  split at h
  case isTrue hc =>
    cases h
    subst hc
    cases o with
    | nil => cases hr
    | cons f rest => exact hf.pop (List.cons_ne_nil _ _) hd hr rfl rfl
  case isFalse => cases h

/-- The end of an object. -/
theorem Follows.endObject {ms : List (String × Json)} {o : List Frame} {g : Gate}
    (hd : (Json.complete (.obj ms.reverse) o).outer.Distinct)
    (hr : (Json.complete (.obj ms.reverse) o).rooted) (hf : Follows (.afterMember ms o) g) :
    Follows (Json.complete (.obj ms.reverse) o) (g.step '}') := by
  cases o with
  | nil =>
    have hf : Resting ms g := hf
    rw [hf.step]
    exact hf.pop
  | cons f rest =>
    have hf : Standing (.object [] "" :: f :: rest) g := hf
    rw [hf.step]
    exact hf.pop (List.cons_ne_nil _ _) hd hr rfl rfl

theorem Follows.quietMember {ms : List (String × Json)} {o : List Frame} {c : Char} {g : Gate}
    (hc : Json.isSpace c) (hf : Follows (.afterMember ms o) g) : g.step c = g := by
  cases o with
  | nil =>
    have hf : Resting ms g := hf
    rw [hf.step, stepOutside_quiet (Json.isQuiet_of_isSpace hc)]
  | cons f rest =>
    have hf : Standing (.object [] "" :: f :: rest) g := hf
    rw [hf.step, stepOutside_quiet (Json.isQuiet_of_isSpace hc)]

theorem Follows.afterMember {ms : List (String × Json)} {o : List Frame} {s : State} {c : Char}
    {g : Gate} (hd : s.outer.Distinct) (hr : s.rooted)
    (h : Json.stepAfter c (.afterMember ms o) = some s) (hf : Follows (.afterMember ms o) g) :
    Follows s (g.step c) := by
  simp only [Json.stepAfter, beq_iff_eq] at h
  split at h
  case isTrue hc =>
    cases h
    rw [hf.quietMember hc]
    exact hf
  split at h
  case isTrue hc =>
    cases h
    subst hc
    cases o with
    | nil =>
      have hf : Resting ms g := hf
      have hg : g.stepOutside ',' = { g with expectsKey := true, member := none } := by
        simp [stepOutside, hf.depth]
      rw [hf.step, hg]
      exact ⟨rfl, hf.string, hf.half, hf.ended, hf.depth, hf.opened, hf.control, hf.surface⟩
    | cons f rest =>
      have hf : Standing (.object [] "" :: f :: rest) g := hf
      rw [hf.step, hf.divide (.inl rfl)]
      exact hf
  split at h
  case isTrue hc =>
    cases h
    subst hc
    exact hf.endObject hd hr
  case isFalse => cases h

theorem Follows.done {v : Json} {s : State} {c : Char} {g : Gate}
    (h : Json.stepAfter c (.done v) = some s) (hf : Follows (.done v) g) :
    Follows s (g.step c) := by
  simp only [Json.stepAfter] at h
  split at h <;> cases h
  rw [step_of_ended hf.1]
  exact hf

theorem Follows.key {b : Bool} {ms : List (String × Json)} {o : List Frame} {s : State} {c : Char}
    {g : Gate} (hd : s.outer.Distinct) (hr : s.rooted) (h : Json.step (.key b ms o) c = some s)
    (hf : Follows (.key b ms o) g) : Follows s (g.step c) := by
  have hm : Follows (.afterMember ms o) g := by
    cases o with
    | nil => exact hf.2
    | cons f rest => exact hf
  simp only [Json.step, beq_iff_eq] at h
  split at h
  case isTrue hc =>
    cases h
    rw [hm.quietMember hc]
    exact hf
  split at h
  case isTrue hc =>
    cases h
    subst hc
    cases o with
    | nil =>
      obtain ⟨he, hf⟩ := hf
      have hg : g.stepOutside '"' = { g with string := some (.key, .none), key := [] } := by
        simp [stepOutside, openString, hf.depth, he]
      rw [hf.step, hg]
      exact ⟨.key, .none, rfl, hf.half, rfl, rfl, rfl, rfl, hf.ended, hf.depth, hf.opened,
        hf.control, hf.surface⟩
    | cons f rest =>
      have hf : Standing (.object [] "" :: f :: rest) g := hf
      rw [hf.step]
      have hd : (outerOf (.object [] "" :: f :: rest)).Distinct := by
        rw [Json.outerOf_cons (List.cons_ne_nil _ _)]
        exact hd
      obtain ⟨r, e, hg, hs, rfl, ht⟩ := hf.quote hd
      exact ⟨.other, e, hg, hs, rfl, ht⟩
  split at h
  case isTrue hc =>
    cases h
    simp only [Bool.and_eq_true, beq_iff_eq] at hc
    rw [hc.1]
    exact hm.endObject hd hr
  case isFalse => cases h

theorem Follows.colon {ms : List (String × Json)} {k : String} {o : List Frame} {s : State}
    {c : Char} {g : Gate} (h : Json.step (.colon ms k o) c = some s)
    (hf : Follows (.colon ms k o) g) : Follows s (g.step c) := by
  have hm : Follows (.afterMember ms o) g := by
    cases o with
    | nil => exact hf.2
    | cons f rest => exact hf
  simp only [Json.step, beq_iff_eq] at h
  split at h
  case isTrue hc =>
    cases h
    rw [hm.quietMember hc]
    exact hf
  split at h
  case isTrue hc =>
    cases h
    subst hc
    cases o with
    | nil =>
      obtain ⟨hk, hf⟩ := hf
      have hg : g.stepOutside ':' =
          { g with member := some (Text.lower k.toList), expectsKey := false } := by
        simp [stepOutside, hf.depth, hk]
      rw [hf.step, hg]
      exact ⟨hf.string, hf.half, hf.ended, hf.depth, rfl, rfl, hf.opened, hf.control, hf.surface⟩
    | cons f rest =>
      have hf : Standing (.object [] "" :: f :: rest) g := hf
      rw [hf.step, hf.divide (.inr rfl)]
      exact .retop (List.cons_ne_nil _ _) (by rfl) hf
  case isFalse => cases h

theorem Follows.word {rest : List Char} {v : Json} {o : List Frame} {s : State} {c : Char}
    {g : Gate} (hs : (State.word rest v o).Sound) (hd : s.outer.Distinct) (hr : s.rooted)
    (h : Json.step (.word rest v o) c = some s) (hf : Standing o g) : Follows s (g.step c) := by
  have quiet (d : Char) (hd : d ∈ rest) (hc : (c == d) = true) : g.step c = g := by
    rw [hf.step, beq_iff_eq.mp hc, stepOutside_quiet (Json.isQuiet_of_isLower (hs.2 d hd))]
  simp only [Json.step] at h
  split at h
  · cases h
  · split at h
    case isTrue hc =>
      cases h
      rw [quiet _ List.mem_cons_self hc]
      exact hf.scalar hs.1 hd hr
    · cases h
  · split at h
    case isTrue hc =>
      cases h
      rw [quiet _ List.mem_cons_self hc]
      exact hf
    · cases h

theorem Follows.stepAfter {s s' : State} {c : Char} {g : Gate} (hd : s'.outer.Distinct)
    (hr : s'.rooted) (h : Json.stepAfter c s = some s') (hf : Follows s g) :
    Follows s' (g.step c) := by
  cases s with
  | afterItem items o => exact Follows.afterItem hd hr h hf
  | afterMember ms o => exact Follows.afterMember hd hr h hf
  | done v => exact Follows.done h hf
  | _ => cases h

theorem Follows.number {phase : Json.NumberPhase} {t : Json.NumberText} {o : List Frame}
    {s : State} {c : Char} {g : Gate} (hd : s.outer.Distinct) (hr : s.rooted)
    (h : Json.step (.number phase t o) c = some s) (hf : Standing o g) : Follows s (g.step c) := by
  rcases Json.stepNumber_cases h with ⟨phase', t', hq, rfl⟩ | ⟨v, hv, ha⟩
  · rw [hf.step, stepOutside_quiet hq]
    exact hf
  · have hd' := distinct_of_suffix (Json.move_stepAfter ha).keys_suffix hd
    have hs := hf.scalar hv hd' (rooted_stepAfter ha hr)
    exact hs.stepAfter hd hr ha

/-- One character keeps the gate where the reader is. -/
theorem follows_step {s s' : State} {c : Char} {g : Gate} (hs : s.Sound) (hd : s'.outer.Distinct)
    (hr : s'.rooted) (h : Json.step s c = some s') (hf : Follows s g) : Follows s' (g.step c) := by
  cases s with
  | value b o => exact Follows.value hd hr h hf
  | key b ms o => exact Follows.key hd hr h hf
  | colon ms k o => exact Follows.colon h hf
  | text role phase sofar o => exact Follows.text hd hr h hf
  | word rest v o => exact Follows.word hs hd hr h hf
  | number phase t o => exact Follows.number hd hr h hf
  | afterItem items o => exact Follows.afterItem hd hr h hf
  | afterMember ms o => exact Follows.afterMember hd hr h hf
  | done v => exact Follows.done h hf

theorem rooted_run {s s' : State} {cs : List Char} (h : Json.run s cs = some s') (hr : s'.rooted) :
    s.rooted := by
  induction cs generalizing s with
  | nil => cases h; exact hr
  | cons c cs ih =>
    obtain ⟨t, ht, h⟩ := Option.bind_eq_some_iff.mp h
    exact rooted_step ht (ih h)

/-- A whole text keeps the gate where the reader is. -/
theorem follows_run {s s' : State} {cs : List Char} {g : Gate} (hs : s.Sound)
    (hd : s'.outer.Distinct) (hr : s'.rooted) (h : Json.run s cs = some s') (hf : Follows s g) :
    Follows s' (g.run cs) := by
  induction cs generalizing s g with
  | nil => cases h; exact hf
  | cons c cs ih =>
    obtain ⟨t, ht, h⟩ := Option.bind_eq_some_iff.mp h
    have hs' := Json.sound_step hs ht
    have hd' := distinct_of_suffix (Json.outer_run hs' h).2 hd
    exact ih hs' h (follows_step hs hd' (rooted_run h hr) ht hf)

theorem follows_start : Follows Json.start {} := ⟨rfl, rfl, rfl, rfl, rfl, rfl, rfl, rfl, rfl⟩

end Utterance.Stream.Gate
