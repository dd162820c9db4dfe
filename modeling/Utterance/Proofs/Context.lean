import Mathlib.Data.List.Induction
import Mathlib.Logic.Relation
import Utterance.Context

/-! Contexts that come from one another are a forest in which to call off, and the end of time, go down only.

Whatever is made, called off and waited for, and in whatever order: a context is done as soon as the one that it
comes from is, and remains so; and to call off a context is nothing to those that do not come from it. -/

namespace Utterance

/-! Tokens. -/

namespace Contexts

/-- The token with a number. -/
def token? (tokens : List Token) (n : Nat) : Option Token :=
  tokens.reverse[n]?

theorem getElem?_concat {α : Type} (xs : List α) (x : α) (i : Nat) :
    (xs ++ [x])[i]? = if i = xs.length then some x else xs[i]? := by
  split
  case isTrue h => rw [h, List.getElem?_concat_length]
  case isFalse h =>
    rw [List.getElem?_append]
    split
    · rfl
    · rw [List.getElem?_eq_none (by simp; omega), List.getElem?_eq_none (by omega)]

theorem token?_cons (t : Token) (older : List Token) (n : Nat) :
    token? (t :: older) n = if n = older.length then some t else token? older n := by
  rw [token?, List.reverse_cons, getElem?_concat, List.length_reverse]
  rfl

theorem length_callOff (a : Nat) (tokens : List Token) : (callOff a tokens).length = tokens.length := by
  induction tokens with
  | nil => rfl
  | cons t older ih =>
    unfold callOff
    split
    · rfl
    · rw [List.length_cons, List.length_cons, ih]

/-- To call off a token changes no other one. -/
theorem token?_callOff (a : Nat) (tokens : List Token) (n : Nat) : token? (callOff a tokens) n =
    if n = a then (token? tokens n).map fun t => { t with isOff := true } else token? tokens n := by
  induction tokens with
  | nil => exact (ite_self _).symm
  | cons t older ih =>
    unfold callOff
    split
    case isTrue ha =>
      rw [token?_cons, token?_cons, ← ha]
      by_cases hn : n = a
      · rw [if_pos hn, if_pos hn, if_pos hn]
        rfl
      · rw [if_neg hn, if_neg hn, if_neg hn]
    case isFalse ha =>
      rw [token?_cons, token?_cons, length_callOff, ih]
      by_cases hn : n = older.length
      · rw [if_pos hn, if_pos hn, if_neg (hn ▸ Ne.symm ha)]
      · rw [if_neg hn, if_neg hn]

/-- No token comes from a later one. -/
def IsOrdered (tokens : List Token) : Prop :=
  ∀ n t, token? tokens n = some t → ∀ p ∈ t.parent, p < n

theorem isOff_cons (t : Token) {older : List Token} {n : Nat} (h : n < older.length) :
    isOff (t :: older) n = isOff older n :=
  if_neg (Nat.ne_of_lt h)

theorem lt_of_token? {tokens : List Token} {n : Nat} {t : Token} (h : token? tokens n = some t) :
    n < tokens.length := by
  rw [← List.length_reverse]
  exact (List.getElem?_eq_some_iff.mp h).1

/-- A token is off if it was called off, or if the one is off that it comes from. -/
theorem isOff_eq {tokens : List Token} (h : IsOrdered tokens) {n : Nat} {t : Token}
    (ht : token? tokens n = some t) : isOff tokens n = (t.isOff || t.parent.any (isOff tokens)) := by
  induction tokens with
  | nil => cases ht
  | cons t₀ older ih =>
    -- What a token comes from is among the older ones, so the latest one can be left out.
    have hbelow {m : Nat} (hm : m < older.length) {u : Token} (hu : token? older m = some u) :
        token? (t₀ :: older) m = some u := by
      rw [token?_cons, if_neg (Nat.ne_of_lt hm), hu]
    have hparent {m : Nat} (hm : m ≤ older.length) {u : Token} (hu : token? (t₀ :: older) m = some u) :
        u.parent.any (isOff older) = u.parent.any (isOff (t₀ :: older)) := by
      cases hp : u.parent with
      | none => rfl
      | some p => exact (isOff_cons t₀ (Nat.lt_of_lt_of_le (h m u hu p hp) hm)).symm
    have hcases := ht
    rw [token?_cons] at hcases
    split at hcases
    case isTrue hn =>
      cases hcases
      rw [← hparent (Nat.le_of_eq hn) ht, isOff, if_pos hn]
    case isFalse hn =>
      have hlt := lt_of_token? hcases
      have hordered : IsOrdered older := fun m u hu => h m u (hbelow (lt_of_token? hu) hu)
      rw [← hparent (Nat.le_of_lt hlt) ht, isOff_cons t₀ hlt]
      exact ih hordered hcases

end Contexts

/-! Forests. -/

/-- A context, and the place of the one that it comes from. -/
structure Node where
  context : Context
  origin : Option Nat

/-- Contexts in the order in which they were made, and the places of those that were called off. -/
structure Forest where
  world : Contexts := {}
  nodes : List Node := []
  cancelled : List Nat := []

/-- What can be done with contexts. -/
inductive Deed where
  | root
  | child (of : Nat)
  | limited (of : Nat) (span : Span)
  | cancel (of : Nat)
  | wait (span : Span)

namespace Forest

/-- A forest with a context that was made. -/
def plant (f : Forest) (origin : Option Nat) (made : Context × Contexts) : Forest :=
  { f with world := made.2, nodes := f.nodes ++ [⟨made.1, origin⟩] }

/-- What becomes of a forest; where there is no such context nothing does. -/
def act (f : Forest) : Deed → Forest
  | .root => f.plant none (Context.root f.world)
  | .child of =>
    match f.nodes[of]? with
    | some n => f.plant (some of) (n.context.child f.world)
    | none => f
  | .limited of span =>
    match f.nodes[of]? with
    | some n => f.plant (some of) (n.context.limited span f.world)
    | none => f
  | .cancel of =>
    match f.nodes[of]? with
    | some n => { f with world := n.context.cancel f.world, cancelled := of :: f.cancelled }
    | none => f
  | .wait span => { f with world := Contexts.clock.write (f.world.now + span.nanos) f.world }

/-- The forest that deeds have made. -/
def after (deeds : List Deed) : Forest :=
  deeds.foldl act {}

/-- Why a context is done, if it is. -/
def fault? (f : Forest) (i : Nat) : Option Fault :=
  f.nodes[i]?.bind fun n => n.context.watch.fault? f.world

def deadline? (f : Forest) (i : Nat) : Option Nat :=
  f.nodes[i]?.bind fun n => n.context.deadline

/-- Whether the context at `i` comes from the one at `p`. -/
def ComesFrom (f : Forest) (i p : Nat) : Prop :=
  ∃ n, f.nodes[i]? = some n ∧ n.origin = some p

/-- Whether the context at `i` is the one at `a`, or comes from it by way of others. -/
def Below (f : Forest) : Nat → Nat → Prop :=
  Relation.ReflTransGen f.ComesFrom

/-- A context is off if it was called off, or one that it comes from. -/
def IsOff (f : Forest) (i : Nat) : Prop :=
  ∃ a ∈ f.cancelled, f.Below i a

/-- A context is late if its time is over. -/
def IsLate (f : Forest) (i : Nat) : Prop :=
  ∃ d, f.deadline? i = some d ∧ d ≤ f.world.now

/-- What is known of every forest. -/
structure Sound (f : Forest) : Prop where
  token_eq : ∀ (i : Nat) (n : Node), f.nodes[i]? = some n → n.context.token = i
  tokens_eq : ∀ i, Contexts.token? f.world.tokens i =
    f.nodes[i]?.map fun n => ⟨n.origin, f.cancelled.contains i⟩
  older : ∀ i p, f.ComesFrom i p → p < i
  within : ∀ i p, f.ComesFrom i p → ∀ d, f.deadline? p = some d → ∃ e ≤ d, f.deadline? i = some e
  known : ∀ a ∈ f.cancelled, a < f.nodes.length

variable {f : Forest}

theorem ComesFrom.lt_length {i p : Nat} (h : f.ComesFrom i p) : i < f.nodes.length := by
  obtain ⟨n, hn, -⟩ := h
  exact (List.getElem?_eq_some_iff.mp hn).1

theorem Below.lt_length {i a : Nat} (h : f.Below i a) (ha : a < f.nodes.length) : i < f.nodes.length := by
  rcases Relation.ReflTransGen.cases_head h with rfl | ⟨p, hp, -⟩
  · exact ha
  · exact hp.lt_length

theorem isOff_iff {i : Nat} : f.IsOff i ↔ i ∈ f.cancelled ∨ ∃ p, f.ComesFrom i p ∧ f.IsOff p := by
  constructor
  · rintro ⟨a, ha, h⟩
    rcases Relation.ReflTransGen.cases_head h with rfl | ⟨p, hp, hbelow⟩
    · exact .inl ha
    · exact .inr ⟨p, hp, a, ha, hbelow⟩
  · rintro (h | ⟨p, hp, a, ha, hbelow⟩)
    · exact ⟨i, h, .refl⟩
    · exact ⟨a, ha, .head hp hbelow⟩

namespace Sound

variable (h : f.Sound)
include h

theorem isOrdered : Contexts.IsOrdered f.world.tokens := by
  intro i t ht p hp
  rw [h.tokens_eq] at ht
  obtain ⟨n, hn, rfl⟩ := Option.map_eq_some_iff.mp ht
  exact h.older i p ⟨n, hn, hp⟩

theorem length_tokens : f.world.tokens.length = f.nodes.length := by
  have hnone (i : Nat) : f.world.tokens.length ≤ i ↔ f.nodes.length ≤ i := by
    rw [← List.length_reverse, ← List.getElem?_eq_none_iff, ← List.getElem?_eq_none_iff]
    show Contexts.token? f.world.tokens i = none ↔ _
    rw [h.tokens_eq, Option.map_eq_none_iff]
  exact Nat.le_antisymm ((hnone _).mpr (Nat.le_refl _)) ((hnone _).mp (Nat.le_refl _))

/-- The token of a context is off exactly if the context is. -/
theorem isOff_token {i : Nat} (hi : i < f.nodes.length) :
    Contexts.isOff f.world.tokens i = true ↔ f.IsOff i := by
  induction i using Nat.strongRecOn with
  | _ i ih =>
    obtain ⟨n, hn⟩ : ∃ n, f.nodes[i]? = some n := ⟨_, List.getElem?_eq_getElem hi⟩
    have ht := h.tokens_eq i
    rw [hn] at ht
    rw [Contexts.isOff_eq h.isOrdered ht, isOff_iff, Bool.or_eq_true, List.contains_iff_mem, Option.any_eq_true]
    refine or_congr_right ⟨?_, ?_⟩
    · rintro ⟨p, hp, hoff⟩
      have hcomes : f.ComesFrom i p := ⟨n, hn, hp⟩
      have hlt := h.older i p hcomes
      exact ⟨p, hcomes, (ih p hlt (Nat.lt_trans hlt hi)).mp hoff⟩
    · rintro ⟨p, ⟨m, hm, hp⟩, hoff⟩
      cases hn.symm.trans hm
      have hlt := h.older i p ⟨n, hn, hp⟩
      exact ⟨p, hp, (ih p hlt (Nat.lt_trans hlt hi)).mpr hoff⟩

open Classical in
/-- A context is done because it is off, or else because it is late. -/
theorem fault?_eq (i : Nat) : f.fault? i =
    if f.IsOff i then some Watch.offFault else if f.IsLate i then some Watch.lateFault else none := by
  cases hn : f.nodes[i]? with
  | none =>
    have hi : f.nodes.length ≤ i := List.getElem?_eq_none_iff.mp hn
    have hoff : ¬f.IsOff i := fun ⟨a, ha, hbelow⟩ => absurd (hbelow.lt_length (h.known a ha)) (Nat.not_lt.mpr hi)
    have hlate : ¬f.IsLate i := by
      rintro ⟨d, hd, -⟩
      rw [deadline?, hn] at hd
      cases hd
    rw [fault?, hn, if_neg hoff, if_neg hlate]
    rfl
  | some n =>
    have hi : i < f.nodes.length := (List.getElem?_eq_some_iff.mp hn).1
    have hlate : n.context.deadline.any (· ≤ f.world.now) = true ↔ f.IsLate i := by
      rw [IsLate, deadline?, hn, Option.any_eq_true]
      simp
    have hfault : f.fault? i = n.context.watch.fault? f.world := by rw [fault?, hn]; rfl
    have hoff : n.context.watch.calledOff f.world = true ↔ f.IsOff i := by
      show Contexts.isOff f.world.tokens n.context.token = true ↔ f.IsOff i
      rw [h.token_eq i n hn]
      exact h.isOff_token hi
    rw [hfault, Watch.fault?]
    exact ite_congr (propext hoff) (fun _ => rfl) fun _ => ite_congr (propext hlate) (fun _ => rfl) fun _ => rfl

end Sound

/-! What a deed does. -/

/-- What is made of a context at `origin`, or of none: its token is the next one, and its time is over no later. -/
structure IsOffspring (f : Forest) (origin : Option Nat) (made : Context × Contexts) : Prop where
  token : made.1.token = f.world.tokens.length
  world : made.2 = f.world.add origin
  known : ∀ p ∈ origin, p < f.nodes.length
  within : ∀ p ∈ origin, ∀ d, f.deadline? p = some d → ∃ e ≤ d, made.1.deadline = some e

section

variable {origin : Option Nat} {made : Context × Contexts} {i p a : Nat}

theorem nodes_plant (i : Nat) : (f.plant origin made).nodes[i]? =
    if i = f.nodes.length then some ⟨made.1, origin⟩ else f.nodes[i]? :=
  Contexts.getElem?_concat _ _ i

theorem deadline?_plant (i : Nat) : (f.plant origin made).deadline? i =
    if i = f.nodes.length then made.1.deadline else f.deadline? i := by
  rw [deadline?, nodes_plant]
  split
  · rfl
  · rfl

theorem comesFrom_plant : (f.plant origin made).ComesFrom i p ↔
    i = f.nodes.length ∧ origin = some p ∨ f.ComesFrom i p := by
  unfold ComesFrom
  rw [nodes_plant]
  by_cases hi : i = f.nodes.length
  · rw [if_pos hi, hi, List.getElem?_eq_none (Nat.le_refl _)]
    simp
  · rw [if_neg hi]
    simp [hi]

theorem isOffspring_root : f.IsOffspring none (Context.root f.world) :=
  ⟨rfl, rfl, by rintro _ ⟨⟩, by rintro _ ⟨⟩⟩

namespace Sound

variable (h : f.Sound)
include h

theorem plant (hmade : f.IsOffspring origin made) : (f.plant origin made).Sound where
  token_eq i n hn := by
    rw [nodes_plant] at hn
    split at hn
    case isTrue hi =>
      cases hn
      rw [hmade.token, h.length_tokens, hi]
    case isFalse => exact h.token_eq i n hn
  tokens_eq i := by
    have hworld : (f.plant origin made).world.tokens = ⟨origin, false⟩ :: f.world.tokens :=
      congrArg Contexts.tokens hmade.world
    have hnew : f.cancelled.contains f.nodes.length = false := Bool.eq_false_iff.mpr fun hmem =>
      absurd (h.known _ (List.contains_iff_mem.mp hmem)) (Nat.lt_irrefl _)
    rw [hworld, Contexts.token?_cons, h.length_tokens, nodes_plant]
    split
    case isTrue hi =>
      rw [hi]
      show some (⟨origin, false⟩ : Token) = some ⟨origin, f.cancelled.contains f.nodes.length⟩
      rw [hnew]
    case isFalse => exact h.tokens_eq i
  older i p hp := by
    rcases comesFrom_plant.mp hp with ⟨rfl, horigin⟩ | hp
    · exact hmade.known p horigin
    · exact h.older i p hp
  within i p hp d hd := by
    have hlt : p < f.nodes.length := by
      rcases comesFrom_plant.mp hp with ⟨-, horigin⟩ | hp
      · exact hmade.known p horigin
      · exact Nat.lt_trans (h.older i p hp) hp.lt_length
    rw [deadline?_plant, if_neg (Nat.ne_of_lt hlt)] at hd
    rcases comesFrom_plant.mp hp with ⟨rfl, horigin⟩ | hp
    · rw [deadline?_plant, if_pos rfl]
      exact hmade.within p horigin d hd
    · rw [deadline?_plant, if_neg (Nat.ne_of_lt hp.lt_length)]
      exact h.within i p hp d hd
  known a ha := by
    have hlt := h.known a ha
    show a < (f.nodes ++ [_]).length
    rw [List.length_append]
    omega

/-- A forest with one more context that was called off. -/
theorem cancel {n : Node} (hn : f.nodes[a]? = some n) :
    Sound { f with world := n.context.cancel f.world, cancelled := a :: f.cancelled } where
  token_eq := h.token_eq
  tokens_eq i := by
    show Contexts.token? (Contexts.callOff n.context.token f.world.tokens) i =
      f.nodes[i]?.map fun n => ⟨n.origin, (a :: f.cancelled).contains i⟩
    rw [h.token_eq a n hn, Contexts.token?_callOff, h.tokens_eq]
    split
    case isTrue hi => simp [hi, Function.comp_def]
    case isFalse hi => simp [hi]
  older := h.older
  within := h.within
  known b hb := by
    rcases List.mem_cons.mp hb with rfl | hb
    · exact (List.getElem?_eq_some_iff.mp hn).1
    · exact h.known b hb

theorem wait (t : Nat) : Sound { f with world := { f.world with now := t } } :=
  ⟨h.token_eq, h.tokens_eq, h.older, h.within, h.known⟩

theorem isOffspring_child {n : Node} (hn : f.nodes[p]? = some n) :
    f.IsOffspring (some p) (n.context.child f.world) where
  token := rfl
  world := by rw [Context.child, h.token_eq p n hn]
  known := by
    rintro _ ⟨⟩
    exact (List.getElem?_eq_some_iff.mp hn).1
  within := by
    rintro _ ⟨⟩ d hd
    rw [deadline?, hn] at hd
    exact ⟨d, Nat.le_refl d, hd⟩

theorem isOffspring_limited {n : Node} (hn : f.nodes[p]? = some n) (span : Span) :
    f.IsOffspring (some p) (n.context.limited span f.world) where
  token := rfl
  world := by rw [Context.limited, h.token_eq p n hn]
  known := by
    rintro _ ⟨⟩
    exact (List.getElem?_eq_some_iff.mp hn).1
  within := by
    rintro _ ⟨⟩ d hd
    rw [deadline?, hn] at hd
    have hdeadline : n.context.deadline = some d := hd
    refine ⟨min (f.world.now + span.nanos) d, Nat.min_le_right _ _, ?_⟩
    show some (n.context.deadline.elim _ _) = _
    rw [hdeadline]
    rfl

/-- A deed does nothing, plants a context, calls one off, or lets time go by. -/
theorem act_cases (d : Deed) : f.act d = f ∨
    (∃ origin made, f.IsOffspring origin made ∧ f.act d = f.plant origin made) ∨
    (∃ a n, d = .cancel a ∧ f.nodes[a]? = some n ∧
      f.act d = { f with world := n.context.cancel f.world, cancelled := a :: f.cancelled }) ∨
    ∃ t, f.world.now ≤ t ∧ f.act d = { f with world := { f.world with now := t } } := by
  cases d with
  | root => exact .inr (.inl ⟨_, _, isOffspring_root, rfl⟩)
  | child p =>
    cases hn : f.nodes[p]? with
    | none =>
      left
      rw [act, hn]
    | some n =>
      refine .inr (.inl ⟨_, _, h.isOffspring_child hn, ?_⟩)
      rw [act, hn]
  | limited p span =>
    cases hn : f.nodes[p]? with
    | none =>
      left
      rw [act, hn]
    | some n =>
      refine .inr (.inl ⟨_, _, h.isOffspring_limited hn span, ?_⟩)
      rw [act, hn]
  | cancel a =>
    cases hn : f.nodes[a]? with
    | none =>
      left
      rw [act, hn]
    | some n =>
      refine .inr (.inr (.inl ⟨a, n, rfl, hn, ?_⟩))
      rw [act, hn]
  | wait span => exact .inr (.inr (.inr ⟨_, Nat.le_add_right _ _, rfl⟩))

theorem act (d : Deed) : (f.act d).Sound := by
  obtain hd | ⟨origin, made, hmade, hd⟩ | ⟨a, n, -, hn, hd⟩ | ⟨t, -, hd⟩ := h.act_cases d <;> rw [hd]
  · exact h
  · exact h.plant hmade
  · exact h.cancel hn
  · exact h.wait t

end Sound

/-! What a deed leaves as it is. -/

/-- What is known of a forest remains so, and time does not go back. -/
structure Extends (f g : Forest) : Prop where
  cancelled : ∀ a ∈ f.cancelled, a ∈ g.cancelled
  comesFrom : ∀ i p, f.ComesFrom i p → g.ComesFrom i p
  deadline : ∀ i d, f.deadline? i = some d → g.deadline? i = some d
  now_le : f.world.now ≤ g.world.now

namespace Extends

variable {g k : Forest}

theorem refl (f : Forest) : f.Extends f :=
  ⟨fun _ => id, fun _ _ => id, fun _ _ => id, Nat.le_refl _⟩

theorem trans (h : f.Extends g) (h' : g.Extends k) : f.Extends k where
  cancelled a ha := h'.cancelled a (h.cancelled a ha)
  comesFrom i p hp := h'.comesFrom i p (h.comesFrom i p hp)
  deadline i d hd := h'.deadline i d (h.deadline i d hd)
  now_le := Nat.le_trans h.now_le h'.now_le

theorem isOff (h : f.Extends g) (hi : f.IsOff i) : g.IsOff i := by
  obtain ⟨a, ha, hbelow⟩ := hi
  exact ⟨a, h.cancelled a ha, hbelow.lift id h.comesFrom⟩

theorem isLate (h : f.Extends g) (hi : f.IsLate i) : g.IsLate i := by
  obtain ⟨d, hd, hle⟩ := hi
  exact ⟨d, h.deadline i d hd, Nat.le_trans hle h.now_le⟩

theorem plant (hmade : f.IsOffspring origin made) : f.Extends (f.plant origin made) where
  cancelled _ := id
  comesFrom i p hp := comesFrom_plant.mpr (.inr hp)
  deadline i d hd := by
    have hi : i ≠ f.nodes.length := by
      rintro rfl
      rw [deadline?, List.getElem?_eq_none (Nat.le_refl _)] at hd
      cases hd
    rw [deadline?_plant, if_neg hi, hd]
  now_le := by
    have hnow : made.2.now = f.world.now := by
      rw [hmade.world]
      rfl
    exact Nat.le_of_eq hnow.symm

theorem act (h : f.Sound) (d : Deed) : f.Extends (f.act d) := by
  obtain hd | ⟨origin, made, hmade, hd⟩ | ⟨a, n, -, -, hd⟩ | ⟨t, ht, hd⟩ := h.act_cases d <;> rw [hd]
  · exact refl f
  · exact plant hmade
  · exact ⟨fun b hb => List.mem_cons_of_mem a hb, fun _ _ => id, fun _ _ => id, Nat.le_refl _⟩
  · exact ⟨fun _ => id, fun _ _ => id, fun _ _ => id, ht⟩

end Extends

end

/-! What deeds do one after the other. -/

theorem after_concat (deeds : List Deed) (d : Deed) : after (deeds ++ [d]) = (after deeds).act d :=
  List.foldl_append

theorem sound_after (deeds : List Deed) : (after deeds).Sound := by
  induction deeds using List.reverseRecOn with
  | nil =>
    refine ⟨?_, fun _ => rfl, ?_, ?_, ?_⟩
    · rintro _ _ ⟨⟩
    · rintro _ _ ⟨_, ⟨⟩, -⟩
    · rintro _ _ ⟨_, ⟨⟩, -⟩
    · rintro _ ⟨⟩
  | append_singleton deeds d ih =>
    rw [after_concat]
    exact ih.act d

theorem extends_after (deeds more : List Deed) : (after deeds).Extends (after (deeds ++ more)) := by
  induction more using List.reverseRecOn with
  | nil =>
    rw [List.append_nil]
    exact .refl _
  | append_singleton more d ih =>
    rw [← List.append_assoc, after_concat]
    exact ih.trans (.act (sound_after _) d)

/-- Whether a context was called off that there was at the time. -/
def WasCancelled (deeds : List Deed) (a : Nat) : Prop :=
  ∃ front back, deeds = front ++ .cancel a :: back ∧ a < (after front).nodes.length

theorem wasCancelled_concat {deeds : List Deed} {d : Deed} {a : Nat} : WasCancelled (deeds ++ [d]) a ↔
    (d = .cancel a ∧ a < (after deeds).nodes.length) ∨ WasCancelled deeds a := by
  constructor
  · rintro ⟨front, back, hdeeds, ha⟩
    rcases List.eq_nil_or_concat back with rfl | ⟨back, last, rfl⟩
    · obtain ⟨rfl, hd⟩ := List.append_inj' hdeeds rfl
      exact .inl ⟨List.singleton_inj.mp hd, ha⟩
    · rw [List.concat_eq_append, ← List.cons_append, ← List.append_assoc] at hdeeds
      obtain ⟨rfl, -⟩ := List.append_inj' hdeeds rfl
      exact .inr ⟨front, back, rfl, ha⟩
  · rintro (⟨rfl, ha⟩ | ⟨front, back, rfl, ha⟩)
    · exact ⟨deeds, [], rfl, ha⟩
    · exact ⟨front, back ++ [d], by simp, ha⟩

theorem mem_cancelled_act {d : Deed} {a : Nat} :
    a ∈ (f.act d).cancelled ↔ (d = .cancel a ∧ a < f.nodes.length) ∨ a ∈ f.cancelled := by
  cases d with
  | root | wait => simp [act, plant, Contexts.clock]
  | child p | limited p =>
    rw [act]
    cases f.nodes[p]? <;> simp [plant]
  | cancel b =>
    rw [act]
    cases hb : f.nodes[b]? with
    | none =>
      have hle := List.getElem?_eq_none_iff.mp hb
      have hno : ¬(Deed.cancel b = .cancel a ∧ a < f.nodes.length) := by
        rintro ⟨⟨⟩, hlt⟩
        exact absurd hlt (Nat.not_lt.mpr hle)
      exact (or_iff_right hno).symm
    | some n =>
      have hlt := (List.getElem?_eq_some_iff.mp hb).1
      rw [List.mem_cons]
      refine or_congr_left ⟨?_, ?_⟩
      · rintro rfl
        exact ⟨rfl, hlt⟩
      · rintro ⟨⟨⟩, -⟩
        rfl

theorem mem_cancelled_iff {deeds : List Deed} {a : Nat} :
    a ∈ (after deeds).cancelled ↔ WasCancelled deeds a := by
  induction deeds using List.reverseRecOn with
  | nil =>
    refine ⟨by rintro ⟨⟩, ?_⟩
    rintro ⟨front, back, h, -⟩
    simp at h
  | append_singleton deeds d ih => rw [after_concat, wasCancelled_concat, ← ih, mem_cancelled_act]

/-! Done contexts. -/

/-- Whether a context is done. -/
def isDone (f : Forest) (i : Nat) : Bool := (f.fault? i).isSome

/-- To call off a context is to call off those below it, and no more. -/
theorem isOff_cancel {a i : Nat} (ha : a < f.nodes.length) :
    (f.act (.cancel a)).IsOff i ↔ f.Below i a ∨ f.IsOff i := by
  have hact : f.act (.cancel a) =
      { f with world := f.nodes[a].context.cancel f.world, cancelled := a :: f.cancelled } := by
    rw [act, List.getElem?_eq_getElem ha]
  rw [hact]
  show (∃ b ∈ a :: f.cancelled, f.Below i b) ↔ f.Below i a ∨ ∃ b ∈ f.cancelled, f.Below i b
  simp only [List.mem_cons, or_and_right, exists_or, exists_eq_left]

/-- To call off a context takes no time. -/
theorem isLate_cancel {a i : Nat} : (f.act (.cancel a)).IsLate i ↔ f.IsLate i := by
  rw [act]
  cases f.nodes[a]? <;> rfl

namespace Sound

variable (h : f.Sound) {i p a : Nat}
include h

theorem isDone_iff : f.isDone i = true ↔ f.IsOff i ∨ f.IsLate i := by
  rw [isDone, h.fault?_eq]
  by_cases hoff : f.IsOff i
  · simp [hoff]
  · by_cases hlate : f.IsLate i <;> simp [hoff, hlate]

theorem fault?_eq_offFault : f.fault? i = some Watch.offFault ↔ f.IsOff i := by
  rw [h.fault?_eq]
  by_cases hoff : f.IsOff i
  · simp [hoff]
  · by_cases hlate : f.IsLate i <;> simp [hoff, hlate, Watch.offFault, Watch.lateFault]

theorem fault?_eq_lateFault : f.fault? i = some Watch.lateFault ↔ ¬f.IsOff i ∧ f.IsLate i := by
  rw [h.fault?_eq]
  by_cases hoff : f.IsOff i
  · simp [hoff, Watch.offFault, Watch.lateFault]
  · by_cases hlate : f.IsLate i <;> simp [hoff, hlate]

/-- Off and late both go from a context to those that come from it. -/
theorem isDone_comesFrom (hp : f.ComesFrom i p) (hdone : f.isDone p = true) : f.isDone i = true := by
  rcases h.isDone_iff.mp hdone with hoff | ⟨d, hd, hle⟩
  · exact h.isDone_iff.mpr (.inl (isOff_iff.mpr (.inr ⟨p, hp, hoff⟩)))
  · obtain ⟨e, he, hi⟩ := h.within i p hp d hd
    exact h.isDone_iff.mpr (.inr ⟨e, hi, Nat.le_trans he hle⟩)

open Classical in
theorem fault?_cancel_of_not_below (hi : ¬f.Below i a) : (f.act (.cancel a)).fault? i = f.fault? i := by
  by_cases ha : a < f.nodes.length
  · rw [(h.act _).fault?_eq, h.fault?_eq]
    have hoff : (f.act (.cancel a)).IsOff i ↔ f.IsOff i := (isOff_cancel ha).trans (or_iff_right hi)
    exact ite_congr (propext hoff) (fun _ => rfl) fun _ =>
      ite_congr (propext isLate_cancel) (fun _ => rfl) fun _ => rfl
  · rw [Forest.act, List.getElem?_eq_none (Nat.le_of_not_lt ha)]

end Sound

/-- Whatever was done: a context is done if the one that it comes from is, its time is over no later, what was
done remains done, and to call off a context is to call off those that come from it and nothing else. The fault
of a context tells whether it was called off, or else whether its time is over. -/
theorem done_goes_down (deeds more : List Deed) :
    let f := after deeds
    (∀ i p, f.ComesFrom i p → f.isDone p = true → f.isDone i = true) ∧
    (∀ i p, f.ComesFrom i p → ∀ d, f.deadline? p = some d → ∃ e ≤ d, f.deadline? i = some e) ∧
    (∀ a i, ¬f.Below i a → (f.act (.cancel a)).fault? i = f.fault? i) ∧
    (∀ a i, a < f.nodes.length → f.Below i a →
      (f.act (.cancel a)).fault? i = some (.cancelled "context canceled")) ∧
    (∀ i, f.isDone i = true → (after (deeds ++ more)).isDone i = true) ∧
    ∀ i,
      (f.fault? i = some (.cancelled "context canceled") ↔ ∃ a, f.Below i a ∧ WasCancelled deeds a) ∧
      (f.fault? i = some (.cancelled "deadline exceeded") ↔
        (¬∃ a, f.Below i a ∧ WasCancelled deeds a) ∧ f.IsLate i) ∧
      (f.fault? i = none ↔ (¬∃ a, f.Below i a ∧ WasCancelled deeds a) ∧ ¬f.IsLate i) := by
  intro f
  have hf : f.Sound := sound_after deeds
  have hoff (i : Nat) : f.IsOff i ↔ ∃ a, f.Below i a ∧ WasCancelled deeds a :=
    exists_congr fun a => by rw [mem_cancelled_iff, and_comm]
  refine ⟨fun i p => hf.isDone_comesFrom, hf.within, fun a i => hf.fault?_cancel_of_not_below, ?_, ?_, ?_⟩
  · intro a i ha hi
    exact (hf.act _).fault?_eq_offFault.mpr ((isOff_cancel ha).mpr (.inl hi))
  · intro i hi
    have hext := extends_after deeds more
    exact (sound_after _).isDone_iff.mpr ((hf.isDone_iff.mp hi).imp hext.isOff hext.isLate)
  · intro i
    rw [← hoff]
    refine ⟨hf.fault?_eq_offFault, hf.fault?_eq_lateFault, ?_⟩
    rw [← Option.not_isSome_iff_eq_none, ← not_or]
    exact not_congr hf.isDone_iff

/-- To call off the second of three contexts leaves the first as it was. -/
example :
    let f := after [.root, .child 0, .limited 1 ⟨5⟩, .cancel 1, .wait ⟨9⟩]
    ((List.range 3).map f.isDone) = [false, true, true] := by decide

end Forest

end Utterance
