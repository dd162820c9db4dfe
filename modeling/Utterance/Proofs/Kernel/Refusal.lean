import Utterance.Proofs.Kernel.Base
import Utterance.Proofs.Kernel.Loading

/-! What a base keeps of a program that it refuses: the clauses in front of the one that is refused.
Nothing of them is taken back. -/

namespace Utterance

/-- Why a base does not take a clause. Ground facts are always taken, and rules if they are accepted in
the way they are written. -/
def Rule.Clause.refusal? (c : Rule.Clause) : Option Fault :=
  match c.fact?, Rule.validateRule (c.write ++ ".") with
  | none, .error e => some e
  | _, _ => none

namespace FactBase

/-- The base with one more clause: a fact, unless it is held, or a rule. -/
def take (b : FactBase) (c : Rule.Clause) : FactBase :=
  match c.fact? with
  | some f => b.insert f
  | none => { b with rules := b.rules ++ [c] }

variable {b b' : FactBase} {c : Rule.Clause} {cs : List Rule.Clause} {e : Fault}

/-! One clause. -/

theorem on_enter_of_taken (h : c.refusal? = none) (b : FactBase) :
    ∃ n, (enter c).on b = (.ok n, b.take c) := by
  unfold Rule.Clause.refusal? at h
  unfold take
  cases hf : c.fact? with
  | some f => exact ⟨_, on_enter_fact hf b⟩
  | none =>
    rw [hf] at h
    cases hv : Rule.validateRule (c.write ++ ".") with
    | ok => exact ⟨0, on_enter_rule hf hv b⟩
    | error e =>
      rw [hv] at h
      cases h

theorem on_enter_of_refused (h : c.refusal? = some e) (b : FactBase) :
    (enter c).on b = (.error e, b) := by
  unfold Rule.Clause.refusal? at h
  split at h
  case h_1 hf hv =>
    cases h
    unfold enter
    rw [Act.on_bind_ok (Act.on_get b), hf, hv]
    rfl
  · cases h

/-! Many clauses. -/

/-- Clauses are taken up to the first one that is refused. -/
theorem split_of_on_mapM_enter (h : (cs.mapM enter).on b = (.error e, b')) :
    ∃ front c back, cs = front ++ c :: back ∧ (∀ d ∈ front, d.refusal? = none) ∧
      c.refusal? = some e ∧ b' = front.foldl take b := by
  induction cs generalizing b with
  | nil => cases h
  | cons c cs ih =>
    cases hc : c.refusal? with
    | some e' =>
      rw [List.mapM_cons, Act.on_bind, on_enter_of_refused hc] at h
      cases h
      exact ⟨[], c, cs, rfl, by simp, hc, rfl⟩
    | none =>
      obtain ⟨n, hn⟩ := on_enter_of_taken hc b
      rw [on_mapM_enter_cons hn] at h
      cases hm : (cs.mapM enter).on (b.take c) with
      | mk o v =>
        rw [hm] at h
        cases o with
        | ok counts => cases h
        | error e' =>
          cases h
          obtain ⟨front, d, back, rfl, hfront, hd, hb⟩ := ih hm
          exact ⟨c :: front, d, back, rfl, List.forall_mem_cons.mpr ⟨hc, hfront⟩, hd, hb⟩

/-! What was held stays. -/

/-- A base holds what another one holds, in the same order, and maybe more behind it. -/
structure Within (b b' : FactBase) : Prop where
  facts : b.facts <+: b'.facts
  texts : b.texts <:+ b'.texts
  rules : b.rules <+: b'.rules

namespace Within

theorem refl (b : FactBase) : Within b b :=
  ⟨List.prefix_rfl, List.suffix_rfl, List.prefix_rfl⟩

theorem trans {b'' : FactBase} (h : Within b b') (h' : Within b' b'') : Within b b'' :=
  ⟨h.facts.trans h'.facts, h.texts.trans h'.texts, h.rules.trans h'.rules⟩

theorem antisymm (h : Within b b') (h' : Within b' b) : b = b' := by
  have hfacts := h.facts.eq_of_length_le h'.facts.length_le
  have htexts := h.texts.eq_of_length_le h'.texts.length_le
  have hrules := h.rules.eq_of_length_le h'.rules.length_le
  cases b
  cases b'
  cases hfacts
  cases htexts
  cases hrules
  rfl

end Within

theorem within_take (b : FactBase) (c : Rule.Clause) : Within b (b.take c) := by
  unfold take
  split
  case h_1 f hf =>
    unfold insert
    split
    · exact .refl b
    · exact ⟨List.prefix_append _ _, List.suffix_cons _ _, List.prefix_rfl⟩
  case h_2 hf => exact ⟨List.prefix_rfl, List.suffix_rfl, List.prefix_append _ _⟩

theorem within_foldl_take (cs : List Rule.Clause) (b : FactBase) : Within b (cs.foldl take b) := by
  induction cs generalizing b with
  | nil => exact .refl b
  | cons c cs ih => exact (within_take b c).trans (ih (b.take c))

/-- Only a fact that is held already changes nothing. -/
theorem take_eq_self_iff : b.take c = b ↔ ∃ f, c.fact? = some f ∧ b.holds f := by
  unfold take
  cases hf : c.fact? with
  | none =>
    constructor
    · intro h
      simpa using congrArg (·.rules.length) h
    · rintro ⟨f, hf, -⟩
      cases hf
  | some f =>
    constructor
    · intro h
      refine ⟨f, rfl, Decidable.byContradiction fun hh => ?_⟩
      have hlength := congrArg (·.facts.length) h
      simp [insert, hh] at hlength
    · rintro ⟨f, hf, hh⟩
      cases hf
      exact insert_of_holds hh

theorem foldl_take_eq_self_iff :
    cs.foldl take b = b ↔ ∀ c ∈ cs, ∃ f, c.fact? = some f ∧ b.holds f := by
  induction cs with
  | nil => simp
  | cons c cs ih =>
    rw [List.forall_mem_cons, ← take_eq_self_iff, ← ih, List.foldl_cons]
    constructor
    · intro h
      -- What one clause adds could not be lost behind it.
      have hback : Within (b.take c) b := by
        have hrest := within_foldl_take cs (b.take c)
        rwa [h] at hrest
      have hc := hback.antisymm (within_take b c)
      rw [hc] at h
      exact ⟨hc, h⟩
    · rintro ⟨hc, hcs⟩
      rw [hc, hcs]

/-! Programs. -/

/-- A program that is refused either does not parse, and then the base is as before. Or it has a first
clause that is refused, and then the clauses in front of it were taken, so that the base is as before only
if these are facts that were held already. What was held stays in either case, and so it is with a base
that is a part of a world. -/
theorem load_refused {source : String} (h : (load source).on b = (.error e, b')) :
    (Rule.parseProgram source = .error e ∧ b' = b ∨
      ∃ front c back, Rule.parseProgram source = .ok (front ++ c :: back) ∧
        (∀ d ∈ front, d.refusal? = none) ∧ c.refusal? = some e ∧ b' = front.foldl take b ∧
        (b' = b ↔ ∀ d ∈ front, ∃ f, d.fact? = some f ∧ b.holds f)) ∧
      Within b b' ∧
      ∀ (W : Type) (base : Part W FactBase) (w : W), base.read w = b →
        ((kernel base).load source).on w = (.error e, base.write b' w) := by
  have hkernel : ∀ (W : Type) (base : Part W FactBase) (w : W), base.read w = b →
      ((kernel base).load source).on w = (.error e, base.write b' w) := by
    rintro W base w rfl
    show (base.act (load source)).on w = _
    rw [base.on_act, h]
  unfold load at h
  cases hp : Rule.parseProgram source with
  | error e' =>
    rw [hp] at h
    cases h
    exact ⟨.inl ⟨rfl, rfl⟩, .refl b, hkernel⟩
  | ok cs =>
    have hm : (cs.mapM enter).on b = (.error e, b') := by
      have hparse : (Act.ofOutcome (Rule.parseProgram source)).on b = (.ok cs, b) := by
        rw [hp]
        rfl
      rw [Act.on_bind_ok hparse, Act.on_bind] at h
      split at h
      · cases h
      · cases h
        assumption
    obtain ⟨front, c, back, rfl, hfront, hc, rfl⟩ := split_of_on_mapM_enter hm
    refine ⟨.inr ⟨front, c, back, rfl, hfront, hc, rfl, foldl_take_eq_self_iff⟩, ?_, hkernel⟩
    exact within_foldl_take front b

/-- A fact in front of one that is not ground. -/
def openProgram : String :=
  "p(/a). q(X)."

theorem exists_on_openProgram :
    ∃ e b', (load openProgram).on {} = (.error e, b') ∧ b'.facts.length = 1 := by
  have hfails : ((load openProgram).on {}).1.toOption.isNone := by decide +kernel
  have hfacts : ((load openProgram).on {}).2.facts.length = 1 := by decide +kernel
  cases hl : (load openProgram).on {} with
  | mk o b' =>
    rw [hl] at hfails hfacts
    cases o with
    | ok n => cases hfails
    | error e => exact ⟨e, b', rfl, hfacts⟩

theorem load_refused_openProgram :
    ∃ e b', (load openProgram).on {} = (.error e, b') ∧ b'.facts.length = 1 ∧
      ∃ front c back, Rule.parseProgram openProgram = .ok (front ++ c :: back) ∧
        c.refusal? = some e ∧ b' = front.foldl take {} := by
  obtain ⟨e, b', hl, hfacts⟩ := exists_on_openProgram
  obtain ⟨⟨-, rfl⟩ | ⟨front, c, back, hp, -, hc, hb, -⟩, -⟩ := load_refused hl
  · cases hfacts
  · exact ⟨e, b', hl, hfacts, front, c, back, hp, hc, hb⟩

theorem not_unchanged_by_refusal :
    ¬∀ (source : String) (b b' : FactBase) (e : Fault), (load source).on b = (.error e, b') →
      b'.facts = b.facts ∧ b'.texts = b.texts ∧ b'.rules = b.rules := by
  intro h
  obtain ⟨e, b', hl, hfacts⟩ := exists_on_openProgram
  obtain ⟨hsame, -, -⟩ := h openProgram {} b' e hl
  rw [hsame] at hfacts
  cases hfacts

end FactBase

end Utterance
