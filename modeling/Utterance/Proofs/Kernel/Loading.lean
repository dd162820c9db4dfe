import Utterance.Kernel.FactBase
import Utterance.Proofs.Act
import Utterance.Proofs.Rule.Trimming
import Utterance.Proofs.Rule.Writing

/-! A base takes every rule that is accepted. -/

namespace Utterance

namespace Rule

theorem checkRule_of_parseProgram {rule : String} {c : Clause}
    (hlast : (Text.trimmed rule).toList.getLast? = some '.')
    (hp : parseProgram (Text.trimmed rule) = .ok [c]) (hf : c.fault? = none) :
    checkRule rule = .ok c := by
  have hne : (Text.trimmed rule).isEmpty = false := by
    rw [Bool.eq_false_iff]
    intro he
    rw [String.isEmpty_iff.mp he] at hlast
    cases hlast
  unfold checkRule
  simp only [hne, hlast, hp, hf]
  rfl

theorem exists_of_checkRule {rule : String} {c : Clause} (h : checkRule rule = .ok c) :
    parseProgram (Text.trimmed rule) = .ok [c] ∧ c.fault? = none := by
  unfold checkRule at h
  dsimp only at h
  split at h
  · cases h
  · split at h
    · cases h
    · split at h
      · cases h
      case h_2 d hp =>
        split at h
        case h_1 hf =>
          cases h
          exact ⟨hp, hf⟩
        · cases h
      · cases h

/-- An accepted rule is one clause without a fault. -/
theorem exists_of_validateRule {rule : String} (h : validateRule rule = .ok ()) :
    ∃ c, parseProgram rule = .ok [c] ∧ c.fault? = none := by
  unfold validateRule at h
  split at h
  case h_1 c hc =>
    obtain ⟨hp, hf⟩ := exists_of_checkRule hc
    exact ⟨c, parseProgram_of_trimmed hp, hf⟩
  · cases h

/-- A clause without a fault is accepted in the way it is written. -/
theorem validateRule_write {c : Clause} (h : c.isReadable) (hf : c.fault? = none) :
    validateRule (c.write ++ ".") = .ok () := by
  obtain ⟨d, tail, hd, hlower⟩ := exists_write_eq_cons (Bool.and_eq_true_iff.mp h).1
  have hfront : ∃ tail, c.write.toList = d :: tail := by
    unfold Clause.write
    split
    · exact ⟨tail, hd⟩
    · rw [String.append_assoc, String.toList_append, hd]
      exact ⟨_, rfl⟩
  obtain ⟨front, hfront⟩ := hfront
  have hs : (c.write ++ ".").toList = c.write.toList ++ ['.'] := String.toList_append
  have ht : Text.trimmed (c.write ++ ".") = c.write ++ "." :=
    trimmed_eq_self (by rw [hs, hfront]; rfl) hlower hs (by decide)
  have hlast : (Text.trimmed (c.write ++ ".")).toList.getLast? = some '.' := by
    rw [ht, hs, List.getLast?_concat]
  have hc := checkRule_of_parseProgram hlast (by rw [ht]; exact parseProgram_write h) hf
  rw [validateRule, hc]

end Rule

namespace FactBase

theorem on_enter_fact {c : Rule.Clause} {f : Rule.Fact} (h : c.fact? = some f) (b : FactBase) :
    (enter c).on b = (.ok (if b.holds f then 0 else 1), b.insert f) := by
  unfold enter
  rw [Act.on_bind_ok (Act.on_get b), h]
  rfl

theorem on_enter_rule {c : Rule.Clause} (h : c.fact? = none)
    (hv : Rule.validateRule (c.write ++ ".") = .ok ()) (b : FactBase) :
    (enter c).on b = (.ok 0, { b with rules := b.rules ++ [c] }) := by
  unfold enter
  rw [Act.on_bind_ok (Act.on_get b), h, hv]
  rfl

theorem on_mapM_enter_cons {c : Rule.Clause} {cs : List Rule.Clause} {b b' : FactBase} {n : Nat}
    (h : (enter c).on b = (.ok n, b')) :
    ((c :: cs).mapM enter).on b =
      (((cs.mapM enter).on b').1.map (n :: ·), ((cs.mapM enter).on b').2) := by
  rw [List.mapM_cons, Act.on_bind_ok h]
  exact Act.on_map (cs.mapM enter) (n :: ·) b'

theorem on_load {source : String} {cs : List Rule.Clause} (h : Rule.parseProgram source = .ok cs)
    {b b' : FactBase} {counts : List Nat} (hm : (cs.mapM enter).on b = (.ok counts, b')) :
    (load source).on b = (.ok (counts.foldl (· + ·) 0), b') := by
  have hp : (Act.ofOutcome (Rule.parseProgram source)).on b = (.ok cs, b) := by
    rw [h]
    rfl
  unfold load
  rw [Act.on_bind_ok hp, Act.on_bind_ok hm]
  rfl

theorem on_load_single {source : String} {c : Rule.Clause} (h : Rule.parseProgram source = .ok [c])
    {b b' : FactBase} {n : Nat} (he : (enter c).on b = (.ok n, b')) :
    (load source).on b = (.ok n, b') := by
  have hl := on_load h (on_mapM_enter_cons he)
  rw [List.foldl_cons, Nat.zero_add] at hl
  exact hl

/-- Every clause of a program is read back from its text, if it holds no double, and every accepted rule
without doubles is taken: as one fact, unless it is held already, or as one rule. -/
theorem load_accepted :
    (∀ source clauses, Rule.parseProgram source = .ok clauses → ∀ c ∈ clauses, c.isFloatless →
      Rule.parseProgram (c.write ++ ".") = .ok [c]) ∧
    ∀ rule, Rule.validateRule rule = .ok () → Rule.isFloatless rule → ∀ b : FactBase,
      ∃ c, Rule.parseProgram rule = .ok [c] ∧
        (∀ f, c.fact? = some f → (load rule).on b =
          if b.holds f then (.ok 0, b)
          else (.ok 1, { b with facts := b.facts ++ [f], texts := f.write :: b.texts })) ∧
        (c.fact? = none → (load rule).on b = (.ok 0, { b with rules := b.rules ++ [c] })) := by
  refine ⟨fun source clauses hp c hc hf => ?_, fun rule hv hf b => ?_⟩
  · exact Rule.parseProgram_write (Rule.isReadable_of_parseProgram hp hc hf)
  · obtain ⟨c, hp, hfault⟩ := Rule.exists_of_validateRule hv
    have hc : c ∈ [c] := List.mem_singleton_self c
    have hreadable := Rule.isReadable_of_parseProgram hp hc (Rule.isFloatless_of_parseProgram hp hf hc)
    refine ⟨c, hp, fun f hfact => ?_, fun hfact => ?_⟩
    · rw [on_load_single hp (on_enter_fact hfact b), insert]
      cases b.holds f <;> rfl
    · exact on_load_single hp (on_enter_rule hfact (Rule.validateRule_write hreadable hfault) b)

/-- A rule with a negation, comparisons, a condition without arguments and a comment. -/
def elaborateRule : String :=
  "\nfits:in(X, \"a.\\\"\") :- seen(X), !gone(X, -1), X==/a-b, idle. # Or not."

theorem load_elaborateRule :
    Rule.validateRule elaborateRule = .ok () ∧ Rule.isFloatless elaborateRule ∧
      ∃ c, Rule.parseProgram elaborateRule = .ok [c] ∧ Rule.parseProgram (c.write ++ ".") = .ok [c] ∧
        (load elaborateRule).on {} = (.ok 0, { rules := [c] }) := by
  have hv : Rule.validateRule elaborateRule = .ok () := by
    have h : (Rule.validateRule elaborateRule).toOption.isSome := by decide +kernel
    cases hr : Rule.validateRule elaborateRule with
    | error e =>
      rw [hr] at h
      cases h
    | ok => rfl
  have hf : Rule.isFloatless elaborateRule := by decide +kernel
  have hrule : (Rule.parseProgram elaborateRule).toOption.all
      (·.all fun c => c.isFloatless && c.fact?.isNone) := by decide +kernel
  obtain ⟨c, hp, -, hload⟩ := load_accepted.2 elaborateRule hv hf {}
  rw [hp] at hrule
  simp only [Except.toOption, Option.all_some, List.all_cons, List.all_nil, Bool.and_true,
    Bool.and_eq_true, Option.isNone_iff_eq_none] at hrule
  obtain ⟨hc, hnone⟩ := hrule
  refine ⟨hv, hf, c, hp, ?_, hload hnone⟩
  exact load_accepted.1 elaborateRule [c] hp c (List.mem_singleton_self c) hc

end FactBase

end Utterance
