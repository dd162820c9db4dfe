import Utterance.Intent
import Utterance.Proofs.Rule.RoundTrip
import Utterance.Proofs.Text.Blank

/-! The one form of a verb, and the fact that tells about an intent: it holds nothing but the intent, whatever a
model has put into it. -/

namespace Utterance

open Text (Bare)

theorem normalizeVerb_slash {v : List Char} (hb : Bare ('/' :: v))
    (hl : ('/' :: v).map Char.toLower = '/' :: v) :
    normalizeVerb (String.ofList ('/' :: v)) = String.ofList ('/' :: v) := by
  rw [normalizeVerb, String.toList_ofList, Text.trim_eq_self hb, hl]
  rfl

theorem bare_slash {v : List Char} (hb : Bare v) (hv : v ≠ []) : Bare ('/' :: v) := by
  constructor
  · intro c hc
    cases hc
    decide
  · intro c hc
    rw [List.getLast?_cons_of_ne_nil hv] at hc
    exact hb.2 c hc

theorem normalizeVerb_cases {s : String} {v : List Char}
    (hv : (Text.trim s.toList).map Char.toLower = v) :
    normalizeVerb s = "" ∨ (∃ t, v = '/' :: t ∧ normalizeVerb s = String.ofList ('/' :: t)) ∨
      v ≠ [] ∧ normalizeVerb s = String.ofList ('/' :: v) := by
  rw [normalizeVerb, hv]
  split
  · exact .inl rfl
  · exact .inr (.inl ⟨_, rfl, rfl⟩)
  case h_3 hn _ => exact .inr (.inr ⟨hn, rfl⟩)

/-- A verb in its one form stays as it is. -/
theorem normalizeVerb_normalizeVerb (s : String) :
    normalizeVerb (normalizeVerb s) = normalizeVerb s := by
  have hb : Bare ((Text.trim s.toList).map Char.toLower) := (Text.trim_bare _).map_toLower
  have hl : ((Text.trim s.toList).map Char.toLower).map Char.toLower =
      (Text.trim s.toList).map Char.toLower := by
    rw [List.map_map]
    exact List.map_congr_left fun c _ => Text.toLower_toLower c
  generalize hv : (Text.trim s.toList).map Char.toLower = v at hb hl
  obtain h | ⟨t, rfl, h⟩ | ⟨hn, h⟩ := normalizeVerb_cases hv
  · rw [h]
    rfl
  · rw [h]
    exact normalizeVerb_slash hb hl
  · rw [h]
    refine normalizeVerb_slash (bare_slash hb hn) ?_
    rw [List.map_cons, hl]
    rfl

/-! Facts about intents. -/

open Rule (isAtomName)

theorem named_of_isAtomName {name : String} (h : isAtomName name) :
    Rule.Term.named name = .atom name := by
  unfold isAtomName at h
  split at h
  case h_1 c tail hs =>
    have hp : Text.startsWith name "/" := by simp [Text.startsWith, hs]
    simp [Rule.Term.named, hp]
  · cases h

theorem isAtomName_ofList {name : List Char} (hn : name ≠ []) (h : name.all Rule.isNameChar) :
    isAtomName (String.ofList ('/' :: name)) := by
  obtain ⟨c, tail, rfl⟩ := List.exists_cons_of_ne_nil hn
  obtain ⟨hc, ht⟩ := Bool.and_eq_true_iff.mp h
  have ha : tail.all Rule.isAtomChar := by
    rw [List.all_eq_true] at ht ⊢
    intro d hd
    simp [Rule.isAtomChar, ht d hd]
  simp [isAtomName, hc, ha]

/-- A verb of any form becomes the name of a constant. -/
theorem isAtomName_verbName (verb : String) : isAtomName (verbName verb) := by
  unfold verbName
  dsimp only
  split
  · decide +kernel
  case isFalse hn =>
    refine isAtomName_ofList (by simpa using hn) ?_
    rw [List.all_eq_true]
    intro c hc
    exact (List.mem_filter.mp hc).2

theorem isAtomName_category (c : Category) : isAtomName c.write := by
  cases c <;> decide +kernel

namespace Intent

theorem fact_eq (i : Intent) :
    i.fact = ⟨"user_intent", [.atom "/current_intent", .atom i.category.write,
      .atom (verbName i.verb), .str (sanitize i.target), .str (sanitize i.constraint)]⟩ := by
  rw [fact, named_of_isAtomName (isAtomName_category _), named_of_isAtomName (isAtomName_verbName _)]
  rfl

theorem isReadable_fact (i : Intent) : i.fact.isReadable := by
  have hp : Rule.isIdent "user_intent" := by decide +kernel
  have hi : isAtomName "/current_intent" := by decide +kernel
  rw [fact_eq]
  simp [Rule.Fact.isReadable, Rule.Term.isReadable, hp, hi, isAtomName_category, isAtomName_verbName]

/-- The text of the fact about an intent is a program of one clause without conditions, which states this
fact: five arguments under the predicate of intents, of which the last two are the texts of the intent as
they may stand in a fact. -/
theorem parseProgram_fact (i : Intent) :
    ∃ c, Rule.parseProgram i.fact.source = .ok [c] ∧ c.body = [] ∧ c.fact? = some i.fact ∧
      ∃ verb, isAtomName verb ∧
        i.fact = ⟨"user_intent", [.atom "/current_intent", .atom i.category.write, .atom verb,
          .str (sanitize i.target), .str (sanitize i.constraint)]⟩ :=
  ⟨i.fact.clause, Rule.parseProgram_source i.isReadable_fact, rfl, Rule.fact?_clause i.fact,
    verbName i.verb, isAtomName_verbName i.verb, i.fact_eq⟩

end Intent

end Utterance
