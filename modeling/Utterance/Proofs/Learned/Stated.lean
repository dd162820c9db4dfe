import Utterance.Learned.Exemplar
import Utterance.Proofs.Intent
import Utterance.Proofs.Rule.Reading

/-! What is known about an exemplar that a text states. -/

namespace Utterance.Exemplar

/-- What a text can state as an exemplar. -/
structure IsStated (e : Exemplar) : Prop where
  slash : ∃ rest, e.verb.toList = '/' :: rest
  quote : '"' ∉ e.verb.toList
  comma : ',' ∉ e.verb.toList
  bare : Text.Bare e.verb.toList
  finite : e.confidence.isFinite
  nonneg : 0 ≤ e.confidence

theorem exists_of_bind_ok {ε α β : Type} {x : Except ε α} {f : α → Except ε β} {y : β}
    (h : x >>= f = .ok y) : ∃ a, x = .ok a ∧ f a = .ok y := by
  cases x with
  | error e => cases h
  | ok a => exact ⟨a, rfl, h⟩

/-! Arguments. -/

theorem split_ne_nil (q : Quoting) (cs : List Char) : split q cs ≠ [] := by
  induction cs generalizing q with
  | nil => exact List.cons_ne_nil _ _
  | cons c rest ih =>
    unfold split
    split
    · exact List.cons_ne_nil _ _
    · split <;> exact List.cons_ne_nil _ _

/-- A comma that does not divide arguments stands in quotes: behind one of the same argument, but for the
first argument where the text begins in quotes. -/
theorem comma_not_mem_split {q : Quoting} {cs first : List Char} {others : List (List Char)}
    (h : split q cs = first :: others) :
    (q = .outside → '"' ∉ first → ',' ∉ first) ∧ ∀ part ∈ others, '"' ∉ part → ',' ∉ part := by
  induction cs generalizing q first others with
  | nil =>
    cases h
    exact ⟨fun _ _ => List.not_mem_nil, fun _ hp => absurd hp List.not_mem_nil⟩
  | cons c rest ih =>
    unfold split at h
    split at h
    case isTrue hc =>
      obtain ⟨rfl, rfl⟩ := List.cons.inj h
      refine ⟨fun _ _ => List.not_mem_nil, fun part hp hq => ?_⟩
      obtain ⟨f, fs, hs⟩ := List.exists_cons_of_ne_nil (split_ne_nil q rest)
      have hout : q = .outside := by
        rw [Bool.and_eq_true, decide_eq_true_eq] at hc
        exact hc.1
      obtain ⟨hfirst, hothers⟩ := ih hs
      rw [hs] at hp
      obtain rfl | hp := List.mem_cons.mp hp
      · exact hfirst hout hq
      · exact hothers part hp hq
    case isFalse hc =>
      obtain ⟨f, fs, hs⟩ := List.exists_cons_of_ne_nil (split_ne_nil (q.next c) rest)
      rw [hs] at h
      obtain ⟨rfl, rfl⟩ := List.cons.inj h
      obtain ⟨hfirst, hothers⟩ := ih hs
      refine ⟨fun hout hq => ?_, hothers⟩
      subst hout
      obtain ⟨hcq, hfq⟩ := not_or.mp (mt List.mem_cons.mpr hq)
      have hnext : Quoting.outside.next c = .outside := if_neg (by simpa using Ne.symm hcq)
      rw [List.mem_cons, not_or]
      exact ⟨fun he => hc (by rw [← he]; rfl), hfirst hnext hfq⟩

/-- A verb holds no comma, since it holds no quotes. -/
theorem comma_not_mem_trim {inner part : List Char} (h : part ∈ split .outside inner)
    (hq : '"' ∉ Text.trim part) : ',' ∉ Text.trim part := by
  obtain ⟨first, others, hs⟩ := List.exists_cons_of_ne_nil (split_ne_nil .outside inner)
  obtain ⟨hfirst, hothers⟩ := comma_not_mem_split hs
  obtain ⟨front, back, hfront, hback, htrim⟩ := Text.exists_trim part
  have hblank {cs : List Char} (ha : cs.all Text.isBlank) : '"' ∉ cs :=
    Rule.not_mem_of_all (by decide) ha
  have hpart : '"' ∉ part := by
    rw [htrim, List.mem_append, List.mem_append]
    rintro (hm | hm | hm)
    · exact hblank hfront hm
    · exact hq hm
    · exact hblank hback hm
  have hcomma : ',' ∉ part := by
    rw [hs] at h
    obtain rfl | h := List.mem_cons.mp h
    · exact hfirst rfl hpart
    · exact hothers part h hpart
  intro hm
  rw [htrim] at hcomma
  exact hcomma (List.mem_append_right _ (List.mem_append_left _ hm))

theorem exists_of_verbOf {field : List Char} {verb : String} (h : verbOf field = .ok verb) :
    verb.toList = field ∧ '"' ∉ field ∧ ∃ rest, field = '/' :: rest := by
  unfold verbOf at h
  split at h
  case h_1 rest =>
    split at h
    · cases h
    case isFalse hc =>
      cases h
      simp only [Bool.or_eq_true, not_or, Bool.not_eq_true] at hc
      refine ⟨String.toList_ofList, ?_, rest, rfl⟩
      rw [List.mem_cons, not_or]
      exact ⟨by decide, by simpa using hc.2⟩
  · cases h

theorem of_confidenceOf {field : List Char} {x : Float} (h : confidenceOf field = .ok x) :
    x.isFinite ∧ 0 ≤ x := by
  unfold confidenceOf at h
  split at h
  case h_1 y hy =>
    cases h
    obtain ⟨-, hx⟩ := Option.filter_eq_some_iff.mp hy
    simpa using hx
  · cases h

/-- The fields of a text that states an exemplar. -/
theorem exists_of_parse {text : String} {e : Exemplar} (h : parse text = .ok e) :
    ∃ inner phrase verb target constraint confidence,
      inner? text = some inner ∧
      (split .outside inner).map Text.trim = [phrase, verb, target, constraint, confidence] ∧
      unquote "phrase" phrase = .ok e.phrase ∧ verbOf verb = .ok e.verb ∧
      unquote "target" target = .ok e.target ∧ unquote "constraint" constraint = .ok e.constraint ∧
      confidenceOf confidence = .ok e.confidence := by
  unfold parse at h
  split at h
  · cases h
  case h_2 inner hi =>
    split at h
    case h_1 phrase verb target constraint confidence hf =>
      obtain ⟨v, hv, h⟩ := exists_of_bind_ok h
      obtain ⟨x, hx, h⟩ := exists_of_bind_ok h
      obtain ⟨p, hp, h⟩ := exists_of_bind_ok h
      obtain ⟨t, ht, h⟩ := exists_of_bind_ok h
      obtain ⟨c, hc, h⟩ := exists_of_bind_ok h
      cases h
      exact ⟨inner, phrase, verb, target, constraint, confidence, hi, hf, hp, hv, ht, hc, hx⟩
    · cases h

theorem isStated_of_parse {text : String} {e : Exemplar} (h : parse text = .ok e) : e.IsStated := by
  obtain ⟨inner, phrase, verb, target, constraint, confidence, -, hf, -, hv, -, -, hx⟩ := exists_of_parse h
  obtain ⟨hverb, hquote, rest, hrest⟩ := exists_of_verbOf hv
  obtain ⟨hfinite, hnonneg⟩ := of_confidenceOf hx
  obtain ⟨part, hpart, rfl⟩ : ∃ part ∈ split .outside inner, Text.trim part = verb := by
    rw [← List.mem_map, hf]
    simp
  exact
    { slash := ⟨rest, hverb.trans hrest⟩
      quote := hverb ▸ hquote
      comma := hverb ▸ comma_not_mem_trim hpart hquote
      bare := hverb ▸ Text.trim_bare part
      finite := hfinite
      nonneg := hnonneg }

/-! The fact about an exemplar. -/

theorem bounds_nearestInt64 (x : Float) :
    -(2 ^ 63) ≤ Decimal.nearestInt64 x ∧ Decimal.nearestInt64 x < 2 ^ 63 := by
  unfold Decimal.nearestInt64
  split
  · decide
  · split <;> decide
  · dsimp only
    omega

theorem bounds_percent (e : Exemplar) : -(2 ^ 63) ≤ e.percent ∧ e.percent < 2 ^ 63 := by
  unfold percent
  split
  · exact bounds_nearestInt64 _
  · exact bounds_nearestInt64 _

/-- The verb of a stated exemplar stands in its fact as it was stated. -/
theorem fact_of_isStated {e : Exemplar} (h : e.IsStated) :
    e.fact = ⟨predicate, [.str (sanitize e.phrase), .atom e.verb, .str (sanitize e.target),
      .str (sanitize e.constraint), .int e.percent]⟩ := by
  obtain ⟨rest, hr⟩ := h.slash
  have hn : Rule.Term.named e.verb = .atom e.verb := by
    simp [Rule.Term.named, Text.startsWith, hr]
  rw [fact, hn]

/-- The arguments behind the verb, as they are written. -/
def behindVerb (e : Exemplar) : List Char :=
  ' ' :: ((Rule.quote (sanitize e.target)).toList ++ ',' :: ' ' ::
    ((Rule.quote (sanitize e.constraint)).toList ++ ',' :: ' ' :: (toString e.percent).toList))

/-- The arguments of the fact about an exemplar, as they are written. -/
def written (e : Exemplar) : List Char :=
  (Rule.quote (sanitize e.phrase)).toList ++ ',' :: ' ' :: (e.verb.toList ++ ',' :: e.behindVerb)

theorem toList_source {e : Exemplar} (h : e.IsStated) :
    e.fact.source.toList = predicate.toList ++ '(' :: (e.written ++ [')', '.']) := by
  rw [fact_of_isStated h, written, behindVerb]
  simp [Rule.Fact.source, Rule.Fact.write, Text.join, Rule.Term.write]

theorem newline_not_mem_behindVerb (e : Exemplar) : '\n' ∉ e.behindVerb := by
  have htext (s : String) : '\n' ∉ (Rule.quote s).toList :=
    Rule.newline_not_mem_arg (a := .term (.str s)) rfl
  have hpercent : '\n' ∉ (toString e.percent).toList := Decimal.not_mem_toString (by decide) (by decide) _
  simp only [behindVerb, List.mem_cons, List.mem_append, htext, hpercent]
  decide

theorem isReadable_fact {e : Exemplar} (h : Rule.isAtomName e.verb) : e.fact.isReadable := by
  have hp : Rule.isIdent predicate := by decide
  have hb := bounds_percent e
  simp [fact, Rule.Fact.isReadable, Rule.Term.isReadable, named_of_isAtomName h, hp, h]
  omega

end Utterance.Exemplar
