import Utterance.Proofs.Decimal.Exact
import Utterance.Proofs.Interpreter.Closure

/-! Every confidence is a share: of verdicts, of candidates, of decisions and of replies. -/

namespace Utterance

open Decimal

theorem isShare_clampConfidence (x : Float) : IsShare (clampConfidence x) := by
  unfold clampConfidence
  split
  · exact ⟨by decide, by decide⟩
  split
  · exact ⟨by decide, by decide⟩
  split
  · exact ⟨by decide, by decide⟩
  · rename_i hn h0 h1
    exact isShare_of_not_lt (by simpa using hn) h0 h1

theorem clampConfidence_of_isShare {x : Float} (h : IsShare x) : clampConfidence x = x := by
  obtain ⟨h0, h1⟩ := (isShare_iff x).mp h
  have hl : ¬ x < 0 := fun hlt => ((lt_zero_iff x).mp hlt).2 h0
  have hg : ¬ 1 < x := fun hlt => ((one_lt_iff x).mp hlt).2 h1
  have hn : ¬ x.isNaN = true := by
    rw [h.isNaN]
    decide
  unfold clampConfidence
  rw [if_neg hn, if_neg hl, if_neg hg]

theorem isShare_fallbackConfidence : IsShare fallbackConfidence := ⟨by decide, by decide⟩

/-! Candidates. -/

theorem Text.length_lowerFrom_le (before cs : List Char) :
    (Text.lowerFrom before cs).length ≤ 2 * cs.length := by
  induction cs generalizing before with
  | nil => exact Nat.le_refl 0
  | cons c cs ih =>
    have hc : (Text.lowerChar c).length ≤ 2 := by
      unfold Text.lowerChar
      split
      · exact Nat.le_succ 1
      · split
        · exact Nat.le_refl 2
        · exact Nat.le_succ 1
    have hs : ∀ small : List Char, small.length ≤ 2 →
        (small ++ Text.lowerFrom (c :: before) cs).length ≤ 2 * (c :: cs).length := by
      intro small h
      have := ih (c :: before)
      simp only [List.length_append, List.length_cons]
      omega
    refine hs _ ?_
    split
    · exact Nat.le_succ 1
    · exact hc

theorem Text.length_le_of_occursIn {part cs : List Char} (h : Text.occursIn part cs = true) :
    part.length ≤ cs.length := by
  induction cs with
  | nil =>
    cases part with
    | nil => exact Nat.le_refl 0
    | cons => simp [Text.occursIn, Text.cut?] at h
  | cons c cs ih =>
    by_cases hp : part.isPrefixOf (c :: cs) = true
    · exact (List.isPrefixOf_iff_prefix.mp hp).length_le
    · have hc : Text.occursIn part cs = true := by
        simpa [Text.occursIn, Text.cut?, Text.after?, hp] using h
      have := ih hc
      simp only [List.length_cons]
      omega

theorem Verb.length_le_of_matched? {v : Verb} {message : String} {n : Nat}
    (h : v.matched? message = some (.synonym n)) : n ≤ message.length := by
  unfold Verb.matched? at h
  split at h
  · cases h
  · obtain ⟨k, hk, hn⟩ := Option.map_eq_some_iff.mp h
    cases hn
    obtain ⟨s, hs, rfl⟩ := List.mem_map.mp (List.max?_mem hk)
    have ho : Text.occursIn s.toList message.toList = true := (List.mem_filter.mp hs).2
    have hle := Text.length_le_of_occursIn ho
    rwa [String.length_toList, String.length_toList] at hle

/-- A phrase that a message contains is not longer than twice what is looked at of a message. -/
theorem Corpus.length_le_of_mem_candidates {c : Corpus} {message : String} {x : Candidate} {n : Nat}
    (h : x ∈ c.candidates message) (hn : x.matched = .synonym n) : n ≤ 2 * maxMessage := by
  obtain ⟨v, -, hv⟩ := List.mem_filterMap.mp h
  obtain ⟨k, hk, rfl⟩ := Option.map_eq_some_iff.mp hv
  have hm : k = .synonym n := hn
  subst hm
  have hl := Verb.length_le_of_matched? hk
  have hlow : (Text.lowered (shortened message)).length ≤ 2 * (shortened message).length := by
    have h := Text.length_lowerFrom_le [] (shortened message).toList
    rw [String.length_toList] at h
    rwa [Text.lowered, String.length_ofList]
  have hsh : (shortened message).length ≤ maxMessage := by
    simp only [shortened, String.length_ofList, List.length_take]
    exact Nat.min_le_left _ _
  omega

/-- What a match alone is worth, for a priority. -/
def Matched.worth (p : Float) : Matched → Float
  | .pattern => 50 + p / 10
  | .synonym length => 20 + Decimal.ofInt length / 2 + p / 20

theorem isDivisor_two : IsDivisor 2 := ⟨2 ^ 52, -51, by decide, by rfl, by decide, by decide⟩

theorem isDivisor_ten : IsDivisor 10 :=
  ⟨5 * 2 ^ 50, -49, by decide, by rfl, by decide, by decide⟩

theorem isDivisor_twenty : IsDivisor 20 :=
  ⟨5 * 2 ^ 50, -48, by decide, by rfl, by decide, by decide⟩

theorem isDivisor_fifty : IsDivisor 50 :=
  ⟨25 * 2 ^ 48, -47, by decide, by rfl, by decide, by decide⟩

theorem isDivisor_hundred : IsDivisor 100 :=
  ⟨25 * 2 ^ 48, -46, by decide, by rfl, by decide, by decide⟩

theorem Matched.nonneg_worth {p : Float} (h : IsNonneg p.toModel.unpack) (m : Matched) :
    IsNonneg (m.worth p).toModel.unpack := by
  cases m with
  | pattern => exact nonneg_add (nonneg_ofScientific 50) (nonneg_div isDivisor_ten h)
  | synonym n =>
    have hn : IsNonneg (Decimal.ofInt n / 2).toModel.unpack :=
      nonneg_div isDivisor_two (nonneg_ofScientific n)
    exact nonneg_add (nonneg_add (nonneg_ofScientific 20) hn) (nonneg_div isDivisor_twenty h)

/-- As much as a match alone may be worth, if the length of a phrase is held in a word. -/
theorem Matched.atMost_worth {p : Float} (h : ∀ k, -1022 ≤ k → k ≤ 971 → IsAtMost k p.toModel.unpack)
    {m : Matched} (hm : ∀ n, m = .synonym n → n < 2 ^ 64) : IsAtMost 69 (m.worth p).toModel.unpack := by
  cases m with
  | pattern =>
    have h50 : IsAtMost 65 (50 : Float).toModel.unpack := atMost_whole (by decide : 64 ≤ 1023) (by decide)
    have hp := atMost_div (by decide) (by decide) isDivisor_ten (h 65 (by decide) (by decide))
    exact (atMost_add (by decide) (by decide) h50 hp).mono (by decide)
  | synonym n =>
    have h20 : IsAtMost 65 (20 : Float).toModel.unpack := atMost_whole (by decide : 64 ≤ 1023) (by decide)
    have hn : IsAtMost 65 (Decimal.ofInt n).toModel.unpack := atMost_whole (by decide : 64 ≤ 1023) (hm n rfl)
    have hh := atMost_div (by decide) (by decide) isDivisor_two hn
    have hp := atMost_div (by decide) (by decide) isDivisor_twenty (h 67 (by decide) (by decide))
    exact atMost_add (by decide) (by decide) (atMost_add (by decide) (by decide) h20 hh) hp

/-- Whatever the priority, a score comes from a number. -/
theorem isNaN_total (p : Int) {m : Matched} (hm : ∀ n, m = .synonym n → n < 2 ^ 64) :
    ((m.worth (Decimal.ofInt p) + Decimal.ofInt p / 50) / 100).isNaN = false := by
  rcases bounds_ofInt p with h | h
  · have hs := nonneg_add (m.nonneg_worth h) (nonneg_div isDivisor_fifty h)
    exact isNaN_of_isNonneg (nonneg_div isDivisor_hundred hs)
  · have hp := atMost_div (by decide) (by decide) isDivisor_fifty (h 69 (by decide) (by decide))
    have hs := atMost_add (by decide) (by decide) (Matched.atMost_worth h hm) hp
    exact isNaN_of_isAtMost (atMost_div (by decide) (by decide) isDivisor_hundred hs)

theorem Candidate.score_eq (c : Candidate) :
    c.score =
      let x := (c.matched.worth (Decimal.ofInt c.priority) + Decimal.ofInt c.priority / 50) / 100
      if x < 0.3 then 0.3 else if 1 < x then 1 else x := by
  unfold score Matched.worth
  cases c.matched <;> rfl

theorem Candidate.isShare_score {c : Candidate} (h : ∀ n, c.matched = .synonym n → n < 2 ^ 64) :
    IsShare c.score := by
  have h03 : (0.3 : Float).toModel.unpack =
      .finite .positive 5404319552844595 (-54) (by decide) := by rfl
  rw [score_eq]
  dsimp only
  split
  · exact ⟨by decide, by decide⟩
  split
  · exact ⟨by decide, by decide⟩
  · rename_i hlow hhigh
    exact isShare_of_not_lt (isNaN_total c.priority h) (fun h0 => hlow (lt_of_lt_zero h03 h0)) hhigh

/-! Decisions. -/

theorem Candidate.score_of_foldl_better {cs : List Candidate} {b : Option (Candidate × Float)}
    {x : Candidate} {s : Float} (hb : ∀ y u, b = some (y, u) → u = y.score)
    (h : cs.foldl better b = some (x, s)) : s = x.score := by
  induction cs generalizing b with
  | nil => exact hb x s h
  | cons c cs ih =>
    refine ih (fun y u hy => ?_) h
    unfold better at hy
    split at hy
    · cases hy
      rfl
    · split at hy
      · cases hy
        rfl
      · cases hy
        exact hb y u rfl

namespace Decision

theorem isShare_ofCandidates {cs : List Candidate} (h : ∀ x ∈ cs, IsShare x.score) :
    IsShare (ofCandidates cs).confidence := by
  unfold ofCandidates
  split
  case h_1 x s hx =>
    have hs : s = x.score := Candidate.score_of_foldl_better (fun _ _ hn => by cases hn) hx
    subst hs
    exact h x (Candidate.mem_of_best? hx)
  · exact isShare_fallbackConfidence

theorem isShare_ofVerdict? {c : Corpus} {cs : List Candidate} {v : Verdict} {d : Decision}
    (h : ofVerdict? c cs v = some d) : IsShare d.confidence := by
  unfold ofVerdict? at h
  split at h
  · cases h
  · obtain ⟨x, -, rfl⟩ := Option.map_eq_some_iff.mp h
    exact isShare_clampConfidence v.confidence

theorem isShare_score_of_mem {c : Corpus} {message : String} {x : Candidate}
    (h : x ∈ c.candidates message) : IsShare x.score := by
  refine Candidate.isShare_score fun n hn => ?_
  have hl := Corpus.length_le_of_mem_candidates h hn
  have hm : 2 * maxMessage < 2 ^ 64 := by decide
  omega

/-- Whatever a kernel says, a decision is trusted to a share. -/
theorem yields_isShare_make {W : Type} (watch : Watch W) (c : Corpus)
    (classifier : Option (Classifier W)) (kernel : Option (Kernel W)) (message : String) :
    Act.Yields (fun d => IsShare d.confidence) (make watch c classifier kernel message) := by
  have hc : IsShare (ofCandidates (c.candidates message)).confidence :=
    isShare_ofCandidates fun _ => isShare_score_of_mem
  refine Act.yields_bind _ fun _ => ?_
  cases kernel with
  | none => exact Act.yields_pure hc
  | some kernel =>
    refine Act.yields_bind _ fun similar => Act.yields_bind _ fun verdict => Act.yields_pure ?_
    cases hd : verdict.bind (ofVerdict? c (c.candidates message)) with
    | none => exact hc
    | some d =>
      obtain ⟨v, -, hv⟩ := Option.bind_eq_some_iff.mp hd
      have hs : IsShare d.confidence := isShare_ofVerdict? hv
      exact hs

end Decision

/-! Replies. -/

namespace Reply

theorem confidence_closed (c : Corpus) (d : Decision) (i : Intent) :
    (closed c d i).confidence = i.confidence := by
  unfold closed
  split <;> rfl

theorem isShare_ofEnvelope {d : Decision} (hd : IsShare d.confidence) (c : Corpus) (text : String)
    (e : Envelope) : IsShare (ofEnvelope c d text e).confidence := by
  unfold ofEnvelope
  dsimp only
  split
  · exact hd
  · unfold classified
    dsimp only
    rw [confidence_closed]
    exact isShare_clampConfidence _

end Reply

/-- A reading that is doubted counts exactly half. -/
theorem Reading.confidence_doubted {r : Reading} (h : IsShare r.intent.confidence)
    (faults : List String) :
    (r.doubted faults).intent.confidence = r.intent.confidence / 2 :=
  clampConfidence_of_isShare h.half

end Utterance
