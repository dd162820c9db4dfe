import Utterance.Proofs.Confidence
import Utterance.Proofs.Decimal.Order
import Utterance.Proofs.Kernel.Verdict
import Utterance.Proofs.Ranking
import Utterance.Proofs.Semantic.Facts

/-! For want of matches a kernel is told the best candidates, and the first of them is the one that a decision
takes: to put all candidates in order and to keep the best so far treat those of one score alike. -/

namespace Utterance

/-! The scores of candidates. -/

namespace Candidate

open Decimal (Double)

variable {c d : Candidate}

/-- The length of the phrase that a candidate matched is held in a word. Without any bound a score might be no
number: an infinite length against an infinite priority of the other sign. -/
def IsMeasured (c : Candidate) : Prop :=
  ∀ n, c.matched = .synonym n → n < 2 ^ 64

/-- By what candidates are put in order. -/
def key (c : Candidate) : Int :=
  (Double.ofFloat c.score).key

theorem score_bounds (h : c.IsMeasured) : 0.3 ≤ c.score ∧ c.score ≤ 1 := by
  have hle {x y : Float} (hx : x.isNaN = false) (hy : y.isNaN = false) (hlt : ¬x < y) : y ≤ x :=
    Classical.not_not.mp (mt (Decimal.lt_iff_not_le hx hy).mpr hlt)
  have hnumber := isNaN_total c.priority h
  rw [score_eq]
  dsimp only
  split
  · exact ⟨by decide, by decide⟩
  split
  · exact ⟨by decide, by decide⟩
  · rename_i hlow hhigh
    exact ⟨hle hnumber (by decide) hlow, hle (by decide) hnumber hhigh⟩

theorem isPositive_score (h : c.IsMeasured) : Double.IsPositive c.score := by
  have hleast : Double.IsPositive 0.3 := ⟨by decide, by decide⟩
  exact hleast.of_le (score_bounds h).1

theorem score_le_iff (hc : c.IsMeasured) (hd : d.IsMeasured) : c.score ≤ d.score ↔ c.key ≤ d.key :=
  (isPositive_score hc).le_iff (isPositive_score hd).isNaN

theorem score_lt_iff (hc : c.IsMeasured) (hd : d.IsMeasured) : c.score < d.score ↔ c.key < d.key :=
  (isPositive_score hc).lt_iff (isPositive_score hd)

/-- Whether the candidate at `i` has a higher score than the one at `j`, or no lower one and came earlier. -/
def Beats (cs : List Candidate) (i j : Fin cs.length) : Prop :=
  cs[j].score < cs[i].score ∨ cs[j].score ≤ cs[i].score ∧ i < j

instance (cs : List Candidate) (i j : Fin cs.length) : Decidable (Beats cs i j) :=
  inferInstanceAs (Decidable (_ ∨ _))

variable {cs : List Candidate}

/-- To have a higher score, or the same and an earlier place, is to stand before in the order of keys. -/
theorem beats_iff (h : ∀ c ∈ cs, c.IsMeasured) {i j : Fin cs.length} :
    Beats cs i j ↔ Ranking.Before (fun i => cs[i].key) (· < ·) i j := by
  have hi := h cs[i] (List.getElem_mem _)
  have hj := h cs[j] (List.getElem_mem _)
  unfold Beats Ranking.Before
  rw [score_lt_iff hj hi, score_le_iff hj hi]
  constructor
  · rintro (hlt | ⟨hle, hij⟩)
    · exact .inl hlt
    · rcases Int.lt_or_eq_of_le hle with hlt | heq
      · exact .inl hlt
      · exact .inr ⟨heq.symm, hij⟩
  · rintro (hlt | ⟨heq, hij⟩)
    · exact .inl hlt
    · exact .inr ⟨Int.le_of_eq heq.symm, hij⟩

/-- No two candidates beat each other. -/
theorem not_beats (h : ∀ c ∈ cs, c.IsMeasured) {i j : Fin cs.length} (hij : Beats cs i j) : ¬Beats cs j i := by
  rw [beats_iff h] at hij ⊢
  unfold Ranking.Before at hij ⊢
  omega

/-! The best candidate. -/

/-- The best one has a higher score than those in front of it, and no lower one than those behind it. -/
theorem split_of_best? {s : Float} (h : ∀ c ∈ cs, c.IsMeasured) (hbest : best? cs = some (c, s)) :
    ∃ front back, cs = front ++ c :: back ∧ s = c.score ∧ (∀ x ∈ front, x.key < c.key) ∧
      ∀ x ∈ back, x.key ≤ c.key := by
  induction cs using List.reverseRecOn generalizing c s with
  | nil => cases hbest
  | append_singleton cs x ih =>
    obtain ⟨hcs, hx⟩ := List.forall_mem_append.mp h
    have hx := hx x List.mem_cons_self
    have hstep : best? (cs ++ [x]) = better (best? cs) x := List.foldl_append
    rw [hstep] at hbest
    cases hfound : best? cs with
    | none =>
      rw [hfound] at hbest
      cases hbest
      rw [eq_nil_of_best? hfound]
      exact ⟨[], [], rfl, rfl, by simp, by simp⟩
    | some found =>
      obtain ⟨b, t⟩ := found
      obtain ⟨front, back, rfl, rfl, hfront, hback⟩ := ih hcs hfound
      have hb := hcs b (List.mem_append_right front List.mem_cons_self)
      rw [hfound, better] at hbest
      split at hbest
      case isTrue hlt =>
        -- The new one is better than the best so far, so better than all that are in front of it.
        cases hbest
        have hlt := (score_lt_iff hb hx).mp hlt
        refine ⟨front ++ b :: back, [], by simp, rfl, ?_, by simp⟩
        intro y hy
        rcases List.mem_append.mp hy with hy | hy
        · exact Int.lt_trans (hfront y hy) hlt
        · rcases List.mem_cons.mp hy with rfl | hy
          · exact hlt
          · exact Int.lt_of_le_of_lt (hback y hy) hlt
      case isFalse hle =>
        cases hbest
        rw [score_lt_iff hb hx, Int.not_lt] at hle
        refine ⟨front, back ++ [x], by simp, rfl, hfront, ?_⟩
        intro y hy
        rcases List.mem_append.mp hy with hy | hy
        · exact hback y hy
        · rwa [List.mem_singleton.mp hy]

/-- The best candidate beats all others. -/
theorem exists_best? (hne : cs ≠ []) (h : ∀ c ∈ cs, c.IsMeasured) : ∃ b : Fin cs.length,
    best? cs = some (cs[b], cs[b].score) ∧ ∀ j, j ≠ b → Beats cs b j := by
  cases hbest : best? cs with
  | none => exact absurd (eq_nil_of_best? hbest) hne
  | some found =>
    obtain ⟨c, s⟩ := found
    obtain ⟨front, back, rfl, rfl, hfront, hback⟩ := split_of_best? h hbest
    let b : Fin (front ++ c :: back).length := ⟨front.length, by simp⟩
    have hb : (front ++ c :: back)[b] = c := by simp [b]
    refine ⟨b, by rw [hb], fun j hj => (beats_iff h).mpr ?_⟩
    simp only [Ranking.Before, hb]
    rcases Nat.lt_trichotomy j front.length with hless | heq | hmore
    · have hj : (front ++ c :: back)[j] = front[j] := List.getElem_append_left hless
      rw [hj]
      exact .inl (hfront _ (List.getElem_mem _))
    · exact absurd (Fin.ext heq) hj
    · have hlt : j - (front.length + 1) < back.length := by
        have hj := j.isLt
        simp only [List.length_append, List.length_cons] at hj
        omega
      have hj : (front ++ c :: back)[j] = back[j - (front.length + 1)] := by
        rw [Fin.getElem_fin, List.getElem_append_right (Nat.le_of_lt hmore), List.getElem_cons, dif_neg (by omega)]
        rfl
      rw [hj]
      rcases Int.lt_or_eq_of_le (hback _ (List.getElem_mem hlt)) with hless | heq
      · exact .inl hless
      · exact .inr ⟨heq.symm, hmore⟩

/-- The first places in the order of keys, as candidates beat each other. -/
theorem pairwise_take (h : ∀ c ∈ cs, c.IsMeasured) (k : Nat) :
    ((Ranking.places key cs).take k).Pairwise (Beats cs) :=
  ((Ranking.pairwise_places key cs).sublist (List.take_sublist k _)).imp (beats_iff h).mpr

theorem beats_of_mem_take (h : ∀ c ∈ cs, c.IsMeasured) {k : Nat} {i j : Fin cs.length}
    (hi : i ∈ (Ranking.places key cs).take k) (hj : j ∉ (Ranking.places key cs).take k) : Beats cs i j :=
  (beats_iff h).mpr (Ranking.before_of_mem_take key cs hi hj)

/-- The best candidate is the first one in the order of keys. -/
theorem exists_take_eq_cons (hne : cs ≠ []) (h : ∀ c ∈ cs, c.IsMeasured) {k : Nat} (hk : 0 < k) :
    ∃ (b : Fin cs.length) (others : List (Fin cs.length)), (Ranking.places key cs).take k = b :: others ∧
      best? cs = some (cs[b], cs[b].score) ∧ ∀ j, j ≠ b → Beats cs b j := by
  obtain ⟨b, hbest, hfirst⟩ := exists_best? hne h
  have hpairwise := pairwise_take h k
  have hcut {i j : Fin cs.length} := beats_of_mem_take (i := i) (j := j) h (k := k)
  cases hplaces : (Ranking.places key cs).take k with
  | nil =>
    have hlength := congrArg List.length hplaces
    rw [List.length_take, Ranking.length_places, List.length_nil] at hlength
    have hpos := List.length_pos_of_ne_nil hne
    omega
  | cons a others =>
    rw [hplaces] at hpairwise hcut
    -- Two that beat all others would beat each other.
    have hab : a = b := by
      by_contra hab
      refine not_beats h (hfirst a hab) ?_
      by_cases hmem : b ∈ a :: others
      · have hb := (List.mem_cons.mp hmem).resolve_left (Ne.symm hab)
        exact (List.pairwise_cons.mp hpairwise).1 b hb
      · exact hcut List.mem_cons_self hmem
    subst hab
    exact ⟨a, others, rfl, hbest, hfirst⟩

end Candidate

namespace Semantic

open Candidate (Beats)

/-! What is told. -/

theorem exists_told (message : String) (rank : Nat) (c : Candidate) : ∃ t : Told, t.rank = rank + 1 ∧
    seedFact message rank c = t.fact (sanitize message) :=
  ⟨⟨_, _, noTarget, rank + 1, seedSimilarity⟩, rfl, rfl⟩

theorem nodup_write_seedFacts (message : String) (cs : List Candidate) :
    ((seedFacts message cs).map Rule.Fact.write).Nodup := by
  rw [List.Nodup, List.pairwise_map, List.pairwise_iff_getElem]
  intro i j hi hj hij heq
  simp only [seedFacts, List.getElem_mapIdx] at heq
  obtain ⟨s, hs, hsfact⟩ := exists_told message i _
  obtain ⟨t, ht, htfact⟩ := exists_told message j _
  rw [hsfact, htfact] at heq
  have hrank := Told.rank_eq_of_write_eq heq
  omega

theorem seedFacts_eq (message : String) (cs : List Candidate) : seedFacts message cs =
    ((Ranking.places Candidate.key cs).take seedCount).mapIdx fun r i => seedFact message r cs[i] := by
  have hkey : (fun c : Candidate => (Decimal.Double.ofFloat c.score).key) = Candidate.key := rfl
  rw [seedFacts, hkey, ← Ranking.map_places, ← List.map_take]
  apply List.ext_getElem
  · simp
  · intro r _ _
    simp

theorem length_of_report {W : Type} {watch : Watch W} {base : Part W FactBase} (hb : base.Retains)
    {facts : List Rule.Fact} {n : Nat} {w v : W}
    (h : (report watch (FactBase.kernel base) facts).on w = (.ok n, v)) : n = facts.length := by
  rw [report_base hb] at h
  split at h
  case isTrue he =>
    rw [List.isEmpty_iff.mp he]
    cases h
    rfl
  case isFalse =>
    obtain ⟨_, u, -, hp⟩ := Act.exists_of_bind h
    cases hp
    rfl

/-- A base that knows its facts by their texts holds what it was told of a message, and no match of another one. -/
theorem factsOf_of_seed {W : Type} {watch : Watch W} {base : Part W FactBase} (hb : base.Retains)
    {message : String} {cs : List Candidate} {w v : W} {n : Nat} (ht : (base.read w).Tidy)
    (h : (seed watch (FactBase.kernel base) message cs).on w = (.ok n, v)) :
    n = (seedFacts message cs).length ∧ (base.read v).factsOf Match.predicate = seedFacts message cs := by
  obtain ⟨m, u, hw, hr⟩ := Act.exists_of_bind h
  have hnone : (base.read u).factsOf Match.predicate = [] := by
    rw [on_withdraw_ok hb hw, FactBase.factsOf_drop_self]
  have hfree : (base.read u).IsFree := by
    refine FactBase.Tidy.isFree ?_ hnone
    rw [on_withdraw_ok hb hw]
    exact ht.drop _
  have habout := areAbout_seedFacts message cs
  have hnew : ∀ f ∈ seedFacts message cs, f.write ∉ (base.read u).texts := by
    intro f hf
    have hunheld := hfree.unheld f (habout f hf).1
    simpa [FactBase.holds] using hunheld
  have hall : (seedFacts message cs).filter (·.predicate == Match.predicate) = seedFacts message cs :=
    List.filter_eq_self.mpr fun f hf => beq_iff_eq.mpr (habout f hf).1
  refine ⟨length_of_report hb hr, ?_⟩
  rw [on_report_ok hb hr, FactBase.factsOf,
    FactBase.facts_foldl_insert (nodup_write_seedFacts message cs) hnew, List.filter_append, hall]
  exact congrArg (· ++ _) hnone

/-- Of the candidates of a message, the three best at most are made known, each from a place of its own, ranked from
one on, the highest score first, and among equal scores the earliest. The first one beats all others, and it is
the candidate that a decision takes. A base that is told of them holds these facts and no others about matches, or
the work was called off. -/
theorem seed_best (message : String) {cs : List Candidate} (hne : cs ≠ [])
    (hmeasured : ∀ c ∈ cs, ∀ n, c.matched = .synonym n → n < 2 ^ 64) :
    (∀ c ∈ cs, 0.3 ≤ c.score ∧ c.score ≤ 1) ∧
    ∃ (best : Fin cs.length) (others : List (Fin cs.length)),
      Candidate.best? cs = some (cs[best], cs[best].score) ∧
      (∀ j, j ≠ best → Beats cs best j) ∧
      (best :: others).length = min 3 cs.length ∧ (best :: others).Nodup ∧
      (best :: others).Pairwise (Beats cs) ∧
      (∀ i ∈ best :: others, ∀ j, j ∉ best :: others → Beats cs i j) ∧
      seedFacts message cs = (best :: others).mapIdx (fun r i =>
        ⟨"semantic_match", [.str (sanitize message), .str (String.ofList (cs[i].verb.toList.dropWhile (· == '/'))),
          .named cs[i].verb, .str "none", .int (r + 1), .int 50]⟩) ∧
      (∃ f, (seedFacts message cs).head? = some f ∧ f.arg? 4 = some (.int 1) ∧
        f.arg? 2 = some (.named cs[best].verb)) ∧
      ∀ {W : Type} (watch : Watch W) (base : Part W FactBase), base.Retains → ∀ w, (base.read w).Tidy →
        ∀ o v, (seed watch (FactBase.kernel base) message cs).on w = (o, v) →
          (o = .ok (min 3 cs.length) ∧ (base.read v).factsOf "semantic_match" = seedFacts message cs) ∨
            ∃ e, o = .error e ∧ e.isCancelled = true := by
  refine ⟨fun c hc => Candidate.score_bounds (hmeasured c hc), ?_⟩
  have hseed : 0 < seedCount := by decide
  obtain ⟨best, others, hplaces, hbest, hfirst⟩ := Candidate.exists_take_eq_cons hne hmeasured hseed
  have hlength : (best :: others).length = min 3 cs.length := by
    rw [← hplaces, List.length_take, Ranking.length_places]
    rfl
  have hnodup : (best :: others).Nodup := by
    rw [← hplaces]
    exact (List.take_sublist _ _).nodup (Ranking.nodup_places Candidate.key cs)
  have hpairwise : (best :: others).Pairwise (Beats cs) := by
    rw [← hplaces]
    exact Candidate.pairwise_take hmeasured _
  have hcut : ∀ i ∈ best :: others, ∀ j, j ∉ best :: others → Beats cs i j := by
    rw [← hplaces]
    intro i hi j hj
    exact Candidate.beats_of_mem_take hmeasured hi hj
  have hfacts : seedFacts message cs = (best :: others).mapIdx fun r i => seedFact message r cs[i] := by
    rw [seedFacts_eq, hplaces]
  refine ⟨best, others, hbest, hfirst, hlength, hnodup, hpairwise, hcut, hfacts, ?_, ?_⟩
  · rw [hfacts, List.mapIdx_cons]
    exact ⟨_, rfl, rfl, rfl⟩
  · intro W watch base hb w ht o v h
    cases o with
    | ok n =>
      obtain ⟨rfl, hheld⟩ := factsOf_of_seed hb ht h
      rw [hfacts, List.length_mapIdx, hlength, ← hfacts]
      exact .inl ⟨rfl, hheld⟩
    | error e => exact .inr ⟨e, rfl, onlyLost_seed hb message cs w e v h⟩

/-- Candidates of which the first two that count most have the same score, which is cut down to one. -/
def rivals : List Candidate :=
  [⟨"/ask", .query, 40, "asker", .synonym 9⟩, ⟨"//fix it", .mutation, 900, "fixer", .pattern⟩,
    ⟨"/mend", .mutation, 800, "mender", .synonym 6⟩, ⟨"/wait", .query, -3, "waiter", .pattern⟩]

theorem seed_best_rivals :
    rivals ≠ [] ∧ (∀ c ∈ rivals, ∀ n, c.matched = .synonym n → n < 2 ^ 64) ∧
    (Candidate.best? rivals).map (·.1.verb) = some "//fix it" ∧
    ∃ f, (seedFacts "do fix it" rivals).head? = some f ∧ f.arg? 4 = some (.int 1) ∧
      f.arg? 2 = some (.named "//fix it") := by
  have hne : rivals ≠ [] := List.cons_ne_nil _ _
  have hmeasured : ∀ c ∈ rivals, ∀ n, c.matched = .synonym n → n < 2 ^ 64 := by
    simp [rivals]
  obtain ⟨-, best, others, hbest, hfirst, -, -, -, -, -, hhead, -⟩ := seed_best "do fix it" hne hmeasured
  let second : Fin rivals.length := ⟨1, by decide⟩
  have hunbeaten : ∀ i, i ≠ second → ¬Beats rivals i second := by decide +kernel
  have hsecond : best = second := by
    by_contra hother
    exact hunbeaten best hother (hfirst second (Ne.symm hother))
  subst hsecond
  refine ⟨hne, hmeasured, ?_, hhead⟩
  rw [hbest]
  rfl

end Semantic

end Utterance
