import Mathlib.Data.List.Induction
import Mathlib.Data.List.Nodup
import Utterance.Proofs.Decimal.Whole
import Utterance.Proofs.Kernel.Base

/-! Whom a base decides for that was told of the matches of a message: for the weightiest of those that
decide. Of several that weigh the same it takes the one with the last rank. -/

namespace Utterance

/-! What a kernel is told of a match. -/

/-- What the fact about a match of a message tells of it. -/
structure Semantic.Told where
  text : String
  verb : String
  target : String
  rank : Nat
  similarity : Int
  deriving DecidableEq

namespace Semantic.Told

/-- The fact by which a kernel is told of a match of a message. -/
def fact (message : String) (t : Told) : Rule.Fact :=
  ⟨Match.predicate, [.str message, .str t.text, .atom t.verb, .str t.target, .int t.rank,
    .int t.similarity]⟩

theorem toList_write (message : String) (t : Told) :
    ∃ front, (t.fact message).write.toList = front ++ ' ' :: ((toString (t.rank : Int)).toList ++ [',']) ++
      ' ' :: ((toString t.similarity).toList ++ [')']) :=
  ⟨(Match.predicate ++ "(" ++ Rule.quote message ++ ", " ++ Rule.quote t.text ++ ", " ++ t.verb ++ ", " ++
      Rule.quote t.target ++ ",").toList, by simp [fact, Rule.Fact.write, Rule.Term.write, Text.join]⟩

/-- What stands behind the last blank is told apart from what stands in front of it. -/
theorem eq_of_append_blank {a b x y : List Char} (hx : ' ' ∉ x) (hy : ' ' ∉ y)
    (h : a ++ ' ' :: x = b ++ ' ' :: y) : a = b ∧ x = y := by
  rcases List.append_eq_append_iff.mp h with ⟨c, rfl, hc⟩ | ⟨c, rfl, hc⟩
  · cases c with
    | nil => exact ⟨(List.append_nil a).symm, (List.cons.inj hc).2⟩
    | cons d c =>
      rw [(List.cons.inj hc).2] at hx
      exact absurd (List.mem_append_right c List.mem_cons_self) hx
  · cases c with
    | nil => exact ⟨List.append_nil b, (List.cons.inj hc).2.symm⟩
    | cons d c =>
      rw [(List.cons.inj hc).2] at hy
      exact absurd (List.mem_append_right c List.mem_cons_self) hy

/-- The rank can be read off the text of the fact, whatever its strings hold. -/
theorem rank_eq_of_write_eq {message : String} {s t : Told}
    (h : (s.fact message).write = (t.fact message).write) : s.rank = t.rank := by
  have hblank (n : Int) {c : Char} (hc : ' ' ≠ c) : ' ' ∉ (toString n).toList ++ [c] := by
    simpa [hc] using Decimal.not_mem_toString (by decide) (by decide) n
  obtain ⟨front, hs⟩ := toList_write message s
  obtain ⟨front', ht⟩ := toList_write message t
  rw [← String.toList_inj, hs, ht] at h
  obtain ⟨h, -⟩ := eq_of_append_blank (hblank _ (by decide)) (hblank _ (by decide)) h
  obtain ⟨-, h⟩ := eq_of_append_blank (hblank _ (by decide)) (hblank _ (by decide)) h
  have hsign (n : Nat) : Decimal.signOf n = [] := if_neg (by omega)
  have hdigits := List.append_cancel_right h
  rw [Decimal.toList_toString, Decimal.toList_toString, hsign, hsign, List.nil_append, List.nil_append] at hdigits
  rw [← Decimal.natOfDigits_toDigits s.rank, ← Decimal.natOfDigits_toDigits t.rank]
  exact congrArg Decimal.natOfDigits hdigits

end Semantic.Told

namespace FactBase

/-! What a base finds among its facts. -/

/-- A match is told by a fact of its predicate, with the verb and the similarity at their places. -/
theorem parts_of_match? {message verb : String} {n : Int} {f : Rule.Fact}
    (h : match? message f = some (verb, n)) :
    f.predicate = Semantic.Match.predicate ∧ f.text? 2 = some verb ∧
      (f.arg? 5).bind Rule.Term.int? = some n := by
  obtain ⟨p, args⟩ := f
  unfold match? at h
  split at h
  case h_1 subject text verb' target rank similarity rest hargs =>
    dsimp only at hargs
    subst hargs
    split at h
    case isTrue hp =>
      obtain ⟨k, hk, hv⟩ := Option.map_eq_some_iff.mp h
      cases hv
      exact ⟨beq_iff_eq.mp (Bool.and_eq_true_iff.mp hp).1, rfl, hk⟩
    · cases h
  · cases h

theorem match?_fact (message : String) (t : Semantic.Told) :
    match? message (t.fact message) = some (t.verb, t.similarity) := by
  simp [match?, Semantic.Told.fact, Rule.Term.text?, Rule.Term.int?]

/-- A base that knows no match, be it as a fact or only by its text. -/
structure IsFree (b : FactBase) : Prop where
  none : b.factsOf Semantic.Match.predicate = []
  unheld : ∀ f : Rule.Fact, f.predicate = Semantic.Match.predicate → ¬b.holds f

theorem Tidy.isFree {b : FactBase} (h : b.Tidy) (hnone : b.factsOf Semantic.Match.predicate = []) :
    b.IsFree := by
  refine ⟨hnone, fun f hf => h.not_holds ?_ ?_⟩
  · rw [hf]
    decide
  · rw [hf, hnone]

/-- A base that knew no match and was told of some knows these. -/
theorem filterMap_match?_told {b : FactBase} (hb : b.IsFree) (message : String) {ts : List Semantic.Told}
    (hranks : (ts.map Semantic.Told.rank).Nodup) :
    ((ts.map (Semantic.Told.fact message)).foldl insert b).facts.filterMap (match? message) =
      ts.map fun t => (t.verb, t.similarity) := by
  have hnodup : ((ts.map (Semantic.Told.fact message)).map Rule.Fact.write).Nodup := by
    rw [List.map_map]
    exact List.pairwise_map.mpr ((List.pairwise_map.mp hranks).imp fun hne he =>
      hne (Semantic.Told.rank_eq_of_write_eq he))
  have hnew : ∀ f ∈ ts.map (Semantic.Told.fact message), f.write ∉ b.texts := by
    intro f hf
    obtain ⟨t, -, rfl⟩ := List.mem_map.mp hf
    simpa [holds] using hb.unheld (t.fact message) rfl
  have hnone : b.facts.filterMap (match? message) = [] := by
    rw [List.filterMap_eq_nil_iff]
    intro f hf
    cases hm : match? message f with
    | none => rfl
    | some m =>
      have hfree := mem_factsOf.mpr ⟨hf, (parts_of_match? hm).1⟩
      rw [hb.none] at hfree
      cases hfree
  rw [facts_foldl_insert hnodup hnew, List.filterMap_append, hnone, List.nil_append, List.filterMap_map,
    Function.comp_def]
  simp [match?_fact]

/-! The weightiest of a list. -/

theorem foldl_weightier_eq_none_iff {candidates : List String} {ms : List (String × Int)} :
    ms.foldl (weightier candidates) none = none ↔ ms = [] := by
  induction ms using List.reverseRecOn with
  | nil => simp
  | append_singleton ms x _ =>
    rw [List.foldl_append, List.foldl_cons, List.foldl_nil]
    cases ms.foldl (weightier candidates) none with
    | none => simp [weightier]
    | some best =>
      rw [weightier]
      split <;> simp

/-- What is found weighs no less than what stands in front of it, and more than what stands behind it. -/
theorem split_of_foldl_weightier {candidates : List String} {ms : List (String × Int)} {m : String × Int}
    (h : ms.foldl (weightier candidates) none = some m) :
    ∃ front back, ms = front ++ m :: back ∧ (∀ x ∈ front, weight candidates x ≤ weight candidates m) ∧
      ∀ x ∈ back, weight candidates x < weight candidates m := by
  induction ms using List.reverseRecOn generalizing m with
  | nil => cases h
  | append_singleton ms x ih =>
    rw [List.foldl_append, List.foldl_cons, List.foldl_nil] at h
    cases hbest : ms.foldl (weightier candidates) none with
    | none =>
      rw [hbest] at h
      cases h
      rw [foldl_weightier_eq_none_iff.mp hbest]
      exact ⟨[], [], rfl, by simp, by simp⟩
    | some best =>
      obtain ⟨front, back, rfl, hfront, hback⟩ := ih hbest
      rw [hbest, weightier] at h
      split at h
      case isTrue hx =>
        cases h
        refine ⟨front, back ++ [x], by simp, hfront, fun y hy => ?_⟩
        rcases List.mem_append.mp hy with hy | hy
        · exact hback y hy
        · rwa [List.mem_singleton.mp hy]
      case isFalse hx =>
        cases h
        refine ⟨_, [], rfl, fun y hy => ?_, by simp⟩
        rcases List.mem_append.mp hy with hy | hy
        · have hy' := hfront y hy
          omega
        · rcases List.mem_cons.mp hy with rfl | hy
          · omega
          · have hy' := hback y hy
            omega

end FactBase

/-! The verdict. -/

namespace Semantic.Told

/-- How much a match counts. -/
def weight (candidates : List String) (t : Told) : Int :=
  FactBase.weight candidates (t.verb, t.similarity)

/-- The verdict for a match. -/
def verdict (t : Told) : Verdict :=
  ⟨t.verb, Decimal.ofInt t.similarity / 100⟩

/-- One of the matches that decide, and none of these is weightier. -/
structure IsHeaviest (candidates : List String) (ts : List Told) (t : Told) : Prop where
  mem : t ∈ ts
  decides : FactBase.leastSimilarity ≤ t.similarity
  weight_le : ∀ s ∈ ts, FactBase.leastSimilarity ≤ s.similarity → s.weight candidates ≤ t.weight candidates

/-- The heaviest one with the best rank, which is the lowest. -/
def IsFirst (candidates : List String) (ts : List Told) (t : Told) : Prop :=
  t.IsHeaviest candidates ts ∧ ∀ s : Told, s.IsHeaviest candidates ts → t.rank ≤ s.rank

/-- The heaviest one with the last rank. -/
def IsLast (candidates : List String) (ts : List Told) (t : Told) : Prop :=
  t.IsHeaviest candidates ts ∧ ∀ s : Told, s.IsHeaviest candidates ts → s.rank ≤ t.rank

variable {candidates : List String} {ts : List Told}

theorem IsHeaviest.weight_eq {s t : Told} (hs : s.IsHeaviest candidates ts) (ht : t.IsHeaviest candidates ts) :
    s.weight candidates = t.weight candidates :=
  Int.le_antisymm (ht.weight_le s hs.mem hs.decides) (hs.weight_le t ht.mem ht.decides)

/-- Two of the heaviest ones have the same verdict if they have the same verb. -/
theorem IsHeaviest.verdict_eq_iff {s t : Told} (hs : s.IsHeaviest candidates ts)
    (ht : t.IsHeaviest candidates ts) : s.verdict = t.verdict ↔ s.verb = t.verb := by
  constructor
  · exact congrArg Verdict.verb
  · intro h
    have hw := hs.weight_eq ht
    have hsimilarity : s.similarity = t.similarity := by
      simp only [weight, FactBase.weight, h] at hw
      omega
    rw [verdict, verdict, h, hsimilarity]

/-- What the base finds is the heaviest one with the last rank. -/
theorem exists_isLast (hranks : (ts.map rank).Pairwise (· < ·)) {m : String × Int}
    (h : ((ts.map fun t => (t.verb, t.similarity)).filter (FactBase.leastSimilarity ≤ ·.2)).foldl
      (FactBase.weightier candidates) none = some m) :
    ∃ t, IsLast candidates ts t ∧ m = (t.verb, t.similarity) := by
  obtain ⟨front, back, hsplit, hfront, hback⟩ := FactBase.split_of_foldl_weightier h
  rw [List.filter_map] at hsplit
  obtain ⟨before, rest, hdeciding, rfl, hrest⟩ := List.map_eq_append_iff.mp hsplit
  obtain ⟨t, after, rfl, rfl, rfl⟩ := List.map_eq_cons_iff.mp hrest
  have hmem (s : Told) : s ∈ before ++ t :: after ↔ s ∈ ts ∧ FactBase.leastSimilarity ≤ s.similarity := by
    rw [← hdeciding, List.mem_filter, Function.comp_apply, decide_eq_true_eq]
  have hbefore : ∀ s ∈ before, s.weight candidates ≤ t.weight candidates :=
    fun s hs => hfront _ (List.mem_map_of_mem hs)
  have hafter : ∀ s ∈ after, s.weight candidates < t.weight candidates :=
    fun s hs => hback _ (List.mem_map_of_mem hs)
  have hlower : ∀ s ∈ before, s.rank < t.rank := by
    have hsorted : (before ++ t :: after).Pairwise fun a b => a.rank < b.rank :=
      hdeciding ▸ (List.pairwise_map.mp hranks).sublist List.filter_sublist
    exact fun s hs => (List.pairwise_append.mp hsorted).2.2 s hs t List.mem_cons_self
  obtain ⟨ht, hdecides⟩ := (hmem t).mp (List.mem_append_right before List.mem_cons_self)
  refine ⟨t, ⟨⟨ht, hdecides, fun s hs hs' => ?_⟩, fun s hs => ?_⟩, rfl⟩
  · rcases List.mem_append.mp ((hmem s).mpr ⟨hs, hs'⟩) with hs | hs
    · exact hbefore s hs
    · rcases List.mem_cons.mp hs with rfl | hs
      · exact Int.le_refl _
      · exact Int.le_of_lt (hafter s hs)
  · rcases List.mem_append.mp ((hmem s).mpr ⟨hs.mem, hs.decides⟩) with hin | hin
    · exact Nat.le_of_lt (hlower s hin)
    · rcases List.mem_cons.mp hin with rfl | hin
      · exact Nat.le_refl _
      · have hless := hafter s hin
        have hle := hs.weight_le t ht hdecides
        omega

end Semantic.Told

namespace FactBase

open Semantic (Told)

/-- A base that knew no match and is told of some, ranked from one on, decides for none exactly if none is
similar enough. Else it decides for the heaviest one with the last rank; so it decides for the one with the
best rank only if that has the same verb. -/
theorem verdict_of_told {b : FactBase} (hb : b.IsFree) (message : String) (candidates : List String)
    {ts : List Told} (hranks : ts.map Told.rank = List.range' 1 ts.length)
    (hmost : ∀ t ∈ ts, t.similarity ≤ 100) :
    let told := (ts.map (Told.fact message)).foldl insert b
    (told.verdict? message candidates = none ↔ ∀ t ∈ ts, t.similarity < 60) ∧
    (∀ v, told.verdict? message candidates = some v ↔ ∃ t, Told.IsLast candidates ts t ∧ t.verdict = v) ∧
    ∀ first last, Told.IsFirst candidates ts first → Told.IsLast candidates ts last →
      (told.verdict? message candidates = some first.verdict ↔ first.verb = last.verb) := by
  intro told
  have hsorted : (ts.map Told.rank).Pairwise (· < ·) := by
    rw [hranks]
    exact List.pairwise_lt_range'
  have hnodup : (ts.map Told.rank).Nodup := hsorted.imp Nat.ne_of_lt
  have hverdict : told.verdict? message candidates =
      (((ts.map fun t => (t.verb, t.similarity)).filter (leastSimilarity ≤ ·.2)).foldl (weightier candidates)
        none).map fun m => ⟨m.1, Decimal.ofInt (min m.2 100) / 100⟩ := by
    rw [← filterMap_match?_told hb message hnodup]
    rfl
  have hnone : told.verdict? message candidates = none ↔ ∀ t ∈ ts, t.similarity < 60 := by
    rw [hverdict, Option.map_eq_none_iff, foldl_weightier_eq_none_iff, List.filter_eq_nil_iff,
      List.forall_mem_map]
    refine forall₂_congr fun t _ => ?_
    rw [decide_eq_true_eq, Int.not_le]
    rfl
  have hsome (v : Verdict) : told.verdict? message candidates = some v →
      ∃ t, Told.IsLast candidates ts t ∧ t.verdict = v := by
    intro h
    rw [hverdict] at h
    obtain ⟨m, hm, rfl⟩ := Option.map_eq_some_iff.mp h
    obtain ⟨t, ht, rfl⟩ := Told.exists_isLast hsorted hm
    have hmin : min t.similarity 100 = t.similarity := by
      have := hmost t ht.1.mem
      omega
    exact ⟨t, ht, by rw [Told.verdict, hmin]⟩
  have hlast {t : Told} (ht : Told.IsLast candidates ts t) :
      told.verdict? message candidates = some t.verdict := by
    cases hv : told.verdict? message candidates with
    | none =>
      have hless := hnone.mp hv t ht.1.mem
      have hleast : (60 : Int) ≤ t.similarity := ht.1.decides
      omega
    | some v =>
      obtain ⟨s, hs, rfl⟩ := hsome v hv
      have hrank : s.rank = t.rank := Nat.le_antisymm (ht.2 s hs.1) (hs.2 t ht.1)
      rw [List.inj_on_of_nodup_map hnodup hs.1.mem ht.1.mem hrank]
  refine ⟨hnone, fun v => ⟨hsome v, ?_⟩, fun first last hf hl => ?_⟩
  · rintro ⟨t, ht, rfl⟩
    exact hlast ht
  · rw [hlast hl, Option.some.injEq, hl.1.verdict_eq_iff hf.1, eq_comm]

/-- Three matches that weigh the same, one of them for its bonus, and one that is not similar enough. -/
def tiedMatches : List Told :=
  [⟨"open it", "/open", "none", 1, 80⟩, ⟨"show it", "/show", "none", 2, 80⟩,
    ⟨"read it", "/read", "none", 3, 70⟩, ⟨"close it", "/close", "none", 4, 59⟩]

/-- A base that knows a verb, but no match. -/
def verbBase : FactBase :=
  insert {} ⟨"verb_def", [.atom "/open", .atom "/query", .str "reader", .int 50]⟩

theorem isFree_verbBase : verbBase.IsFree :=
  (Tidy.empty.insert (by decide)).isFree (by decide)

theorem verdict_of_told_tiedMatches :
    let told := (tiedMatches.map (Told.fact "open \"it\", 1")).foldl insert verbBase
    told.verdict? "open \"it\", 1" ["/read"] = some ⟨"/read", Decimal.ofInt 70 / 100⟩ ∧
      told.verdict? "open \"it\", 1" ["/read"] ≠ some ⟨"/open", Decimal.ofInt 80 / 100⟩ := by
  intro told
  have hranks : tiedMatches.map Told.rank = List.range' 1 tiedMatches.length := by decide
  have hverdict := verdict_of_told isFree_verbBase "open \"it\", 1" ["/read"] hranks (by decide)
  have hfirst : Told.IsFirst ["/read"] tiedMatches ⟨"open it", "/open", "none", 1, 80⟩ :=
    ⟨⟨by decide, by decide, by decide⟩, fun s hs => (by decide : ∀ s ∈ tiedMatches, 1 ≤ s.rank) s hs.mem⟩
  have hlast : Told.IsLast ["/read"] tiedMatches ⟨"read it", "/read", "none", 3, 70⟩ :=
    ⟨⟨by decide, by decide, by decide⟩, fun s hs =>
      (by decide : ∀ s ∈ tiedMatches, leastSimilarity ≤ s.similarity → s.rank ≤ 3) s hs.mem hs.decides⟩
  exact ⟨(hverdict.2.1 _).mpr ⟨_, hlast, rfl⟩, fun h => absurd ((hverdict.2.2 _ _ hfirst hlast).mp h) (by decide)⟩

/-- The match with the best rank is not the one decided for, if another one weighs the same. -/
theorem not_first_of_tied :
    let first : Told := ⟨"open it", "/open", "none", 1, 80⟩
    let second : Told := ⟨"show it", "/show", "none", 2, 80⟩
    let told := ([first, second].map (Told.fact "open it")).foldl insert {}
    Told.IsFirst [] [first, second] first ∧
      (told.verdict? "open it" []).map Verdict.verb = some "/show" := by
  intro first second told
  refine ⟨⟨⟨by decide, by decide, by decide⟩, fun s hs => ?_⟩, by decide +kernel⟩
  exact (by decide : ∀ s ∈ [first, second], 1 ≤ s.rank) s hs.mem

end FactBase

end Utterance
