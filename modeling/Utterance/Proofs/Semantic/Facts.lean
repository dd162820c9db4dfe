import Utterance.Proofs.Kernel.Base
import Utterance.Proofs.Semantic.Merging
import Utterance.Verb.Decision

/-! What a base holds once it was told what a message is similar to. -/

namespace Utterance

variable {W : Type} {base : Part W FactBase} {watch : Watch W}

/-! Facts about a message. -/

namespace Semantic

/-- The base holds at most so many facts about matches, and all of them are about this message. -/
structure Speaks (message : String) (most : Nat) (b : FactBase) : Prop where
  subject : ∀ f ∈ b.factsOf Match.predicate, f.args.head? = some (.str (sanitize message))
  length_le : (b.factsOf Match.predicate).length ≤ most

/-- Of the facts about matches the base holds none but these. -/
structure Only (facts : List Rule.Fact) (b : FactBase) : Prop where
  mem : ∀ f ∈ b.factsOf Match.predicate, f ∈ facts
  length_le : (b.factsOf Match.predicate).length ≤ facts.length

/-- Facts about matches of a message. -/
def AreAbout (message : String) (facts : List Rule.Fact) : Prop :=
  ∀ f ∈ facts, f.predicate = Match.predicate ∧ f.args.head? = some (.str (sanitize message))

theorem Only.speaks {message : String} {most : Nat} {facts : List Rule.Fact} {b : FactBase}
    (h : Only facts b) (hf : AreAbout message facts) (hl : facts.length ≤ most) :
    Speaks message most b :=
  ⟨fun f hm => (hf f (h.mem f hm)).2, Nat.le_trans h.length_le hl⟩

theorem isIdent_predicate : Rule.isIdent Match.predicate := by decide

theorem withdraw_base : withdraw watch (FactBase.kernel base) =
    watch.run ((FactBase.kernel base).retract Match.predicate) :=
  ((FactBase.onlyLost_retract _).run watch).recover_eq _

theorem report_base (hb : base.Retains) (facts : List Rule.Fact) :
    report watch (FactBase.kernel base) facts =
      if facts.isEmpty then pure 0
      else watch.run ((FactBase.kernel base).tellAll facts) >>= fun _ => pure facts.length := by
  have ht := (FactBase.onlyLost_tellAll hb facts).run watch
  unfold report
  rw [(ht.bind fun _ => Act.onlyLost_pure facts.length).recover_eq]

theorem moves_withdraw (hb : base.Retains) :
    Act.Moves base.read (FactBase.Amends [Match.predicate]) (withdraw watch (FactBase.kernel base)) := by
  rw [withdraw_base]
  exact (FactBase.moves_retract hb _).run watch

theorem moves_report (hb : base.Retains) {message : String} {facts : List Rule.Fact}
    (h : AreAbout message facts) : Act.Moves base.read (FactBase.Amends [Match.predicate])
      (report watch (FactBase.kernel base) facts) := by
  rw [report_base hb]
  split
  · exact Act.moves_pure 0
  · have ht := FactBase.moves_tellAll hb isIdent_predicate fun f hf => (h f hf).1
    exact (ht.run watch).bind fun _ => Act.moves_pure facts.length

theorem on_withdraw_ok (hb : base.Retains) {n : Nat} {w v : W}
    (h : (withdraw watch (FactBase.kernel base)).on w = (.ok n, v)) :
    base.read v = (base.read w).drop Match.predicate := by
  rw [withdraw_base] at h
  cases Act.on_of_run h
  exact hb _ w

theorem on_report_ok (hb : base.Retains) {facts : List Rule.Fact} {n : Nat} {w v : W}
    (h : (report watch (FactBase.kernel base) facts).on w = (.ok n, v)) :
    base.read v = facts.foldl FactBase.insert (base.read w) := by
  rw [report_base hb] at h
  split at h
  case isTrue he =>
    rw [List.isEmpty_iff.mp he]
    cases h
    rfl
  case isFalse =>
    obtain ⟨_, u, ht, hp⟩ := Act.exists_of_bind h
    obtain ⟨v', hv, hr⟩ := FactBase.exists_on_tellAll hb facts w
    rw [Act.on_of_run ht] at hv
    cases hv
    cases hp
    exact hr

/-- What is reported takes the place of what was withdrawn. -/
theorem only_of_report (hb : base.Retains) {facts : List Rule.Fact} {n m : Nat} {w u v : W}
    (hw : (withdraw watch (FactBase.kernel base)).on w = (.ok n, u))
    (hr : (report watch (FactBase.kernel base) facts).on u = (.ok m, v)) :
    Only facts (base.read v) := by
  have hnone : (base.read u).factsOf Match.predicate = [] := by
    rw [on_withdraw_ok hb hw, FactBase.factsOf_drop_self]
  obtain ⟨hmem, hlength⟩ := FactBase.factsOf_foldl_insert facts (base.read u) Match.predicate
  rw [← on_report_ok hb hr, hnone] at hmem hlength
  refine ⟨fun f hm => (hmem f hm).resolve_left List.not_mem_nil, ?_⟩
  rwa [List.length_nil, Nat.zero_add] at hlength

/-! For want of matches. -/

theorem areAbout_seedFacts (message : String) (candidates : List Candidate) :
    AreAbout message (seedFacts message candidates) := by
  intro f hf
  obtain ⟨i, hi, rfl⟩ := List.mem_mapIdx.mp hf
  exact ⟨rfl, rfl⟩

theorem length_seedFacts_le (message : String) (candidates : List Candidate) :
    (seedFacts message candidates).length ≤ seedCount := by
  rw [seedFacts, List.length_mapIdx]
  exact List.length_take_le _ _

theorem moves_seed (hb : base.Retains) (message : String) (candidates : List Candidate) :
    Act.Moves base.read (FactBase.Amends [Match.predicate])
      (seed watch (FactBase.kernel base) message candidates) :=
  (moves_withdraw hb).bind fun _ => moves_report hb (areAbout_seedFacts message candidates)

theorem onlyLost_seed (hb : base.Retains) (message : String) (candidates : List Candidate) :
    Act.OnlyLost (seed watch (FactBase.kernel base) message candidates) := by
  unfold seed
  rw [withdraw_base, report_base hb]
  refine ((FactBase.onlyLost_retract _).run watch).bind fun _ => ?_
  split
  · exact Act.onlyLost_pure 0
  · exact ((FactBase.onlyLost_tellAll hb _).run watch).bind fun _ => Act.onlyLost_pure _

theorem only_of_seed (hb : base.Retains) {message : String} {candidates : List Candidate} {n : Nat}
    {w v : W} (h : (seed watch (FactBase.kernel base) message candidates).on w = (.ok n, v)) :
    Only (seedFacts message candidates) (base.read v) := by
  obtain ⟨m, u, hw, hr⟩ := Act.exists_of_bind h
  exact only_of_report hb hw hr

/-! Matches. -/

theorem areAbout_map_fact (message : String) (found : List Match) :
    AreAbout message (found.map (Match.fact message)) := by
  intro f hf
  obtain ⟨m, -, rfl⟩ := List.mem_map.mp hf
  exact ⟨rfl, rfl⟩

namespace Match

theorem length_merge_le (embedded learned : List Match) (boost : Float) (k : Nat) :
    (merge embedded learned boost k).length ≤ embedded.length + learned.length := by
  have hpool : (best (embedded ++ learned.map (boosted boost))).length ≤ embedded.length + learned.length := by
    simpa using length_best_le (embedded ++ learned.map (boosted boost))
  rw [merge_eq, length_ranked]
  split
  · exact hpool
  · exact Nat.le_trans (List.length_take_le' _ _) hpool

theorem length_atLeast_le (least : Float) (ms : List Match) :
    (atLeast least ms).length ≤ ms.length := by
  rw [atLeast, length_ranked]
  exact List.length_filter_le _ _

end Match

theorem Index.length_search_le (index : Index) (query : Embedding) (k : Nat) (origin : Origin) :
    (index.search query k origin).length ≤ k := by
  rw [search, Match.length_ranked, List.length_map]
  exact List.length_take_le _ _

end Semantic

namespace Classifier

/-- The most facts about matches that a classifier tells a kernel about a message. -/
def most (c : Classifier W) : Nat :=
  max Semantic.seedCount (2 * c.tuning.count)

theorem yields_classify (c : Classifier W) (message : String) :
    Act.Yields (fun found => found.length ≤ 2 * c.tuning.count) (c.classify watch message) := by
  refine Act.yields_bind _ fun query => Act.yields_bind _ fun _ => Act.yields_bind _ fun learned => ?_
  refine Act.yields_pure (Nat.le_trans (Semantic.Match.length_atLeast_le _ _) ?_)
  refine Nat.le_trans (Semantic.Match.length_merge_le _ _ _ _) ?_
  have he := c.embedded.length_search_le query c.tuning.count .embedded
  have hl := Semantic.Index.length_search_le learned query c.tuning.count .learned
  omega

variable {c : Classifier W}

theorem moves_classify
    (he : ∀ watch task text, Act.Moves base.read Eq (c.embedder.embed watch task text))
    (message : String) : Act.Moves base.read Eq (c.classify watch message) :=
  (he _ _ _).bind fun _ => (Act.moves_check watch).bind fun _ =>
    (Act.moves_value c.learned).bind fun _ => Act.moves_pure _

theorem moves_classifyFor (hb : base.Retains)
    (he : ∀ watch task text, Act.Moves base.read Eq (c.embedder.embed watch task text))
    (message : String) (candidates : List Candidate) :
    Act.Moves base.read (FactBase.Amends [Semantic.Match.predicate])
      (c.classifyFor watch (FactBase.kernel base) message candidates) := by
  have hc : Act.Moves base.read (FactBase.Amends [Semantic.Match.predicate])
      (c.classify watch message) :=
    (moves_classify he message).mono fun b _ h => h ▸ Std.Refl.refl b
  refine hc.attempt.bind fun o => ?_
  cases o with
  | ok found =>
    exact (Semantic.moves_withdraw hb).bind fun _ =>
      (Semantic.moves_report hb (Semantic.areAbout_map_fact message found)).bind fun _ =>
        Act.moves_pure found
  | error e =>
    dsimp only
    split
    · exact Act.moves_throw e
    · exact (Semantic.moves_seed hb message candidates).bind fun _ => Act.moves_pure []

/-- The base is told the matches that were found; if none could be sought, it is told the best verbs. -/
theorem only_of_classifyFor (hb : base.Retains) {message : String} {candidates : List Candidate}
    {found : List Semantic.Match} {w v : W}
    (h : (c.classifyFor watch (FactBase.kernel base) message candidates).on w = (.ok found, v)) :
    (∃ u, (c.classify watch message).on w = (.ok found, u) ∧
      Semantic.Only (found.map (Semantic.Match.fact message)) (base.read v)) ∨
      Semantic.Only (Semantic.seedFacts message candidates) (base.read v) := by
  unfold classifyFor at h
  rw [Act.on_bind, Act.on_attempt] at h
  cases hc : (c.classify watch message).on w with
  | mk o u =>
    rw [hc] at h
    cases o with
    | ok ms =>
      obtain ⟨n, u₁, hw, h⟩ := Act.exists_of_bind h
      obtain ⟨m, u₂, hr, hp⟩ := Act.exists_of_bind h
      cases hp
      exact .inl ⟨u, rfl, Semantic.only_of_report hb hw hr⟩
    | error e =>
      dsimp only at h
      split at h
      · cases h
      · obtain ⟨n, u₁, hs, hp⟩ := Act.exists_of_bind h
        cases hp
        exact .inr (Semantic.only_of_seed hb hs)

end Classifier

namespace Decision

/-- The most facts about matches that a kernel is told about a message. -/
def most (classifier : Option (Classifier W)) : Nat :=
  classifier.elim Semantic.seedCount Classifier.most

theorem seedCount_le_most (classifier : Option (Classifier W)) : Semantic.seedCount ≤ most classifier := by
  cases classifier with
  | none => exact Nat.le_refl _
  | some c => exact Nat.le_max_left _ _

section

variable {classifier : Option (Classifier W)} (hb : base.Retains)
include hb

theorem moves_prepare
    (he : ∀ c, classifier = some c → ∀ watch task text,
      Act.Moves base.read Eq (c.embedder.embed watch task text))
    (message : String) (candidates : List Candidate) :
    Act.Moves base.read (FactBase.Amends [Semantic.Match.predicate])
      (prepare watch classifier (FactBase.kernel base) message candidates) := by
  cases classifier with
  | some c => exact Classifier.moves_classifyFor hb (he c rfl) message candidates
  | none =>
    exact ((Semantic.moves_seed hb message candidates).bind fun _ => Act.moves_pure []).recover
      fun _ => Act.moves_pure []

theorem only_of_prepare {message : String} {candidates : List Candidate}
    {found : List Semantic.Match} {w v : W}
    (h : (prepare watch classifier (FactBase.kernel base) message candidates).on w = (.ok found, v)) :
    (∃ c u, classifier = some c ∧ (c.classify watch message).on w = (.ok found, u) ∧
      Semantic.Only (found.map (Semantic.Match.fact message)) (base.read v)) ∨
      Semantic.Only (Semantic.seedFacts message candidates) (base.read v) := by
  cases classifier with
  | some c =>
    obtain ⟨u, hu⟩ | hseeds := Classifier.only_of_classifyFor hb h
    · exact .inl ⟨c, u, rfl, hu⟩
    · exact .inr hseeds
  | none =>
    unfold prepare at h
    dsimp only at h
    have hs : Act.OnlyLost (Semantic.seed watch (FactBase.kernel base) message candidates) :=
      Semantic.onlyLost_seed hb message candidates
    rw [(hs.bind fun _ => Act.onlyLost_pure []).recover_eq] at h
    obtain ⟨n, u, hs, hp⟩ := Act.exists_of_bind h
    cases hp
    exact .inr (Semantic.only_of_seed hb hs)

/-- Whether or not matches are found, the base speaks of the message afterwards. -/
theorem speaks_of_prepare {message : String} {candidates : List Candidate}
    {found : List Semantic.Match} {w v : W}
    (h : (prepare watch classifier (FactBase.kernel base) message candidates).on w = (.ok found, v)) :
    Semantic.Speaks message (most classifier) (base.read v) := by
  obtain ⟨c, u, rfl, hc, hfound⟩ | hseeds := only_of_prepare hb h
  · refine hfound.speaks (Semantic.areAbout_map_fact message found) ?_
    have hl : found.length ≤ 2 * c.tuning.count := Classifier.yields_classify c message w found u hc
    rw [List.length_map]
    exact Nat.le_trans hl (Nat.le_max_right _ _)
  · refine hseeds.speaks (Semantic.areAbout_seedFacts message candidates) ?_
    exact Nat.le_trans (Semantic.length_seedFacts_le message candidates) (seedCount_le_most classifier)

omit hb in
theorem moves_ask (message : String) (candidates : List Candidate) :
    Act.Moves base.read Eq (ask watch (FactBase.kernel base) message candidates) := by
  have hv : Act.Moves base.read Eq ((FactBase.kernel base).verdict? (sanitize message)
      (candidates.map Candidate.verb)) :=
    (Act.moves_value base).bind fun _ => Act.moves_pure _
  exact (hv.run watch).recover fun _ => Act.moves_pure none

end

end Decision

end Utterance
