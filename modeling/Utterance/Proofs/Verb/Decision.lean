import Utterance.Proofs.Intent
import Utterance.Proofs.Kernel.Verdict
import Utterance.Proofs.Semantic.Facts

/-! Where a decision comes from. It takes over one verb of the corpus as it is, or none is a candidate;
and a base decides only by a match that was found for this very message. -/

namespace Utterance

/-! Entries of the corpus. -/

/-- The verb has this name, this category and this shard. -/
structure Verb.HasParts (x : Verb) (name : String) (category : Category) (shard : String) : Prop where
  name : x.name = name
  category : x.category = category
  shard : x.shard = shard

theorem Corpus.exists_of_mem_candidates {corpus : Corpus} {message : String} {c : Candidate}
    (h : c ∈ corpus.candidates message) :
    ∃ x ∈ corpus.verbs, x.HasParts c.verb c.category c.shard := by
  obtain ⟨x, hx, hc⟩ := List.mem_filterMap.mp h
  obtain ⟨m, -, rfl⟩ := Option.map_eq_some_iff.mp hc
  exact ⟨x, hx, rfl, rfl, rfl⟩

theorem Corpus.mem_of_get? {corpus : Corpus} {name : String} {x : Verb}
    (h : corpus.get? name = some x) : x ∈ corpus.verbs ∧ x.name = normalizeVerb name := by
  have hx : (x.name == normalizeVerb name) = true :=
    List.find?_some (p := fun x : Verb => x.name == normalizeVerb name) h
  exact ⟨List.mem_of_find?_eq_some h, beq_iff_eq.mp hx⟩

/-- Where no verb stands twice each is found under its name. -/
theorem Corpus.get?_of_mem {c : Corpus} (hdistinct : (c.verbs.map Verb.name).Nodup) {x : Verb}
    (hx : x ∈ c.verbs) (hname : normalizeVerb x.name = x.name) : c.get? x.name = some x := by
  rw [get?, hname]
  generalize c.verbs = vs at hdistinct hx
  induction vs with
  | nil => cases hx
  | cons y vs ih =>
    obtain ⟨hy, hvs⟩ := List.nodup_cons.mp hdistinct
    obtain rfl | hx := List.mem_cons.mp hx
    · exact List.find?_cons_of_pos (beq_self_eq_true _)
    · have hne : y.name ≠ x.name := fun he => hy (he ▸ List.mem_map_of_mem hx)
      rw [List.find?_cons_of_neg (by simpa using hne)]
      exact ih hvs hx

theorem Candidate.mem_of_better {b : Option (Candidate × Float)} {c x : Candidate} {s : Float}
    (h : better b c = some (x, s)) : x = c ∨ ∃ s, b = some (x, s) := by
  unfold better at h
  split at h
  · cases h
    exact .inl rfl
  · split at h
    · cases h
      exact .inl rfl
    · cases h
      exact .inr ⟨_, rfl⟩

theorem Candidate.mem_of_foldl_better {cs : List Candidate} {b : Option (Candidate × Float)}
    {x : Candidate} {s : Float} (h : cs.foldl better b = some (x, s)) :
    x ∈ cs ∨ ∃ s, b = some (x, s) := by
  induction cs generalizing b with
  | nil => exact .inr ⟨s, h⟩
  | cons c cs ih =>
    rcases ih h with hx | ⟨u, hu⟩
    · exact .inl (List.mem_cons_of_mem c hx)
    · rcases mem_of_better hu with rfl | hb
      · exact .inl List.mem_cons_self
      · exact .inr hb

theorem Candidate.mem_of_best? {cs : List Candidate} {x : Candidate} {s : Float}
    (h : best? cs = some (x, s)) : x ∈ cs := by
  rcases mem_of_foldl_better h with hx | ⟨u, hu⟩
  · exact hx
  · cases hu

theorem Candidate.foldl_better_some (cs : List Candidate) (best : Candidate × Float) :
    (cs.foldl better (some best)).isSome := by
  induction cs generalizing best with
  | nil => rfl
  | cons c cs ih =>
    rw [List.foldl_cons, better]
    split
    · exact ih _
    · exact ih _

theorem Candidate.eq_nil_of_best? {cs : List Candidate} (h : best? cs = none) : cs = [] := by
  cases cs with
  | nil => rfl
  | cons c cs =>
    have hsome := foldl_better_some cs (c, c.score)
    rw [show cs.foldl better (some (c, c.score)) = none from h] at hsome
    cases hsome

/-! What a base decides by. -/

namespace FactBase

theorem exists_of_verdict? {b : FactBase} {message : String} {candidates : List String} {v : Verdict}
    (h : b.verdict? message candidates = some v) :
    ∃ f ∈ b.factsOf Semantic.Match.predicate, ∃ n, leastSimilarity ≤ n ∧ f.text? 2 = some v.verb ∧
      (f.arg? 5).bind Rule.Term.int? = some n := by
  obtain ⟨⟨verb, n⟩, hbest, rfl⟩ := Option.map_eq_some_iff.mp h
  obtain ⟨front, back, hfound, -, -⟩ := split_of_foldl_weightier hbest
  obtain ⟨hm, hn⟩ := List.mem_filter.mp (hfound ▸ List.mem_append_right front List.mem_cons_self)
  obtain ⟨f, hf, hmatch⟩ := List.mem_filterMap.mp hm
  obtain ⟨hp, htext, hint⟩ := parts_of_match? hmatch
  exact ⟨f, mem_factsOf.mpr ⟨hf, hp⟩, n, of_decide_eq_true hn, htext, hint⟩

end FactBase

namespace Decision

/-! How a decision is made. -/

theorem ofCandidates_cases (cs : List Candidate) :
    (∃ c ∈ cs, ∃ score, ofCandidates cs = ⟨c.verb, c.category, score, c.shard, .keywords, [], []⟩) ∨
      cs = [] ∧ ofCandidates cs = fallback := by
  unfold ofCandidates
  cases hb : Candidate.best? cs with
  | none => exact .inr ⟨Candidate.eq_nil_of_best? hb, rfl⟩
  | some best =>
    obtain ⟨c, score⟩ := best
    exact .inl ⟨c, Candidate.mem_of_best? hb, score, rfl⟩

variable {W : Type} {watch : Watch W} {corpus : Corpus} {classifier : Option (Classifier W)}
  {message : String} {w v : W} {d : Decision}

theorem exists_of_ofVerdict? {verdict : Verdict}
    (h : ofVerdict? corpus (corpus.candidates message) verdict = some d) :
    d.decider = .kernel ∧ d.verb = normalizeVerb verdict.verb ∧
      ∃ x ∈ corpus.verbs, x.HasParts d.verb d.category d.shard := by
  unfold ofVerdict? at h
  split at h
  · cases h
  obtain ⟨⟨category, shard⟩, hk, rfl⟩ := Option.map_eq_some_iff.mp h
  refine ⟨rfl, rfl, ?_⟩
  cases hf : (corpus.candidates message).find? (·.verb == normalizeVerb verdict.verb) with
  | some c =>
    rw [hf] at hk
    cases hk
    have hc : (c.verb == normalizeVerb verdict.verb) = true :=
      List.find?_some (p := fun c : Candidate => c.verb == normalizeVerb verdict.verb) hf
    obtain ⟨x, hx, hparts⟩ := Corpus.exists_of_mem_candidates (List.mem_of_find?_eq_some hf)
    rw [beq_iff_eq.mp hc] at hparts
    exact ⟨x, hx, hparts⟩
  | none =>
    rw [hf] at hk
    obtain ⟨x, hget, hparts⟩ := Option.map_eq_some_iff.mp hk
    cases hparts
    obtain ⟨hx, hname⟩ := Corpus.mem_of_get? hget
    rw [normalizeVerb_normalizeVerb] at hname
    exact ⟨x, hx, hname, rfl, rfl⟩

/-- Either the candidates alone decide, or the verdict of a kernel does that was asked for it. -/
theorem split_of_make {kernel : Option (Kernel W)}
    (h : (make watch corpus classifier kernel message).on w = (.ok d, v)) :
    (∃ similar, d = { ofCandidates (corpus.candidates message) with
      candidates := corpus.candidates message, similar }) ∨
    ∃ k similar u verdict d', kernel = some k ∧
      (prepare watch classifier k message (corpus.candidates message)).on w = (.ok similar, u) ∧
      (ask watch k message (corpus.candidates message)).on u = (.ok (some verdict), v) ∧
      ofVerdict? corpus (corpus.candidates message) verdict = some d' ∧
      d = { d' with candidates := corpus.candidates message, similar } := by
  replace h := Act.on_of_run h
  cases kernel with
  | none =>
    cases h
    exact .inl ⟨_, rfl⟩
  | some k =>
    obtain ⟨similar, u, hprepare, h⟩ := Act.exists_of_bind h
    obtain ⟨verdict, u', hask, h⟩ := Act.exists_of_bind h
    cases hd : verdict.bind (ofVerdict? corpus (corpus.candidates message)) with
    | none =>
      rw [hd] at h
      cases h
      exact .inl ⟨similar, rfl⟩
    | some d' =>
      rw [hd] at h
      cases h
      obtain ⟨verdict, rfl, hverdict⟩ := Option.bind_eq_some_iff.mp hd
      exact .inr ⟨k, similar, u, verdict, d', rfl, hprepare, hask, hverdict, rfl⟩

theorem verdict?_of_ask {base : Part W FactBase} {cs : List Candidate} {verdict : Option Verdict}
    (h : (ask watch (FactBase.kernel base) message cs).on w = (.ok verdict, v)) :
    verdict = (base.read w).verdict? (sanitize message) (cs.map Candidate.verb) := by
  have ha : Act.OnlyLost ((FactBase.kernel base).verdict? (sanitize message) (cs.map Candidate.verb)) :=
    Act.onlyLost_of_ok fun _ => ⟨_, _, rfl⟩
  rw [ask, (ha.run watch).recover_eq] at h
  cases Act.on_of_run h
  rfl

/-- A base gives a verdict only on a match that was found, and is similar enough. -/
theorem exists_match_of_ask {base : Part W FactBase} (hb : base.Retains) {cs : List Candidate}
    {similar : List Semantic.Match} {u : W} {verdict : Verdict}
    (hp : (prepare watch classifier (FactBase.kernel base) message cs).on w = (.ok similar, u))
    (ha : (ask watch (FactBase.kernel base) message cs).on u = (.ok (some verdict), v)) :
    ∃ c u', classifier = some c ∧ (c.classify watch message).on w = (.ok similar, u') ∧
      ∃ m ∈ similar, 60 ≤ m.percent ∧ (m.fact message).text? 2 = some verdict.verb := by
  obtain ⟨f, hf, n, hn, htext, hint⟩ := FactBase.exists_of_verdict? (verdict?_of_ask ha).symm
  obtain ⟨c, u', hc, hfound, honly⟩ | hseeds := only_of_prepare hb hp
  · obtain ⟨m, hm, rfl⟩ := List.mem_map.mp (honly.mem f hf)
    cases hint
    exact ⟨c, u', hc, hfound, m, hm, hn, htext⟩
  · -- The best verbs are told with too little similarity.
    obtain ⟨i, hi, rfl⟩ := List.mem_mapIdx.mp (hseeds.mem f hf)
    cases hint
    exact absurd hn (by decide)

/-- A decision that anybody has made takes over one verb of the corpus as it is; the one that nobody has
made is always the same, and there is no candidate then. A base, whatever it held before, decides only by
a match of this message that was found just now and is at least 60 percent similar. -/
theorem origin_of_make {kernel : Option (Kernel W)}
    (hdistinct : (corpus.verbs.map Verb.name).Nodup)
    (hnormal : ∀ x ∈ corpus.verbs, normalizeVerb x.name = x.name)
    (h : (make watch corpus classifier kernel message).on w = (.ok d, v)) :
    (d.decider ≠ .nobody →
      ∃ x ∈ corpus.verbs, x.HasParts d.verb d.category d.shard ∧ corpus.get? d.verb = some x) ∧
      (d.decider = .nobody → d.verb = "/explain" ∧ d.category = .query ∧ d.confidence = 0.3 ∧
        d.shard = "" ∧ corpus.candidates message = []) ∧
      ∀ base : Part W FactBase, base.Retains → kernel = some (FactBase.kernel base) →
        d.decider = .kernel →
          ∃ c u, classifier = some c ∧ (c.classify watch message).on w = (.ok d.similar, u) ∧
            ∃ m ∈ d.similar, 60 ≤ m.percent ∧
              ((m.fact message).text? 2).map normalizeVerb = some d.verb := by
  have hget : ∀ x ∈ corpus.verbs, x.HasParts d.verb d.category d.shard →
      ∃ x ∈ corpus.verbs, x.HasParts d.verb d.category d.shard ∧ corpus.get? d.verb = some x := by
    intro x hx hparts
    refine ⟨x, hx, hparts, ?_⟩
    rw [← hparts.name]
    exact Corpus.get?_of_mem hdistinct hx (hnormal x hx)
  obtain ⟨similar, rfl⟩ | ⟨k, similar, u, verdict, d', rfl, hprepare, hask, hverdict, rfl⟩ :=
    split_of_make h
  · obtain ⟨c, hc, score, hd⟩ | ⟨hnone, hd⟩ := ofCandidates_cases (corpus.candidates message)
    · obtain ⟨x, hx, hparts⟩ := Corpus.exists_of_mem_candidates hc
      rw [hd] at hget ⊢
      exact ⟨fun _ => hget x hx hparts, nofun, fun _ _ _ hkernel => nomatch hkernel⟩
    · rw [hd]
      exact ⟨fun hne => absurd rfl hne, fun _ => ⟨rfl, rfl, rfl, rfl, hnone⟩,
        fun _ _ _ hkernel => nomatch hkernel⟩
  · obtain ⟨hdecider, hverb, x, hx, hparts⟩ := exists_of_ofVerdict? hverdict
    refine ⟨fun _ => hget x hx hparts, fun hnobody => ?_, fun base hb hk _ => ?_⟩
    · cases hdecider.symm.trans hnobody
    · cases hk
      obtain ⟨c, u', hc, hfound, m, hm, hpercent, htext⟩ := exists_match_of_ask hb hprepare hask
      refine ⟨c, u', hc, hfound, m, hm, hpercent, ?_⟩
      rw [htext, hverb]
      rfl

/-- A watch over a base that never loses patience. -/
def calm : Watch FactBase := ⟨⟨fun _ => 0, fun _ w => w⟩, fun _ => false, none⟩

/-- Verbs of which the message matches the first one. -/
def mendingCorpus : Corpus :=
  ⟨[(Verb.named "fix" .mutation 1 "").addSynonym "mend", .named "ask" .query 1 "help"]⟩

/-- A classifier that has learned a phrase of the second verb, and counts what it has learned for much. -/
def trustingClassifier : Classifier FactBase where
  embedder := { dimensions := 0, takesTask := false, embed := fun _ _ _ => pure [] }
  embedded := []
  learned := ⟨fun _ => [⟨⟨"tell me", "/ask", "", "", 1⟩, []⟩], fun _ w => w⟩
  store := Shelf.store ⟨fun _ => {}, fun _ w => w⟩
  tuning := { boost := 0.9 }

/-- A base that was told before that the message is a phrase of the first verb. -/
def mistakenBase : FactBase :=
  ({} : FactBase).insert ⟨Semantic.Match.predicate,
    [.str "mend x", .str "mend", .atom "/fix", .str "", .int 1, .int 99]⟩

theorem origin_of_make_mistakenBase :
    ∃ d v, (make calm mendingCorpus (some trustingClassifier)
        (some (FactBase.kernel (.whole FactBase))) "mend x").on mistakenBase = (.ok d, v) ∧
      d.decider = .kernel ∧
      (∃ x ∈ mendingCorpus.verbs, x.HasParts "/ask" .query "help" ∧
        mendingCorpus.get? "/ask" = some x) ∧
      ∃ m ∈ d.similar, 60 ≤ m.percent := by
  have hrun : ((make calm mendingCorpus (some trustingClassifier)
      (some (FactBase.kernel (.whole FactBase))) "mend x").on mistakenBase).1.toOption.map
      (fun d => (d.decider, d.verb, d.category, d.shard)) = some (.kernel, "/ask", .query, "help") := by
    decide +kernel
  obtain ⟨d, v, hmake, hparts⟩ := Act.exists_on_of_map hrun
  simp only [Prod.mk.injEq] at hparts
  obtain ⟨hdecider, hverb, hcategory, hshard⟩ := hparts
  obtain ⟨hentry, -, hbase⟩ := origin_of_make (by decide +kernel) (by decide +kernel) hmake
  rw [hverb, hcategory, hshard, hdecider] at hentry
  obtain ⟨c, u, -, -, m, hfound, hpercent, -⟩ := hbase _ (Part.retains_whole FactBase) rfl hdecider
  exact ⟨d, v, hmake, hdecider, hentry nofun, m, hfound, hpercent⟩

end Decision

end Utterance
