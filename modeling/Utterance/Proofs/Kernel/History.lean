import Utterance.Proofs.Intent
import Utterance.Proofs.Kernel.Base
import Utterance.Proofs.Kernel.Loading
import Utterance.Proofs.Rule.Trimming
import Utterance.Verb.Bundled

/-! A base answers with what it was told since it last had to forget: each fact once, and in the order in
which the facts first came.

A program of facts, one a line, states these facts, and any base takes them, such as those about the
bundled verbs. -/

namespace Utterance

/-- The members of a list, each once, in the order in which they first stand in it. -/
structure IsFirsts {α : Type} (log firsts : List α) : Prop where
  mem : ∀ x, x ∈ firsts ↔ x ∈ log
  nodup : firsts.Nodup
  order : firsts.Pairwise fun x y => ∃ front back, log = front ++ x :: back ∧ y ∉ front

namespace IsFirsts

variable {α : Type} {log firsts : List α} {x : α}

theorem nil : IsFirsts ([] : List α) [] :=
  ⟨fun _ => Iff.rfl, .nil, .nil⟩

theorem order_concat (h : IsFirsts log firsts) (x : α) :
    firsts.Pairwise fun y z => ∃ front back, log ++ [x] = front ++ y :: back ∧ z ∉ front := by
  refine h.order.imp ?_
  rintro y z ⟨front, back, rfl, hz⟩
  exact ⟨front, back ++ [x], by simp, hz⟩

/-- What stood in the list already is passed over. -/
theorem again (h : IsFirsts log firsts) (hx : x ∈ firsts) : IsFirsts (log ++ [x]) firsts where
  mem y := by
    rw [List.mem_append, List.mem_singleton, ← h.mem]
    constructor
    · exact .inl
    · rintro (hy | rfl)
      · exact hy
      · exact hx
  nodup := h.nodup
  order := h.order_concat x

/-- What is new comes last. -/
theorem fresh (h : IsFirsts log firsts) (hx : x ∉ firsts) : IsFirsts (log ++ [x]) (firsts ++ [x]) where
  mem y := by rw [List.mem_append, List.mem_append, h.mem]
  nodup := by
    rw [List.nodup_append]
    refine ⟨h.nodup, by simp, ?_⟩
    rintro y hy z hz rfl
    rw [List.mem_singleton] at hz
    exact hx (hz ▸ hy)
  order := by
    rw [List.pairwise_append]
    refine ⟨h.order_concat x, List.pairwise_singleton _ x, fun y hy z hz => ?_⟩
    obtain ⟨front, back, rfl⟩ := List.append_of_mem ((h.mem y).mp hy)
    rw [List.mem_singleton] at hz
    subst hz
    refine ⟨front, back ++ [z], by simp, fun hz => hx ((h.mem z).mpr ?_)⟩
    exact List.mem_append_left _ hz

end IsFirsts

/-- A fact that is read back from its own text. -/
def Rule.Fact.IsPlain (f : Rule.Fact) : Prop :=
  Rule.parseFact f.source = .ok f

/-- The text of a plain fact tells which fact it is. -/
theorem Rule.Fact.IsPlain.eq_of_write {f g : Rule.Fact} (hf : f.IsPlain) (hg : g.IsPlain)
    (h : f.write = g.write) : f = g := by
  have hs : f.source = g.source := congrArg (· ++ ".") h
  rw [Rule.Fact.IsPlain, hs, hg] at hf
  exact (Except.ok.inj hf).symm

namespace FactBase

/-- What a kernel can be asked to do to its facts. -/
inductive Change where
  | tell (f : Rule.Fact)
  | tellAll (facts : List Rule.Fact)
  | load (source : String)
  | retract (predicate : String)

namespace Change

/-- A change of a base, through its kernel. -/
def act : Change → Act FactBase Unit
  | tell f => (kernel (.whole FactBase)).tell f
  | tellAll facts => (kernel (.whole FactBase)).tellAll facts
  | load source => do
    let _ ← (kernel (.whole FactBase)).load source
    pure ()
  | retract predicate => do
    let _ ← (kernel (.whole FactBase)).retract predicate
    pure ()

/-- The facts that a change asserts, in their order. -/
def facts : Change → List Rule.Fact
  | tell f => [f]
  | tellAll facts => facts
  | load source => ((Rule.parseProgram source).toOption.getD []).filterMap Rule.Clause.fact?
  | retract _ => []

/-- Whether a change drops the facts of a predicate. -/
def clears (p : String) : Change → Bool
  | retract predicate => predicate == p
  | _ => false

/-- A change that asserts plain facts only, by a program of nothing else. -/
def IsPlain : Change → Prop
  | tell f => f.IsPlain
  | tellAll facts => ∀ f ∈ facts, f.IsPlain
  | load source => ∃ clauses, Rule.parseProgram source = .ok clauses ∧
      ∀ c ∈ clauses, ∃ f, c.fact? = some f ∧ f.IsPlain
  | retract _ => True

end Change

/-- The changes since a predicate was last dropped. -/
def since (changes : List Change) (p : String) : List Change :=
  (changes.reverse.takeWhile (!·.clears p)).reverse

/-- The facts of a predicate that were asserted since it was last dropped. -/
def asserted (changes : List Change) (p : String) : List Rule.Fact :=
  ((since changes p).flatMap Change.facts).filter (·.predicate == p)

theorem asserted_concat (changes : List Change) (c : Change) (p : String) :
    asserted (changes ++ [c]) p =
      if c.clears p then [] else asserted changes p ++ c.facts.filter (·.predicate == p) := by
  rw [asserted, since, List.reverse_concat, List.takeWhile_cons]
  cases c.clears p with
  | true => rfl
  | false => simp [asserted, since]

/-- A base that answers with the facts of a log. -/
structure Recalls (log : String → List Rule.Fact) (b : FactBase) : Prop where
  plain : ∀ f ∈ b.facts, f.IsPlain
  keyed : b.Keyed
  firsts : ∀ p, IsFirsts (log p) (b.factsOf p)

namespace Recalls

variable {log : String → List Rule.Fact} {b : FactBase}

theorem holds_iff (h : Recalls log b) {f : Rule.Fact} (hf : f.IsPlain) : b.holds f ↔ f ∈ b.facts := by
  rw [h.keyed.holds_iff]
  constructor
  · rintro ⟨g, hg, hw⟩
    rwa [← (h.plain g hg).eq_of_write hf hw]
  · exact fun hm => ⟨f, hm, rfl⟩

theorem insert (h : Recalls log b) {f : Rule.Fact} (hf : f.IsPlain) :
    Recalls (fun p => log p ++ if f.predicate = p then [f] else []) (b.insert f) where
  plain g hg := by
    obtain hg | rfl := mem_of_mem_insert hg
    · exact h.plain g hg
    · exact hf
  keyed := h.keyed.insert f
  firsts p := by
    by_cases hp : f.predicate = p
    · rw [if_pos hp]
      by_cases hb : b.holds f
      · rw [insert_of_holds hb]
        exact (h.firsts p).again (mem_factsOf.mpr ⟨(h.holds_iff hf).mp hb, hp⟩)
      · rw [factsOf_insert hb, if_pos hp]
        exact (h.firsts p).fresh fun hm => hb ((h.holds_iff hf).mpr (mem_factsOf.mp hm).1)
    · rw [if_neg hp, List.append_nil, factsOf_insert_of_ne hp]
      exact h.firsts p

theorem insertAll {facts : List Rule.Fact} (h : Recalls log b) (hf : ∀ f ∈ facts, f.IsPlain) :
    Recalls (fun p => log p ++ facts.filter (·.predicate == p)) (facts.foldl FactBase.insert b) := by
  induction facts generalizing log b with
  | nil => simpa using h
  | cons f facts ih =>
    obtain ⟨hplain, hrest⟩ := List.forall_mem_cons.mp hf
    have hr := ih (h.insert hplain) hrest
    simp only [List.append_assoc] at hr
    have hlog (p : String) : (f :: facts).filter (·.predicate == p) =
        (if f.predicate = p then [f] else []) ++ facts.filter (·.predicate == p) := by
      by_cases hp : f.predicate = p <;> simp [hp]
    simp only [List.foldl_cons, hlog]
    exact hr

theorem separate (h : Recalls log b) : b.Separate := by
  intro f hf g hg hw
  rw [(h.plain f hf).eq_of_write (h.plain g hg) hw]

theorem drop (h : Recalls log b) (p : String) :
    Recalls (fun q => if p = q then [] else log q) (b.drop p) where
  plain f hf := h.plain f (mem_of_mem_drop hf)
  keyed := h.keyed.drop h.separate p
  firsts q := by
    by_cases hq : p = q
    · subst hq
      rw [if_pos rfl, factsOf_drop_self]
      exact .nil
    · rw [if_neg hq, factsOf_drop_of_ne (Ne.symm hq)]
      exact h.firsts q

end Recalls

/-! Changes. -/

theorem on_tellAll (facts : List Rule.Fact) (b : FactBase) :
    ((kernel (.whole FactBase)).tellAll facts).on b = (.ok (), facts.foldl insert b) := by
  obtain ⟨v, hv, hr⟩ := exists_on_tellAll (Part.retains_whole FactBase) facts b
  rw [hv]
  exact congrArg _ hr

theorem on_mapM_enter_facts {clauses : List Rule.Clause} (h : ∀ c ∈ clauses, c.fact?.isSome)
    (b : FactBase) :
    ∃ counts, (clauses.mapM enter).on b =
      (.ok counts, (clauses.filterMap Rule.Clause.fact?).foldl insert b) := by
  induction clauses generalizing b with
  | nil => exact ⟨[], rfl⟩
  | cons c clauses ih =>
    obtain ⟨hc, hrest⟩ := List.forall_mem_cons.mp h
    obtain ⟨f, hf⟩ := Option.isSome_iff_exists.mp hc
    obtain ⟨counts, hr⟩ := ih hrest (b.insert f)
    refine ⟨(if b.holds f then 0 else 1) :: counts, ?_⟩
    rw [on_mapM_enter_cons (on_enter_fact hf b), hr, List.filterMap_cons_some hf]
    rfl

/-- A plain change is made, and after it the base recalls what was asserted up to then. -/
theorem recalls_act {changes : List Change} {b : FactBase} (h : Recalls (asserted changes) b)
    {c : Change} (hc : c.IsPlain) :
    ∃ b', c.act.on b = (.ok (), b') ∧ Recalls (asserted (changes ++ [c])) b' := by
  have hlog := funext (asserted_concat changes c)
  cases c with
  | tell f =>
    refine ⟨b.insert f, rfl, ?_⟩
    rw [hlog]
    have hone : ∀ g ∈ [f], g.IsPlain := List.forall_mem_singleton.mpr hc
    exact h.insertAll hone
  | tellAll facts =>
    refine ⟨facts.foldl insert b, on_tellAll facts b, ?_⟩
    rw [hlog]
    exact h.insertAll hc
  | load source =>
    obtain ⟨clauses, hp, hfacts⟩ := hc
    have hall : ∀ c ∈ clauses, c.fact?.isSome := by
      intro c hc
      obtain ⟨f, hf, -⟩ := hfacts c hc
      rw [hf]
      rfl
    obtain ⟨counts, hm⟩ := on_mapM_enter_facts hall b
    refine ⟨(clauses.filterMap Rule.Clause.fact?).foldl insert b, ?_, ?_⟩
    · have hl : ((kernel (.whole FactBase)).load source).on b = _ := on_load hp hm
      exact Act.on_bind_ok hl _
    · have hcf : (Change.load source).facts = clauses.filterMap Rule.Clause.fact? := by
        rw [Change.facts, hp]
        rfl
      rw [hlog, hcf]
      refine h.insertAll fun f hf => ?_
      obtain ⟨c, hc, hcf⟩ := List.mem_filterMap.mp hf
      obtain ⟨g, hg, hplain⟩ := hfacts c hc
      rw [hcf] at hg
      cases hg
      exact hplain
  | retract p =>
    refine ⟨b.drop p, rfl, ?_⟩
    have hretract : asserted (changes ++ [.retract p]) =
        fun q => if p = q then [] else asserted changes q := by
      rw [hlog]
      funext q
      simp [Change.clears, Change.facts]
    rw [hretract]
    exact h.drop p

theorem recalls_empty : Recalls (asserted []) {} :=
  ⟨by simp, keyed_empty, fun _ => .nil⟩

/-- Plain changes are all made, and after them the base recalls what was asserted. -/
theorem recalls_changes {before changes : List Change} {b : FactBase}
    (hb : Recalls (asserted before) b) (h : ∀ c ∈ changes, c.IsPlain) :
    ∃ b', (changes.forM Change.act).on b = (.ok (), b') ∧
      Recalls (asserted (before ++ changes)) b' := by
  induction changes generalizing before b with
  | nil => exact ⟨b, rfl, by rwa [List.append_nil]⟩
  | cons c changes ih =>
    obtain ⟨hc, hchanges⟩ := List.forall_mem_cons.mp h
    obtain ⟨b₁, hact, hr⟩ := recalls_act hb hc
    obtain ⟨b₂, hrest, hr⟩ := ih hr hchanges
    refine ⟨b₂, (Act.on_forM_cons hact changes).trans hrest, ?_⟩
    rwa [List.append_assoc, List.singleton_append] at hr

/-- However a base came to its facts, it answers for each predicate with those that were asserted since it
was last dropped, each once and in the order in which they first came. To drop a predicate counts its facts
and changes no other answer. The texts that a base knows are those of its facts. -/
theorem query_after (changes : List Change) (h : ∀ c ∈ changes, c.IsPlain) :
    ∃ b, (changes.forM Change.act).on {} = (.ok (), b) ∧
      (∀ t, t ∈ b.texts ↔ ∃ f ∈ b.facts, f.write = t) ∧
      ∀ p, ∃ answer b', ((kernel (.whole FactBase)).query p).on b = (.ok answer, b) ∧
        IsFirsts (asserted changes p) answer ∧
        ((kernel (.whole FactBase)).retract p).on b = (.ok answer.length, b') ∧
        ∀ q, q ≠ p → ∃ other, ((kernel (.whole FactBase)).query q).on b = (.ok other, b) ∧
          ((kernel (.whole FactBase)).query q).on b' = (.ok other, b') := by
  obtain ⟨b, hb, hr⟩ := recalls_changes recalls_empty h
  refine ⟨b, hb, hr.keyed, fun p => ?_⟩
  refine ⟨b.factsOf p, b.drop p, rfl, hr.firsts p, rfl, fun q hq => ?_⟩
  refine ⟨b.factsOf q, rfl, ?_⟩
  rw [← factsOf_drop_of_ne hq]
  rfl

/-- That a place was seen. -/
def seen (place : String) : Rule.Fact := ⟨"seen", [.atom place]⟩

/-- Places are seen, forgotten, and seen again in another order. -/
def revisedChanges : List Change :=
  [.tell (seen "/a"), .tellAll [seen "/b", ⟨"gone", [.int 3]⟩], .retract "seen", .load (seen "/b").source,
    .tellAll [seen "/a", seen "/b"]]

theorem query_after_revisedChanges :
    (∀ c ∈ revisedChanges, c.IsPlain) ∧
      ∃ b answer b', (revisedChanges.forM Change.act).on {} = (.ok (), b) ∧
        ((kernel (.whole FactBase)).query "seen").on b = (.ok answer, b) ∧
        IsFirsts [seen "/b", seen "/a", seen "/b"] answer ∧
        ((kernel (.whole FactBase)).retract "seen").on b = (.ok answer.length, b') := by
  have ha : (seen "/a").isReadable := by decide +kernel
  have hb : (seen "/b").isReadable := by decide +kernel
  have hgone : Rule.Fact.isReadable ⟨"gone", [.int 3]⟩ := by decide +kernel
  have hread (f : Rule.Fact) (h : f.isReadable) : f.IsPlain := Rule.parseFact_source h
  have hload : (Change.load (seen "/b").source).IsPlain :=
    ⟨[(seen "/b").clause], Rule.parseProgram_source hb,
      List.forall_mem_singleton.mpr ⟨_, Rule.fact?_clause _, hread _ hb⟩⟩
  have hplain : ∀ c ∈ revisedChanges, c.IsPlain := by
    rintro c (_ | ⟨_, _ | ⟨_, _ | ⟨_, _ | ⟨_, _ | ⟨_, ⟨⟩⟩⟩⟩⟩⟩)
    · exact hread _ ha
    · exact List.forall_mem_cons.mpr ⟨hread _ hb, List.forall_mem_singleton.mpr (hread _ hgone)⟩
    · trivial
    · exact hload
    · exact List.forall_mem_cons.mpr ⟨hread _ ha, List.forall_mem_singleton.mpr (hread _ hb)⟩
  obtain ⟨b, hrun, -, hp⟩ := query_after revisedChanges hplain
  obtain ⟨answer, b', hq, hf, hr, -⟩ := hp "seen"
  exact ⟨hplain, b, answer, b', hrun, hq, hf, hr⟩

end FactBase

/-! Programs of facts. -/

namespace Rule

theorem lexFrom_source {f : Fact} (h : f.isReadable) {rest : List Char} {line : Nat} {ts : List Lexeme}
    (hr : lexFrom line 0 rest = .ok ts) :
    lexFrom line 0 (f.source.toList ++ rest) = .ok (onLine line f.clause.tokens ++ ts) := by
  have hperiod : lexFrom line 0 (['.'] ++ rest) = .ok (⟨.period, line⟩ :: ts) :=
    lexFrom_line ⟨'.', [], rfl, rfl⟩ (by decide) hr
  have hs : f.source.toList ++ rest = f.clause.head.write.toList ++ (['.'] ++ rest) := by
    simp [Fact.source, write_clause_head]
  rw [hs, lexFrom_literal (isReadable_clause_head h) hperiod]
  simp [Clause.tokens, Fact.clause, onLine]

theorem exists_lexFrom_lines {facts : List Fact} (h : facts.all Fact.isReadable) (line : Nat) :
    ∃ ts, lexFrom line 0 (facts.flatMap fun f => f.source.toList ++ ['\n']) = .ok ts ∧
      ts.map Lexeme.token = facts.flatMap fun f => f.clause.tokens := by
  induction facts generalizing line with
  | nil => exact ⟨[], rfl, rfl⟩
  | cons f facts ih =>
    obtain ⟨hf, hrest⟩ := Bool.and_eq_true_iff.mp h
    obtain ⟨ts, hts, ht⟩ := ih hrest (line + ['\n'].count '\n')
    have hfeed : lexFrom line 0 ('\n' :: facts.flatMap fun f => f.source.toList ++ ['\n']) = .ok ts := by
      rw [lexFrom_blank (by decide), hts]
    refine ⟨onLine line f.clause.tokens ++ ts, ?_, ?_⟩
    · rw [List.flatMap_cons, List.append_assoc, List.singleton_append]
      exact lexFrom_source hf hfeed
    · rw [List.map_append, ht, List.flatMap_cons, onLine, List.map_map]
      exact congrArg (· ++ _) (List.map_id _)

/-- The tokens of facts are put together to these facts again. -/
theorem parseFrom_facts (facts : List Fact) (last : Nat) :
    parseFrom .clause last (onLine 1 (facts.flatMap fun f => f.clause.tokens)) =
      .ok (facts.map Fact.clause) := by
  induction facts generalizing last with
  | nil => rfl
  | cons f facts ih =>
    have hs : (f :: facts).flatMap (fun f => f.clause.tokens) = .ident f.predicate ::
        (argTokens f.clause.head.args ++ .period :: facts.flatMap fun f => f.clause.tokens) := by
      simp [Clause.tokens, Fact.clause]
    have hargs := parseFrom_argTokens .head f.predicate f.clause.head.args 1 1
      (.period :: facts.flatMap fun f => f.clause.tokens)
    rw [hs]
    refine Eq.trans hargs ?_
    show (parseFrom .clause 1 (onLine 1 _)).map (f.clause :: ·) = _
    rw [ih]
    rfl

theorem toList_lines (facts : List Fact) :
    (String.join (facts.map fun f => f.source ++ "\n")).toList =
      facts.flatMap fun f => f.source.toList ++ ['\n'] := by
  simp [String.toList_join, List.flatMap_map]

theorem parseProgram_lines {facts : List Fact} (h : facts.all Fact.isReadable) :
    parseProgram (String.join (facts.map fun f => f.source ++ "\n")) =
      .ok (facts.map Fact.clause) := by
  obtain ⟨ts, hl, ht⟩ := exists_lexFrom_lines h 1
  rw [← toList_lines] at hl
  refine parseProgram_of_parse hl (parseFrom_congr ?_ (parseFrom_facts facts 1))
  rw [ht, onLine, List.map_map]
  exact (List.map_id _).symm

end Rule

namespace FactBase

/-- A base takes every program of facts. -/
theorem exists_on_load_lines {facts : List Rule.Fact} (h : facts.all Rule.Fact.isReadable)
    (b : FactBase) :
    ∃ n, (load (String.join (facts.map fun f => f.source ++ "\n"))).on b =
      (.ok n, facts.foldl insert b) := by
  have hfacts : ∀ c ∈ facts.map Rule.Fact.clause, c.fact?.isSome := by
    simp [Rule.fact?_clause]
  have hback : (facts.map Rule.Fact.clause).filterMap Rule.Clause.fact? = facts := by
    rw [List.filterMap_map]
    exact (congrArg (List.filterMap · facts) (funext Rule.fact?_clause)).trans List.filterMap_some
  obtain ⟨counts, hm⟩ := on_mapM_enter_facts hfacts b
  rw [hback] at hm
  exact ⟨_, on_load (Rule.parseProgram_lines h) hm⟩

end FactBase

/-! The bundled verbs. -/

namespace Bundled

theorem all_isReadable_entry {e : Entry} (hv : Rule.isAtomName e.verb)
    (hp : (Rule.Term.int e.priority).isReadable) : e.facts.all Rule.Fact.isReadable := by
  have hnamed {name : String} (h : Rule.isAtomName name) : (Rule.Term.named name).isReadable := by
    rw [named_of_isAtomName h]
    exact h
  have hcategory := hnamed (isAtomName_category e.category)
  have htext (s : String) : (Rule.Term.str s).isReadable := rfl
  have hdef : Rule.isIdent "verb_def" := by decide
  have hsynonym : Rule.isIdent "verb_synonym" := by decide
  have hpattern : Rule.isIdent "verb_pattern" := by decide
  have hphrase : Rule.isIdent "intent_definition" := by decide
  simp [Entry.facts, Rule.Fact.isReadable, hnamed hv, hcategory, hp, htext, hdef, hsynonym, hpattern, hphrase]

theorem all_isReadable_facts : facts.all Rule.Fact.isReadable := by
  have hentries : ∀ e ∈ entries, Rule.isAtomName e.verb ∧ (Rule.Term.int e.priority).isReadable := by
    decide +kernel
  rw [facts, List.all_flatMap, List.all_eq_true]
  intro e he
  exact all_isReadable_entry (hentries e he).1 (hentries e he).2

theorem exists_on_load (b : FactBase) :
    ∃ n, (FactBase.load program).on b = (.ok n, facts.foldl FactBase.insert b) :=
  FactBase.exists_on_load_lines all_isReadable_facts b

end Bundled

end Utterance
