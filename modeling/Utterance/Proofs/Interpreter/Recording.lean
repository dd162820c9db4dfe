import Utterance.Interpreter.Interpret
import Utterance.Proofs.Kernel.Loading
import Utterance.Proofs.Semantic.Facts

/-! What a base holds after turns: the intent of the last turn and what its message is similar to, and apart
from these what it held before. -/

namespace Utterance

namespace FactBase

/-- A base that was filled from programs, taken as a whole or up to a clause that was refused. -/
inductive Loaded : FactBase → Prop
  | empty : Loaded {}
  | load {b : FactBase} (source : String) (h : Loaded b) : Loaded ((load source).on b).2

theorem tidy_enter {c : Rule.Clause} (hc : Rule.isIdent c.head.predicate) :
    Act.Moves id (Act.Kept Tidy) (enter c) := by
  intro b hb
  cases hf : c.fact? with
  | some f =>
    have hp : f.predicate = c.head.predicate := by
      unfold Rule.Clause.fact? at hf
      split at hf
      · obtain ⟨args, -, rfl⟩ := Option.map_eq_some_iff.mp hf
        rfl
      · cases hf
    rw [on_enter_fact hf]
    exact Tidy.insert hb (hp ▸ hc)
  | none =>
    unfold enter
    rw [Act.on_bind_ok (Act.on_get b), hf]
    dsimp only
    rw [Act.on_bind]
    cases Rule.validateRule (c.write ++ ".") with
    | error e => exact hb
    | ok => exact ⟨hb.keyed, hb.named⟩

theorem Loaded.tidy {b : FactBase} (h : Loaded b) : b.Tidy := by
  induction h with
  | empty => exact Tidy.empty
  | @load b source h ih =>
    unfold FactBase.load
    cases hp : Rule.parseProgram source with
    | error e => exact ih
    | ok cs =>
      have hm : Act.Moves id (Act.Kept Tidy) (cs.mapM enter >>= fun ns => pure (ns.foldl (· + ·) 0)) :=
        (Act.moves_mapM fun c hc => tidy_enter (Rule.isIdent_of_parseProgram hp hc)).bind
          fun _ => Act.moves_pure _
      exact hm b ih

end FactBase

namespace Interpreter

variable {W : Type}

/-- An interpreter whose kernel is a base that none of its other collaborators touches. -/
structure Uses (t : Interpreter W) (base : Part W FactBase) : Prop where
  kernel : t.kernel = some (FactBase.kernel base)
  complete : ∀ watch a, Act.Moves base.read Eq (t.completer.complete watch a)
  structured : ∀ structured, t.completer.structured? = some structured →
    ∀ watch a, Act.Moves base.read Eq (structured watch a)
  stream : ∀ stream, t.completer.stream? = some stream →
    ∀ watch a, Act.Moves base.read Eq (stream watch a)
  embed : ∀ c, t.classifier = some c →
    ∀ watch task text, Act.Moves base.read Eq (c.embedder.embed watch task text)
  display : ∀ display, t.display = some display →
    ∀ pieces w, base.read (display.write pieces w) = base.read w

namespace Uses

variable {t : Interpreter W} {base : Part W FactBase} {watch : Watch W} {m : Matter}

/-! Asking a model leaves the base as it is. -/

theorem moves_present (h : t.Uses base) (pieces : List String) :
    Act.Moves base.read Eq (t.present pieces) := by
  unfold present
  cases hd : t.display with
  | none => exact Act.moves_pure ()
  | some display => exact fun w => (h.display display hd _ w).symm

theorem moves_askStream (h : t.Uses base) (a : Ask) :
    Act.Moves base.read Eq (t.askStream watch a) := by
  unfold askStream
  cases hs : t.completer.stream? with
  | none => exact Act.moves_pure none
  | some stream =>
    refine (((h.stream stream hs watch a).map some).recover fun _ => Act.moves_pure none).bind
      fun s => ?_
    cases s with
    | none => exact Act.moves_pure none
    | some s =>
      exact (h.moves_present s.surface).bind fun _ => (Act.moves_ofOutcome s.outcome).bind
        fun g => Act.moves_pure (some g.content)

theorem moves_askWhole (h : t.Uses base) (a : Ask) :
    Act.Moves base.read Eq (t.askWhole watch a) := by
  unfold askWhole
  cases hs : t.completer.structured? with
  | none => exact h.complete watch _
  | some structured =>
    refine (h.structured structured hs watch a).attempt.bind fun o => ?_
    cases o with
    | ok reply => exact Act.moves_pure reply
    | error e =>
      cases e with
      | unsupported => exact h.complete watch _
      | _ => exact Act.moves_throw _

theorem moves_ask (h : t.Uses base) (a : Ask) (isFirst : Bool) :
    Act.Moves base.read Eq (t.ask watch a isFirst) := by
  unfold ask
  split
  · refine (h.moves_askStream a).bind fun streamed => ?_
    cases streamed with
    | some reply => exact Act.moves_pure reply
    | none => exact h.moves_askWhole a
  · refine (Act.moves_pure none).bind fun streamed => ?_
    cases streamed with
    | some reply => exact Act.moves_pure reply
    | none => exact h.moves_askWhole a

theorem moves_refusal? (h : t.Uses base) (rule : String) :
    Act.Moves base.read Eq (t.refusal? watch rule) := by
  have hv : Act.Moves base.read Eq ((FactBase.kernel base).validate rule) := by
    rw [FactBase.validate_base]
    exact Act.moves_ofOutcome _
  unfold refusal?
  rw [h.kernel]
  exact ((hv.run watch).bind fun _ => Act.moves_pure none).recover fun e => Act.moves_pure _

theorem moves_validate (h : t.Uses base) (rules : List String) :
    Act.Moves base.read Eq (t.validate watch rules) :=
  (Act.moves_mapM fun rule _ => h.moves_refusal? rule).bind fun _ => Act.moves_pure _

theorem moves_simplified (h : t.Uses base) : Act.Moves base.read Eq (t.simplified watch m) := by
  refine (((h.complete watch _).map some).recover fun _ => Act.moves_pure none).bind fun reply => ?_
  cases reply.bind (Reply.ofLine? m.corpus m.decision) <;> exact Act.moves_pure _

theorem moves_judge (h : t.Uses base) (reply : String) :
    Act.Moves base.read Eq (t.judge watch m reply) := by
  unfold judge
  split
  · exact Act.moves_pure _
  · exact (h.moves_validate _).bind fun _ => Act.moves_pure _

theorem moves_tryOnce (h : t.Uses base) (attempt : Nat) (faults : List String) :
    Act.Moves base.read Eq (t.tryOnce watch m attempt faults) := by
  refine (h.moves_ask _ _).attempt.bind fun o => ?_
  cases o with
  | ok reply => exact h.moves_judge reply
  | error e =>
    dsimp only
    split
    · exact Act.moves_throw e
    · exact h.moves_simplified.bind fun _ => Act.moves_pure _

theorem moves_tryAll (h : t.Uses base) (attempt : Nat) (faults : List String) (left : Nat) :
    Act.Moves base.read Eq (t.tryAll watch m attempt faults left) := by
  induction left generalizing attempt faults with
  | zero =>
    refine (h.moves_tryOnce attempt faults).bind fun r => ?_
    cases r <;> exact Act.moves_pure _
  | succ left ih =>
    refine (h.moves_tryOnce attempt faults).bind fun r => ?_
    cases r with
    | settled r => exact Act.moves_pure r
    | refused r faults => exact ih (attempt + 1) faults

/-! A turn changes two predicates at most, however it ends. -/

/-- The predicates whose facts a turn replaces. -/
def told : List String := [Semantic.Match.predicate, Intent.predicate]

theorem isIdent_intent : Rule.isIdent Intent.predicate := by decide

theorem moves_make (hb : base.Retains) (h : t.Uses base) (corpus : Corpus) (message : String) :
    Act.Moves base.read (FactBase.Amends [Semantic.Match.predicate])
      (Decision.make watch corpus t.classifier t.kernel message) := by
  rw [h.kernel]
  refine (Act.moves_check watch).bind fun _ => ?_
  refine (Decision.moves_prepare hb h.embed message _).bind fun similar => ?_
  refine Act.Moves.bind ?_ fun verdict => Act.moves_pure _
  exact (Decision.moves_ask message _).mono fun b _ he => he ▸ Std.Refl.refl b

theorem moves_read (hb : base.Retains) (h : t.Uses base) (text : String) (history : List Turn)
    (attempts : Nat) :
    Act.Moves base.read (FactBase.Amends [Semantic.Match.predicate])
      (t.read watch text history attempts) :=
  (Act.moves_value t.verbs).bind fun corpus => (h.moves_make hb corpus text).bind fun _ =>
    (h.moves_tryAll 0 [] (attempts - 1)).mono fun b _ he => he ▸ Std.Refl.refl b

theorem record_base (h : t.Uses base) (i : Intent) :
    t.record watch i =
      if t.options.recordsIntent then
        (watch.run ((FactBase.kernel base).retract Intent.predicate) >>= fun _ => pure ()) >>= fun _ =>
          watch.run ((FactBase.kernel base).tell i.fact)
      else pure () := by
  have hr : Act.OnlyLost (watch.run ((FactBase.kernel base).retract Intent.predicate)) :=
    (FactBase.onlyLost_retract _).run watch
  have ht : Act.OnlyLost (watch.run ((FactBase.kernel base).tell i.fact)) :=
    (FactBase.onlyLost_tell _).run watch
  unfold record
  rw [h.kernel]
  dsimp only
  rw [(hr.bind fun _ => Act.onlyLost_pure _).recover_eq, ht.recover_eq]

theorem moves_record (hb : base.Retains) (h : t.Uses base) (i : Intent) :
    Act.Moves base.read (FactBase.Amends [Intent.predicate]) (t.record watch i) := by
  rw [h.record_base]
  split
  · refine (((FactBase.moves_retract hb _).run watch).bind fun _ => Act.moves_pure ()).bind fun _ => ?_
    exact (FactBase.moves_tell (f := i.fact) hb isIdent_intent).run watch
  · exact Act.moves_pure ()

theorem moves_interpret (hb : base.Retains) (h : t.Uses base) (text : String) (history : List Turn)
    (attempts : Nat) :
    Act.Moves base.read (FactBase.Amends told) (t.interpret watch text history attempts) := by
  refine ((h.moves_read hb text history attempts).mono fun _ _ ha => ha.mono ?_).bind fun r =>
    ((h.moves_record hb r.intent).mono fun _ _ ha => ha.mono ?_).bind fun _ => Act.moves_pure r
  · simp [told]
  · simp [told]

/-! A turn with a result. -/

theorem speaks_of_read (hb : base.Retains) (h : t.Uses base) {text : String} {history : List Turn}
    {attempts : Nat} {r : Reading} {w v : W}
    (hr : (t.read watch text history attempts).on w = (.ok r, v)) :
    Semantic.Speaks text (Decision.most t.classifier) (base.read v) := by
  obtain ⟨corpus, w₁, hv, hr⟩ := Act.exists_of_bind hr
  obtain ⟨d, w₂, hmake, htry⟩ := Act.exists_of_bind hr
  have htried : Act.Moves base.read Eq
      (t.tryAll watch ⟨text, history, corpus, d⟩ 0 [] (attempts - 1)) :=
    h.moves_tryAll 0 [] (attempts - 1)
  have hkept := htried w₂
  rw [htry] at hkept
  rw [← hkept]
  rw [h.kernel] at hmake
  obtain ⟨_, w₃, -, hmake⟩ := Act.exists_of_bind hmake
  obtain ⟨similar, w₄, hprepare, hmake⟩ := Act.exists_of_bind hmake
  obtain ⟨verdict, w₅, hask, hp⟩ := Act.exists_of_bind hmake
  cases hp
  have hverdict : Act.Moves base.read Eq
      (Decision.ask watch (FactBase.kernel base) text (corpus.candidates text)) :=
    Decision.moves_ask text _
  have hasked := hverdict w₄
  rw [hask] at hasked
  rw [← hasked]
  exact Decision.speaks_of_prepare hb hprepare

theorem factsOf_intent_of_record (hb : base.Retains) (h : t.Uses base)
    (hi : t.options.recordsIntent) {i : Intent} {w v : W} (ht : (base.read w).Tidy)
    (hr : (t.record watch i).on w = (.ok (), v)) :
    (base.read v).factsOf Intent.predicate = [i.fact] := by
  rw [h.record_base, if_pos hi] at hr
  obtain ⟨_, u, hretract, htell⟩ := Act.exists_of_bind hr
  obtain ⟨n, u', hretract, hp⟩ := Act.exists_of_bind hretract
  cases hp
  have hu : base.read u = (base.read w).drop Intent.predicate := by
    cases Act.on_of_run hretract
    exact hb _ w
  have hv : base.read v = (base.read u).insert i.fact := by
    cases Act.on_of_run htell
    exact hb _ u
  have hnone : (base.read u).factsOf Intent.predicate = [] := by
    rw [hu, FactBase.factsOf_drop_self]
  have htidy : (base.read u).Tidy := hu ▸ ht.drop _
  have hnew : ¬(base.read u).holds i.fact := htidy.not_holds isIdent_intent hnone
  rw [hv, FactBase.factsOf_insert hnew, hnone]
  rfl

end Uses

/-! Turns. -/

/-- The worlds to which turns lead from a world, of whatever interpreters that use a base and however
they end. Between them anything may happen that leaves the base alone. -/
inductive Turns (base : Part W FactBase) (w : W) : W → Prop
  | none : Turns base w w
  | turn {u : W} (h : Turns base w u) {t : Interpreter W} (ht : t.Uses base) (watch : Watch W)
      (text : String) (history : List Turn) (attempts : Nat) :
      Turns base w ((t.interpret watch text history attempts).on u).2
  | other {u v : W} (h : Turns base w u) (hv : base.read v = base.read u) : Turns base w v

theorem amends_of_turns {base : Part W FactBase} (hb : base.Retains) {w u : W} (h : Turns base w u) :
    FactBase.Amends Uses.told (base.read w) (base.read u) := by
  induction h with
  | none => exact Std.Refl.refl _
  | @turn u h t ht watch text history attempts ih =>
    exact Trans.trans ih (ht.moves_interpret hb text history attempts u)
  | other h hv ih => rwa [hv]

/-- After any turns on a base that was filled from programs, a turn with a result leaves it with the fact
about this result as the only one about an intent, with facts about matches of this message only, no more
than one message gives rise to, and with all else as it was before the first of the turns. -/
theorem base_of_turns {base : Part W FactBase} (hb : base.Retains) {w u : W}
    (hw : (base.read w).Loaded) (hu : Turns base w u) {t : Interpreter W} (ht : t.Uses base)
    (hi : t.options.recordsIntent) (watch : Watch W) (text : String) (history : List Turn)
    (attempts : Nat) {r : Reading} {v : W}
    (hr : (t.interpret watch text history attempts).on u = (.ok r, v)) :
    (base.read v).factsOf Intent.predicate = [r.intent.fact] ∧
      (∀ f ∈ (base.read v).factsOf Semantic.Match.predicate,
        f.args.head? = some (.str (sanitize text))) ∧
      ((base.read v).factsOf Semantic.Match.predicate).length ≤ Decision.most t.classifier ∧
      (∀ p, p ≠ Intent.predicate → p ≠ Semantic.Match.predicate →
        (base.read v).factsOf p = (base.read w).factsOf p) ∧
      (base.read v).rules = (base.read w).rules := by
  have hbefore := amends_of_turns hb hu
  have hinterpret : Act.Moves base.read (FactBase.Amends Uses.told)
      (t.interpret watch text history attempts) := ht.moves_interpret hb text history attempts
  have hturn := hinterpret u
  rw [hr] at hturn
  obtain ⟨r', u₁, hread, hr⟩ := Act.exists_of_bind hr
  obtain ⟨_, u₂, hrecord, hp⟩ := Act.exists_of_bind hr
  cases hp
  have hmoves : Act.Moves base.read (FactBase.Amends [Semantic.Match.predicate])
      (t.read watch text history attempts) := ht.moves_read hb text history attempts
  have hfirst := hmoves u
  rw [hread] at hfirst
  have hrecords : Act.Moves base.read (FactBase.Amends [Intent.predicate])
      (t.record watch r.intent) := ht.moves_record hb r.intent
  have hlast := hrecords u₁
  rw [hrecord] at hlast
  have hmatches : (base.read v).factsOf Semantic.Match.predicate =
      (base.read u₁).factsOf Semantic.Match.predicate := hlast.facts _ (by decide)
  have hspeaks := ht.speaks_of_read hb hread
  have htidy : (base.read u₁).Tidy := hfirst.tidy (hbefore.tidy hw.tidy)
  refine ⟨ht.factsOf_intent_of_record hb hi htidy hrecord, ?_, ?_, fun p hpi hpm => ?_, ?_⟩
  · rw [hmatches]
    exact hspeaks.subject
  · rw [hmatches]
    exact hspeaks.length_le
  · have hp : p ∉ Uses.told := by simp [Uses.told, hpi, hpm]
    rw [hturn.facts p hp, hbefore.facts p hp]
  · rw [hturn.rules, hbefore.rules]

/-- A watch over a base that never loses patience. -/
def restful : Watch FactBase := ⟨⟨fun _ => 0, fun _ w => w⟩, fun _ => false, none⟩

/-- A classifier that can embed nothing. -/
def blindClassifier : Classifier FactBase where
  embedder :=
    { dimensions := 1, takesTask := false, embed := fun _ _ _ => throw (.embedding "unreachable") }
  embedded := []
  learned := ⟨fun _ => [], fun _ w => w⟩
  store := Shelf.store ⟨fun _ => {}, fun _ w => w⟩
  tuning := {}

/-- An interpreter whose world is its base, and whose model always gives the same reply. -/
def remembering : Interpreter FactBase where
  completer :=
    { provider := "", model := ⟨fun _ => "", fun _ w => w⟩
      complete := fun _ _ => pure "/mutation | Fix | x | none" }
  verbs := ⟨fun _ => ⟨[(Verb.named "fix" .mutation 1 "").addSynonym "mend"]⟩, fun _ w => w⟩
  classifier := some blindClassifier
  kernel := some (FactBase.kernel (.whole FactBase))

theorem uses_remembering : remembering.Uses (.whole FactBase) where
  kernel := rfl
  complete _ _ := Act.moves_pure _
  structured _ h := by cases h
  stream _ h := by cases h
  embed _ h _ _ _ := by
    cases h
    exact Act.moves_throw _
  display _ h := by cases h

/-- A base with facts from turns that were long ago. -/
def staleBase : FactBase :=
  ((FactBase.load
    "user_intent(/old). semantic_match(\"old\", \"fix\", /fix, \"\", 1, 90). seen(/a).").on {}).2

theorem loaded_staleBase : staleBase.Loaded :=
  .load "user_intent(/old). semantic_match(\"old\", \"fix\", /fix, \"\", 1, 90). seen(/a)." .empty

theorem base_of_turns_remembering :
    ∃ w u r v, w = staleBase ∧ u = ((remembering.interpret restful "mend x" [] 1).on w).2 ∧
      (remembering.interpret restful "mend y" [] 1).on u = (.ok r, v) ∧
      v.factsOf Intent.predicate = [r.intent.fact] ∧
      (∀ f ∈ v.factsOf Semantic.Match.predicate, f.args.head? = some (.str (sanitize "mend y"))) ∧
      (v.factsOf Semantic.Match.predicate).length ≤ Decision.most remembering.classifier ∧
      v.factsOf "seen" = w.factsOf "seen" ∧ v.rules = w.rules := by
  -- The worlds get names, so that nothing below computes them again.
  obtain ⟨w, hw⟩ : ∃ w, w = staleBase := ⟨_, rfl⟩
  obtain ⟨u, hu⟩ : ∃ u, u = ((remembering.interpret restful "mend x" [] 1).on w).2 := ⟨_, rfl⟩
  have hok : ((remembering.interpret restful "mend y" [] 1).on u).1.toOption.isSome := by
    rw [hu, hw]
    decide +kernel
  obtain ⟨r, v, hr⟩ := Act.exists_on_ok hok
  have hloaded : w.Loaded := by
    rw [hw]
    exact loaded_staleBase
  have hturn : Turns (.whole FactBase) w u := by
    rw [hu]
    exact .turn .none uses_remembering restful "mend x" [] 1
  obtain ⟨hintent, hsubject, hlength, hothers, hrules⟩ :=
    base_of_turns (Part.retains_whole FactBase) hloaded hturn uses_remembering rfl restful "mend y" [] 1 hr
  exact ⟨w, u, r, v, hw, hu, hr, hintent, hsubject, hlength, hothers "seen" (by decide) (by decide),
    hrules⟩

end Interpreter

end Utterance
