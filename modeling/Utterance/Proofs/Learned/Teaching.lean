import Utterance.Learned.Critic
import Utterance.Proofs.Kernel.Loading
import Utterance.Proofs.Kernel.Base
import Utterance.Proofs.Learned.Stated
import Utterance.Proofs.Rule.Behind

/-! A base learns one exemplar at a time, whatever text states it, unless the verb holds a closing
parenthesis. -/

namespace Utterance

/-! The text of the fact about an exemplar. -/

namespace Exemplar

open Rule (Stands)

theorem exists_of_lexFrom_stands {t : Rule.Token} {cs rest : List Char} (hs : Stands t cs rest)
    {line : Nat} {ts : List Rule.Lexeme} (h : Rule.lexFrom line 0 (cs ++ rest) = .ok ts) :
    ∃ line' us, Rule.lexFrom line' 0 rest = .ok us ∧ ts = ⟨t, line⟩ :: us := by
  rw [Rule.lexFrom_stands hs] at h
  obtain ⟨us, hus, rfl⟩ := Rule.exists_of_map_ok h
  exact ⟨_, us, hus, rfl⟩

theorem parse_argument (name s : String) (l₁ l₂ l₃ l₄ : Nat) (ts : List Rule.Lexeme) :
    Rule.parse (⟨.ident name, l₁⟩ :: ⟨.openParen, l₂⟩ :: ⟨.str s, l₃⟩ :: ⟨.comma, l₄⟩ :: ts) =
      Rule.parseFrom (.argument .head name [.term (.str s)] false) l₄ ts := rfl

/-- A fact whose verb is no constant is not read at all, unless the verb ends the fact. -/
theorem parseProgram_source_ne {e : Exemplar} (h : e.IsStated) (hv : Rule.isAtomName e.verb = false)
    (hclose : ')' ∉ e.verb.toList) (cs : List Rule.Clause) :
    Rule.parseProgram e.fact.source ≠ .ok cs := by
  intro hp
  obtain ⟨ts, hl, hp⟩ := Rule.exists_of_parseProgram hp
  have hs : e.fact.source.toList = predicate.toList ++ (['('] ++
      ((Rule.quote (sanitize e.phrase)).toList ++ ([','] ++ ' ' ::
        (e.verb.toList ++ ',' :: (e.behindVerb ++ [')', '.']))))) := by
    rw [toList_source h, written]
    simp
  have hident (rest : List Char) : Stands (.ident predicate) predicate.toList (['('] ++ rest) :=
    Rule.stands_ident (by decide) (by rintro _ ⟨⟩; decide)
  rw [Rule.lex, hs] at hl
  obtain ⟨l₁, ts₁, hl₁, rfl⟩ := exists_of_lexFrom_stands (hident _) hl
  obtain ⟨l₂, ts₂, hl₂, rfl⟩ := exists_of_lexFrom_stands (Rule.stands_openParen _) hl₁
  obtain ⟨l₃, ts₃, hl₃, rfl⟩ := exists_of_lexFrom_stands (Rule.stands_str _ _) hl₂
  obtain ⟨l₄, ts₄, hl₄, rfl⟩ := exists_of_lexFrom_stands (Rule.stands_comma _) hl₃
  rw [Rule.lexFrom_blank (by decide)] at hl₄
  rw [parse_argument] at hp
  refine Rule.parseFrom_argument_ne h.slash h.bare (by rw [String.ofList_toList]; exact hv) h.comma
    hclose ?_ ?_ hl₄ _ _ _ _ cs hp
  · rintro _ ⟨⟩
    decide
  · simp [newline_not_mem_behindVerb]

end Exemplar

/-! What a base takes of it. -/

namespace FactBase

variable {W : Type} {base : Part W FactBase}

/-- One exemplar at most was learned, of those that may be, and nothing else has changed. -/
structure Learns (may : Exemplar → Prop) (b b' : FactBase) : Prop where
  facts : b'.facts = b.facts ∨ ∃ e, may e ∧ b'.facts = b.facts ++ [e.fact]
  others : ∀ p, p ≠ Exemplar.predicate → b'.factsOf p = b.factsOf p
  rules : b'.rules = b.rules

theorem learns_self (may : Exemplar → Prop) (b : FactBase) : Learns may b b :=
  ⟨.inl rfl, fun _ _ => rfl, rfl⟩

theorem learns_insert (may : Exemplar → Prop) {e : Exemplar} (h : may e) (b : FactBase) :
    Learns may b (b.insert e.fact) where
  facts := by
    by_cases hh : b.holds e.fact
    · exact .inl (by rw [insert_of_holds hh])
    · exact .inr ⟨e, h, by rw [insert, if_neg hh]⟩
  others p hp := factsOf_insert_of_ne (Ne.symm hp)
  rules := rules_insert

theorem Learns.mono {may may' : Exemplar → Prop} {b b' : FactBase} (h : Learns may b b')
    (hm : ∀ e, may e → may' e) : Learns may' b b' :=
  ⟨h.facts.imp_right fun ⟨e, he, hf⟩ => ⟨e, hm e he, hf⟩, h.others, h.rules⟩

theorem learns_load {e : Exemplar} (h : e.IsStated) (hclose : ')' ∉ e.verb.toList) (b : FactBase) :
    Learns (· = e) b ((load e.fact.source).on b).2 := by
  by_cases hv : Rule.isAtomName e.verb
  · have hp := Rule.parseProgram_source (Exemplar.isReadable_fact hv)
    rw [on_load_single hp (on_enter_fact (Rule.fact?_clause e.fact) b)]
    exact learns_insert (· = e) rfl b
  · rw [Bool.not_eq_true] at hv
    unfold load
    cases hp : Rule.parseProgram e.fact.source with
    | ok cs => exact absurd hp (Exemplar.parseProgram_source_ne h hv hclose cs)
    | error fault => exact learns_self _ b

theorem read_act {α : Type} (hb : base.Retains) (a : Act FactBase α) (w : W) :
    base.read ((base.act a).on w).2 = (a.on (base.read w)).2 :=
  hb _ w

theorem moves_load (hb : base.Retains) {e : Exemplar} (h : e.IsStated)
    (hclose : ')' ∉ e.verb.toList) :
    Act.Moves base.read (Learns (· = e)) ((kernel base).load e.fact.source) := by
  intro w
  show Learns _ _ (base.read ((base.act (load e.fact.source)).on w).2)
  rw [read_act hb]
  exact learns_load h hclose (base.read w)

end FactBase

/-! What becomes of a base while a critic learns. -/

instance (may : Exemplar → Prop) : Std.Refl (FactBase.Learns may) :=
  ⟨FactBase.learns_self may⟩

namespace Critic

variable {W : Type}

/-! The places where an exemplar is kept. -/

/-- Keeps the fact about an exemplar in the store. -/
def keepFact (c : Critic W) (watch : Watch W) (e : Exemplar) : Act W Unit :=
  c.store.elim (pure ()) fun store =>
    (watch.run (store.addFact e.fact.source)).recover fun _ => pure ()

/-- Lets the classifier learn the phrase of an exemplar. -/
def keepPhrase (c : Critic W) (watch : Watch W) (e : Exemplar) : Act W Unit :=
  c.classifier.elim (pure ()) fun classifier =>
    (classifier.learn watch e.toPhrase).recover fun _ => pure ()

/-- Adds an exemplar to the file. -/
def keepLine (c : Critic W) (watch : Watch W) (e : Exemplar) : Act W Unit :=
  c.file.elim (pure ()) fun file => (watch.run (appendTo file e.line)).recover fun _ => pure ()

theorem keep_eq (c : Critic W) (watch : Watch W) (e : Exemplar) :
    c.keep watch e = (do
      c.keepFact watch e
      c.keepPhrase watch e
      c.keepLine watch e
      c.learnSynonym e) := by
  unfold keep keepFact keepPhrase keepLine
  cases c.store <;> cases c.classifier <;> cases c.file <;> rfl

/-- The collaborators with which a critic keeps an exemplar leave alone what `f` reads of the world, but for
the file. -/
structure Spares {V : Type} (c : Critic W) (f : W → V) : Prop where
  store : ∀ store, c.store = some store → ∀ fact, Act.Moves f Eq (store.addFact fact)
  classifier : ∀ classifier, c.classifier = some classifier →
    ∀ watch p, Act.Moves f Eq (classifier.learn watch p)
  verbs : ∀ verbs, c.verbs = some verbs → ∀ v w, f (verbs.write v w) = f w

namespace Spares

variable {V : Type} {c : Critic W} {f : W → V} {watch : Watch W}

theorem moves_keepFact (h : c.Spares f) (e : Exemplar) : Act.Moves f Eq (c.keepFact watch e) := by
  unfold keepFact
  cases hs : c.store with
  | none => exact Act.moves_pure ()
  | some store => exact ((h.store store hs _).run watch).recover fun _ => Act.moves_pure ()

theorem moves_keepPhrase (h : c.Spares f) (e : Exemplar) : Act.Moves f Eq (c.keepPhrase watch e) := by
  unfold keepPhrase
  cases hc : c.classifier with
  | none => exact Act.moves_pure ()
  | some classifier => exact (h.classifier classifier hc watch _).recover fun _ => Act.moves_pure ()

theorem moves_learnSynonym (h : c.Spares f) (e : Exemplar) : Act.Moves f Eq (c.learnSynonym e) := by
  unfold learnSynonym
  cases hv : c.verbs with
  | none => exact Act.moves_pure ()
  | some verbs => exact fun w => (h.verbs verbs hv _ w).symm

end Spares

/-- A critic whose kernel is a base that none of its other collaborators touches. -/
structure Uses (c : Critic W) (base : Part W FactBase) : Prop where
  kernel : c.kernel = FactBase.kernel base
  complete : ∀ watch a, Act.Moves base.read Eq (c.completer.complete watch a)
  store : ∀ store, c.store = some store → ∀ fact, Act.Moves base.read Eq (store.addFact fact)
  classifier : ∀ classifier, c.classifier = some classifier →
    ∀ watch p, Act.Moves base.read Eq (classifier.learn watch p)
  file : ∀ file, c.file = some file → ∀ f w, base.read (file.write f w) = base.read w
  verbs : ∀ verbs, c.verbs = some verbs → ∀ v w, base.read (verbs.write v w) = base.read w

namespace Uses

variable {c : Critic W} {base : Part W FactBase} {watch : Watch W}

theorem spares (h : c.Uses base) : c.Spares base.read :=
  ⟨h.store, h.classifier, h.verbs⟩

theorem moves_propose (h : c.Uses base) (history : List Turn) :
    Act.Moves base.read Eq (c.propose watch history) := by
  refine (Act.moves_check watch).bind fun _ => ?_
  split
  · exact Act.moves_pure ""
  · exact (h.complete watch _).bind fun _ => Act.moves_pure _

theorem moves_appendTo {file : Part W File} (h : c.Uses base) (hf : c.file = some file)
    (more : String) : Act.Moves base.read Eq (appendTo file more) :=
  (Act.moves_value file).bind fun _ => (Act.moves_ofOutcome _).bind
    fun _ w => (h.file file hf _ w).symm

theorem moves_keepLine (h : c.Uses base) (e : Exemplar) :
    Act.Moves base.read Eq (c.keepLine watch e) := by
  unfold keepLine
  cases hf : c.file with
  | none => exact Act.moves_pure ()
  | some file => exact ((h.moves_appendTo hf _).run watch).recover fun _ => Act.moves_pure ()

theorem moves_keep (h : c.Uses base) (e : Exemplar) : Act.Moves base.read Eq (c.keep watch e) := by
  rw [keep_eq]
  exact (h.spares.moves_keepFact e).bind fun _ => (h.spares.moves_keepPhrase e).bind fun _ =>
    (h.moves_keepLine e).bind fun _ => h.spares.moves_learnSynonym e

theorem moves_persist (hb : base.Retains) (h : c.Uses base) {text : String}
    (hclose : ∀ e, Exemplar.parse text = .ok e → ')' ∉ e.verb.toList) :
    Act.Moves base.read (FactBase.Learns fun e => Exemplar.parse text = .ok e)
      (c.persist watch text) := by
  refine (Act.moves_check watch).behind fun _ => Act.moves_bind_ofOutcome fun e hp => ?_
  have hload : Act.Moves base.read (FactBase.Learns fun e => Exemplar.parse text = .ok e)
      (watch.run (c.kernel.load e.fact.source)) := by
    rw [h.kernel]
    have hl := FactBase.moves_load hb (Exemplar.isStated_of_parse hp) (hclose e hp)
    exact (Act.moves_check watch).behind fun _ => hl.mono fun b b' hb => hb.mono fun e' he => he ▸ hp
  exact hload.before fun _ => (h.moves_keep e).bind fun _ => Act.moves_pure _

/-- With whatever a model replies it is the same as with the text that is taken from the reply. -/
theorem learns_of_learn (hb : base.Retains) (h : c.Uses base) {history : List Turn} {w : W}
    (hclose : ∀ text v e, (c.propose watch history).on w = (.ok text, v) →
      Exemplar.parse text = .ok e → ')' ∉ e.verb.toList) :
    FactBase.Learns
      (fun e => ∃ text v, (c.propose watch history).on w = (.ok text, v) ∧ Exemplar.parse text = .ok e)
      (base.read w) (base.read ((c.learn watch history).on w).2) := by
  have hproposed : base.read w = base.read ((c.propose watch history).on w).2 :=
    h.moves_propose history w
  unfold learn
  rw [Act.on_bind]
  cases hw : (c.propose watch history).on w with
  | mk o v =>
    rw [hw] at hproposed
    rw [hproposed]
    cases o with
    | error fault => exact FactBase.learns_self _ _
    | ok text =>
      dsimp only
      split
      · exact FactBase.learns_self _ _
      · have hpersist : Act.Moves base.read (FactBase.Learns fun e => Exemplar.parse text = .ok e)
            (c.persist watch text) := h.moves_persist hb fun e he => hclose text v e hw he
        exact (hpersist.map some v).mono fun e he => ⟨text, v, rfl, he⟩

end Uses

/-- However learning ends, from a text or from what a model replies, a base learns at most the exemplar that
the text states, if the verb holds no closing parenthesis. -/
theorem learns_at_most_one {c : Critic W} {base : Part W FactBase} (hb : base.Retains) (h : c.Uses base)
    (watch : Watch W) :
    (∀ text, (∀ e, Exemplar.parse text = .ok e → ')' ∉ e.verb.toList) → ∀ w,
      FactBase.Learns (fun e => Exemplar.parse text = .ok e)
        (base.read w) (base.read ((c.persist watch text).on w).2)) ∧
    ∀ history w, (∀ text v e, (c.propose watch history).on w = (.ok text, v) →
        Exemplar.parse text = .ok e → ')' ∉ e.verb.toList) →
      FactBase.Learns
        (fun e => ∃ text v, (c.propose watch history).on w = (.ok text, v) ∧
          Exemplar.parse text = .ok e)
        (base.read w) (base.read ((c.learn watch history).on w).2) :=
  ⟨fun _ hclose => h.moves_persist hb hclose, fun _ _ hclose => h.learns_of_learn hb hclose⟩

/-- A watch of a world in which no time goes by and nobody loses patience. -/
def idle {W : Type} : Watch W := ⟨⟨fun _ => 0, fun _ w => w⟩, fun _ => false, none⟩

/-- A fact as a model may state it. -/
def mendingFact : String := "learned_exemplar(\"mend it\", /fix, \"a\", \"\", 90)."

/-- A critic without collaborators but a base and a model, which always gives the same reply. -/
def mending : Critic FactBase where
  completer :=
    { provider := "", model := ⟨fun _ => "", fun _ w => w⟩
      complete := fun _ _ => pure ("Misread: " ++ mendingFact ++ " Sorry.") }
  kernel := FactBase.kernel (.whole FactBase)

theorem uses_mending : mending.Uses (.whole FactBase) where
  kernel := rfl
  complete _ _ := Act.moves_pure _
  store _ h := by cases h
  classifier _ h := by cases h
  file _ h := by cases h
  verbs _ h := by cases h

theorem learns_at_most_one_mending :
    FactBase.Learns (fun e => Exemplar.parse mendingFact = .ok e) {}
        ((mending.persist idle mendingFact).on {}).2 ∧
      FactBase.Learns
        (fun e => ∃ text v, (mending.propose idle [⟨.user, "mend it"⟩]).on {} = (.ok text, v) ∧
          Exemplar.parse text = .ok e) {} ((mending.learn idle [⟨.user, "mend it"⟩]).on {}).2 ∧
      ((mending.persist idle mendingFact).on {}).2.facts.map Rule.Fact.source = [mendingFact] ∧
      ((mending.learn idle [⟨.user, "mend it"⟩]).on {}).2.facts.map Rule.Fact.source =
        [mendingFact] := by
  have hverb : (Exemplar.parse mendingFact).toOption.all fun e => !e.verb.toList.contains ')' := by
    decide +kernel
  have hclose (e : Exemplar) (h : Exemplar.parse mendingFact = .ok e) : ')' ∉ e.verb.toList := by
    rw [h] at hverb
    simpa [Except.toOption] using hverb
  have hproposed : ((mending.propose idle [⟨.user, "mend it"⟩]).on {}).1 = .ok mendingFact := by
    decide +kernel
  have h := learns_at_most_one (Part.retains_whole FactBase) uses_mending idle
  simp only [Part.read_whole] at h
  refine ⟨h.1 mendingFact hclose {}, h.2 _ {} fun text v e hp he => ?_, ?_, ?_⟩
  · rw [hp] at hproposed
    cases hproposed
    exact hclose e he
  · decide +kernel
  · decide +kernel

/-- A fact with another one in its verb. -/
def smugglingFact : String :=
  "learned_exemplar(\"p\", /a). user_intent(/b). learned_exemplar(/c, \"t\", \"u\", 80)."

/-- A verb with a closing parenthesis ends the fact, and brings in whatever stands behind it. -/
theorem not_learns_smugglingFact :
    ¬FactBase.Learns (fun e => Exemplar.parse smugglingFact = .ok e) {}
      ((mending.persist idle smugglingFact).on {}).2 := by
  intro h
  have hothers := congrArg List.length (h.others "user_intent" (by decide))
  revert hothers
  decide +kernel

end Critic

end Utterance
