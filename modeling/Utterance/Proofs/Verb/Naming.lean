import Utterance.Proofs.Kernel.History
import Utterance.Proofs.Verb.Corpus

/-! The name under which a kernel is told a verb of a program: a verb that is written as a constant keeps its
letters, digits and low lines, and loses what else may stand in a constant. -/

namespace Utterance

open Rule (isNameChar isAtomChar isAtomName)

/-! Constants of programs. -/

namespace Rule

theorem eq_map_of_groundArgs? {args : List Arg} {ts : List Term} (h : groundArgs? args = some ts) :
    args = ts.map .term := by
  induction args generalizing ts with
  | nil =>
    cases h
    rfl
  | cons a args ih =>
    cases a with
    | term t =>
      obtain ⟨us, hus, rfl⟩ := Option.map_eq_some_iff.mp h
      rw [ih hus, List.map_cons]
    | var name => cases h

theorem head_args_of_fact? {c : Clause} {f : Fact} (h : c.fact? = some f) :
    c.head.args = f.args.map .term := by
  unfold Clause.fact? at h
  split at h
  · obtain ⟨ts, hts, rfl⟩ := Option.map_eq_some_iff.mp h
    exact eq_map_of_groundArgs? hts
  · cases h

/-- A constant in a fact of a program is written as a constant may be. -/
theorem isAtomName_of_parseProgram {source : String} {cs : List Clause} (h : parseProgram source = .ok cs)
    {c : Clause} (hc : c ∈ cs) {f : Fact} (hf : c.fact? = some f) {name : String}
    (hn : .atom name ∈ f.args) : isAtomName name := by
  have hsound := words_parseProgram h fun _ hl => isSound_of_lexFrom hl
  have hword : Token.atom name ∈ c.words := by
    refine List.mem_append_left _ (List.mem_cons_of_mem _ ?_)
    rw [head_args_of_fact? hf, List.map_map]
    exact List.mem_map_of_mem hn
  exact hsound c hc _ hword rfl

theorem isAtomName_iff {s : String} : isAtomName s ↔
    ∃ c rest, s.toList = '/' :: c :: rest ∧ isNameChar c ∧ rest.all isAtomChar := by
  unfold isAtomName
  split
  case h_1 c rest hs =>
    rw [Bool.and_eq_true]
    constructor
    · exact fun h => ⟨c, rest, hs, h⟩
    · rintro ⟨c', rest', he, h⟩
      cases hs.symm.trans he
      exact h
  case h_2 hs =>
    refine iff_of_false Bool.false_ne_true ?_
    rintro ⟨c, rest, he, -⟩
    exact hs c rest he

theorem isNameChar_toLower {c : Char} (h : isNameChar c) : isNameChar c.toLower := by
  obtain hc | ⟨h1, h2, hc⟩ := Text.toLower_cases c
  · rwa [hc]
  · exact isNameChar_of_isLower (isLower_iff.mpr (by omega))

theorem isAtomChar_toLower {c : Char} (h : isAtomChar c) : isAtomChar c.toLower := by
  simp only [isAtomChar, Bool.or_eq_true, beq_iff_eq] at h
  obtain (h | rfl) | rfl := h
  · simp [isAtomChar, isNameChar_toLower h]
  · decide
  · decide

theorem isBlank_atomChar {c : Char} (h : isAtomChar c) : Text.isBlank c = false := by
  simp only [isAtomChar, Bool.or_eq_true, beq_iff_eq] at h
  obtain (h | rfl) | rfl := h
  · have hn := toNat_of_isNameChar h
    exact Text.isBlank_visible (by omega) (by omega)
  · decide
  · decide

theorem isNameChar_atomChar {c : Char} (h : isAtomChar c) : isNameChar c = (c != '/' && c != '-') := by
  simp only [isAtomChar, Bool.or_eq_true, beq_iff_eq] at h
  obtain (h | rfl) | rfl := h
  · have hslash : c ≠ '/' := by
      rintro rfl
      exact absurd h (by decide)
    have hdash : c ≠ '-' := by
      rintro rfl
      exact absurd h (by decide)
    simp [h, hslash, hdash]
  · decide
  · decide

theorem isAtomName_all {s : String} (h : isAtomName s) : s.toList.all isAtomChar := by
  obtain ⟨c, rest, hs, hc, hrest⟩ := isAtomName_iff.mp h
  have hslash : isAtomChar '/' := by decide
  have hfirst : isAtomChar c := by simp [isAtomChar, hc]
  simp only [hs, List.all_cons, hslash, hfirst, hrest, Bool.and_self]

end Rule

/-- A constant becomes a verb by its capitals alone. -/
theorem normalizeVerb_of_isAtomName {s : String} (h : isAtomName s) :
    normalizeVerb s = String.ofList (s.toList.map Char.toLower) := by
  have hall := List.all_eq_true.mp (Rule.isAtomName_all h)
  have hbare : Text.Bare s.toList :=
    ⟨fun c hc => Rule.isBlank_atomChar (hall c (List.mem_of_head? hc)),
      fun c hc => Rule.isBlank_atomChar (hall c (List.mem_of_getLast? hc))⟩
  obtain ⟨c, rest, hs, -, -⟩ := Rule.isAtomName_iff.mp h
  rw [normalizeVerb, Text.trim_eq_self hbare, hs]
  rfl

theorem isAtomName_normalizeVerb {s : String} (h : isAtomName s) : isAtomName (normalizeVerb s) := by
  obtain ⟨c, rest, hs, hc, hrest⟩ := Rule.isAtomName_iff.mp h
  rw [normalizeVerb_of_isAtomName h, Rule.isAtomName_iff, String.toList_ofList, hs]
  refine ⟨c.toLower, rest.map Char.toLower, rfl, Rule.isNameChar_toLower hc, ?_⟩
  rw [List.all_map, List.all_eq_true]
  exact fun d hd => Rule.isAtomChar_toLower (List.all_eq_true.mp hrest d hd)

/-- A constant without its slashes and dashes, but for the slash in front. -/
def withoutMarks (s : String) : String :=
  String.ofList ('/' :: s.toList.filter fun c => c != '/' && c != '-')

theorem verbName_of_isAtomName {s : String} (h : isAtomName s) (hn : normalizeVerb s = s) :
    verbName s = withoutMarks s := by
  obtain ⟨c, rest, hs, hc, hrest⟩ := Rule.isAtomName_iff.mp h
  have hfirst : (c == '/') = false := by
    rw [beq_eq_false_iff_ne]
    rintro rfl
    exact absurd hc (by decide)
  have htrim : Text.trimStart (· == '/') (normalizeVerb s).toList = c :: rest := by
    simp [hn, hs, Text.trimStart, hfirst]
  have hall : ∀ d ∈ s.toList, isNameChar d = (d != '/' && d != '-') := fun d hd =>
    Rule.isNameChar_atomChar (List.all_eq_true.mp (Rule.isAtomName_all h) d hd)
  have hkept : (c :: rest).filter isNameChar = s.toList.filter fun d => d != '/' && d != '-' := by
    have hslash : ¬isNameChar '/' := by decide
    rw [← List.filter_congr hall, hs, List.filter_cons_of_neg hslash]
  have hne : (c :: rest).filter isNameChar ≠ [] := by
    rw [List.filter_cons_of_pos hc]
    exact List.cons_ne_nil _ _
  unfold verbName
  rw [htrim]
  dsimp only
  rw [show (fun d : Char => d.isAlphanum || d == '_') = isNameChar from rfl,
    if_neg (by simpa using hne), hkept]
  rfl

/-- A constant is left as it is exactly if no mark stands in it behind the slash in front. -/
theorem withoutMarks_eq_self_iff {s : String} (h : isAtomName s) :
    withoutMarks s = s ↔ '-' ∉ s.toList ∧ '/' ∉ s.toList.tail := by
  obtain ⟨c, rest, hs, -, -⟩ := Rule.isAtomName_iff.mp h
  rw [withoutMarks, ← String.toList_inj, String.toList_ofList, hs,
    List.filter_cons_of_neg (by decide), List.cons.injEq, and_iff_right rfl, List.filter_eq_self,
    List.tail_cons]
  constructor
  · intro hall
    refine ⟨fun hdash => ?_, fun hslash => by simpa using hall _ hslash⟩
    rcases List.mem_cons.mp hdash with hfront | hdash
    · exact absurd hfront (by decide)
    · simpa using hall _ hdash
  · rintro ⟨hdash, hslash⟩ d hd
    have h1 : d ≠ '/' := fun he => hslash (he ▸ hd)
    have h2 : d ≠ '-' := fun he => hdash (List.mem_cons_of_mem _ (he ▸ hd))
    simp [h1, h2]

/-! Programs. -/

namespace FactBase

theorem mem_facts_of_enter {c : Rule.Clause} {n : Nat} {b b' : FactBase}
    (h : (enter c).on b = (.ok n, b')) {f : Rule.Fact} (hf : f ∈ b'.facts) :
    f ∈ b.facts ∨ c.fact? = some f := by
  cases hc : c.fact? with
  | some g =>
    rw [on_enter_fact hc] at h
    cases h
    exact (mem_of_mem_insert hf).imp_right fun he => congrArg some he.symm
  | none =>
    unfold enter at h
    rw [Act.on_bind_ok (Act.on_get b), hc] at h
    obtain ⟨_, u, -, h⟩ := Act.exists_of_bind h
    cases h
    exact .inl hf

theorem mem_facts_of_mapM_enter {cs : List Rule.Clause} {counts : List Nat} {b b' : FactBase}
    (h : (cs.mapM enter).on b = (.ok counts, b')) {f : Rule.Fact} (hf : f ∈ b'.facts) :
    f ∈ b.facts ∨ ∃ c ∈ cs, c.fact? = some f := by
  induction cs generalizing b counts with
  | nil =>
    cases h
    exact .inl hf
  | cons c cs ih =>
    rw [List.mapM_cons] at h
    obtain ⟨n, u, hc, h⟩ := Act.exists_of_bind h
    obtain ⟨ns, v, hcs, h⟩ := Act.exists_of_bind h
    cases h
    obtain hf | ⟨d, hd, hdf⟩ := ih hcs
    · refine (mem_facts_of_enter hc hf).imp_right fun hcf => ⟨c, List.mem_cons_self, hcf⟩
    · exact .inr ⟨d, List.mem_cons_of_mem c hd, hdf⟩

/-- The facts of a base that was made of a program are among those of the program. -/
theorem exists_of_ofProgram {source : String} {b : FactBase} (h : ofProgram source = .ok b) :
    ∃ cs, Rule.parseProgram source = .ok cs ∧ ∀ f ∈ b.facts, ∃ c ∈ cs, c.fact? = some f := by
  unfold ofProgram at h
  split at h
  case h_1 n b' hl =>
    cases h
    obtain ⟨cs, u, hp, hl⟩ := Act.exists_of_bind hl
    obtain ⟨hcs, rfl⟩ := Act.of_on_ofOutcome hp
    obtain ⟨counts, v, hm, hl⟩ := Act.exists_of_bind hl
    cases hl
    exact ⟨cs, hcs, fun f hf => (mem_facts_of_mapM_enter hm hf).resolve_left List.not_mem_nil⟩
  · cases h

/-- The facts about verbs that a base holds. -/
def verbFacts (b : FactBase) : Corpus.Source where
  definitions := b.factsOf "verb_def"
  synonyms := b.factsOf "verb_synonym"
  patterns := b.factsOf "verb_pattern"
  phrases := b.factsOf "intent_definition"

/-- A base in which no verb is named by a text between quotes. -/
structure NamesByConstants (b : FactBase) : Prop where
  definitions : ∀ f ∈ b.factsOf "verb_def", ∀ text, f.arg? 0 ≠ some (.str text)
  phrases : ∀ f ∈ b.factsOf "intent_definition", ∀ text, f.arg? 1 ≠ some (.str text)

theorem isAtomName_of_text? {source : String} {b : FactBase} (h : ofProgram source = .ok b) {p : String}
    {f : Rule.Fact} (hf : f ∈ b.factsOf p) {n : Nat} (hq : ∀ text, f.arg? n ≠ some (.str text))
    {name : String} (hn : f.text? n = some name) : isAtomName name := by
  obtain ⟨cs, hp, hfacts⟩ := exists_of_ofProgram h
  obtain ⟨c, hc, hcf⟩ := hfacts f (mem_factsOf.mp hf).1
  obtain ⟨t, ht, hname⟩ := Option.bind_eq_some_iff.mp hn
  cases t with
  | atom name' =>
    cases hname
    exact Rule.isAtomName_of_parseProgram hp hc hcf (List.mem_of_getElem? ht)
  | str text => exact absurd ht (hq text)
  | int n => cases hname
  | float x => cases hname

end FactBase

namespace Corpus

theorem exists_text_of_mem_ofFacts {s : Source} {v : Verb} (h : v ∈ (ofFacts s).verbs) :
    ∃ name, v.name = normalizeVerb name ∧
      ((∃ f ∈ s.definitions, f.text? 0 = some name) ∨ ∃ f ∈ s.phrases, f.text? 1 = some name) := by
  have hname : v.name ∈ (ofFacts s).verbs.map Verb.name := List.mem_map_of_mem h
  rw [map_name_ofFacts, List.mem_append, List.mem_eraseDups, List.mem_eraseDups] at hname
  obtain hname | hname := hname
  · obtain ⟨d, hd, he⟩ := List.mem_map.mp hname
    obtain ⟨f, hf, hfd⟩ := List.mem_filterMap.mp hd
    obtain ⟨name, hn, hfd⟩ := Option.bind_eq_some_iff.mp hfd
    obtain ⟨category, -, hfd⟩ := Option.bind_eq_some_iff.mp hfd
    cases hfd
    exact ⟨name, he.symm, .inl ⟨f, hf, hn⟩⟩
  · obtain ⟨f, hf, hfn⟩ := List.mem_filterMap.mp (List.mem_filter.mp hname).1
    unfold phraseName? at hfn
    split at hfn
    case h_1 phrase name _ hn => exact ⟨name, (Option.some.inj hfn).symm, .inr ⟨f, hf, hn⟩⟩
    case h_2 => cases hfn

/-- The verbs of a program that names them by constants have the names of constants. -/
theorem isAtomName_of_mem_ofFacts {source : String} {b : FactBase}
    (h : FactBase.ofProgram source = .ok b) (hq : b.NamesByConstants) {v : Verb}
    (hv : v ∈ (ofFacts b.verbFacts).verbs) : isAtomName v.name := by
  obtain ⟨name, hname, ⟨f, hf, hn⟩ | ⟨f, hf, hn⟩⟩ := exists_text_of_mem_ofFacts hv
  · rw [hname]
    exact isAtomName_normalizeVerb (FactBase.isAtomName_of_text? h hf (hq.definitions f hf) hn)
  · rw [hname]
    exact isAtomName_normalizeVerb (FactBase.isAtomName_of_text? h hf (hq.phrases f hf) hn)

section

variable {W : Type} {base : Part W FactBase} {verbs : Part W Corpus} {watch : Watch W}

theorem on_source_base {s : Source} {w v : W}
    (h : (source watch (FactBase.kernel base)).on w = (.ok s, v)) : s = (base.read w).verbFacts := by
  have hquery {p : String} {facts : List Rule.Fact} {u u' : W}
      (hq : (watch.run ((FactBase.kernel base).query p)).on u = (.ok facts, u')) :
      facts = (base.read u).factsOf p ∧ u' = u := by
    cases Act.on_of_run hq
    exact ⟨rfl, rfl⟩
  obtain ⟨definitions, u, hd, h⟩ := Act.exists_of_bind h
  obtain ⟨rfl, rfl⟩ := hquery hd
  obtain ⟨phrases, u, hp, h⟩ := Act.exists_of_bind h
  obtain ⟨rfl, rfl⟩ := hquery hp
  split at h
  · cases h
  · obtain ⟨synonyms, u, hs, h⟩ := Act.exists_of_bind h
    obtain ⟨rfl, rfl⟩ := hquery hs
    obtain ⟨patterns, u, hpat, h⟩ := Act.exists_of_bind h
    obtain ⟨rfl, rfl⟩ := hquery hpat
    cases h
    rfl

/-- What is loaded from a base is the corpus of its facts, or for want of that the one that does no harm. -/
theorem read_of_load (hv : verbs.Retains) (hb : ∀ c w, base.read (verbs.write c w) = base.read w)
    {o : Outcome Unit} {w v : W} (h : (load watch (FactBase.kernel base) verbs).on w = (o, v)) :
    verbs.read v = safe ∨ verbs.read v = ofFacts (base.read w).verbFacts := by
  have hq (predicate : String) : Act.Moves verbs.read Eq ((FactBase.kernel base).query predicate) :=
    fun _ => rfl
  have hload : v = ((reload watch (FactBase.kernel base) verbs).on (verbs.write safe w)).2 := by
    cases h
    rfl
  rcases hr : (reload watch (FactBase.kernel base) verbs).on (verbs.write safe w) with ⟨_ | n, u⟩
  · rw [hr] at hload
    subst hload
    exact .inl ((on_reload_error hq hr).trans (hv safe w))
  · rw [hr] at hload
    subst hload
    obtain ⟨-, s, u', hs, hread⟩ := on_reload_ok hv hr
    rw [hread, on_source_base hs, hb]
    exact .inr rfl

end

end Corpus

/-! Intents. -/

namespace Intent

theorem arg?_fact (i : Intent) : i.fact.arg? 2 = some (.atom (verbName i.verb)) := by
  rw [fact_eq]
  rfl

/-- A verb that has the name of a constant is told without marks. -/
theorem arg?_fact_of_isAtomName {i : Intent} (h : isAtomName i.verb) (hn : normalizeVerb i.verb = i.verb) :
    i.fact.arg? 2 = some (.atom (withoutMarks i.verb)) ∧
      (i.fact.arg? 2 = some (.atom i.verb) ↔ '-' ∉ i.verb.toList ∧ '/' ∉ i.verb.toList.tail) := by
  have htold : i.fact.arg? 2 = some (.atom (withoutMarks i.verb)) := by
    rw [arg?_fact, verbName_of_isAtomName h hn]
  refine ⟨htold, ?_⟩
  rw [htold, Option.some.injEq, Rule.Term.atom.injEq, withoutMarks_eq_self_iff h]

end Intent

namespace Corpus

variable {W : Type} {base : Part W FactBase} {verbs : Part W Corpus} {watch : Watch W}

/-- The verbs that were loaded from a program that names them by constants have the names of constants. -/
theorem isAtomName_of_mem_load {source : String} {w v : W} {o : Outcome Unit} (hv : verbs.Retains)
    (hb : ∀ c w, base.read (verbs.write c w) = base.read w)
    (h : FactBase.ofProgram source = .ok (base.read w)) (hq : (base.read w).NamesByConstants)
    (hl : (load watch (FactBase.kernel base) verbs).on w = (o, v)) {e : Verb}
    (he : e ∈ (verbs.read v).verbs) : isAtomName e.name ∧ normalizeVerb e.name = e.name := by
  obtain hread | hread := read_of_load hv hb hl
  · rw [hread] at he
    have hnormal := (tidy_safe.verbs e he).normal
    rw [safe, List.mem_singleton] at he
    subst he
    exact ⟨by decide +kernel, hnormal⟩
  · rw [hread] at he
    exact ⟨isAtomName_of_mem_ofFacts h hq he, ((tidy_ofFacts _).verbs e he).normal⟩

/-- Whatever program a kernel was made of, if that names verbs by constants: of an intent whose verb was loaded
from it the kernel is told this verb without the slashes and dashes inside it, and so exactly this verb if and
only if there are none. -/
theorem told_of_load {source : String} {w v : W} {o : Outcome Unit} (hv : verbs.Retains)
    (hb : ∀ c w, base.read (verbs.write c w) = base.read w)
    (h : FactBase.ofProgram source = .ok (base.read w)) (hq : (base.read w).NamesByConstants)
    (hl : (load watch (FactBase.kernel base) verbs).on w = (o, v)) (i : Intent)
    (hi : i.verb ∈ (verbs.read v).verbs.map Verb.name) :
    i.fact.arg? 2 = some (.atom (withoutMarks i.verb)) ∧
      (i.fact.arg? 2 = some (.atom i.verb) ↔ '-' ∉ i.verb.toList ∧ '/' ∉ i.verb.toList.tail) := by
  obtain ⟨e, he, hname⟩ := List.mem_map.mp hi
  obtain ⟨hatom, hnormal⟩ := isAtomName_of_mem_load hv hb h hq hl he
  rw [hname] at hatom hnormal
  exact Intent.arg?_fact_of_isAtomName hatom hnormal

/-- Three verbs, one of which is known from a phrase alone. -/
def markedFacts : List Rule.Fact :=
  [⟨"verb_def", [.atom "/Look-up", .atom "/query", .str "", .int 10]⟩,
    ⟨"verb_def", [.atom "/fix", .atom "/mutation"]⟩,
    ⟨"intent_definition", [.str "tell", .atom "/say/all"]⟩]

/-- The base of the program that states these verbs. -/
def markedBase : FactBase :=
  markedFacts.foldl FactBase.insert {}

theorem ofProgram_marked : FactBase.ofProgram
    (String.join (markedFacts.map fun f => f.source ++ "\n")) = .ok markedBase := by
  have hreadable : markedFacts.all Rule.Fact.isReadable := by decide +kernel
  obtain ⟨n, hn⟩ := FactBase.exists_on_load_lines hreadable {}
  rw [FactBase.ofProgram, hn]
  rfl

theorem facts_markedBase : markedBase.facts = markedFacts := by
  have hnew : (markedFacts.map Rule.Fact.write).Nodup := by decide +kernel
  exact FactBase.facts_foldl_insert hnew fun _ _ => List.not_mem_nil

theorem namesByConstants_markedBase : markedBase.NamesByConstants := by
  have hfacts : ∀ f ∈ markedBase.facts, (f.predicate = "verb_def" → ∀ text, f.arg? 0 ≠ some (.str text)) ∧
      (f.predicate = "intent_definition" → ∀ text, f.arg? 1 ≠ some (.str text)) := by
    rw [facts_markedBase]
    simp [markedFacts, Rule.Fact.arg?]
  exact ⟨fun f hf => (hfacts f (FactBase.mem_factsOf.mp hf).1).1 (FactBase.mem_factsOf.mp hf).2,
    fun f hf => (hfacts f (FactBase.mem_factsOf.mp hf).1).2 (FactBase.mem_factsOf.mp hf).2⟩

/-- An intent of which nothing is known but its verb. -/
def asking (verb : String) : Intent :=
  { Intent.fallback with verb }

/-- The parts of a world of a base and a corpus, and a watch over it that never loses patience. -/
def memory : Part (FactBase × Corpus) FactBase := ⟨Prod.fst, fun b w => (b, w.2)⟩

/-- The corpus of such a world. -/
def lexicon : Part (FactBase × Corpus) Corpus := ⟨Prod.snd, fun c w => (w.1, c)⟩

/-- A watch over such a world that never loses patience. -/
def calm : Watch (FactBase × Corpus) := ⟨⟨fun _ => 0, fun _ w => w⟩, fun _ => false, none⟩

/-- The world in which these verbs were loaded. -/
def markedWorld : FactBase × Corpus :=
  ((load calm (FactBase.kernel memory) lexicon).on (markedBase, ⟨[]⟩)).2

theorem map_name_markedWorld :
    markedWorld.2.verbs.map Verb.name = ["/look-up", "/fix", "/say/all"] := by
  decide +kernel

theorem told_of_load_markedWorld :
    markedBase.NamesByConstants ∧
      markedWorld.2.verbs.map Verb.name = ["/look-up", "/fix", "/say/all"] ∧
      (asking "/fix").fact.arg? 2 = some (.atom "/fix") ∧
      (asking "/say/all").fact.arg? 2 = some (.atom "/sayall") := by
  have htold (verb : String) (hverb : verb ∈ ["/look-up", "/fix", "/say/all"]) :=
    @told_of_load _ memory lexicon calm _ (markedBase, ⟨[]⟩) markedWorld _ (fun _ _ => rfl) (fun _ _ => rfl)
      ofProgram_marked namesByConstants_markedBase (Prod.eta _).symm (asking verb)
      (map_name_markedWorld ▸ hverb)
  refine ⟨namesByConstants_markedBase, map_name_markedWorld, ?_, ?_⟩
  · exact (htold "/fix" (by decide)).2.mpr (by decide +kernel)
  · have hname : withoutMarks "/say/all" = "/sayall" := by decide +kernel
    exact hname ▸ (htold "/say/all" (by decide)).1

/-- A verb that was loaded from a program is told under the name of another one. -/
theorem not_told_lookUp :
    FactBase.ofProgram (String.join (markedFacts.map fun f => f.source ++ "\n")) = .ok markedBase ∧
      markedBase.NamesByConstants ∧ (asking "/look-up").verb ∈ markedWorld.2.verbs.map Verb.name ∧
      (asking "/look-up").fact.arg? 2 = some (.atom "/lookup") ∧
      (asking "/look-up").fact.arg? 2 ≠ some (.atom (asking "/look-up").verb) := by
  have hname : verbName "/look-up" = "/lookup" := by decide +kernel
  have htold : (asking "/look-up").fact.arg? 2 = some (.atom "/lookup") :=
    hname ▸ Intent.arg?_fact (asking "/look-up")
  refine ⟨ofProgram_marked, namesByConstants_markedBase, ?_, htold, ?_⟩
  · rw [map_name_markedWorld]
    exact List.mem_cons_self
  · rw [htold]
    simp [asking]

end Corpus

end Utterance
