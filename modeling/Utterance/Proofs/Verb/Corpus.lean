import Utterance.Proofs.Frame
import Utterance.Proofs.Intent
import Utterance.Verb.Reload

/-! What every corpus is that was read from a kernel and learned from: no verb and no synonym stands twice, and
the verbs are those of the facts in the order in which they first occur. -/

namespace Utterance

/-! Names in the order in which they first occur. -/

theorem nodup_eraseDups {α : Type} [BEq α] [LawfulBEq α] (xs : List α) : xs.eraseDups.Nodup := by
  induction h : xs.length using Nat.strongRecOn generalizing xs with
  | ind n ih =>
    cases xs with
    | nil => exact .nil
    | cons x xs =>
      rw [List.eraseDups_cons, List.nodup_cons]
      constructor
      · rw [List.mem_eraseDups, List.mem_filter]
        simp
      · have hlen := List.length_filter_le (fun y => !y == x) xs
        exact ih _ (by rw [← h, List.length_cons]; omega) _ rfl

theorem eraseDups_concat {α : Type} [BEq α] [LawfulBEq α] (xs : List α) (x : α) :
    (xs ++ [x]).eraseDups = if xs.eraseDups.contains x then xs.eraseDups else xs.eraseDups ++ [x] := by
  have hx : xs.eraseDups.contains x = xs.contains x := by
    rw [Bool.eq_iff_iff, List.contains_iff_mem, List.contains_iff_mem, List.mem_eraseDups]
  rw [List.eraseDups_append, hx]
  split
  case isTrue h => simp [List.removeAll, List.contains_iff_mem.mp h]
  case isFalse h => simp [List.removeAll, List.eraseDups_cons, mt List.contains_iff_mem.mpr h]

namespace Verb

/-- A verb in order: its name is in the one form, and its synonyms say something and differ. -/
structure Tidy (v : Verb) : Prop where
  normal : normalizeVerb v.name = v.name
  distinct : v.synonyms.Nodup
  spoken : "" ∉ v.synonyms

/-- What of a verb does not depend on how it is known. -/
def core (v : Verb) : Verb :=
  { v with synonyms := [], patterns := [] }

theorem tidy_named (name : String) (category : Category) (priority : Int) (shard : String) :
    (named name category priority shard).Tidy :=
  ⟨normalizeVerb_normalizeVerb name, .nil, List.not_mem_nil⟩

theorem core_addSynonym (v : Verb) (phrase : String) : (v.addSynonym phrase).core = v.core := by
  unfold addSynonym
  dsimp only
  split <;> rfl

theorem name_of_core {v u : Verb} (h : v.core = u.core) : v.name = u.name :=
  have hname (w : Verb) : w.core.name = w.name := rfl
  (hname v).symm.trans ((congrArg name h).trans (hname u))

theorem name_addSynonym (v : Verb) (phrase : String) : (v.addSynonym phrase).name = v.name :=
  name_of_core (core_addSynonym v phrase)

theorem name_named (name : String) (category : Category) (priority : Int) (shard : String) :
    (named name category priority shard).name = normalizeVerb name := rfl

theorem Tidy.addSynonym {v : Verb} (h : v.Tidy) (phrase : String) : (v.addSynonym phrase).Tidy := by
  unfold Verb.addSynonym
  dsimp only
  split
  · exact h
  · rename_i hnew
    rw [Bool.or_eq_true, not_or] at hnew
    obtain ⟨hempty, hthere⟩ := hnew
    refine ⟨h.normal, ?_, ?_⟩
    · refine List.nodup_append.mpr ⟨h.distinct, by simp, fun x hx y hy => ?_⟩
      rw [List.mem_singleton] at hy
      rintro rfl
      exact hthere (by simpa [hy] using hx)
    · rw [List.mem_append, List.mem_singleton, not_or]
      exact ⟨h.spoken, fun he => hempty (by simp [← he])⟩

/-- The verb with one more pattern, if that can be used. -/
def withPattern (source : String) (v : Verb) : Verb :=
  (v.addPattern source).toOption.getD v

theorem core_withPattern (source : String) (v : Verb) : (v.withPattern source).core = v.core := by
  unfold withPattern addPattern
  split <;> rfl

theorem Tidy.withPattern {v : Verb} (h : v.Tidy) (source : String) : (v.withPattern source).Tidy := by
  unfold Verb.withPattern addPattern
  split
  · exact ⟨h.normal, h.distinct, h.spoken⟩
  · exact h

end Verb

namespace Corpus

/-! Lists of verbs. -/

theorem holds_iff {vs : List Verb} {name : String} : holds vs name ↔ name ∈ vs.map Verb.name := by
  rw [holds, List.any_eq_true, List.mem_map]
  simp only [beq_iff_eq]

theorem map_core_change {f : Verb → Verb} (hf : ∀ v, (f v).core = v.core) (name : String) (vs : List Verb) :
    (change f name vs).map Verb.core = vs.map Verb.core := by
  rw [change, List.map_map]
  refine List.map_congr_left fun v _ => ?_
  dsimp only [Function.comp_apply]
  split
  · exact hf v
  · rfl

theorem tidy_change {f : Verb → Verb} (hf : ∀ v, v.Tidy → (f v).Tidy) (name : String) {vs : List Verb}
    (h : ∀ v ∈ vs, v.Tidy) : ∀ v ∈ change f name vs, v.Tidy := by
  intro v hv
  obtain ⟨u, hu, rfl⟩ := List.mem_map.mp hv
  split
  · exact hf u (h u hu)
  · exact h u hu

theorem map_name_of_core {vs us : List Verb} (h : vs.map Verb.core = us.map Verb.core) :
    vs.map Verb.name = us.map Verb.name := by
  have hname : Verb.name = Verb.name ∘ Verb.core := rfl
  rw [hname, ← List.map_map, ← List.map_map, h]

/-! The verbs of facts. -/

/-- The names of the well-formed definitions, one for each. -/
def definedNames (s : Source) : List String :=
  (s.definitions.filterMap defined?).map Verb.name

/-- The name of the verb that a well-formed fact gives a phrase for. -/
def phraseName? (f : Rule.Fact) : Option String :=
  match f.text? 0, f.text? 1 with
  | some _, some name => some (normalizeVerb name)
  | _, _ => none

/-- The names of the well-formed facts about phrases, one for each. -/
def phraseNames (s : Source) : List String :=
  s.phrases.filterMap phraseName?

/-- The verbs that are defined, each as its first definition has it. -/
def known (s : Source) : List Verb :=
  (s.definitions.filterMap defined?).foldl enter []

/-- The verbs that are known from phrases alone. -/
def others (s : Source) : List Verb :=
  (s.phrases.filter (!about (known s) ·)).foldl enterPhrase []

theorem map_name_enter {vs : List Verb} {log : List String} (h : vs.map Verb.name = log.eraseDups) (v : Verb) :
    (enter vs v).map Verb.name = (log ++ [v.name]).eraseDups := by
  have hholds : holds vs v.name = log.eraseDups.contains v.name := by
    rw [Bool.eq_iff_iff, holds_iff, h, List.contains_iff_mem]
  rw [eraseDups_concat, ← hholds, enter]
  split
  · exact h
  · rw [List.map_append, h]
    rfl

theorem map_name_known (s : Source) : (known s).map Verb.name = (definedNames s).eraseDups := by
  have hfold (ds vs : List Verb) (log : List String) (h : vs.map Verb.name = log.eraseDups) :
      (ds.foldl enter vs).map Verb.name = (log ++ ds.map Verb.name).eraseDups := by
    induction ds generalizing vs log with
    | nil => simpa using h
    | cons d ds ih =>
      rw [List.foldl_cons, ih _ _ (map_name_enter h d), List.map_cons, List.append_assoc]
      rfl
  exact hfold _ [] [] rfl

theorem map_name_enterPhrase {vs : List Verb} {log : List String} (h : vs.map Verb.name = log.eraseDups)
    (f : Rule.Fact) :
    (enterPhrase vs f).map Verb.name = (log ++ (phraseName? f).toList).eraseDups := by
  unfold enterPhrase
  split
  case h_1 phrase name hphrase hname =>
    have hf : phraseName? f = some (normalizeVerb name) := by rw [phraseName?, hphrase, hname]
    have hholds : holds vs (normalizeVerb name) = log.eraseDups.contains (normalizeVerb name) := by
      rw [Bool.eq_iff_iff, holds_iff, h, List.contains_iff_mem]
    have hentry : ((Verb.named (normalizeVerb name) (Phrasing.category phrase .query) phrasePriority
        "").addSynonym phrase).name = normalizeVerb name := by
      rw [Verb.name_addSynonym, Verb.name_named, normalizeVerb_normalizeVerb]
    dsimp only
    rw [hf, Option.toList_some, eraseDups_concat, ← hholds]
    split
    · rw [map_name_of_core (map_core_change (fun v => Verb.core_addSynonym v phrase) _ vs), h]
    · rw [List.map_append, List.map_singleton, h, hentry]
  case h_2 hnone =>
    have hf : phraseName? f = none := by
      unfold phraseName?
      split
      case h_1 phrase name hphrase hname => exact (hnone phrase name hphrase hname).elim
      case h_2 => rfl
    simpa [hf] using h

theorem map_name_foldl_enterPhrase (fs : List Rule.Fact) {vs : List Verb} {log : List String}
    (h : vs.map Verb.name = log.eraseDups) :
    (fs.foldl enterPhrase vs).map Verb.name = (log ++ fs.filterMap phraseName?).eraseDups := by
  induction fs generalizing vs log with
  | nil => simpa using h
  | cons f fs ih =>
    rw [List.foldl_cons, ih (map_name_enterPhrase h f), List.append_assoc]
    congr 2
    cases hf : phraseName? f <;> simp [hf]

theorem filterMap_phraseName?_filter (vs : List Verb) (fs : List Rule.Fact) :
    (fs.filter (!about vs ·)).filterMap phraseName? =
      (fs.filterMap phraseName?).filter fun name => !holds vs name := by
  rw [List.filterMap_filter, List.filter_filterMap]
  congr 1
  funext f
  unfold phraseName? about
  cases f.text? 0 <;> cases f.text? 1 <;> simp [Option.filter]

theorem map_name_others (s : Source) : (others s).map Verb.name =
    ((phraseNames s).filter fun name => !(definedNames s).contains name).eraseDups := by
  have hholds (name : String) : holds (known s) name = (definedNames s).contains name := by
    rw [Bool.eq_iff_iff, holds_iff, map_name_known, List.mem_eraseDups, List.contains_iff_mem]
  have hempty : ([] : List Verb).map Verb.name = ([] : List String).eraseDups := rfl
  have hnames := map_name_foldl_enterPhrase (s.phrases.filter (!about (known s) ·)) hempty
  rw [others, hnames, List.nil_append, filterMap_phraseName?_filter, phraseNames]
  simp only [hholds]

/-- A property of lists of verbs that each fact keeps. -/
theorem foldl_keeps {α : Type} {P : List Verb → Prop} {enter : List Verb → α → List Verb}
    (h : ∀ vs x, P vs → P (enter vs x)) (xs : List α) {vs : List Verb} (hvs : P vs) :
    P (xs.foldl enter vs) := by
  induction xs generalizing vs with
  | nil => exact hvs
  | cons x xs ih => exact ih (h vs x hvs)

theorem map_core_enterSynonym (vs : List Verb) (f : Rule.Fact) :
    (enterSynonym vs f).map Verb.core = vs.map Verb.core := by
  unfold enterSynonym
  split
  · exact map_core_change (fun v => Verb.core_addSynonym v _) _ vs
  · rfl

theorem map_core_enterPattern (vs : List Verb) (f : Rule.Fact) :
    (enterPattern vs f).map Verb.core = vs.map Verb.core := by
  unfold enterPattern
  split
  · exact map_core_change (fun v => Verb.core_withPattern _ v) _ vs
  · rfl

theorem map_core_ofFacts (s : Source) :
    (ofFacts s).verbs.map Verb.core = (known s ++ others s).map Verb.core := by
  have hsynonyms := foldl_keeps (P := fun vs => vs.map Verb.core = (known s ++ others s).map Verb.core)
    (fun vs f h => (map_core_enterSynonym vs f).trans h) s.synonyms rfl
  exact foldl_keeps (P := fun vs => vs.map Verb.core = (known s ++ others s).map Verb.core)
    (fun vs f h => (map_core_enterPattern vs f).trans h) s.patterns hsynonyms

/-- The names of a corpus: the defined ones, then those known from phrases alone, each in the order in which
they first occur. -/
theorem map_name_ofFacts (s : Source) :
    (ofFacts s).verbs.map Verb.name = (definedNames s).eraseDups ++
      ((phraseNames s).filter fun name => !(definedNames s).contains name).eraseDups := by
  rw [map_name_of_core (map_core_ofFacts s), List.map_append, map_name_known, map_name_others]

/-- Of the definitions of a verb the first one counts. -/
theorem find?_of_mem_foldl_enter (ds : List Verb) {vs : List Verb} {v : Verb} (h : v ∈ ds.foldl enter vs) :
    v ∈ vs ∨ v.name ∉ vs.map Verb.name ∧ ds.find? (·.name == v.name) = some v := by
  induction ds generalizing vs with
  | nil => exact .inl h
  | cons d ds ih =>
    have hnext := ih h
    unfold enter at hnext
    split at hnext
    case isTrue hd =>
      refine hnext.imp_right fun ⟨hv, hfind⟩ => ⟨hv, ?_⟩
      have hne : (d.name == v.name) = false := by
        rw [beq_eq_false_iff_ne]
        intro he
        exact hv (he ▸ holds_iff.mp hd)
      rw [List.find?_cons, hne]
      exact hfind
    case isFalse hd =>
      have hd : d.name ∉ vs.map Verb.name := fun hm => hd (holds_iff.mpr hm)
      rw [List.mem_append, List.mem_singleton, List.map_append, List.mem_append, not_or] at hnext
      rcases hnext with (hv | rfl) | ⟨⟨hv, hne⟩, hfind⟩
      · exact .inl hv
      · refine .inr ⟨hd, ?_⟩
        rw [List.find?_cons, beq_self_eq_true]
      · refine .inr ⟨hv, ?_⟩
        have hne : (d.name == v.name) = false := by
          rw [beq_eq_false_iff_ne]
          exact fun he => hne (by simp [he])
        rw [List.find?_cons, hne]
        exact hfind

theorem find?_of_mem_known {s : Source} {v : Verb} (h : v ∈ known s) :
    (s.definitions.filterMap defined?).find? (·.name == v.name) = some v := by
  rcases find?_of_mem_foldl_enter _ h with hnil | ⟨-, hfind⟩
  · cases hnil
  · exact hfind

/-- What a corpus is to the facts that it was made of. -/
structure Represents (c : Corpus) (s : Source) : Prop where
  names : c.verbs.map Verb.name = (definedNames s).eraseDups ++
    ((phraseNames s).filter fun name => !(definedNames s).contains name).eraseDups
  first : ∀ v ∈ c.verbs, v.name ∈ definedNames s →
    ∃ d, (s.definitions.filterMap defined?).find? (·.name == v.name) = some d ∧
      v.category = d.category ∧ v.shard = d.shard ∧ v.priority = d.priority

theorem represents_ofFacts (s : Source) : (ofFacts s).Represents s where
  names := map_name_ofFacts s
  first v hv hname := by
    have hcore : v.core ∈ (known s ++ others s).map Verb.core := by
      rw [← map_core_ofFacts]
      exact List.mem_map_of_mem hv
    obtain ⟨u, hu, huv⟩ := List.mem_map.mp hcore
    have hsame : u.name = v.name := Verb.name_of_core huv
    have hknown : u ∈ known s := by
      refine (List.mem_append.mp hu).resolve_right fun hother => ?_
      have hother : u.name ∈ (others s).map Verb.name := List.mem_map_of_mem hother
      rw [map_name_others, List.mem_eraseDups, List.mem_filter, hsame] at hother
      simp [hname] at hother
    have hparts := huv
    simp only [Verb.core, Verb.mk.injEq] at hparts
    obtain ⟨-, hcategory, hpriority, hshard, -⟩ := hparts
    exact ⟨u, hsame ▸ find?_of_mem_known hknown, hcategory.symm, hshard.symm, hpriority.symm⟩

/-- A corpus in order: no verb stands twice, and each verb is in order. -/
structure Tidy (c : Corpus) : Prop where
  distinct : (c.verbs.map Verb.name).Nodup
  verbs : ∀ v ∈ c.verbs, v.Tidy

theorem tidy_safe : safe.Tidy where
  distinct := by simp [safe]
  verbs v hv := by
    rw [List.mem_singleton.mp hv]
    exact Verb.tidy_named ..

theorem tidy_of_defined? {f : Rule.Fact} {v : Verb} (h : defined? f = some v) : v.Tidy := by
  unfold defined? at h
  obtain ⟨name, -, h⟩ := Option.bind_eq_some_iff.mp h
  obtain ⟨category, -, h⟩ := Option.bind_eq_some_iff.mp h
  cases h
  exact Verb.tidy_named ..

theorem tidy_enterPhrase (vs : List Verb) (f : Rule.Fact) (h : ∀ v ∈ vs, v.Tidy) :
    ∀ v ∈ enterPhrase vs f, v.Tidy := by
  unfold enterPhrase
  split
  · dsimp only
    split
    · exact tidy_change (fun v hv => hv.addSynonym _) _ h
    · intro v hv
      rcases List.mem_append.mp hv with hv | hv
      · exact h v hv
      · rw [List.mem_singleton.mp hv]
        exact (Verb.tidy_named ..).addSynonym _
  · exact h

theorem tidy_enterSynonym (vs : List Verb) (f : Rule.Fact) (h : ∀ v ∈ vs, v.Tidy) :
    ∀ v ∈ enterSynonym vs f, v.Tidy := by
  unfold enterSynonym
  split
  · exact tidy_change (fun v hv => hv.addSynonym _) _ h
  · exact h

theorem tidy_enterPattern (vs : List Verb) (f : Rule.Fact) (h : ∀ v ∈ vs, v.Tidy) :
    ∀ v ∈ enterPattern vs f, v.Tidy := by
  unfold enterPattern
  split
  · exact tidy_change (fun v hv => hv.withPattern _) _ h
  · exact h

/-- Whatever the facts are, the corpus of them is in order. -/
theorem tidy_ofFacts (s : Source) : (ofFacts s).Tidy where
  distinct := by
    rw [map_name_ofFacts]
    refine List.nodup_append.mpr ⟨nodup_eraseDups _, nodup_eraseDups _, ?_⟩
    rintro x hx y hy rfl
    rw [List.mem_eraseDups] at hx hy
    simp [hx] at hy
  verbs := by
    have hknown : ∀ v ∈ known s, v.Tidy := by
      intro v hv
      obtain ⟨f, -, hf⟩ := List.mem_filterMap.mp (List.mem_of_find?_eq_some (find?_of_mem_known hv))
      exact tidy_of_defined? hf
    have hothers : ∀ v ∈ others s, v.Tidy :=
      foldl_keeps (P := fun vs => ∀ v ∈ vs, v.Tidy) tidy_enterPhrase _ nofun
    have hall : ∀ v ∈ known s ++ others s, v.Tidy := fun v hv =>
      (List.mem_append.mp hv).elim (hknown v) (hothers v)
    have hsynonyms := foldl_keeps (P := fun vs => ∀ v ∈ vs, v.Tidy) tidy_enterSynonym s.synonyms hall
    exact foldl_keeps (P := fun vs => ∀ v ∈ vs, v.Tidy) tidy_enterPattern s.patterns hsynonyms

/-- A corpus that learns a phrase stays in order. -/
theorem Tidy.learn {c : Corpus} (h : c.Tidy) (name phrase : String) : ((c.learn? name phrase).getD c).Tidy := by
  unfold learn?
  split
  · refine ⟨?_, tidy_change (fun v hv => hv.addSynonym phrase) _ h.verbs⟩
    show ((change _ _ c.verbs).map Verb.name).Nodup
    rw [map_name_of_core (map_core_change (fun v => Verb.core_addSynonym v phrase) _ c.verbs)]
    exact h.distinct
  · exact h

/-! Worlds. -/

section

variable {W V : Type} {verbs : Part W Corpus} {watch : Watch W} {kernel : Kernel W}

/-- Reading the facts about verbs leaves alone what no query touches. -/
theorem moves_source {f : W → V} (hq : ∀ predicate, Act.Moves f Eq (kernel.query predicate)) :
    Act.Moves f Eq (source watch kernel) := by
  have hquery (p : String) : Act.Moves f Eq (watch.run (kernel.query p)) := (hq p).run watch
  have hbeside (definitions phrases : List Rule.Fact) :
      Act.Moves f Eq (sourceBeside watch kernel definitions phrases) :=
    (hquery _).bind fun _ => (hquery _).bind fun _ => Act.moves_pure _
  refine (hquery _).bind fun definitions => (hquery _).bind fun phrases => ?_
  split
  · exact (Act.moves_throw _).bind fun _ => hbeside definitions phrases
  · exact hbeside definitions phrases

theorem on_reload_ok (hv : verbs.Retains) {n : Nat} {w v : W}
    (h : (reload watch kernel verbs).on w = (.ok n, v)) :
    n = (verbs.read v).verbs.length ∧
      ∃ s u, (source watch kernel).on w = (.ok s, u) ∧ verbs.read v = ofFacts s := by
  obtain ⟨s, u, hs, h⟩ := Act.exists_of_bind h
  cases h
  have hread := hv (ofFacts s) u
  exact ⟨(congrArg (fun c : Corpus => c.verbs.length) hread).symm, s, u, hs, hread⟩

theorem on_reload_error (hq : ∀ predicate, Act.Moves verbs.read Eq (kernel.query predicate)) {e : Fault}
    {w v : W} (h : (reload watch kernel verbs).on w = (.error e, v)) : verbs.read v = verbs.read w := by
  unfold reload at h
  rw [Act.on_bind] at h
  rcases hs : (source watch kernel).on w with ⟨_ | s, u⟩
  · rw [hs] at h
    cases h
    exact (moves_source hq).eq_of_on hs
  · rw [hs] at h
    cases h

/-- The worlds in which the verbs were loaded, reloaded and taught phrases, each time from some kernel whose
queries do nothing to them. -/
inductive Reached (verbs : Part W Corpus) : W → Prop
  | loaded {watch : Watch W} {kernel : Kernel W} {o : Outcome Unit} {w v : W} :
      (∀ predicate, Act.Moves verbs.read Eq (kernel.query predicate)) →
      (load watch kernel verbs).on w = (o, v) → Reached verbs v
  | reloaded {watch : Watch W} {kernel : Kernel W} {o : Outcome Nat} {w v : W} : Reached verbs w →
      (∀ predicate, Act.Moves verbs.read Eq (kernel.query predicate)) →
      (reload watch kernel verbs).on w = (o, v) → Reached verbs v
  | taught {name phrase : String} {o : Outcome Unit} {w v : W} : Reached verbs w →
      (verbs.change fun c => (c.learn? name phrase).getD c).on w = (o, v) → Reached verbs v
  | passed {w v : W} : Reached verbs w → verbs.read v = verbs.read w → Reached verbs v

theorem tidy_of_reload (hv : verbs.Retains)
    (hq : ∀ predicate, Act.Moves verbs.read Eq (kernel.query predicate)) {o : Outcome Nat} {w v : W}
    (hw : (verbs.read w).Tidy) (h : (reload watch kernel verbs).on w = (o, v)) : (verbs.read v).Tidy := by
  cases o with
  | ok n =>
    obtain ⟨-, s, -, -, hs⟩ := on_reload_ok hv h
    rw [hs]
    exact tidy_ofFacts s
  | error e =>
    rw [on_reload_error hq h]
    exact hw

theorem Reached.tidy (hv : verbs.Retains) {w : W} (h : Reached verbs w) : (verbs.read w).Tidy := by
  induction h with
  | @loaded watch kernel o w v hq h =>
    have hsafe : (verbs.read (verbs.write safe w)).Tidy := by
      rw [hv]
      exact tidy_safe
    cases h
    exact tidy_of_reload hv hq hsafe rfl
  | reloaded _ hq h ih => exact tidy_of_reload hv hq ih h
  | taught _ h ih =>
    cases h
    rw [hv]
    exact ih.learn _ _
  | passed _ h ih =>
    rw [h]
    exact ih

/-- Whatever was loaded, reloaded and learned, the verbs differ and have the one form, and so do their phrases.
Reading them anew gives the verbs of the facts in the order in which they first occur; where that fails, they
stay as they were. -/
theorem tidy_of_reached (hv : verbs.Retains) {w : W} (h : Reached verbs w) :
    (verbs.read w).Tidy ∧ ∀ (watch : Watch W) (kernel : Kernel W),
      (∀ predicate, Act.Moves verbs.read Eq (kernel.query predicate)) →
      (∀ n v, (reload watch kernel verbs).on w = (.ok n, v) → n = (verbs.read v).verbs.length ∧
        ∃ s u, (source watch kernel).on w = (.ok s, u) ∧ (verbs.read v).Represents s) ∧
      ∀ e v, (reload watch kernel verbs).on w = (.error e, v) → verbs.read v = verbs.read w := by
  refine ⟨h.tidy hv, fun watch kernel hq => ⟨fun n v hn => ?_, fun e v he => on_reload_error hq he⟩⟩
  obtain ⟨hlength, s, u, hs, hread⟩ := on_reload_ok hv hn
  exact ⟨hlength, s, u, hs, hread ▸ represents_ofFacts s⟩

end

/-! A run. -/

/-- Facts about verbs: one that is defined twice in different spellings, one of no category, one that is known
from phrases alone, and a phrase that is none. -/
def oddFacts : List Rule.Fact :=
  [⟨"verb_def", [.atom "/fix", .atom "/mutation", .str "coder", .int 80]⟩,
    ⟨"verb_def", [.atom "/odd", .atom "/oddity"]⟩,
    ⟨"verb_def", [.str " FIX ", .atom "/query", .str "reader", .int 1]⟩,
    ⟨"intent_definition", [.str "tell me", .str "Narrate"]⟩,
    ⟨"intent_definition", [.int 5, .str "count"]⟩,
    ⟨"intent_definition", [.str "mend it", .str "fix"]⟩,
    ⟨"verb_synonym", [.str "fix", .str " Mend "]⟩]

/-- The part of a world in which the verbs are. -/
def shelved : Part (Corpus × List Rule.Fact) Corpus :=
  ⟨Prod.fst, fun c w => (c, w.2)⟩

/-- A kernel that gives the facts of its world, but for those of one predicate. -/
def librarian (lost : String) : Kernel (Corpus × List Rule.Fact) :=
  .usual (fun _ => pure ()) fun predicate => do
    if predicate == lost then throw (.kernel "lost")
    return (← get).2.filter (·.predicate == predicate)

theorem moves_librarian (lost predicate : String) :
    Act.Moves shelved.read Eq ((librarian lost).query predicate) := by
  intro w
  unfold librarian Kernel.usual
  dsimp only
  split <;> rfl

/-- A watch over a world without a clock. -/
def patient : Watch (Corpus × List Rule.Fact) :=
  ⟨⟨fun _ => 0, fun _ w => w⟩, fun _ => false, none⟩

/-- The world behind a loading that fails, a reading and a phrase that was learned. -/
def taughtWorld : Corpus × List Rule.Fact :=
  let loaded := ((load patient (librarian "verb_pattern") shelved).on (⟨[]⟩, oddFacts)).2
  let read := ((reload patient (librarian "") shelved).on loaded).2
  ((shelved.change fun c => (c.learn? "Fix" "REPAIR").getD c).on read).2

theorem reached_taughtWorld : Reached shelved taughtWorld :=
  .taught (.reloaded (.loaded (moves_librarian "verb_pattern") (Prod.eta _).symm) (moves_librarian "")
    (Prod.eta _).symm) (Prod.eta _).symm

/-- What is read of these facts. -/
def oddSource : Source where
  definitions := oddFacts.take 3
  phrases := (oddFacts.drop 3).take 3
  synonyms := oddFacts.drop 6
  patterns := []

theorem tidy_of_reached_taughtWorld :
    taughtWorld.1.Tidy ∧ ∃ n v, (reload patient (librarian "") shelved).on taughtWorld = (.ok n, v) ∧
      v.1.verbs.map Verb.name = ["/fix", "/narrate"] := by
  have h := tidy_of_reached (fun _ _ => rfl) reached_taughtWorld
  refine ⟨h.1, _, _, rfl, ?_⟩
  obtain ⟨-, s, u, hs, hrepresents⟩ := (h.2 patient (librarian "") (moves_librarian "")).1 _ _ rfl
  have hread : (source patient (librarian "")).on taughtWorld = (.ok oddSource, taughtWorld) := rfl
  cases hread.symm.trans hs
  exact hrepresents.names.trans (by decide +kernel)

end Corpus

end Utterance
