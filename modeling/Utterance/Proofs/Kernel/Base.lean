import Utterance.Kernel.FactBase
import Utterance.Proofs.Frame
import Utterance.Proofs.Rule.RoundTrip

/-! What it does to a base to take a fact and to drop those of a predicate. -/

namespace Utterance.FactBase

variable {b : FactBase} {f : Rule.Fact} {p q : String}

theorem mem_factsOf : f ∈ b.factsOf p ↔ f ∈ b.facts ∧ f.predicate = p := by
  rw [factsOf, List.mem_filter, beq_iff_eq]

theorem mem_of_mem_insert {g : Rule.Fact} (h : g ∈ (b.insert f).facts) : g ∈ b.facts ∨ g = f := by
  unfold insert at h
  split at h
  · exact .inl h
  · simpa using h

theorem mem_of_mem_drop (h : f ∈ (b.drop p).facts) : f ∈ b.facts :=
  (List.mem_filter.mp h).1

/-! Rules stay as they are, and so do the facts of other predicates. -/

@[simp] theorem rules_insert : (b.insert f).rules = b.rules := by
  unfold insert
  split <;> rfl

@[simp] theorem rules_drop : (b.drop p).rules = b.rules := rfl

theorem insert_of_holds (h : b.holds f) : b.insert f = b := by
  rw [insert, if_pos h]

theorem factsOf_insert (h : ¬b.holds f) :
    (b.insert f).factsOf p = b.factsOf p ++ if f.predicate = p then [f] else [] := by
  rw [insert, if_neg h, factsOf, List.filter_append]
  by_cases hp : f.predicate = p <;> simp [hp, factsOf]

theorem factsOf_insert_of_ne (h : f.predicate ≠ p) : (b.insert f).factsOf p = b.factsOf p := by
  by_cases hf : b.holds f
  · rw [insert_of_holds hf]
  · rw [factsOf_insert hf, if_neg h, List.append_nil]

theorem factsOf_drop_self : (b.drop p).factsOf p = [] := by
  simp [factsOf, drop]

theorem factsOf_drop_of_ne (h : q ≠ p) : (b.drop p).factsOf q = b.factsOf q := by
  rw [factsOf, factsOf, drop, List.filter_filter]
  refine List.filter_congr fun f _ => ?_
  by_cases hf : f.predicate = q <;> simp [hf, h]

/-! The texts by which a base knows its facts. -/

/-- A base that knows exactly the texts of its facts. -/
def Keyed (b : FactBase) : Prop :=
  ∀ t, t ∈ b.texts ↔ ∃ f ∈ b.facts, f.write = t

/-- A base in which no text is shared by facts of two predicates. -/
def Separate (b : FactBase) : Prop :=
  ∀ f ∈ b.facts, ∀ g ∈ b.facts, f.write = g.write → f.predicate = g.predicate

theorem keyed_empty : Keyed {} := by
  intro t
  simp

theorem Keyed.holds_iff (h : b.Keyed) : b.holds f ↔ ∃ g ∈ b.facts, g.write = f.write := by
  rw [holds, List.contains_iff_mem]
  exact h f.write

theorem Keyed.insert (h : b.Keyed) (f : Rule.Fact) : (b.insert f).Keyed := by
  unfold FactBase.insert
  split
  · exact h
  · intro t
    simp only [List.mem_cons, List.mem_append, List.mem_nil_iff, or_false, or_and_right, exists_or,
      exists_eq_left, h t]
    rw [or_comm, eq_comm]

/-- With the facts of a predicate their texts are forgotten, and no others. -/
theorem Keyed.drop (h : b.Keyed) (hs : b.Separate) (p : String) : (b.drop p).Keyed := by
  intro t
  simp only [FactBase.drop, List.mem_filter, h t, Bool.not_eq_true', bne_iff_ne, ne_eq]
  constructor
  · rintro ⟨⟨f, hf, rfl⟩, ht⟩
    refine ⟨f, ⟨hf, fun hp => ?_⟩, rfl⟩
    have hm : f.write ∈ (b.factsOf p).map Rule.Fact.write :=
      List.mem_map_of_mem (mem_factsOf.mpr ⟨hf, hp⟩)
    simp [hm] at ht
  · rintro ⟨f, ⟨hf, hp⟩, rfl⟩
    refine ⟨⟨f, hf, rfl⟩, ?_⟩
    rw [Bool.eq_false_iff]
    intro ht
    obtain ⟨g, hg, hw⟩ := List.mem_map.mp (List.contains_iff_mem.mp ht)
    obtain ⟨hg, hgp⟩ := mem_factsOf.mp hg
    exact hp (hs f hf g hg hw.symm ▸ hgp)

/-- A base that knows its facts by their texts, under predicates that are identifiers. -/
structure Tidy (b : FactBase) : Prop where
  keyed : b.Keyed
  named : ∀ f ∈ b.facts, Rule.isIdent f.predicate

/-- The text of a fact tells its predicate, which ends at the first parenthesis. -/
theorem takeWhile_write (h : Rule.isIdent f.predicate) :
    f.write.toList.takeWhile (· != '(') = f.predicate.toList := by
  have hw : f.write.toList = f.predicate.toList ++
      '(' :: ((Text.join ", " (f.args.map Rule.Term.write)).toList ++ [')']) := by
    simp [Rule.Fact.write]
  rw [hw]
  refine Rule.takeWhile_append ?_ (by rintro c ⟨⟩; rfl)
  rw [List.all_eq_true]
  rintro c hc
  rw [bne_iff_ne]
  rintro rfl
  exact Rule.not_mem_ident h (by decide) hc

namespace Tidy

theorem empty : Tidy {} :=
  ⟨keyed_empty, by simp⟩

theorem separate (h : b.Tidy) : b.Separate := by
  intro f hf g hg hw
  rw [← String.toList_inj, ← takeWhile_write (h.named f hf), ← takeWhile_write (h.named g hg), hw]

theorem insert (h : b.Tidy) (hf : Rule.isIdent f.predicate) : (b.insert f).Tidy := by
  refine ⟨h.keyed.insert f, fun g hg => ?_⟩
  obtain hg | rfl := mem_of_mem_insert hg
  · exact h.named g hg
  · exact hf

theorem drop (h : b.Tidy) (p : String) : (b.drop p).Tidy :=
  ⟨h.keyed.drop h.separate p, fun f hf => h.named f (mem_of_mem_drop hf)⟩

/-- A fact is new to a base that holds none of its predicate. -/
theorem not_holds (h : b.Tidy) (hf : Rule.isIdent f.predicate) (hnone : b.factsOf f.predicate = []) :
    ¬b.holds f := by
  rw [h.keyed.holds_iff]
  rintro ⟨g, hg, hw⟩
  have hp : g.predicate = f.predicate := by
    rw [← String.toList_inj, ← takeWhile_write (h.named g hg), ← takeWhile_write hf, hw]
  have hm : g ∈ b.factsOf f.predicate := mem_factsOf.mpr ⟨hg, hp⟩
  rw [hnone] at hm
  cases hm

end Tidy

/-! What becomes of a base while facts of some predicates come and go. -/

/-- The base has changed in the facts of some predicates at most. -/
structure Amends (ps : List String) (b b' : FactBase) : Prop where
  facts : ∀ p, p ∉ ps → b'.factsOf p = b.factsOf p
  rules : b'.rules = b.rules
  tidy : b.Tidy → b'.Tidy

instance (ps : List String) : Std.Refl (Amends ps) :=
  ⟨fun _ => ⟨fun _ _ => rfl, rfl, id⟩⟩

instance (ps : List String) : Trans (Amends ps) (Amends ps) (Amends ps) :=
  ⟨fun h h' => ⟨fun p hp => (h'.facts p hp).trans (h.facts p hp), h'.rules.trans h.rules,
    fun ht => h'.tidy (h.tidy ht)⟩⟩

theorem Amends.mono {ps qs : List String} {b b' : FactBase} (h : Amends ps b b')
    (hs : ∀ p ∈ ps, p ∈ qs) : Amends qs b b' :=
  ⟨fun p hp => h.facts p fun hm => hp (hs p hm), h.rules, h.tidy⟩

theorem amends_insert (hf : Rule.isIdent f.predicate) : Amends [f.predicate] b (b.insert f) := by
  refine ⟨fun p hp => factsOf_insert_of_ne fun h => hp ?_, rules_insert, fun h => h.insert hf⟩
  exact List.mem_singleton.mpr h.symm

theorem amends_foldl_insert {facts : List Rule.Fact} (hp : Rule.isIdent p)
    (h : ∀ f ∈ facts, f.predicate = p) : Amends [p] b (facts.foldl FactBase.insert b) := by
  induction facts generalizing b with
  | nil => exact Std.Refl.refl b
  | cons f facts ih =>
    obtain ⟨rfl, hrest⟩ := List.forall_mem_cons.mp h
    exact Trans.trans (amends_insert hp) (ih hrest)

theorem amends_drop : Amends [p] b (b.drop p) :=
  ⟨fun _ hq => factsOf_drop_of_ne fun h => hq (List.mem_singleton.mpr h), rules_drop, fun h => h.drop p⟩

theorem length_factsOf_insert_le : ((b.insert f).factsOf p).length ≤ (b.factsOf p).length + 1 := by
  by_cases hf : b.holds f
  · rw [insert_of_holds hf]
    exact Nat.le_succ _
  · rw [factsOf_insert hf]
    split <;> simp

/-- After facts were told, there are at most those more. -/
theorem factsOf_foldl_insert (facts : List Rule.Fact) (b : FactBase) (p : String) :
    (∀ f ∈ (facts.foldl FactBase.insert b).factsOf p, f ∈ b.factsOf p ∨ f ∈ facts) ∧
      ((facts.foldl FactBase.insert b).factsOf p).length ≤ (b.factsOf p).length + facts.length := by
  induction facts generalizing b with
  | nil => exact ⟨fun f hf => .inl hf, Nat.le_refl _⟩
  | cons f facts ih =>
    obtain ⟨hmem, hlength⟩ := ih (b.insert f)
    refine ⟨fun g hg => ?_, ?_⟩
    · obtain hg | hg := hmem g hg
      · obtain ⟨hg, hp⟩ := mem_factsOf.mp hg
        obtain hg | rfl := mem_of_mem_insert hg
        · exact .inl (mem_factsOf.mpr ⟨hg, hp⟩)
        · exact .inr List.mem_cons_self
      · exact .inr (List.mem_cons_of_mem f hg)
    · have hone := length_factsOf_insert_le (b := b) (f := f) (p := p)
      rw [List.foldl_cons, List.length_cons]
      omega

/-- Facts that are written differently, and otherwise than those before, are all taken. -/
theorem facts_foldl_insert {facts : List Rule.Fact} {b : FactBase} (h : (facts.map Rule.Fact.write).Nodup)
    (hb : ∀ f ∈ facts, f.write ∉ b.texts) : (facts.foldl insert b).facts = b.facts ++ facts := by
  induction facts generalizing b with
  | nil => exact (List.append_nil _).symm
  | cons f facts ih =>
    obtain ⟨hf, hfacts⟩ := List.nodup_cons.mp h
    obtain ⟨hnew, hrest⟩ := List.forall_mem_cons.mp hb
    have hinsert : b.insert f = { b with facts := b.facts ++ [f], texts := f.write :: b.texts } := by
      rw [insert, holds, if_neg (by simpa using hnew)]
    rw [List.foldl_cons, hinsert, ih hfacts]
    · simp
    · intro g hg
      rw [List.mem_cons, not_or]
      exact ⟨fun he => hf (he ▸ List.mem_map_of_mem hg), hrest g hg⟩

/-! A base as a kernel. -/

section

variable {W : Type} {base : Part W FactBase}

theorem exists_on_tellAll (hb : base.Retains) (facts : List Rule.Fact) (w : W) :
    ∃ v, ((kernel base).tellAll facts).on w = (.ok (), v) ∧
      base.read v = facts.foldl insert (base.read w) := by
  induction facts generalizing w with
  | nil => exact ⟨w, rfl, rfl⟩
  | cons f facts ih =>
    have ht : ((kernel base).tell f).on w = (.ok (), base.write ((base.read w).insert f) w) := rfl
    obtain ⟨v, hv, hr⟩ := ih (base.write ((base.read w).insert f) w)
    refine ⟨v, (Act.on_forM_cons ht facts).trans hv, ?_⟩
    rw [hr, hb]
    rfl

theorem validate_base (rule : String) :
    (kernel base).validate rule = Act.ofOutcome (Rule.validateRule rule) := by
  dsimp only [kernel, Kernel.usual]

theorem onlyLost_retract (p : String) : Act.OnlyLost ((kernel base).retract p) :=
  Act.onlyLost_of_ok fun _ => ⟨_, _, rfl⟩

theorem onlyLost_tell (f : Rule.Fact) : Act.OnlyLost ((kernel base).tell f) :=
  Act.onlyLost_of_ok fun _ => ⟨_, _, rfl⟩

theorem onlyLost_tellAll (hb : base.Retains) (facts : List Rule.Fact) :
    Act.OnlyLost ((kernel base).tellAll facts) := by
  refine Act.onlyLost_of_ok fun w => ?_
  obtain ⟨v, hv, -⟩ := exists_on_tellAll hb facts w
  exact ⟨(), v, hv⟩

theorem moves_retract (hb : base.Retains) (p : String) :
    Act.Moves base.read (Amends [p]) ((kernel base).retract p) := by
  intro w
  show Amends [p] (base.read w) (base.read (base.write ((base.read w).drop p) w))
  rw [hb]
  exact amends_drop

theorem moves_tell (hb : base.Retains) {f : Rule.Fact} (hf : Rule.isIdent f.predicate) :
    Act.Moves base.read (Amends [f.predicate]) ((kernel base).tell f) := by
  intro w
  show Amends [f.predicate] (base.read w) (base.read (base.write ((base.read w).insert f) w))
  rw [hb]
  exact amends_insert hf

theorem moves_tellAll (hb : base.Retains) {p : String} (hp : Rule.isIdent p)
    {facts : List Rule.Fact} (hf : ∀ f ∈ facts, f.predicate = p) :
    Act.Moves base.read (Amends [p]) ((kernel base).tellAll facts) := by
  intro w
  obtain ⟨v, hv, hr⟩ := exists_on_tellAll hb facts w
  rw [hv, hr]
  exact amends_foldl_insert hp hf

end

end Utterance.FactBase
