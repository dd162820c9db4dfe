import Utterance.Proofs.Kernel.Loading

/-! What stays open in an accepted rule once its conditions have given terms to their variables: nothing but
the blank variable, which is passed over wherever it stands. -/

namespace Utterance.Rule

/-! Terms in the place of variables. -/

/-- An argument with the term of its variable, if that has one. -/
def Arg.fill (σ : String → Option Term) : Arg → Arg
  | .term t => .term t
  | .var name => (σ name).elim (.var name) .term

def Literal.fill (σ : String → Option Term) (l : Literal) : Literal :=
  { l with args := l.args.map (Arg.fill σ) }

def Arg.isGround : Arg → Bool
  | .term _ => true
  | .var _ => false

def Literal.isGround (l : Literal) : Bool :=
  l.args.all Arg.isGround

/-- A choice of terms for the named variables of the conditions that hold, and for no others. -/
def Clause.IsFilledBy (c : Clause) (σ : String → Option Term) : Prop :=
  ∀ name, (σ name).isSome ↔ name ≠ "_" ∧ ∃ l, .holds l ∈ c.body ∧ .var name ∈ l.args

/-- The arguments of a condition that bind nothing. -/
def BodyItem.dependents : BodyItem → List Arg
  | .holds _ => []
  | .fails l => l.args
  | .compare left _ right => [left, right]

/-- The arguments of a clause that bind nothing: those of its head, of negations and of comparisons. -/
def Clause.dependents (c : Clause) : List Arg :=
  c.head.args ++ c.body.flatMap BodyItem.dependents

theorem varName?_eq_some_iff {a : Arg} {name : String} :
    a.varName? = some name ↔ a = .var name ∧ name ≠ "_" := by
  cases a with
  | term t => simp [Arg.varName?]
  | var x =>
    simp only [Arg.varName?, Arg.var.injEq]
    split
    case isTrue h =>
      rw [beq_iff_eq] at h
      subst h
      grind
    case isFalse h =>
      rw [beq_iff_eq] at h
      grind

theorem mem_variables_iff {l : Literal} {name : String} :
    name ∈ l.variables ↔ .var name ∈ l.args ∧ name ≠ "_" := by
  rw [Literal.variables, List.mem_filterMap]
  constructor
  · rintro ⟨a, ha, hname⟩
    obtain ⟨rfl, hblank⟩ := varName?_eq_some_iff.mp hname
    exact ⟨ha, hblank⟩
  · rintro ⟨ha, hblank⟩
    exact ⟨_, ha, varName?_eq_some_iff.mpr ⟨rfl, hblank⟩⟩

theorem mem_binds_iff {c : Clause} {name : String} :
    name ∈ c.body.flatMap BodyItem.binds ↔
      name ≠ "_" ∧ ∃ l, .holds l ∈ c.body ∧ .var name ∈ l.args := by
  rw [List.mem_flatMap]
  constructor
  · rintro ⟨item, hitem, hname⟩
    cases item with
    | holds l =>
      obtain ⟨hvar, hblank⟩ := mem_variables_iff.mp hname
      exact ⟨hblank, l, hitem, hvar⟩
    | fails l => cases hname
    | compare left op right => cases hname
  · rintro ⟨hblank, l, hl, hvar⟩
    exact ⟨.holds l, hl, mem_variables_iff.mpr ⟨hvar, hblank⟩⟩

theorem needs_eq (item : BodyItem) : item.needs = item.dependents.filterMap Arg.varName? := by
  cases item <;> rfl

theorem isGround_iff_groundArgs? (args : List Arg) :
    args.all Arg.isGround = (groundArgs? args).isSome := by
  induction args with
  | nil => rfl
  | cons a args ih =>
    cases a with
    | term t => simp [groundArgs?, Arg.isGround, ih]
    | var name => rfl

/-! Clauses without a fault. -/

theorem fault?_fact_iff {c : Clause} (hb : c.body = []) : c.fault? = none ↔ c.head.isGround := by
  rw [Clause.fault?, hb, List.isEmpty_nil, if_pos rfl, Literal.isGround, isGround_iff_groundArgs?]
  split <;> simp_all

theorem find?_unbound_iff {bound names : List String} :
    names.find? (!bound.contains ·) = none ↔ ∀ name ∈ names, name ∈ bound := by
  simp [List.find?_eq_none]

/-- A rule has no fault exactly if every named variable that binds nothing is bound elsewhere. -/
theorem fault?_rule_iff {c : Clause} (hb : c.body ≠ []) :
    c.fault? = none ↔
      ∀ name ∈ c.dependents.filterMap Arg.varName?, name ∈ c.body.flatMap BodyItem.binds := by
  have hneeds : c.body.flatMap BodyItem.needs =
      (c.body.flatMap BodyItem.dependents).filterMap Arg.varName? := by
    rw [List.filterMap_flatMap]
    exact congrArg (c.body.flatMap ·) (funext needs_eq)
  have hempty : c.body.isEmpty = false := by simpa using hb
  rw [Clause.dependents, List.filterMap_append, ← hneeds, List.forall_mem_append, Clause.fault?,
    hempty, if_neg Bool.false_ne_true]
  dsimp only
  split
  case h_1 name hfind =>
    refine iff_of_false (by simp) fun h => ?_
    have hnone := find?_unbound_iff.mpr h.1
    rw [← Literal.variables, hfind] at hnone
    cases hnone
  case h_2 hfind =>
    rw [Option.map_eq_none_iff, find?_unbound_iff]
    exact (and_iff_right (find?_unbound_iff.mp hfind)).symm

/-- The choice that gives every variable of the conditions that hold the same term. -/
def Clause.zeros (c : Clause) (name : String) : Option Term :=
  if (c.body.flatMap BodyItem.binds).contains name then some (.int 0) else none

theorem isSome_zeros (c : Clause) (name : String) :
    (c.zeros name).isSome ↔ name ∈ c.body.flatMap BodyItem.binds := by
  rw [Clause.zeros, List.contains_iff_mem.symm]
  split <;> simp_all

theorem isFilledBy_zeros (c : Clause) : c.IsFilledBy c.zeros := fun name =>
  (isSome_zeros c name).trans mem_binds_iff

theorem isGround_fill_var (σ : String → Option Term) (name : String) :
    ((Arg.var name).fill σ).isGround = (σ name).isSome := by
  rw [Arg.fill]
  cases σ name <;> rfl

/-- Terms for the variables that are bound leave nothing open in a rule but blanks exactly if it has no
fault. -/
theorem fault?_eq_none_iff_fill {c : Clause} (hb : c.body ≠ []) :
    c.fault? = none ↔ ∀ σ, c.IsFilledBy σ →
      ∀ a ∈ c.dependents, (a.fill σ).isGround ↔ a ≠ .var "_" := by
  rw [fault?_rule_iff hb]
  constructor
  · intro h σ hσ a ha
    cases a with
    | term t => simp [Arg.fill, Arg.isGround]
    | var name =>
      rw [isGround_fill_var, hσ name, ← mem_binds_iff]
      by_cases hblank : name = "_"
      · subst hblank
        exact iff_of_false (fun hm => (mem_binds_iff.mp hm).1 rfl) (by simp)
      · have hname : (Arg.var name).varName? = some name := varName?_eq_some_iff.mpr ⟨rfl, hblank⟩
        refine iff_of_true (h name (List.mem_filterMap.mpr ⟨_, ha, hname⟩)) ?_
        simpa using hblank
  · intro h name hname
    obtain ⟨a, ha, hvar⟩ := List.mem_filterMap.mp hname
    obtain ⟨rfl, hblank⟩ := varName?_eq_some_iff.mp hvar
    have hground := (h c.zeros (isFilledBy_zeros c) (.var name) ha).mpr (by simpa using hblank)
    rwa [isGround_fill_var, isSome_zeros] at hground

theorem isGround_fill_literal {σ : String → Option Term} {l : Literal}
    (h : ∀ a ∈ l.args, (a.fill σ).isGround ↔ a ≠ .var "_") :
    (l.fill σ).isGround ↔ .var "_" ∉ l.args := by
  rw [Literal.isGround, Literal.fill, List.all_map, List.all_eq_true]
  constructor
  · intro hall hblank
    exact (h _ hblank).mp (hall _ hblank) rfl
  · intro hblank a ha
    refine (h a ha).mpr ?_
    rintro rfl
    exact hblank ha

/-! Accepted rules. -/

theorem validateRule_iff {rule : String} {c : Clause}
    (hlast : (Text.trimmed rule).toList.getLast? = some '.')
    (hp : parseProgram (Text.trimmed rule) = .ok [c]) :
    validateRule rule = .ok () ↔ c.fault? = none := by
  constructor
  · intro h
    obtain ⟨d, hd, hf⟩ := exists_of_validateRule h
    cases hd.symm.trans (parseProgram_of_trimmed hp)
    exact hf
  · intro hf
    rw [validateRule, checkRule_of_parseProgram hlast hp hf]

/-- An accepted fact is ground. Once the conditions of an accepted rule that hold have given terms to their
variables, the head is ground unless a blank stands in it, and a comparison has two ground sides unless one
of them is blank. A rule of the right form is refused exactly if anything else is left open in its head, in a
negation or in a comparison. -/
theorem ground_iff_of_accepted (rule : String) :
    (validateRule rule = .ok () → ∃ c, parseProgram rule = .ok [c] ∧
      (c.body = [] → c.head.isGround) ∧
      (c.body ≠ [] → ∀ σ, c.IsFilledBy σ →
        ((c.head.fill σ).isGround ↔ .var "_" ∉ c.head.args) ∧
        ∀ left op right, .compare left op right ∈ c.body →
          ((left.fill σ).isGround ↔ left ≠ .var "_") ∧
            ((right.fill σ).isGround ↔ right ≠ .var "_"))) ∧
    ∀ c, (Text.trimmed rule).toList.getLast? = some '.' →
      parseProgram (Text.trimmed rule) = .ok [c] → c.body ≠ [] →
      (validateRule rule = .ok () ↔ ∀ σ, c.IsFilledBy σ →
        ∀ a ∈ c.dependents, (a.fill σ).isGround ↔ a ≠ .var "_") := by
  refine ⟨fun h => ?_, fun c hlast hp hb => ?_⟩
  · obtain ⟨c, hp, hf⟩ := exists_of_validateRule h
    refine ⟨c, hp, fun hb => (fault?_fact_iff hb).mp hf, fun hb σ hσ => ?_⟩
    have hopen := (fault?_eq_none_iff_fill hb).mp hf σ hσ
    obtain ⟨hhead, hbody⟩ := List.forall_mem_append.mp hopen
    refine ⟨isGround_fill_literal hhead, fun left op right hcompare => ?_⟩
    have hsides : ∀ a ∈ [left, right], a ∈ c.body.flatMap BodyItem.dependents :=
      fun a ha => List.mem_flatMap.mpr ⟨_, hcompare, ha⟩
    exact ⟨hbody left (hsides left (by simp)), hbody right (hsides right (by simp))⟩
  · exact (validateRule_iff hlast hp).trans (fault?_eq_none_iff_fill hb)

/-- A rule with blanks where they do no harm. -/
def measuredRule : String := "big(X, \"a\") :- size(X, N), told(_), !gone(N, _), N > 100."

/-- The clause of that rule. -/
def measuredClause : Clause where
  head := ⟨"big", [.var "X", .term (.str "a")]⟩
  body := [.holds ⟨"size", [.var "X", .var "N"]⟩, .holds ⟨"told", [.var "_"]⟩,
    .fails ⟨"gone", [.var "N", .var "_"]⟩, .compare (.var "N") .gt (.term (.int 100))]

/-- A rule whose head names what nothing binds. -/
def strayClause : Clause where
  head := ⟨"big", [.var "X"]⟩
  body := [.holds ⟨"size", [.var "Y"]⟩]

theorem ground_iff_of_accepted_measuredRule :
    validateRule measuredRule = .ok () ∧ parseProgram measuredRule = .ok [measuredClause] ∧
      (∀ σ, measuredClause.IsFilledBy σ →
        (measuredClause.head.fill σ).isGround ∧ ((Arg.var "N").fill σ).isGround) ∧
      parseProgram "big(X) :- size(Y)." = .ok [strayClause] ∧
      validateRule "big(X) :- size(Y)." ≠ .ok () := by
  have hv : validateRule measuredRule = .ok () := by rfl
  have hp : parseProgram measuredRule = .ok [measuredClause] := by rfl
  have hs : parseProgram "big(X) :- size(Y)." = .ok [strayClause] := by rfl
  refine ⟨hv, hp, fun σ hσ => ?_, hs, fun hstray => ?_⟩
  · obtain ⟨c, hc, -, hground⟩ := (ground_iff_of_accepted measuredRule).1 hv
    cases hc.symm.trans hp
    obtain ⟨hhead, hcompare⟩ := hground (List.cons_ne_nil _ _) σ hσ
    have hsides := hcompare (.var "N") .gt (.term (.int 100)) (by simp [measuredClause])
    exact ⟨hhead.mpr (by simp [measuredClause]), hsides.1.mpr (by simp)⟩
  · have hleft := ((ground_iff_of_accepted "big(X) :- size(Y).").2 strayClause (by rfl) (by rfl)
      (List.cons_ne_nil _ _)).mp hstray strayClause.zeros (isFilledBy_zeros _) (.var "X")
      (List.mem_append_left _ List.mem_cons_self)
    have hopen : ((Arg.var "X").fill strayClause.zeros).isGround = false := by decide +kernel
    rw [hopen] at hleft
    exact Bool.false_ne_true (hleft.mpr (by simp))

/-- The clause of a rule that is accepted although nothing binds its head or its comparison. -/
def blankClause : Clause where
  head := ⟨"seen", [.var "_"]⟩
  body := [.holds ⟨"told", [.var "X"]⟩, .compare (.var "_") .gt (.term (.int 1))]

theorem not_ground_blankClause :
    ¬ ∀ rule, validateRule rule = .ok () → ∀ c, parseProgram rule = .ok [c] → c.body ≠ [] →
      ∀ σ, c.IsFilledBy σ → (c.head.fill σ).isGround ∧
        ∀ left op right, .compare left op right ∈ c.body →
          (left.fill σ).isGround ∧ (right.fill σ).isGround := by
  intro h
  have hground := (h "seen(_) :- told(X), _ > 1." (by rfl) blankClause (by rfl) (List.cons_ne_nil _ _)
    blankClause.zeros (isFilledBy_zeros _)).1
  revert hground
  decide +kernel

end Utterance.Rule
