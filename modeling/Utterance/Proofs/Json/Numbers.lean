import Utterance.Json.Printer
import Utterance.Proofs.Decimal.Whole
import Utterance.Proofs.Json.Outer

/-! A number in a container is read as it is read by itself: its characters are no others' and what divides
the parts of a container ends it. -/

namespace Utterance.Json

/-- What numbers are made of. -/
def isNumberChar (c : Char) : Bool :=
  c.isDigit || c == '-' || c == '+' || c == '.' || c == 'e'

theorem isNumberChar_of_isDigit {c : Char} (h : c.isDigit) : isNumberChar c := by
  simp [isNumberChar, h]

theorem beq_of_isNumberChar {c d : Char} (hc : isNumberChar c) (hd : isNumberChar d = false) :
    (c == d) = false := by
  rw [beq_eq_false_iff_ne]
  rintro rfl
  rw [hc] at hd
  cases hd

theorem isSpace_of_isNumberChar {c : Char} (h : isNumberChar c) : isSpace c = false := by
  have hne (d : Char) (hd : isNumberChar d = false) : (c == d) = false := beq_of_isNumberChar h hd
  rw [isSpace, hne ' ' (by decide), hne '\t' (by decide), hne '\n' (by decide), hne '\r' (by decide)]
  rfl

/-- Behind a whole value the reader goes on as it does behind any. -/
theorem step_complete (v : Json) (o : List Frame) (c : Char) :
    step (complete v o) c = stepAfter c (complete v o) := by
  cases o with
  | nil => rfl
  | cons f o => cases f <;> rfl

theorem stepAfter_numberChar {c : Char} (h : isNumberChar c) (v : Json) (o : List Frame) :
    stepAfter c (complete v o) = none := by
  have hs := isSpace_of_isNumberChar h
  have hcomma : (c == ',') = false := beq_of_isNumberChar h (by decide)
  have hbracket : (c == ']') = false := beq_of_isNumberChar h (by decide)
  have hbrace : (c == '}') = false := beq_of_isNumberChar h (by decide)
  cases o with
  | nil => simp [complete, stepAfter, hs]
  | cons f o => cases f <;> simp [complete, stepAfter, hs, hcomma, hbracket, hbrace]

/-- What belongs to a number is read alike, whatever is open around it. -/
theorem step_numberChar {c : Char} (h : isNumberChar c) (phase : NumberPhase) (t : NumberText)
    (o : List Frame) :
    step (.number phase t o) c = (stepNumber phase t c).map fun (phase, t) => .number phase t o := by
  cases hn : stepNumber phase t c with
  | some next => simp [step, hn]
  | none =>
    simp only [step, hn, Option.map_none, Option.bind_eq_none_iff]
    intro s hs
    unfold closeNumber at hs
    split at hs
    · obtain ⟨v, -, rfl⟩ := Option.map_eq_some_iff.mp hs
      exact stepAfter_numberChar h v o
    · cases hs

theorem stepValue_numberChar {c : Char} (h : isNumberChar c) (b : Bool) (o : List Frame) :
    stepValue b o c =
      if c == '-' then some (.number .minus { negative := true } o)
      else (stepNumber .minus {} c).map fun (phase, t) => .number phase t o := by
  have hs := isSpace_of_isNumberChar h
  have hne (d : Char) (hd : isNumberChar d = false) : (c == d) = false := beq_of_isNumberChar h hd
  simp [stepValue, hs, hne '"' (by decide), hne '{' (by decide), hne '[' (by decide), hne ']' (by decide),
    hne 't' (by decide), hne 'f' (by decide), hne 'n' (by decide)]

theorem run_numberChars {cs : List Char} (hcs : ∀ c ∈ cs, isNumberChar c) {phase : NumberPhase}
    {t : NumberText} {s : State} (h : run (.number phase t []) cs = some s) :
    ∃ phase' t', s = .number phase' t' [] ∧
      ∀ o, run (.number phase t o) cs = some (.number phase' t' o) := by
  induction cs generalizing phase t with
  | nil =>
    cases h
    exact ⟨phase, t, rfl, fun _ => rfl⟩
  | cons c cs ih =>
    obtain ⟨hc, hcs⟩ := List.forall_mem_cons.mp hcs
    simp only [run, step_numberChar hc] at h ⊢
    cases hn : stepNumber phase t c with
    | none =>
      rw [hn] at h
      cases h
    | some next =>
      rw [hn] at h
      exact ih hcs h

/-- What stands behind a value in a container. -/
def Divides (rest : List Char) : Prop :=
  ∃ c ∈ rest.head?, c = ',' ∨ c = ']' ∨ c = '}'

theorem stepNumber_divider {c : Char} (hc : c = ',' ∨ c = ']' ∨ c = '}') (phase : NumberPhase)
    (t : NumberText) : stepNumber phase t c = none := by
  rcases hc with rfl | rfl | rfl <;> cases phase <;> rfl

/-- A number that makes a whole text is read alike in a container. -/
theorem run_number {cs : List Char} (hcs : ∀ c ∈ cs, isNumberChar c) {v : Json} (h : written? cs = some v)
    (b : Bool) (o : List Frame) {rest : List Char} (hr : Divides rest) :
    run (.value b o) (cs ++ rest) = run (complete v o) rest := by
  obtain ⟨s, hs, hv⟩ := Option.bind_eq_some_iff.mp h
  cases cs with
  | nil =>
    cases hs
    cases hv
  | cons c cs =>
    obtain ⟨hc, hcs⟩ := List.forall_mem_cons.mp hcs
    obtain ⟨phase, t, hfirst⟩ : ∃ phase t, ∀ b o, stepValue b o c = some (.number phase t o) := by
      obtain ⟨u, hu, -⟩ := Option.bind_eq_some_iff.mp hs
      have hu : stepValue false [] c = some u := hu
      simp only [stepValue_numberChar hc] at hu ⊢
      split at hu
      case isTrue hm => exact ⟨_, _, fun _ _ => by rw [if_pos hm]⟩
      case isFalse hm =>
        obtain ⟨⟨phase, t⟩, hn, -⟩ := Option.map_eq_some_iff.mp hu
        exact ⟨phase, t, fun _ _ => by rw [if_neg hm, hn]; rfl⟩
    have hrun : run (.number phase t []) cs = some s := by
      rw [← hs, run, start, step, hfirst]
      rfl
    obtain ⟨phase', t', rfl, hall⟩ := run_numberChars hcs hrun
    obtain ⟨d, hd, hdivider⟩ := hr
    obtain ⟨tail, rfl⟩ := List.head?_eq_some_iff.mp hd
    have hclose : closeNumber phase' t' o = some (complete v o) := by
      simp only [State.result?] at hv
      split at hv
      case isTrue hend => rw [closeNumber, if_pos hend, hv]; rfl
      case isFalse => cases hv
    have hstep : step (.number phase' t' o) d = step (complete v o) d := by
      rw [step_complete]
      simp only [step, stepNumber_divider hdivider, hclose]
      rfl
    rw [List.cons_append, run, step, hfirst, Option.bind_some, run_append, hall, Option.bind_some, run, run,
      hstep]

/-! Whole numbers. -/

theorem run_digit {n : Nat} (hn : n < 10) (phase : NumberPhase) (t : NumberText) (o : List Frame)
    (hp : phase = .whole ∨ phase = .minus ∧ n ≠ 0) :
    run (.number phase t o) [n.digitChar] =
      some (.number .whole { t with whole := t.whole ++ [n.digitChar] } o) := by
  have hdigit : n.digitChar.isDigit := by simp [Nat.isDigit_digitChar, hn]
  have hstep : stepNumber phase t n.digitChar =
      some (.whole, { t with whole := t.whole ++ [n.digitChar] }) := by
    rcases hp with rfl | ⟨rfl, h0⟩
    · simp [stepNumber, hdigit]
    · simp [stepNumber, hdigit, h0]
  rw [run, step_numberChar (isNumberChar_of_isDigit hdigit), hstep]
  rfl

/-- The digits of a number above zero are read as its whole part. -/
theorem run_toDigits (t : NumberText) (o : List Frame) (n : Nat) (hn : n ≠ 0) :
    run (.number .minus t o) (Nat.toDigits 10 n) =
      some (.number .whole { t with whole := t.whole ++ Nat.toDigits 10 n } o) := by
  induction n using Nat.strongRecOn with
  | ind n ih =>
    by_cases hlt : n < 10
    · rw [Nat.toDigits_of_lt_base hlt]
      exact run_digit hlt _ t o (.inr ⟨rfl, hn⟩)
    · rw [Nat.toDigits_of_base_le (by decide) (by omega), run_append, ih (n / 10) (by omega) (by omega),
        Option.bind_some, run_digit (Nat.mod_lt n (by decide)) _ _ o (.inl rfl), List.append_assoc]

theorem value?_whole {n : Nat} (hn : n ≤ maxWord) (negative : Bool) (hs : negative → n ≠ 0 ∧ n ≤ 2 ^ 63) :
    NumberText.value? { negative, whole := Nat.toDigits 10 n } =
      some (.int (if negative then -(n : Int) else n)) := by
  have hw : ¬maxWord < n := by omega
  unfold NumberText.value?
  rw [Decimal.natOfDigits_toDigits]
  cases negative with
  | false => simp [hw]
  | true =>
    have hs := hs rfl
    have hsmall : ¬2 ^ 63 < n := by omega
    simp [hw, hs.1, hsmall]

/-- A whole number that fits a word is read back. -/
theorem written?_int {n : Int} (hl : -(2 ^ 63) ≤ n) (hu : n < 2 ^ 64) :
    written? (toString n).toList = some (.int n) := by
  rw [Decimal.toList_toString]
  have hw : n.natAbs ≤ maxWord := by
    unfold maxWord
    omega
  by_cases hneg : n < 0
  · have hv := value?_whole hw true fun _ => by omega
    have habs : -(n.natAbs : Int) = n := by omega
    rw [if_pos rfl, habs] at hv
    have hstart : step start '-' = some (.number .minus { negative := true } []) := rfl
    rw [Decimal.signOf, if_pos hneg, written?, List.singleton_append, run, hstart, Option.bind_some,
      run_toDigits _ _ _ (by omega)]
    exact hv
  · by_cases hzero : n = 0
    · subst hzero
      rfl
    · have hv := value?_whole hw false (by rintro ⟨⟩)
      have habs : (n.natAbs : Int) = n := by omega
      rw [if_neg (by decide), habs] at hv
      have hdigits := Decimal.all_isDigit_toDigits n.natAbs
      have hrun := run_toDigits {} [] n.natAbs (by omega)
      obtain ⟨c, cs, hc⟩ := List.exists_cons_of_ne_nil (Nat.toDigits_ne_nil (n := n.natAbs) (b := 10))
      rw [hc] at hdigits hrun hv
      have hdigit : isNumberChar c := isNumberChar_of_isDigit (List.all_eq_true.mp hdigits c List.mem_cons_self)
      have hminus : (c == '-') = false := by
        rw [beq_eq_false_iff_ne]
        rintro rfl
        cases hdigits
      have hstart : step start c = step (.number .minus {} []) c := by
        rw [step_numberChar hdigit]
        exact (stepValue_numberChar hdigit false []).trans (if_neg (by simp [hminus]))
      rw [Decimal.signOf, if_neg hneg, List.nil_append, hc, written?, run, hstart]
      rw [run] at hrun
      rw [hrun]
      exact hv

theorem isNumberChar_toString (n : Int) : ∀ c ∈ (toString n).toList, isNumberChar c := by
  intro c hc
  rw [Decimal.toList_toString, List.mem_append] at hc
  rcases hc with hc | hc
  · unfold Decimal.signOf at hc
    split at hc
    · rw [List.mem_singleton.mp hc]
      rfl
    · cases hc
  · exact isNumberChar_of_isDigit (List.all_eq_true.mp (Decimal.all_isDigit_toDigits _) c hc)

/-! Doubles. -/

theorem all_digits_ofNat (n : Nat) (point : Int) :
    (Decimal.Digits.ofNat n point).digits.all isNumberChar := by
  rw [List.all_eq_true]
  intro c hc
  have hc : c ∈ (Nat.toDigits 10 n).reverse :=
    (List.dropWhile_suffix _).subset (List.mem_reverse.mp hc)
  have hdigits := List.all_eq_true.mp (Decimal.all_isDigit_toDigits n)
  exact isNumberChar_of_isDigit (hdigits c (List.mem_reverse.mp hc))

theorem all_digits_search (i : Decimal.Interval) (tie : Decimal.Tie) (k : Int) (fuel n : Nat) :
    (i.search tie k fuel n).digits.all isNumberChar := by
  induction fuel generalizing n with
  | zero => exact all_digits_ofNat _ _
  | succ fuel ih =>
    rw [Decimal.Interval.search]
    split
    · exact ih (n + 1)
    · exact all_digits_ofNat _ _

theorem all_digits_shortest (tie : Decimal.Tie) (m : Nat) (q : Int) :
    (Decimal.shortest tie m q).digits.all isNumberChar := by
  unfold Decimal.shortest
  split
  · rfl
  · exact all_digits_search _ tie _ _ _

theorem all_zeros (n : Nat) : (Decimal.zeros n).all isNumberChar := by
  simp [Decimal.zeros, isNumberChar]

theorem all_of_subset {cs ds : List Char} (hs : cs ⊆ ds) (h : ds.all isNumberChar) :
    cs.all isNumberChar :=
  List.all_eq_true.mpr fun c hc => List.all_eq_true.mp h c (hs hc)

theorem all_orZero {cs : List Char} (h : cs.all isNumberChar) :
    (if cs.isEmpty then ['0'] else cs).all isNumberChar := by
  split
  · rfl
  · exact h

theorem all_positional {d : Decimal.Digits} (h : d.digits.all isNumberChar) (keepsFraction : Bool) :
    (Decimal.positional keepsFraction d).all isNumberChar := by
  have hmore (n : Nat) : (d.digits ++ Decimal.zeros n).all isNumberChar := by
    rw [List.all_append, h, all_zeros, Bool.and_self]
  have htake (n : Nat) : (d.digits.take n).all isNumberChar := all_of_subset (List.take_subset n _) h
  have hdrop (n : Nat) : (d.digits.drop n).all isNumberChar := all_of_subset (List.drop_subset n _) h
  have hpoint : isNumberChar '.' := rfl
  unfold Decimal.positional
  split
  · dsimp only
    split
    · rw [List.all_append, all_orZero (hmore _)]
      cases keepsFraction <;> rfl
    · rw [List.all_append, all_orZero (htake _), List.all_cons, hdrop, hpoint]
      rfl
  · rw [List.append_assoc, List.all_append, List.all_append, all_zeros, h]
    rfl

theorem all_scientific {d : Decimal.Digits} (h : d.digits.all isNumberChar) (signsExponent : Bool) :
    (Decimal.scientific signsExponent d).all isNumberChar := by
  have htake (n : Nat) : (d.digits.take n).all isNumberChar := all_of_subset (List.take_subset n _) h
  have hdrop (n : Nat) : (d.digits.drop n).all isNumberChar := all_of_subset (List.drop_subset n _) h
  have htail : (if (d.digits.drop 1).isEmpty then [] else '.' :: d.digits.drop 1).all isNumberChar := by
    split
    · rfl
    · rw [List.all_cons, hdrop]
      rfl
  have hplus : (if signsExponent && 1 < d.point then ['+'] else []).all isNumberChar := by
    split <;> rfl
  have hexponent : (toString (d.point - 1)).toList.all isNumberChar :=
    List.all_eq_true.mpr (isNumberChar_toString _)
  unfold Decimal.scientific
  dsimp only
  rw [List.all_append, List.all_append, List.all_append, List.all_append, htake, htail, hplus, hexponent]
  rfl

/-- A double is written with the characters of numbers, unless it is written as a word. -/
theorem writeFloat_cases (x : Float) :
    writeFloat x = ['n', 'u', 'l', 'l'] ∨ (writeFloat x).all isNumberChar := by
  unfold writeFloat
  split
  case h_2 => exact .inl rfl
  case h_1 negative m q hx =>
    right
    have hd := all_digits_shortest .toEven m q
    unfold Decimal.Layout.render
    rw [hx]
    dsimp only
    rw [String.toList_ofList, List.all_append]
    have hmagnitude : (Decimal.json.magnitude (Decimal.shortest .toEven m q)).all isNumberChar := by
      unfold Decimal.Layout.magnitude
      dsimp only
      split
      · exact all_positional hd _
      · exact all_scientific hd _
    have hsign : (if negative then ['-'] else []).all isNumberChar := by
      split <;> rfl
    rw [hsign, Bool.true_and]
    exact hmagnitude

end Utterance.Json
