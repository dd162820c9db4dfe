import Utterance.Decimal.Read

/-! Whole numbers are read back from their decimal text. -/

namespace Utterance.Decimal

theorem natOfDigits_toDigits (n : Nat) : natOfDigits (Nat.toDigits 10 n) = n := by
  have h : natOfDigits (Nat.toDigits 10 n) = Nat.ofDigitChars 10 (Nat.toDigits 10 n) 0 := by
    simp [natOfDigits, Nat.ofDigitChars_eq_foldl, Nat.mul_comm]
  rw [h, Nat.ofDigitChars_ten_toDigits]

theorem all_isDigit_toDigits (n : Nat) : (Nat.toDigits 10 n).all Char.isDigit := by
  rw [List.all_eq_true]
  exact fun c hc => Nat.isDigit_of_mem_toDigits (by decide) (by decide) hc

/-- The sign of a whole number as it is written. -/
def signOf (n : Int) : List Char :=
  if n < 0 then ['-'] else []

theorem toList_toString (n : Int) : (toString n).toList = signOf n ++ Nat.toDigits 10 n.natAbs := by
  cases n with
  | ofNat m =>
    show m.repr.toList = _
    simp [signOf, Nat.toList_repr]
  | negSucc m =>
    show ("-" ++ (m + 1).repr).toList = _
    simp [signOf, Nat.toList_repr]

theorem not_mem_toString {c : Char} (hc : c.isDigit = false) (hm : c ≠ '-') (n : Int) :
    c ∉ (toString n).toList := by
  have hs : c ∉ signOf n := by
    unfold signOf
    split
    · rwa [List.mem_singleton]
    · exact List.not_mem_nil
  have hd : c ∉ Nat.toDigits 10 n.natAbs := by
    intro h
    have hdigit := List.all_eq_true.mp (all_isDigit_toDigits n.natAbs) c h
    rw [hc] at hdigit
    cases hdigit
  rw [toList_toString, List.mem_append, not_or]
  exact ⟨hs, hd⟩

/-- What the text of a whole number is read as, where its sign is allowed. -/
theorem int?_toString_eq {low high n : Int} (hs : n < 0 → low < 0) :
    int? low high (toString n) =
      if high < n then .error .tooLarge else if n < low then .error .tooSmall else .ok n := by
  have hd := all_isDigit_toDigits n.natAbs
  have hn := natOfDigits_toDigits n.natAbs
  obtain ⟨c, cs, hc⟩ := List.exists_cons_of_ne_nil (Nat.toDigits_ne_nil (n := n.natAbs) (b := 10))
  rw [hc] at hd hn
  have hne : ∀ d : Char, d.isDigit = false → c ≠ d := by
    rintro d hd' rfl
    simp [hd'] at hd
  unfold int?
  rw [toList_toString, hc]
  by_cases h : n < 0
  · have ha : (natOfDigits (c :: cs) : Int) = -n := by
      rw [hn]
      omega
    simp only [signOf, h, ↓reduceIte, List.singleton_append, hs h]
    simp [hd, ha]
  · have ha : (natOfDigits (c :: cs) : Int) = n := by
      rw [hn]
      omega
    simp only [signOf, h, ↓reduceIte, List.nil_append]
    split
    case h_1 heq => exact absurd (List.cons.inj heq).1 (hne '-' rfl)
    case h_2 heq => exact absurd (List.cons.inj heq).1 (hne '+' rfl)
    · simp [hd, ha]

theorem int?_toString {low high n : Int} (hl : low ≤ n) (hh : n ≤ high) :
    int? low high (toString n) = .ok n := by
  rw [int?_toString_eq (by omega), if_neg (Int.not_lt.mpr hh), if_neg (Int.not_lt.mpr hl)]

/-- A word of 64 bits is read back from its decimal text. -/
theorem int64?_toString {n : Int} (hl : -(2 ^ 63) ≤ n) (hu : n < 2 ^ 63) :
    int64? (toString n) = .ok n :=
  int?_toString hl (by omega)

end Utterance.Decimal
