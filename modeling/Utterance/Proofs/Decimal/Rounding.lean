import Utterance.Decimal.Read
import Utterance.Proofs.Decimal.Bounds
import Utterance.Proofs.Decimal.Whole
import Utterance.Proofs.Text.Blank

/-! A double that is not negative is rounded to a whole number that is none either, and such a number is
read as a finite double that is not negative. -/

namespace Utterance.Decimal

open Float.Model Float.Model.UnpackedFloat

/-! The bits of a double. -/

theorem toNat_unpackSign (b : BitVec 64) : (@unpackSign .binary64 b).toNat = b.toNat / 2 ^ 63 % 2 := by
  have h : (@unpackSign .binary64 b).toNat = (b.extractLsb 63 63).toNat := rfl
  rw [h, BitVec.extractLsb_toNat, Nat.shiftRight_eq_div_pow]

theorem toNat_unpackExponent (b : BitVec 64) :
    (@unpackExponent .binary64 b).toNat = b.toNat / 2 ^ 52 % 2048 := by
  have h : (@unpackExponent .binary64 b).toNat = (b.extractLsb 62 52).toNat := rfl
  rw [h, BitVec.extractLsb_toNat, Nat.shiftRight_eq_div_pow]

theorem toNat_unpackMantissa (b : BitVec 64) :
    (@unpackMantissa .binary64 b).toNat = b.toNat % 2 ^ 52 := by
  have h : (@unpackMantissa .binary64 b).toNat = (b.extractLsb 51 0).toNat := rfl
  rw [h, BitVec.extractLsb_toNat]
  simp

/-- Of the doubles whose sign is a minus only zero is not negative. -/
theorem parts_of_sign {x : Float} (h : IsNonneg x.toModel.unpack) (hs : 2 ^ 63 ≤ x.toBits.toNat) :
    parts x = .finite true 0 (-1074) := by
  let b : BitVec 64 := x.toModel.toBits.toBitVec
  have hb : x.toBits.toNat = b.toNat := rfl
  have hu : UnpackedFloat.unpack .binary64 b = x.toModel.unpack := rfl
  have hsign : Sign.ofBitVec (@unpackSign .binary64 b) = .negative := by
    have hone : @unpackSign .binary64 b = 1#1 := by
      apply BitVec.eq_of_toNat_eq
      have hlt : b.toNat < 2 ^ 64 := b.isLt
      rw [toNat_unpackSign]
      rw [hb] at hs
      show _ = 1
      omega
    rw [hone]
    rfl
  rw [← hu] at h
  obtain ⟨-, h' | h'⟩ | ⟨he, ⟨hm, -⟩ | ⟨_, h'⟩⟩ | ⟨-, -, _, h'⟩ := unpack_cases b
  · rw [h', hsign] at h
    cases h
  · rw [h'] at h
    cases h
  · have hexponent : b.toNat / 2 ^ 52 % 2048 = 0 := by
      rw [← toNat_unpackExponent, he]
      rfl
    have hfraction : b.toNat % 2 ^ 52 = 0 := by
      rw [← toNat_unpackMantissa, hm]
      rfl
    rw [hb] at hs
    unfold parts
    rw [hb]
    simp only [hexponent, hfraction, hs, decide_true]
    rfl
  · rw [h', hsign] at h
    cases h
  · rw [h', hsign] at h
    cases h

theorem parts_of_no_sign {x : Float} (hs : ¬2 ^ 63 ≤ x.toBits.toNat) :
    parts x = .nan ∨ parts x = .infinite false ∨ ∃ m q, parts x = .finite false m q := by
  unfold parts
  simp only [hs, decide_false]
  split
  · split
    · exact .inr (.inl rfl)
    · exact .inl rfl
  · split
    · exact .inr (.inr ⟨_, _, rfl⟩)
    · exact .inr (.inr ⟨_, _, rfl⟩)

theorem nonneg_nearestInt64 {x : Float} (h : IsNonneg x.toModel.unpack) : 0 ≤ nearestInt64 x := by
  unfold nearestInt64
  by_cases hs : 2 ^ 63 ≤ x.toBits.toNat
  · rw [parts_of_sign h hs]
    decide +kernel
  · have hp := parts_of_no_sign hs
    generalize parts x = p at hp ⊢
    obtain rfl | rfl | ⟨m, q, rfl⟩ := hp
    · decide
    · decide
    · dsimp only
      split
      · contradiction
      · omega

/-! Quotients. -/

theorem roundHalfEven_le (num den : Nat) : roundHalfEven num den ≤ num / den + 1 := by
  unfold roundHalfEven
  dsimp only
  split <;> omega

/-- A quotient and what it is rounded to are at most half apart. -/
theorem roundHalfEven_near (num : Nat) {den : Nat} (hd : 0 < den) :
    2 * num ≤ 2 * (roundHalfEven num den * den) + den ∧ 2 * (roundHalfEven num den * den) ≤ 2 * num + den := by
  have hdiv := Nat.div_add_mod num den
  have hmod := Nat.mod_lt num hd
  unfold roundHalfEven
  rw [Nat.mul_comm] at hdiv
  dsimp only
  split
  case isTrue h =>
    have hup : den ≤ 2 * (num % den) := by
      simp only [Bool.or_eq_true, decide_eq_true_eq, Bool.and_eq_true, beq_iff_eq] at h
      omega
    rw [Nat.add_mul, Nat.one_mul]
    omega
  case isFalse h =>
    have hdown : 2 * (num % den) ≤ den := by
      simp only [Bool.or_eq_true, decide_eq_true_eq, Bool.and_eq_true, beq_iff_eq] at h
      omega
    omega

/-! Products. -/

theorem unpack_hundred :
    (100 : Float).toModel.unpack = .finite .positive (100 * 2 ^ 46) (-46) (by decide) := by
  rfl

theorem nonneg_mul_hundred {a : Float} (h : IsNonneg a.toModel.unpack) :
    IsNonneg (a * 100).toModel.unpack := by
  have hm := isNonneg_repacked (isNonneg_mul h (100 * 2 ^ 46) (-46) (by decide))
  rw [← unpack_hundred] at hm
  exact hm

/-! Whole numbers. -/

theorem isAtMost_ofScientific {m : Nat} {e : Int} (hm : m < 2 ^ 63) (he : e = 0) :
    IsAtMost 64 (UnpackedFloat.ofScientific .binary64 m e) := by
  unfold UnpackedFloat.ofScientific
  by_cases h0 : m = 0
  · rw [dif_pos h0]
    trivial
  rw [dif_neg h0]
  refine iteInduction (motive := IsAtMost 64) (fun h => ?_) fun _ => ?_
  · rw [he] at h
    exact absurd h (by decide)
  refine iteInduction (motive := IsAtMost 64) (fun _ => trivial) fun _ => ?_
  refine iteInduction (motive := IsAtMost 64) (fun _ => ?_) fun h => absurd (Int.le_of_eq he.symm) h
  have ht : e.toNat = 0 := by omega
  have hlt : m <<< 53 * 10 ^ e.toNat < 2 ^ (64 - (-53 + 0) : Int).toNat := by
    have hp : 2 ^ (64 - (-53 + 0) : Int).toNat = 2 ^ 64 * 2 ^ 53 := by decide
    rw [ht, Nat.shiftLeft_eq, Nat.pow_zero, Nat.mul_one, hp]
    omega
  exact isAtMost_roundWithAccuracy (by decide) (by decide) hlt _ _

/-- A word is at most a power of two as a double. -/
theorem atMost_ofScientific_word {m : Nat} (hm : m < 2 ^ 63) :
    IsAtMost 64 (Float.ofScientific m false 0).toModel.unpack := by
  by_cases h : m < 2 ^ 53
  · exact (atMost_ofScientific (n := 53) (Nat.le_refl _) h).mono (by decide)
  · have hslow : ¬(m < 2 ^ 53 ∧ 0 ≤ 22) := fun hm => h hm.1
    unfold Float.ofScientific
    rw [dif_neg hslow]
    exact isAtMost_repacked (by decide) (by decide) (isAtMost_ofScientific hm rfl)

theorem nearest_whole {m : Nat} (hm : m < 10 ^ 330) :
    nearest m 0 = if m = 0 then 0 else Float.ofScientific m false 0 := by
  have hl : (Nat.toDigits 10 m).length ≤ 330 :=
    (Nat.length_toDigits_le_iff (by decide) (by decide)).mpr hm
  have h1 : ¬((Nat.toDigits 10 m).length : Int) + 0 > 330 := by omega
  have h2 : ¬((Nat.toDigits 10 m).length : Int) + 0 < -400 := by omega
  unfold nearest
  simp only [if_neg h1, if_neg h2]

theorem nearest_word {m : Nat} (hm : m < 2 ^ 63) :
    nearest m 0 = if m = 0 then 0 else Float.ofScientific m false 0 :=
  nearest_whole (Nat.lt_trans hm (by decide +kernel))

/-- What is finite and not negative stays so when its bits are read as a double. -/
theorem ofBits_toBits {x : Float} (h : IsNonneg x.toModel.unpack) (h' : IsAtMost 64 x.toModel.unpack) :
    (Float.ofBits x.toBits).isFinite ∧ 0 ≤ Float.ofBits x.toBits := by
  have hn : IsNonneg (Float.ofBits x.toBits).toModel.unpack := isNonneg_repacked h
  have ha : IsAtMost 64 (Float.ofBits x.toBits).toModel.unpack :=
    isAtMost_repacked (by decide) (by decide) h'
  refine ⟨?_, (zero_le_iff _).mpr hn⟩
  have hf : (Float.ofBits x.toBits).isFinite = (Float.ofBits x.toBits).toModel.unpack.isFinite := rfl
  rw [hf]
  cases hu : (Float.ofBits x.toBits).toModel.unpack with
  | notANumber =>
    rw [hu] at hn
    cases hn
  | infinity s =>
    rw [hu] at hn ha
    cases hn
    cases ha
  | zero => rfl
  | finite => rfl

theorem magnitude?_toDigits (m : Nat) : magnitude? (Nat.toDigits 10 m) = some (nearest m 0) := by
  have hd : ∀ c ∈ Nat.toDigits 10 m, c.isDigit = true := by simpa using all_isDigit_toDigits m
  have htake : (Nat.toDigits 10 m ++ []).takeWhile Char.isDigit = Nat.toDigits 10 m ++ [] :=
    List.takeWhile_append_of_pos hd
  have hdrop : (Nat.toDigits 10 m ++ []).dropWhile Char.isDigit = [] :=
    List.dropWhile_append_of_pos hd
  rw [List.append_nil] at htake hdrop
  have hne : (Nat.toDigits 10 m).isEmpty = false := by simp [Nat.toDigits_ne_nil]
  unfold magnitude?
  simp only [htake, hdrop, hne, Bool.false_and, List.append_nil, natOfDigits_toDigits]
  rfl

theorem not_isDigit_of_mem {c : Char} (hc : c.isDigit) {d : Char} (hd : d.isDigit = false) : c ≠ d := by
  rintro rfl
  rw [hc] at hd
  cases hd

theorem toLower_of_isDigit {c : Char} (hc : c.isDigit) : c.toLower = c := by
  obtain h | ⟨h, -, -⟩ := Text.toLower_cases c
  · exact h
  · simp [Char.isDigit, UInt32.le_iff_toNat_le] at hc
    omega

/-- Digits are neither a sign nor a word for what is no finite number. -/
theorem double?_toString (m : Nat) : double? (toString (m : Int)) = some (.ofFloat (nearest m 0)) := by
  have ht : (toString (m : Int)).toList = Nat.toDigits 10 m := by
    rw [toList_toString]
    rfl
  have hd := all_isDigit_toDigits m
  have hm := magnitude?_toDigits m
  obtain ⟨c, cs, hc⟩ := List.exists_cons_of_ne_nil (Nat.toDigits_ne_nil (n := m) (b := 10))
  rw [hc] at ht hd hm
  have hdigit : c.isDigit := by
    rw [List.all_cons, Bool.and_eq_true] at hd
    exact hd.1
  have hword (d : Char) (ds : List Char) (h : d.isDigit = false) :
      ((c :: cs).map Char.toLower == d :: ds) = false := by
    rw [beq_eq_false_iff_ne, List.map_cons, toLower_of_isDigit hdigit]
    exact fun he => not_isDigit_of_mem hdigit h (List.cons.inj he).1
  have hinf : ((c :: cs).map Char.toLower == "inf".toList) = false := hword 'i' ['n', 'f'] rfl
  have hinfinity : ((c :: cs).map Char.toLower == "infinity".toList) = false :=
    hword 'i' ['n', 'f', 'i', 'n', 'i', 't', 'y'] rfl
  have hnan : ((c :: cs).map Char.toLower == "nan".toList) = false := hword 'n' ['a', 'n'] rfl
  unfold double?
  rw [ht]
  split
  case h_1 negative body hsign =>
    have hplain : (negative, body) = (false, c :: cs) := by
      rw [← hsign]
      split
      case h_1 heq => exact absurd (List.cons.inj heq).1 (not_isDigit_of_mem hdigit rfl)
      case h_2 heq => exact absurd (List.cons.inj heq).1 (not_isDigit_of_mem hdigit rfl)
      case h_3 => rfl
    obtain ⟨rfl, rfl⟩ := Prod.mk.inj hplain
    simp only [hinf, hinfinity, hnan, hm]
    rfl

/-- A whole number that is not negative is read as a double of the same kind. -/
theorem exists_float?_toString {n : Int} (h0 : 0 ≤ n) (hn : n < 2 ^ 63) :
    ∃ x, float? (toString n) = some x ∧ x.isFinite ∧ 0 ≤ x := by
  obtain ⟨m, rfl⟩ : ∃ m : Nat, n = m := ⟨n.toNat, (Int.toNat_of_nonneg h0).symm⟩
  have hm : m < 2 ^ 63 := by omega
  refine ⟨Float.ofBits (nearest m 0).toBits, ?_, ?_⟩
  · rw [float?, double?_toString]
    rfl
  · rw [nearest_word hm]
    split
    · exact ofBits_toBits (by rw [unpack_zero]; trivial) (by rw [unpack_zero]; trivial)
    · exact ofBits_toBits (nonneg_ofScientific m) (atMost_ofScientific_word hm)

end Utterance.Decimal
