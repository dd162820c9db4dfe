import Utterance.Proofs.Decimal.Rounding

/-! Whole numbers as doubles hold them.

A double is told by its parts. A whole number of at most 53 binary digits, with any zeros behind them, is
held as it is; the whole number that a double is rounded to is one of these, or the greatest word. -/

namespace Utterance.Decimal

open Float.Model Float.Model.UnpackedFloat

/-! The parts of a double. -/

def isMinus : Sign → Bool
  | .negative => true
  | .positive => false

/-- The parts of what a double holds. -/
def partsOf : UnpackedFloat → Parts
  | .notANumber => .nan
  | .infinity s => .infinite (isMinus s)
  | .zero s => .finite (isMinus s) 0 (-1074)
  | .finite s m e _ => .finite (isMinus s) m e

theorem isMinus_unpackSign (b : BitVec 64) :
    isMinus (Sign.ofBitVec (@unpackSign .binary64 b)) = decide (2 ^ 63 ≤ b.toNat) := by
  have hb : b.toNat < 2 ^ 64 := b.isLt
  have hs := toNat_unpackSign b
  have hbit (v : BitVec 1) : isMinus (Sign.ofBitVec v) = decide (v.toNat = 1) := by
    revert v
    decide
  rw [hbit, hs]
  exact decide_eq_decide.mpr (by omega)

theorem parts_eq (x : Float) : parts x = partsOf x.toModel.unpack := by
  let b : BitVec 64 := x.toModel.toBits.toBitVec
  have hb : x.toBits.toNat = b.toNat := rfl
  have hu : x.toModel.unpack = UnpackedFloat.unpack .binary64 b := rfl
  have he := toNat_unpackExponent b
  have hm := toNat_unpackMantissa b
  have hs := isMinus_unpackSign b
  unfold parts
  rw [hu, hb]
  dsimp only
  rw [← he, ← hm, ← hs]
  have h2047 : (@unpackExponent .binary64 b).toNat = 2047 ↔ @unpackExponent .binary64 b = 2047#11 :=
    ⟨fun h => BitVec.eq_of_toNat_eq h, congrArg BitVec.toNat⟩
  have h0 : (@unpackExponent .binary64 b).toNat = 0 ↔ @unpackExponent .binary64 b = 0#11 :=
    ⟨fun h => BitVec.eq_of_toNat_eq h, congrArg BitVec.toNat⟩
  have h0' : (@unpackMantissa .binary64 b).toNat = 0 ↔ @unpackMantissa .binary64 b = 0#52 :=
    ⟨fun h => BitVec.eq_of_toNat_eq h, congrArg BitVec.toNat⟩
  by_cases h1 : @unpackExponent .binary64 b = 2047#11
  · rw [if_pos (h2047.mpr h1)]
    by_cases h2 : @unpackMantissa .binary64 b = 0#52
    · rw [if_pos (h0'.mpr h2)]
      have hu : UnpackedFloat.unpack .binary64 b = .infinity _ := (if_pos h1).trans (if_pos h2)
      rw [hu]
      rfl
    · rw [if_neg (mt h0'.mp h2)]
      have hu : UnpackedFloat.unpack .binary64 b = .notANumber := (if_pos h1).trans (if_neg h2)
      rw [hu]
      rfl
  rw [if_neg (mt h2047.mp h1)]
  obtain ⟨h, -⟩ | ⟨he0, ⟨hm0, hz⟩ | ⟨_, hf⟩⟩ | ⟨-, he0, _, hf⟩ := unpack_cases b
  · exact absurd h h1
  · rw [if_pos (h0.mpr he0), hz, h0'.mpr hm0]
    rfl
  · rw [if_pos (h0.mpr he0), hf]
    rfl
  · rw [if_neg (mt h0.mp he0), hf]
    show _ = Parts.finite _ _ _
    rw [toNat_implicit, Nat.add_comm]

/-! Rounding what needs none. -/

/-- A whole number as a double holds it: a mantissa of 53 binary digits, the last of which stands for
`2 ^ (t - 52)`. -/
structure IsHeld (n m t : Nat) : Prop where
  low : 2 ^ 52 ≤ m
  high : m < 2 ^ 53
  value : m * 2 ^ t = n * 2 ^ 52
  size : t < 64

theorem shift_exact (m k : Nat) :
    ExtendedMantissa.ofMantissaAndAccuracy (m * 2 ^ k) .exact >>> k =
      ExtendedMantissa.ofMantissaAndAccuracy m .exact := by
  induction k generalizing m with
  | zero =>
    rw [Nat.pow_zero, Nat.mul_one]
    rfl
  | succ k ih =>
    have hk : m * 2 ^ (k + 1) = m * 2 * 2 ^ k := by
      rw [Nat.pow_succ, Nat.mul_comm (2 ^ k), Nat.mul_assoc]
    have hstep (em : ExtendedMantissa) : em >>> (k + 1) = (em >>> k).shiftRightOne := rfl
    rw [hstep, hk, ih]
    simp [ExtendedMantissa.shiftRightOne, ExtendedMantissa.ofMantissaAndAccuracy]

theorem log2_mul_two_pow {m : Nat} (h : 0 < m) (k : Nat) : (m * 2 ^ k).log2 = m.log2 + k := by
  obtain ⟨hl, hh⟩ := (Nat.log2_eq_iff (by omega)).mp (rfl : m.log2 = m.log2)
  have hpos : 0 < m * 2 ^ k := Nat.mul_pos h (Nat.two_pow_pos k)
  refine (Nat.log2_eq_iff (by omega)).mpr ⟨?_, ?_⟩
  · rw [Nat.pow_add]
    exact Nat.mul_le_mul_right _ hl
  · rw [Nat.add_right_comm, Nat.pow_add]
    exact Nat.mul_lt_mul_of_pos_right hh (Nat.two_pow_pos k)

theorem log2_of_bounds {m : Nat} (h : 2 ^ 52 ≤ m) (h' : m < 2 ^ 53) : m.log2 = 52 :=
  (Nat.log2_eq_iff (by omega)).mpr ⟨h, h'⟩

theorem shiftOf_eq {m k : Nat} {e : Int} (h : 2 ^ 52 ≤ m) (h' : m < 2 ^ 53) (he : -1074 ≤ e) :
    shiftOf (m * 2 ^ k) (e - k) = k := by
  unfold shiftOf totalExponent
  rw [log2_mul_two_pow (by omega), log2_of_bounds h h', targetExponent_eq]
  omega

/-- What is rounded is finite, if there is something left of its mantissa. -/
theorem roundWithAccuracy_eq (s : Sign) (m₀ : Nat) (e₀ : Int) (a : Accuracy) {m : Nat} {e : Int} (hm : 0 < m) :
    let n := (ExtendedMantissa.ofMantissaAndAccuracy m₀ a >>> shiftOf m₀ e₀).roundedMantissa
    let x := e₀ + shiftOf m₀ e₀
    (ExtendedMantissa.ofMantissaAndAccuracy n .exact >>> shiftOf n x).mantissa = m →
      x + shiftOf n x = e → roundWithAccuracy .binary64 s m₀ e₀ a = .finite s m e hm := by
  intro n x hmantissa hexponent
  have hne : (ExtendedMantissa.ofMantissaAndAccuracy n .exact >>> shiftOf n x).mantissa ≠ 0 := by
    rw [hmantissa]
    omega
  exact (dif_neg hne).trans (finite_congr s _ _ hmantissa hexponent)

/-- Zeros behind a mantissa are dropped. -/
theorem roundWithAccuracy_exact (s : Sign) {m : Nat} (h : 2 ^ 52 ≤ m) (h' : m < 2 ^ 53) (k : Nat)
    {e : Int} (he : -1074 ≤ e) (hm : 0 < m) :
    roundWithAccuracy .binary64 s (m * 2 ^ k) (e - k) .exact = .finite s m e hm := by
  have hrounded : (ExtendedMantissa.ofMantissaAndAccuracy (m * 2 ^ k) .exact >>> k).roundedMantissa = m := by
    rw [shift_exact]
    rfl
  have hzero : shiftOf m e = 0 := by
    have hs := shiftOf_eq (k := 0) h h' he
    simpa using hs
  apply roundWithAccuracy_eq
  · rw [shiftOf_eq h h' he, hrounded, Int.sub_add_cancel, hzero]
    rfl
  · rw [shiftOf_eq h h' he, hrounded, Int.sub_add_cancel, hzero]
    exact Int.add_zero e

/-- The first 53 binary digits of a mantissa that has more. -/
theorem bounds_leading {m k : Nat} (hm : m.log2 = 52 + k) : 2 ^ 52 ≤ m / 2 ^ k ∧ m / 2 ^ k < 2 ^ 53 := by
  have hne : m ≠ 0 := by
    rintro rfl
    have hzero : Nat.log2 0 = 0 := by decide
    omega
  obtain ⟨hl, hh⟩ := (Nat.log2_eq_iff hne).mp hm
  constructor
  · rw [Nat.le_div_iff_mul_le (Nat.two_pow_pos k), ← Nat.pow_add]
    exact hl
  · rw [Nat.div_lt_iff_lt_mul (Nat.two_pow_pos k), ← Nat.pow_add, Nat.add_comm 53]
    rwa [Nat.add_right_comm, Nat.add_comm] at hh

/-- A mantissa of more than 53 binary digits is rounded to 53, one place higher where all of them round up. -/
theorem exists_roundWithAccuracy (s : Sign) {m k : Nat} {e : Int} (a : Accuracy) (hm : m.log2 = 52 + k)
    (he : -1074 ≤ e + k) :
    ∃ n x hn, roundWithAccuracy .binary64 s m e a = .finite s n x hn ∧ 2 ^ 52 ≤ n ∧ n < 2 ^ 53 ∧
      (x = e + k ∨ x = e + k + 1) := by
  have hs : shiftOf m e = k := by
    unfold shiftOf totalExponent
    rw [targetExponent_eq]
    omega
  obtain ⟨hd, hd'⟩ := bounds_leading hm
  have hlow := le_roundedMantissa (ExtendedMantissa.ofMantissaAndAccuracy m a >>> k)
  have hhigh := roundedMantissa_le (ExtendedMantissa.ofMantissaAndAccuracy m a >>> k)
  rw [mantissa_shift, mantissa_ofMantissaAndAccuracy] at hlow hhigh
  generalize hn : (ExtendedMantissa.ofMantissaAndAccuracy m a >>> k).roundedMantissa = n at hlow hhigh
  have hround {l x : Nat} {r : Int} (hl : 0 < l) (hx : shiftOf n (e + k) = x) (hr : n / 2 ^ x = l)
      (he : e + k + x = r) : roundWithAccuracy .binary64 s m e a = .finite s l r hl := by
    apply roundWithAccuracy_eq
    · rw [hs, hn, hx, mantissa_shift, mantissa_ofMantissaAndAccuracy, hr]
    · rw [hs, hn, hx, he]
  obtain hlt | heq : n < 2 ^ 53 ∨ n = 2 ^ 53 := by omega
  · have hzero : shiftOf n (e + k) = 0 := by
      have h := shiftOf_eq (m := n) (k := 0) (by omega) hlt he
      simpa using h
    exact ⟨n, _, by omega, hround _ hzero (by simp) rfl, by omega, hlt, .inl (Int.add_zero _)⟩
  · have hone : shiftOf n (e + k) = 1 := by
      have h := shiftOf_eq (m := 2 ^ 52) (k := 1) (e := e + k + 1) (by decide) (by decide) (by omega)
      rw [heq]
      simpa using h
    exact ⟨2 ^ 52, _, by decide, hround _ hone (by rw [heq]) rfl, by decide, by decide, .inr rfl⟩

/-- A mantissa of 53 binary digits stays when it is held in a double. -/
theorem repacked_normal (s : Sign) {m : Nat} (h : 2 ^ 52 ≤ m) (h' : m < 2 ^ 53) {e : Int} (he : -1074 ≤ e)
    (he' : e ≤ 971) (hm : 0 < m) : repacked (.finite s m e hm) = .finite s m e hm := by
  have hlog : m.log2 + 1 = 53 := by rw [log2_of_bounds h h']
  unfold repacked
  rw [pack_finite, if_neg (by omega), if_pos hlog, unpack_normal_ofNat s hm hlog (by omega) (by omega)]
  exact finite_congr s _ _ rfl (by omega)

/-! Whole numbers. -/

theorem ofScientific_whole {n : Nat} (hn : 0 < n) :
    UnpackedFloat.ofScientific .binary64 n 0 =
      roundWithAccuracy .binary64 .positive (n * 2 ^ 53) (-53) .exact := by
  have hlow : ¬(0 : Int) < -(2 ^ Format.binary64.exponentBits + n.log2) := by
    have hb : (2 : Int) ^ Format.binary64.exponentBits = 2048 := rfl
    rw [hb]
    omega
  have hraw : UnpackedFloat.ofScientific .binary64 n 0 =
      roundWithAccuracy .binary64 .positive (n <<< 53 * 10 ^ 0) (-53 + 0) .exact := by
    unfold UnpackedFloat.ofScientific
    rw [dif_neg (Nat.pos_iff_ne_zero.mp hn), if_neg (by decide), if_neg hlow, if_pos (by decide)]
    rfl
  rw [hraw, Nat.shiftLeft_eq, Nat.pow_zero, Nat.mul_one, Int.add_zero]

theorem unpack_ofScientific_of_long {n : Nat} (hn : 2 ^ 53 ≤ n) :
    (Float.ofScientific n false 0).toModel.unpack =
      repacked (roundWithAccuracy .binary64 .positive (n * 2 ^ 53) (-53) .exact) := by
  have hslow : ¬(n < 2 ^ 53 ∧ 0 ≤ 22) := fun h => absurd h.1 (Nat.not_lt.mpr hn)
  unfold Float.ofScientific
  rw [dif_neg hslow, ← ofScientific_whole (by omega)]
  rfl

/-- A whole number of more than 53 binary digits becomes a double of the same size. -/
theorem exists_unpack_ofScientific {n : Nat} (hn : 2 ^ 53 ≤ n) (hn' : n < 2 ^ 1023) :
    ∃ m e hm, (Float.ofScientific n false 0).toModel.unpack = .finite .positive m e hm ∧
      (n.log2 : Int) ≤ e + 52 ∧ e + 51 ≤ n.log2 := by
  have hlow : 53 ≤ n.log2 := (Nat.le_log2 (by omega)).mpr hn
  have hhigh : n.log2 < 1023 := (Nat.log2_lt (by omega)).mpr hn'
  have hlog : (n * 2 ^ 53).log2 = n.log2 + 53 := log2_mul_two_pow (by omega) 53
  obtain ⟨m, e, hm, hround, h1, h2, hexponent⟩ :=
    exists_roundWithAccuracy .positive (m := n * 2 ^ 53) (k := n.log2 + 1) (e := -53) .exact (by omega) (by omega)
  refine ⟨m, e, hm, ?_, by omega, by omega⟩
  rw [unpack_ofScientific_of_long hn, hround]
  exact repacked_normal _ h1 h2 (by omega) (by omega) hm

/-- A whole number with so many digits is at most as much as the power of two above the next one. -/
theorem atMost_whole {n k : Nat} (hk : k ≤ 1023) (hn : n < 2 ^ k) :
    IsAtMost (k + 1) (Float.ofScientific n false 0).toModel.unpack := by
  by_cases hshort : n < 2 ^ 53
  · by_cases hk' : k ≤ 53
    · exact atMost_ofScientific hk' hn
    · exact (atMost_ofScientific (Nat.le_refl 53) hshort).mono (by omega)
  · have hlong : 2 ^ 53 ≤ n := Nat.le_of_not_lt hshort
    have hlog : n.log2 < k := (Nat.log2_lt (by omega)).mpr hn
    have htop (t : Nat) (ht : k ≤ t) : n < 2 ^ t := Nat.lt_of_lt_of_le hn (Nat.pow_le_pow_right (by decide) ht)
    obtain ⟨m, e, hm, hunpack, -, he⟩ := exists_unpack_ofScientific hlong (htop 1023 hk)
    obtain ⟨hmantissa, -⟩ := mantissa_of_unpack hunpack
    rw [hunpack]
    intro _
    have hp : 2 ^ 53 ≤ 2 ^ (k + 1 - e).toNat := Nat.pow_le_pow_right (by decide) (by omega)
    exact ⟨by omega, by omega⟩

namespace IsHeld

variable {n m t : Nat}

theorem pos (h : IsHeld n m t) : 0 < m := Nat.lt_of_lt_of_le (Nat.two_pow_pos 52) h.low

theorem number_pos (h : IsHeld n m t) : 0 < n := by
  have hm : 0 < m * 2 ^ t := Nat.mul_pos h.pos (Nat.two_pow_pos t)
  rw [h.value] at hm
  exact Nat.pos_of_mul_pos_right hm

/-- A number below `2 ^ 53` has zeros in front of its digits, not behind them. -/
theorem of_small (h : IsHeld n m t) (hn : n < 2 ^ 53) : t ≤ 52 ∧ n * 2 ^ (52 - t) = m := by
  have ht : t ≤ 52 := by
    refine Nat.le_of_not_lt fun hlt => ?_
    have hp : 2 ^ 53 ≤ 2 ^ t := Nat.pow_le_pow_right (by decide) (by omega)
    have hv := h.value
    have hle : 2 ^ 52 * 2 ^ 53 ≤ m * 2 ^ t := Nat.mul_le_mul h.low hp
    omega
  refine ⟨ht, ?_⟩
  have hv : n * 2 ^ (52 - t) * 2 ^ t = m * 2 ^ t := by
    rw [h.value, Nat.mul_assoc, ← Nat.pow_add, Nat.sub_add_cancel ht]
  exact Nat.eq_of_mul_eq_mul_right (Nat.two_pow_pos t) hv

theorem unpack_toFloat (h : IsHeld n m t) (hn : n < 2 ^ 53) :
    n.toUInt64.toFloat.toModel.unpack = .finite .positive m ((t : Int) - 52) h.pos := by
  obtain ⟨ht, hv⟩ := h.of_small hn
  have hword : n.toUInt64.toNat = n := Nat.mod_eq_of_lt (by omega)
  have hr : normalize .binary64 (n.toUInt64.toNat : Int) 0 .positive =
      .finite .positive m ((t : Int) - 52) h.pos := by
    have hpos := h.number_pos
    have hc : compare (n : Int) 0 = .gt := Int.compare_eq_gt.mpr (by omega)
    have hlog : n.log2 = t := by
      have hl := log2_mul_two_pow h.pos t
      rw [h.value, log2_mul_two_pow hpos, log2_of_bounds h.low h.high] at hl
      omega
    have htarget : (0 - Format.binary64.targetExponent (totalExponent n 0)).toNat = 52 - t := by
      rw [targetExponent_eq, totalExponent, hlog]
      omega
    have hround : UnpackedFloat.round .binary64 .positive n 0 =
        roundWithAccuracy .binary64 .positive (m * 2 ^ 0) ((t : Int) - 52 - (0 : Nat)) .exact := by
      unfold UnpackedFloat.round
      dsimp only [decreaseExponent]
      rw [htarget, Nat.shiftLeft_eq, hv, Nat.pow_zero, Nat.mul_one]
      congr 1
      omega
    rw [hword, UnpackedFloat.normalize, hc]
    dsimp only
    rw [Int.toNat_natCast, hround, roundWithAccuracy_exact _ h.low h.high _ (by omega)]
  have hu : n.toUInt64.toFloat.toModel.unpack =
      repacked (normalize .binary64 (n.toUInt64.toNat : Int) 0 .positive) := rfl
  rw [hu, hr]
  exact repacked_normal _ h.low h.high (by omega) (by omega) _

theorem unpack_ofScientific (h : IsHeld n m t) :
    (Float.ofScientific n false 0).toModel.unpack = .finite .positive m ((t : Int) - 52) h.pos := by
  have hround (k : Nat) : repacked (roundWithAccuracy .binary64 .positive (m * 2 ^ k)
      ((t : Int) - 52 - k) .exact) = .finite .positive m ((t : Int) - 52) h.pos := by
    have hs := h.size
    rw [roundWithAccuracy_exact _ h.low h.high k (by omega) h.pos]
    exact repacked_normal _ h.low h.high (by omega) (by omega) _
  unfold Float.ofScientific
  by_cases hn : n < 2 ^ 53 ∧ 0 ≤ 22
  · rw [dif_pos hn]
    have hone : Float.exactlyRepresentablePowersOfTen[0].toModel.unpack =
        .finite .positive (2 ^ 52) (-52) (by decide) := by
      rw [tenToZero (by decide), unpack_one]
    have hmul : (n.toUInt64.toFloat * Float.exactlyRepresentablePowersOfTen[0]).toModel.unpack =
        repacked (UnpackedFloat.mul .binary64 n.toUInt64.toFloat.toModel.unpack
          Float.exactlyRepresentablePowersOfTen[0].toModel.unpack) := rfl
    rw [h.unpack_toFloat hn.1, hone] at hmul
    exact hmul.trans (hround 52)
  · rw [dif_neg hn]
    have hmul : UnpackedFloat.ofScientific .binary64 n 0 =
        roundWithAccuracy .binary64 .positive (m * 2 ^ (t + 1)) ((t : Int) - 52 - (t + 1 : Nat)) .exact := by
      have hm : n * 2 ^ 53 = m * 2 ^ (t + 1) := by
        calc
          n * 2 ^ 53 = n * 2 ^ 52 * 2 := by omega
          _ = m * 2 ^ (t + 1) := by rw [← h.value, Nat.mul_assoc, ← Nat.pow_succ]
      have he : (-53 : Int) = (t : Int) - 52 - (t + 1 : Nat) := by omega
      rw [ofScientific_whole h.number_pos, hm, he]
    have hu : (Float.Model.ofScientific n (Int.ofNat 0)).unpack =
        repacked (UnpackedFloat.ofScientific .binary64 n 0) := rfl
    exact hu.trans (hmul ▸ hround (t + 1))

theorem roundHalfUp_ratio (h : IsHeld n m t) :
    roundHalfUp (ratio m ((t : Int) - 52)).1 (ratio m ((t : Int) - 52)).2 = n := by
  have hhalf {d : Nat} (hd : 0 < d) : roundHalfUp (n * d) d = n := by
    have hn : 2 * (n * d) + d = d * (2 * n + 1) := by
      rw [Nat.mul_add, Nat.mul_one, ← Nat.mul_assoc, Nat.mul_comm d]
    rw [roundHalfUp, hn, Nat.mul_comm 2 d, Nat.mul_div_mul_left _ _ hd]
    omega
  obtain ht | ht := Nat.lt_or_ge t 52
  · have hq : (t : Int) - 52 = Int.negSucc (51 - t) := by omega
    have hp : Nat.pow 2 (51 - t + 1) = 2 ^ (52 - t) := congrArg (2 ^ ·) (by omega)
    have hm : m = n * 2 ^ (52 - t) := by
      refine Nat.eq_of_mul_eq_mul_right (Nat.two_pow_pos t) ?_
      rw [h.value, Nat.mul_assoc, ← Nat.pow_add, Nat.sub_add_cancel (Nat.le_of_lt ht)]
    rw [hq]
    dsimp only [ratio]
    rw [hp, hm]
    exact hhalf (Nat.two_pow_pos _)
  · have hq : (t : Int) - 52 = Int.ofNat (t - 52) := (Int.ofNat_sub ht).symm
    have hm : m * Nat.pow 2 (t - 52) = n * 1 := by
      refine Nat.eq_of_mul_eq_mul_right (Nat.two_pow_pos 52) ?_
      rw [Nat.mul_one, ← h.value, Nat.mul_assoc]
      congr 1
      show 2 ^ (t - 52) * 2 ^ 52 = 2 ^ t
      rw [← Nat.pow_add, Nat.sub_add_cancel ht]
    rw [hq]
    dsimp only [ratio]
    rw [hm]
    exact hhalf (by decide)

/-- What is held as it is, is rounded to itself. -/
theorem nearestInt64_eq (h : IsHeld n m t) (hn : n < 2 ^ 63) {x : Float} {hm : 0 < m}
    (hx : x.toModel.unpack = .finite .positive m ((t : Int) - 52) hm) : nearestInt64 x = n := by
  unfold nearestInt64
  rw [parts_eq, hx]
  dsimp only [partsOf, isMinus]
  rw [h.roundHalfUp_ratio, if_neg (by decide)]
  omega

theorem le_one_iff (h : IsHeld n m t) {x : Float} {hm : 0 < m}
    (hx : x.toModel.unpack = .finite .positive m ((t : Int) - 52) hm) : x ≤ 1 ↔ n = 1 := by
  have hv := h.value
  have hl := h.low
  have hh := h.high
  rw [Decimal.le_one_iff, isAtMost_zero_iff hx]
  obtain rfl | ht := Nat.eq_zero_or_pos t
  · omega
  · have hp : 2 ^ 1 ≤ 2 ^ t := Nat.pow_le_pow_right (by decide) ht
    have hle : 2 ^ 52 * 2 ≤ m * 2 ^ t := Nat.mul_le_mul hl hp
    omega

/-- A number of at most 53 binary digits, with any zeros behind them. -/
theorem of_digits {a k : Nat} (ha : 0 < a) (ha' : a < 2 ^ 53) (hn : a * 2 ^ k < 2 ^ 64) :
    ∃ m t, IsHeld (a * 2 ^ k) m t := by
  have hl : a.log2 < 53 := (Nat.log2_lt (by omega)).mpr ha'
  obtain ⟨h1, h2⟩ := (Nat.log2_eq_iff (by omega)).mp (rfl : a.log2 = a.log2)
  refine ⟨a * 2 ^ (52 - a.log2), k + a.log2, ?_, ?_, ?_, ?_⟩
  · calc
      2 ^ 52 = 2 ^ a.log2 * 2 ^ (52 - a.log2) := by
        rw [← Nat.pow_add]
        congr 1
        omega
      _ ≤ a * 2 ^ (52 - a.log2) := Nat.mul_le_mul_right _ h1
  · calc
      a * 2 ^ (52 - a.log2) < 2 ^ (a.log2 + 1) * 2 ^ (52 - a.log2) :=
        Nat.mul_lt_mul_of_pos_right h2 (Nat.two_pow_pos _)
      _ = 2 ^ 53 := by
        rw [← Nat.pow_add]
        congr 1
        omega
  · rw [Nat.mul_assoc, Nat.mul_assoc, ← Nat.pow_add, ← Nat.pow_add]
    congr 2
    omega
  · have hp : 2 ^ (k + a.log2) < 2 ^ 64 := by
      rw [Nat.add_comm, Nat.pow_add]
      exact Nat.lt_of_le_of_lt (Nat.mul_le_mul_right _ h1) hn
    exact (Nat.pow_lt_pow_iff_right (by decide)).mp hp

end IsHeld

/-! Rounding to whole numbers. -/

theorem exists_roundHalfUp {m : Nat} (hm : m < 2 ^ 53) (q : Int) :
    ∃ a k, a < 2 ^ 53 ∧ roundHalfUp (ratio m q).1 (ratio m q).2 = a * 2 ^ k := by
  cases q with
  | ofNat k =>
    refine ⟨m, k, hm, ?_⟩
    have hk : roundHalfUp (m * Nat.pow 2 k) 1 = m * Nat.pow 2 k := by
      unfold roundHalfUp
      omega
    exact hk
  | negSucc k =>
    refine ⟨roundHalfUp m (Nat.pow 2 (k + 1)), 0, ?_, (Nat.mul_one _).symm⟩
    have hd : 0 < Nat.pow 2 (k + 1) := Nat.two_pow_pos (k + 1)
    unfold roundHalfUp
    generalize Nat.pow 2 (k + 1) = d at hd
    exact Nat.div_lt_of_lt_mul (by omega)

theorem lt_of_parts {x : Float} {negative : Bool} {m : Nat} {q : Int}
    (h : parts x = .finite negative m q) : m < 2 ^ 53 := by
  unfold parts at h
  dsimp only at h
  split at h
  · split at h <;> cases h
  · split at h
    · cases h
      omega
    · cases h
      omega

/-- What a double is rounded to is held as it is, but for the ends of the range. -/
theorem nearestInt64_cases (x : Float) :
    nearestInt64 x ≤ 0 ∨ nearestInt64 x = 2 ^ 63 - 1 ∨
      ∃ n m t : Nat, IsHeld n m t ∧ n < 2 ^ 63 ∧ nearestInt64 x = n := by
  unfold nearestInt64
  split
  case h_1 => exact .inl (Int.le_refl 0)
  case h_2 negative _ =>
    cases negative with
    | true => exact .inl (by decide)
    | false => exact .inr (.inl rfl)
  case h_3 negative m q hx =>
    obtain ⟨a, k, ha, hn⟩ := exists_roundHalfUp (lt_of_parts hx) q
    dsimp only
    rw [hn]
    obtain h0 | hpos := Nat.eq_zero_or_pos (a * 2 ^ k)
    · left
      rw [h0]
      split <;> decide
    obtain hbig | hsmall := Nat.lt_or_ge (2 ^ 63 - 1) (a * 2 ^ k)
    · generalize a * 2 ^ k = n at hbig
      split
      · exact .inl (by omega)
      · exact .inr (.inl (by omega))
    · obtain ⟨m', t, hheld⟩ := IsHeld.of_digits (Nat.pos_of_mul_pos_right hpos) ha
        (show a * 2 ^ k < 2 ^ 64 by omega)
      generalize a * 2 ^ k = n at hheld hsmall
      split
      · exact .inl (by omega)
      · exact .inr (.inr ⟨n, m', t, hheld, by omega, by omega⟩)

/-! Reading what was rounded. -/

/-- A whole number is read as a double that holds it. -/
theorem IsHeld.exists_float? {n m t : Nat} (h : IsHeld n m t) (hn : n < 2 ^ 63) :
    ∃ x, float? (toString (n : Int)) = some x ∧ (x ≤ 1 ↔ n = 1) ∧ nearestInt64 x = n := by
  have hx : (Float.ofBits (nearest n 0).toBits).toModel.unpack =
      .finite .positive m ((t : Int) - 52) h.pos := by
    have hs := h.size
    have hu : (Float.ofBits (nearest n 0).toBits).toModel.unpack =
        repacked (nearest n 0).toModel.unpack := rfl
    rw [hu, nearest_word hn, if_neg (Nat.pos_iff_ne_zero.mp h.number_pos), h.unpack_ofScientific]
    exact repacked_normal _ h.low h.high (by omega) (by omega) _
  refine ⟨Float.ofBits (nearest n 0).toBits, ?_, h.le_one_iff hx, h.nearestInt64_eq hn hx⟩
  rw [float?, double?_toString]
  rfl

/-- The whole number that a double is rounded to is rounded to itself when it is read from its text. -/
theorem float?_nearestInt64 {y : Float} (h : 0 ≤ nearestInt64 y) :
    ∃ x, float? (toString (nearestInt64 y)) = some x ∧ (x ≤ 1 ↔ nearestInt64 y ≤ 1) ∧
      nearestInt64 x = nearestInt64 y := by
  obtain h0 | hmax | ⟨n, m, t, hheld, hn, hy⟩ := nearestInt64_cases y
  · rw [Int.le_antisymm h0 h]
    exact ⟨0, by decide +kernel, by decide, by decide +kernel⟩
  · rw [hmax]
    exact ⟨_, rfl, by decide +kernel, by decide +kernel⟩
  · rw [hy]
    obtain ⟨x, hx, hone, hnearest⟩ := hheld.exists_float? hn
    have hpos := hheld.number_pos
    exact ⟨x, hx, by rw [hone]; omega, hnearest⟩

/-! Rounding what is not above a hundred. -/

theorem roundHalfUp_le {num den n : Nat} (hd : 0 < den) (h : num ≤ n * den) : roundHalfUp num den ≤ n := by
  have hn : (n + 1) * (2 * den) = 2 * (n * den) + 2 * den := by
    rw [Nat.add_one_mul, Nat.mul_left_comm]
  refine Nat.le_of_lt_succ ((Nat.div_lt_iff_lt_mul (by omega)).mpr ?_)
  rw [Nat.succ_eq_add_one, hn]
  omega

theorem nearestInt64_le_of_parts {x : Float} {negative : Bool} {m n : Nat} {q : Int}
    (hx : parts x = .finite negative m q)
    (h : negative = false → (ratio m q).1 ≤ n * (ratio m q).2) : nearestInt64 x ≤ n := by
  have hd : 0 < (ratio m q).2 := by
    cases q with
    | ofNat k => exact Nat.one_pos
    | negSucc k => exact Nat.two_pow_pos (k + 1)
  unfold nearestInt64
  rw [hx]
  dsimp only
  cases negative with
  | true =>
    rw [if_pos rfl]
    omega
  | false =>
    have hround := roundHalfUp_le hd (h rfl)
    rw [if_neg Bool.false_ne_true]
    omega

/-- A mantissa as it is held stands for no more than a hundred if its double is not above that. -/
theorem ratio_le_of_not_lt {x : Float} {m : Nat} {e : Int} {hm : 0 < m}
    (hx : x.toModel.unpack = .finite .positive m e hm) (h : ¬100 < x) :
    (ratio m e).1 ≤ 100 * (ratio m e).2 := by
  obtain ⟨hbound, -⟩ := mantissa_of_unpack hx
  have hlt : UnpackedFloat.lt (.finite .positive (100 * 2 ^ 46) (-46) (by decide))
      (.finite .positive m e hm) = true ↔ -46 < e ∨ (-46 = e ∧ 100 * 2 ^ 46 < m) :=
    beq_iff_eq.trans (Option.some_inj.trans (eq_lt_then_iff (-46) e (100 * 2 ^ 46) m))
  rw [lt_iff_unpack, unpack_hundred, hx, hlt] at h
  cases e with
  | ofNat k =>
    have hk : (-46 : Int) < Int.ofNat k := Int.lt_of_lt_of_le (by decide) (Int.natCast_nonneg k)
    exact absurd (.inl hk) h
  | negSucc k =>
    show m ≤ 100 * 2 ^ (k + 1)
    by_cases hk : k = 45
    · subst hk
      omega
    · have hp : 2 ^ 47 ≤ 2 ^ (k + 1) := Nat.pow_le_pow_right (by decide) (by omega)
      omega

theorem nearestInt64_le_hundred {x : Float} (h : ¬100 < x) : nearestInt64 x ≤ 100 := by
  have hparts := parts_eq x
  cases hx : x.toModel.unpack with
  | notANumber =>
    rw [hx] at hparts
    unfold nearestInt64
    rw [hparts]
    decide
  | infinity s =>
    rw [hx] at hparts
    cases s with
    | negative =>
      unfold nearestInt64
      rw [hparts]
      decide
    | positive =>
      rw [lt_iff_unpack, unpack_hundred, hx] at h
      exact absurd rfl h
  | zero s =>
    rw [hx] at hparts
    exact nearestInt64_le_of_parts (n := 100) hparts fun _ => Nat.zero_le _
  | finite s m e hm =>
    rw [hx] at hparts
    refine nearestInt64_le_of_parts (n := 100) hparts fun hs => ?_
    cases s with
    | negative => cases hs
    | positive => exact ratio_le_of_not_lt hx h

end Utterance.Decimal
