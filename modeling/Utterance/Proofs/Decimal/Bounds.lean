import Utterance.Decimal.Parts

/-! Bounds of doubles.

Two things are kept track of through sums, products and quotients, with the rounding that they end
in: that a double is not negative, and that it is at most a power of two. Neither is so of what is no
number. -/

namespace Utterance.Decimal

open Float.Model Float.Model.UnpackedFloat

/-- What is no less than nothing; a zero may have any sign. -/
def IsNonneg : UnpackedFloat → Prop
  | .notANumber => False
  | .zero _ => True
  | .infinity s | .finite s .. => s = .positive

/-- What is at most `2 ^ k`. -/
def IsAtMost (k : Int) : UnpackedFloat → Prop
  | .notANumber => False
  | .zero _ => True
  | .infinity s => s = .negative
  | .finite s m e _ => s = .positive → e ≤ k ∧ m ≤ 2 ^ (k - e).toNat

theorem IsAtMost.mono {k l : Int} {u : UnpackedFloat} (hkl : k ≤ l) (h : IsAtMost k u) :
    IsAtMost l u := by
  cases u with
  | finite s m e hm =>
    intro hs
    obtain ⟨he, hb⟩ := h hs
    have hp : 2 ^ (k - e).toNat ≤ 2 ^ (l - e).toNat := Nat.pow_le_pow_right (by decide) (by omega)
    exact ⟨by omega, by omega⟩
  | _ => exact h

theorem IsNonneg.isAtMost_neg {u : UnpackedFloat} (k : Int) (h : IsNonneg u) :
    IsAtMost k u.neg := by
  cases u with
  | notANumber => exact h
  | zero s => trivial
  | infinity s =>
    cases h
    rfl
  | finite s m e hm =>
    cases h
    intro hn
    cases hn

/-! Rounding. -/

theorem mantissa_shift (em : ExtendedMantissa) (n : Nat) :
    (em >>> n).mantissa = em.mantissa / 2 ^ n := by
  induction n with
  | zero => simp [HShiftRight.hShiftRight, Nat.repeat]
  | succ n ih =>
    have hs : (em >>> (n + 1)).mantissa = (em >>> n).mantissa / 2 := rfl
    rw [hs, ih, Nat.div_div_eq_div_mul, Nat.pow_succ]

theorem le_roundedMantissa (em : ExtendedMantissa) : em.mantissa ≤ em.roundedMantissa := by
  obtain ⟨m, r, s⟩ := em
  cases r <;> cases s <;>
    simp [ExtendedMantissa.roundedMantissa, ExtendedMantissa.accuracy, Accuracy.roundToNearestEven]

theorem roundedMantissa_le (em : ExtendedMantissa) : em.roundedMantissa ≤ em.mantissa + 1 := by
  obtain ⟨m, r, s⟩ := em
  cases r <;> cases s <;>
    simp [ExtendedMantissa.roundedMantissa, ExtendedMantissa.accuracy, Accuracy.roundToNearestEven]
  omega

theorem mantissa_ofMantissaAndAccuracy (m : Nat) (a : Accuracy) :
    (ExtendedMantissa.ofMantissaAndAccuracy m a).mantissa = m := by
  cases a with
  | exact => rfl
  | inexact o => cases o <;> rfl

/-- By how much a mantissa is shifted before it is rounded. -/
def shiftOf (m : Nat) (e : Int) : Nat :=
  (Format.binary64.targetExponent (totalExponent m e) - e).toNat

theorem targetExponent_eq (x : Int) :
    Format.binary64.targetExponent x = max (x - 53) (-1074) := rfl

/-- A mantissa below a power of two stays at most that power when it is shifted and rounded. -/
theorem rounded_le {k e : Int} {m : Nat} (hk : -1074 ≤ k) (he : e ≤ k)
    (hm : m < 2 ^ (k - e).toNat) (a : Accuracy) :
    e + shiftOf m e ≤ k ∧
      (ExtendedMantissa.ofMantissaAndAccuracy m a >>> shiftOf m e).roundedMantissa ≤
        2 ^ (k - (e + shiftOf m e)).toNat := by
  have hl : m = 0 ∨ m.log2 < (k - e).toNat := by
    by_cases h : m = 0
    · exact .inl h
    · exact .inr ((Nat.log2_lt h).mpr hm)
  have hs : e + shiftOf m e ≤ k := by
    unfold shiftOf totalExponent
    rw [targetExponent_eq]
    rcases hl with rfl | hl
    · have h0 : Nat.log2 0 = 0 := by decide
      omega
    · omega
  refine ⟨hs, ?_⟩
  have hr := roundedMantissa_le (ExtendedMantissa.ofMantissaAndAccuracy m a >>> shiftOf m e)
  rw [mantissa_shift, mantissa_ofMantissaAndAccuracy] at hr
  have hp : 2 ^ (k - e).toNat = 2 ^ shiftOf m e * 2 ^ (k - (e + shiftOf m e)).toNat := by
    rw [← Nat.pow_add]
    congr 1
    omega
  have hd : m / 2 ^ shiftOf m e < 2 ^ (k - (e + shiftOf m e)).toNat :=
    Nat.div_lt_of_lt_mul (hp ▸ hm)
  omega

/-- A quotient by a power of two that is not zero is at most as high. -/
theorem shifted_le {k e : Int} {r n : Nat} (he : e ≤ k) (hr : r ≤ 2 ^ (k - e).toNat)
    (h : r / 2 ^ n ≠ 0) : e + n ≤ k ∧ r / 2 ^ n ≤ 2 ^ (k - (e + n)).toNat := by
  have hn : 2 ^ n ≤ r := by
    by_cases hlt : r < 2 ^ n
    · exact absurd (Nat.div_eq_of_lt hlt) h
    · omega
  have hle : n ≤ (k - e).toNat := (Nat.pow_le_pow_iff_right (by decide)).mp (Nat.le_trans hn hr)
  refine ⟨by omega, ?_⟩
  have hp : 2 ^ (k - e).toNat = 2 ^ n * 2 ^ (k - (e + n)).toNat := by
    rw [← Nat.pow_add]
    congr 1
    omega
  have hq : r / 2 ^ n ≤ 2 ^ (k - e).toNat / 2 ^ n := Nat.div_le_div_right hr
  rw [hp, Nat.mul_div_cancel_left _ (Nat.two_pow_pos n)] at hq
  exact hq

/-- What is rounded is a zero or finite, of the sign it had. The second shift is for a mantissa that
rounding up has made too long, and drops zeros only. -/
theorem roundWithAccuracy_cases (s : Sign) (m : Nat) (e : Int) (a : Accuracy) :
    let n := (ExtendedMantissa.ofMantissaAndAccuracy m a >>> shiftOf m e).roundedMantissa
    let x := e + shiftOf m e
    let em := ExtendedMantissa.ofMantissaAndAccuracy n .exact >>> shiftOf n x
    roundWithAccuracy .binary64 s m e a = .zero s ∨
      ∃ h, roundWithAccuracy .binary64 s m e a = .finite s em.mantissa (x + shiftOf n x) h := by
  intro n x em
  by_cases hz : em.mantissa = 0
  · exact .inl (dif_pos hz)
  · exact .inr ⟨Nat.pos_of_ne_zero hz, dif_neg hz⟩

theorem isAtMost_roundWithAccuracy {k e : Int} {m : Nat} (hk : -1074 ≤ k) (he : e ≤ k)
    (hm : m < 2 ^ (k - e).toNat) (s : Sign) (a : Accuracy) :
    IsAtMost k (roundWithAccuracy .binary64 s m e a) := by
  obtain ⟨hs, hr⟩ := rounded_le hk he hm a
  obtain h | ⟨hz, h⟩ := roundWithAccuracy_cases s m e a
  · rw [h]
    trivial
  · rw [h]
    intro _
    rw [mantissa_shift, mantissa_ofMantissaAndAccuracy] at hz ⊢
    exact shifted_le hs hr (by omega)

theorem isNonneg_roundWithAccuracy (m : Nat) (e : Int) (a : Accuracy) :
    IsNonneg (roundWithAccuracy .binary64 .positive m e a) := by
  obtain h | ⟨_, h⟩ := roundWithAccuracy_cases .positive m e a
  · rw [h]
    trivial
  · rw [h]
    rfl

theorem isAtMost_roundWithAccuracy_negative (k : Int) (m : Nat) (e : Int) (a : Accuracy) :
    IsAtMost k (roundWithAccuracy .binary64 .negative m e a) := by
  obtain h | ⟨_, h⟩ := roundWithAccuracy_cases .negative m e a
  · rw [h]
    trivial
  · rw [h]
    intro hs
    cases hs

theorem isNonneg_normalize {x : Int} (hx : 0 ≤ x) (e : Int) (s : Sign) :
    IsNonneg (normalize .binary64 x e s) := by
  unfold UnpackedFloat.normalize
  split
  case h_1 h =>
    have hlt : x < 0 := Int.compare_eq_lt.mp h
    omega
  case h_2 => trivial
  case h_3 => exact isNonneg_roundWithAccuracy _ _ _

theorem isAtMost_normalize {k e x : Int} (hk : -1074 ≤ k)
    (h : 0 < x → e ≤ k ∧ x < (2 ^ (k - e).toNat : Nat)) (s : Sign) :
    IsAtMost k (normalize .binary64 x e s) := by
  unfold UnpackedFloat.normalize
  split
  case h_1 => exact isAtMost_roundWithAccuracy_negative k _ _ _
  case h_2 => trivial
  case h_3 hx =>
    have hpos : 0 < x := Int.compare_eq_gt.mp hx
    obtain ⟨he, hm⟩ := h hpos
    unfold UnpackedFloat.round
    dsimp only [decreaseExponent]
    generalize (e - Format.binary64.targetExponent (totalExponent x.toNat e)).toNat = n
    have hp : 2 ^ (k - (e - n)).toNat = 2 ^ (k - e).toNat * 2 ^ n := by
      rw [← Nat.pow_add]
      congr 1
      omega
    refine isAtMost_roundWithAccuracy hk (by omega) ?_ _ _
    have hm' : x.toNat < 2 ^ (k - e).toNat := by
      generalize 2 ^ (k - e).toNat = p at hm
      omega
    rw [Nat.shiftLeft_eq, hp]
    exact Nat.mul_lt_mul_of_pos_right hm' (Nat.two_pow_pos n)

/-! Packing. -/

theorem unpackSign_packComponents {spec : Format} (s : Sign) (e : BitVec spec.exponentBits)
    (m : BitVec spec.mantissaBitsWithoutImplicit) :
    unpackSign (packComponents spec s e m) = s.toBitVec := by
  apply BitVec.eq_of_getLsbD_eq
  intro i hi
  have h0 : i = 0 := by omega
  subst h0
  have hk : ¬ spec.mantissaBitsWithoutImplicit + spec.exponentBits <
      spec.mantissaBitsWithoutImplicit := by omega
  delta unpackSign
  simp [packComponents, BitVec.getLsbD_append, BitVec.getElem_append, hk]

theorem ofBitVec_toBitVec (s : Sign) : Sign.ofBitVec s.toBitVec = s := by
  cases s <;> rfl

theorem finite_congr (s : Sign) {m m' : Nat} {e e' : Int} (hm : 0 < m) (hm' : 0 < m') (h : m = m')
    (he : e = e') : UnpackedFloat.finite s m e hm = .finite s m' e' hm' := by
  subst h he
  rfl

/-- How a double is held tells by its exponent of what kind it is. -/
theorem unpack_cases (b : BitVec 64) :
    let s := Sign.ofBitVec (@unpackSign .binary64 b)
    let e := @unpackExponent .binary64 b
    let m := @unpackMantissa .binary64 b
    (e = 2047#11 ∧ (UnpackedFloat.unpack .binary64 b = .infinity s ∨
      UnpackedFloat.unpack .binary64 b = .notANumber)) ∨
    (e = 0#11 ∧ ((m = 0#52 ∧ UnpackedFloat.unpack .binary64 b = .zero s) ∨
      ∃ h, UnpackedFloat.unpack .binary64 b = .finite s m.toNat (-1074) h)) ∨
    e ≠ 2047#11 ∧ e ≠ 0#11 ∧
      ∃ h, UnpackedFloat.unpack .binary64 b =
        .finite s (1#1 ++ m).toNat ((e.toNat : Int) - 1075) h := by
  intro s e m
  by_cases h1 : e = 2047#11
  · by_cases hm : m = 0#52
    · exact .inl ⟨h1, .inl ((if_pos h1).trans (if_pos hm))⟩
    · exact .inl ⟨h1, .inr ((if_pos h1).trans (if_neg hm))⟩
  by_cases h0 : e = 0#11
  · by_cases hm : m = 0#52
    · exact .inr (.inl ⟨h0, .inl ⟨hm, (if_neg h1).trans ((if_pos h0).trans (dif_pos hm))⟩⟩)
    · have hpos : 0 < m.toNat := Nat.pos_of_ne_zero fun h => hm (BitVec.eq_of_toNat_eq h)
      have hx : (e.toNat : Int) - 1075 + 1 = -1074 := by
        rw [h0]
        rfl
      refine .inr (.inl ⟨h0, .inr ⟨hpos, ?_⟩⟩)
      exact (if_neg h1).trans ((if_pos h0).trans ((dif_neg hm).trans (finite_congr s _ _ rfl hx)))
  · exact .inr (.inr ⟨h1, h0, _, (if_neg h1).trans (if_neg h0)⟩)

theorem toNat_implicit (m : BitVec 52) : (1#1 ++ m).toNat = 2 ^ 52 + m.toNat := by
  rw [BitVec.toNat_append, ← Nat.shiftLeft_add_eq_or_of_lt m.isLt]
  rfl

theorem unpack_normal_ofNat (s : Sign) {m n : Nat} (hm : 0 < m) (hl : m.log2 + 1 = 53)
    (hn : 0 < n) (hn' : n < 2047) :
    let b := packComponents .binary64 s (BitVec.ofNat 11 n) (BitVec.ofNat 52 m)
    UnpackedFloat.unpack .binary64 b = .finite s m ((n : Int) - 1075) hm := by
  intro b
  have hl1 : 2 ^ 52 ≤ m := (Nat.le_log2 (by omega)).mp (by omega)
  have hl2 : m < 2 ^ 53 := (Nat.log2_lt (by omega)).mp (by omega)
  have hb : (BitVec.ofNat 11 n).toNat = n := by
    rw [BitVec.toNat_ofNat]
    omega
  have hc : 2 ^ 52 + (BitVec.ofNat 52 m).toNat = m := by
    rw [BitVec.toNat_ofNat]
    omega
  have h0 : BitVec.ofNat 11 n ≠ 0#11 := by
    intro h
    have h' : (BitVec.ofNat 11 n).toNat = 0 := congrArg BitVec.toNat h
    omega
  have h1 : BitVec.ofNat 11 n ≠ 2047#11 := by
    intro h
    have h' : (BitVec.ofNat 11 n).toNat = 2047 := congrArg BitVec.toNat h
    omega
  have he : @unpackExponent .binary64 b = BitVec.ofNat 11 n := by simp [b]
  have hx : @unpackMantissa .binary64 b = BitVec.ofNat 52 m := by simp [b]
  obtain ⟨h, -⟩ | ⟨h, -⟩ | ⟨-, -, hpos, h⟩ := unpack_cases b
  · exact absurd (he.symm.trans h) h1
  · exact absurd (he.symm.trans h) h0
  · rw [h, unpackSign_packComponents, ofBitVec_toBitVec]
    exact finite_congr s _ _ (by rw [hx, toNat_implicit, hc]) (by rw [he, hb])

/-- What is left of a result when it is held in a double. -/
def repacked (u : UnpackedFloat) : UnpackedFloat :=
  UnpackedFloat.unpack .binary64 (pack .binary64 u)

/-- What may be left of a finite one. -/
inductive IsLeft (s : Sign) (m : Nat) (e : Int) : UnpackedFloat → Prop where
  | infinity : 972 ≤ e → IsLeft s m e (.infinity s)
  | zero : IsLeft s m e (.zero s)
  | subnormal {n : Nat} (h : 0 < n) : n < 2 ^ 52 → IsLeft s m e (.finite s n (-1074) h)
  | same (h : 0 < m) : IsLeft s m e (.finite s m e h)

theorem isLeft_subnormal (s : Sign) (m : Nat) (e : Int) (x : BitVec 52) :
    IsLeft s m e (UnpackedFloat.unpack .binary64 (packComponents .binary64 s 0#11 x)) := by
  have he : @unpackExponent .binary64 (packComponents .binary64 s 0#11 x) = 0#11 := by simp
  obtain ⟨h, -⟩ | ⟨-, ⟨-, h⟩ | ⟨hpos, h⟩⟩ | ⟨-, h, -⟩ := unpack_cases (packComponents .binary64 s 0#11 x)
  · exact absurd (he.symm.trans h) (by decide)
  · rw [h, unpackSign_packComponents, ofBitVec_toBitVec]
    exact .zero
  · rw [h, unpackSign_packComponents, ofBitVec_toBitVec]
    exact .subnormal _ (BitVec.isLt _)
  · exact absurd he h

theorem pack_finite (s : Sign) (m : Nat) (e : Int) (hm : 0 < m) :
    pack .binary64 (.finite s m e hm) =
      if 2 ^ 11 ≤ (e + 1023 + 52).toNat + 1 then packedInfinity .binary64 s
      else if m.log2 + 1 = 53 then
        packComponents .binary64 s (BitVec.ofNat 11 (e + 1023 + 52).toNat) (BitVec.ofNat 52 m)
      else packComponents .binary64 s 0#11 (BitVec.ofNat 52 m) := rfl

theorem isLeft_repacked (s : Sign) (m : Nat) (e : Int) (hm : 0 < m) :
    IsLeft s m e (repacked (.finite s m e hm)) := by
  unfold repacked
  rw [pack_finite]
  split
  case isTrue h =>
    have hi : UnpackedFloat.unpack .binary64 (packedInfinity .binary64 s) = .infinity s := by
      cases s <;> rfl
    rw [hi]
    exact .infinity (by omega)
  case isFalse h =>
    split
    case isFalse => exact isLeft_subnormal s m e _
    case isTrue hl =>
      by_cases h0 : (e + 1023 + 52).toNat = 0
      · rw [h0]
        exact isLeft_subnormal s m e _
      · have he : ((e + 1023 + 52).toNat : Int) - 1075 = e := by omega
        rw [unpack_normal_ofNat s hm hl (by omega) (by omega), he]
        exact .same hm

theorem isNonneg_repacked {u : UnpackedFloat} (h : IsNonneg u) : IsNonneg (repacked u) := by
  cases u with
  | notANumber => cases h
  | zero s => cases s <;> trivial
  | infinity s =>
    cases h
    rfl
  | finite s m e hm =>
    cases h
    have hl := isLeft_repacked .positive m e hm
    generalize repacked (.finite .positive m e hm) = v at hl ⊢
    cases hl <;> trivial

theorem isAtMost_repacked {k : Int} {u : UnpackedFloat} (hk : -1022 ≤ k) (hk' : k ≤ 971)
    (h : IsAtMost k u) : IsAtMost k (repacked u) := by
  cases u with
  | notANumber => cases h
  | zero s => cases s <;> trivial
  | infinity s =>
    cases h
    rfl
  | finite s m e hm =>
    have hl := isLeft_repacked s m e hm
    generalize repacked (.finite s m e hm) = v at hl ⊢
    cases hl with
    | infinity he =>
      cases s with
      | negative => rfl
      | positive =>
        obtain ⟨hek, -⟩ := h rfl
        omega
    | zero => trivial
    | subnormal hn hlt =>
      intro _
      have hp : 2 ^ 52 ≤ 2 ^ (k - -1074).toNat := Nat.pow_le_pow_right (by decide) (by omega)
      exact ⟨by omega, by omega⟩
    | same => exact h

/-! Sums. -/

theorem add_finite (s s' : Sign) (m m' : Nat) (e e' : Int) (hm : 0 < m) (hm' : 0 < m') :
    add .binary64 (.finite s m e hm) (.finite s' m' e' hm') =
      normalize .binary64
        (s.apply (m <<< (e - min e e').toNat : Nat) + s'.apply (m' <<< (e' - min e e').toNat : Nat))
        (min e e') .positive := rfl

theorem isNonneg_add {u v : UnpackedFloat} (hu : IsNonneg u) (hv : IsNonneg v) :
    IsNonneg (add .binary64 u v) := by
  cases u with
  | notANumber => cases hu
  | infinity s =>
    cases v with
    | notANumber => cases hv
    | infinity s' =>
      cases hu
      cases hv
      rfl
    | zero => exact hu
    | finite => exact hu
  | zero s =>
    cases v with
    | notANumber => cases hv
    | infinity => exact hv
    | zero s' => cases s <;> cases s' <;> trivial
    | finite => exact hv
  | finite s m e hm =>
    cases v with
    | notANumber => cases hv
    | infinity => exact hv
    | zero => exact hu
    | finite s' m' e' hm' =>
      cases hu
      cases hv
      exact isNonneg_normalize (Int.add_nonneg (Int.natCast_nonneg _) (Int.natCast_nonneg _)) _ _

/-- What a positive number adds to a sum, told in the smaller exponent. -/
theorem apply_shiftLeft_le {k e e' : Int} {m : Nat} {s : Sign} (he' : e' ≤ e)
    (h : s = .positive → e ≤ k ∧ m ≤ 2 ^ (k - e).toNat) :
    s.apply (m <<< (e - e').toNat : Nat) ≤ 0 ∨
      (e' ≤ k ∧ s.apply (m <<< (e - e').toNat : Nat) ≤ (2 ^ (k - e').toNat : Nat)) := by
  cases s with
  | negative =>
    left
    exact Int.neg_nonpos_of_nonneg (Int.natCast_nonneg _)
  | positive =>
    right
    obtain ⟨he, hm⟩ := h rfl
    refine ⟨by omega, ?_⟩
    have hp : 2 ^ (k - e').toNat = 2 ^ (k - e).toNat * 2 ^ (e - e').toNat := by
      rw [← Nat.pow_add]
      congr 1
      omega
    have hle : m <<< (e - e').toNat ≤ 2 ^ (k - e').toNat := by
      rw [Nat.shiftLeft_eq, hp]
      exact Nat.mul_le_mul_right _ hm
    exact Int.ofNat_le.mpr hle

theorem isAtMost_add {k : Int} {u v : UnpackedFloat} (hk : -1074 ≤ k) (hu : IsAtMost k u)
    (hv : IsAtMost k v) : IsAtMost (k + 2) (add .binary64 u v) := by
  have hk2 : k ≤ k + 2 := by omega
  cases u with
  | notANumber => cases hu
  | infinity s =>
    cases v with
    | notANumber => cases hv
    | infinity s' =>
      cases hu
      cases hv
      rfl
    | zero => exact hu
    | finite => exact hu
  | zero s =>
    cases v with
    | notANumber => cases hv
    | infinity => exact hv
    | zero s' => cases s <;> cases s' <;> trivial
    | finite => exact IsAtMost.mono hk2 hv
  | finite s m e hm =>
    cases v with
    | notANumber => cases hv
    | infinity => exact hv
    | zero => exact IsAtMost.mono hk2 hu
    | finite s' m' e' hm' =>
      have h1 := apply_shiftLeft_le (Int.min_le_left e e') hu
      have h2 := apply_shiftLeft_le (Int.min_le_right e e') hv
      rw [add_finite]
      generalize s.apply (m <<< (e - min e e').toNat : Nat) = x at h1 ⊢
      generalize s'.apply (m' <<< (e' - min e e').toNat : Nat) = y at h2 ⊢
      refine isAtMost_normalize (by omega) (fun hx => ?_) _
      have hmin : min e e' ≤ k := by omega
      have hq : 2 ^ (k + 2 - min e e').toNat = 2 ^ (k - min e e').toNat * 4 := by
        have h4 : (k + 2 - min e e').toNat = (k - min e e').toNat + 2 := by omega
        rw [h4, Nat.pow_add]
      have hp : 0 < 2 ^ (k - min e e').toNat := Nat.two_pow_pos _
      refine ⟨by omega, ?_⟩
      rw [hq]
      generalize 2 ^ (k - min e e').toNat = p at h1 h2 hp ⊢
      omega

/-! Quotients. -/

theorem div_finite (s s' : Sign) (m m' : Nat) (e e' : Int) (hm : 0 < m) (hm' : 0 < m') :
    div .binary64 (.finite s m e hm) (.finite s' m' e' hm') =
      roundWithAccuracy .binary64 (s / s') (divCore .binary64 m e m' e').1
        (divCore .binary64 m e m' e').2.1 (divCore .binary64 m e m' e').2.2 := rfl

theorem isNonneg_div {u : UnpackedFloat} (hu : IsNonneg u) (m : Nat) (e : Int) (hm : 0 < m) :
    IsNonneg (div .binary64 u (.finite .positive m e hm)) := by
  cases u with
  | notANumber => cases hu
  | infinity s =>
    cases hu
    rfl
  | zero s => cases s <;> trivial
  | finite s m' e' hm' =>
    cases hu
    exact isNonneg_roundWithAccuracy _ _ _

/-- A number at most a power of two is so still after it is divided by a number above one. -/
theorem isAtMost_div {k : Int} {u : UnpackedFloat} (hk : -1074 ≤ k) (hu : IsAtMost k u) {m : Nat}
    {e : Int} (hm : 0 < m) (he : e ≤ 0) (h1 : 2 ^ (-e).toNat < m) :
    IsAtMost k (div .binary64 u (.finite .positive m e hm)) := by
  cases u with
  | notANumber => cases hu
  | infinity s =>
    cases hu
    rfl
  | zero s => cases s <;> trivial
  | finite s m' e' hm' =>
    cases s with
    | negative => exact isAtMost_roundWithAccuracy_negative k _ _ _
    | positive =>
      obtain ⟨he', hb⟩ := hu rfl
      have hl : m'.log2 ≤ (k - e').toNat := by
        have h := Nat.lt_of_le_of_lt hb (Nat.pow_lt_pow_succ (by decide))
        have := (Nat.log2_lt (by omega)).mpr h
        omega
      have hl1 : (-e).toNat ≤ m.log2 := (Nat.le_log2 (by omega)).mpr (Nat.le_of_lt h1)
      generalize ht : min (e' - e)
        (Format.binary64.targetExponent (totalExponent m' e' - totalExponent m e)) = t
      have htk : t ≤ k := by
        rw [targetExponent_eq] at ht
        unfold totalExponent at ht
        omega
      -- The quotient is below the power, not only at most as much: rounding up may add one to it.
      have hq : m' <<< (e' - e - t).toNat / m < 2 ^ (k - t).toNat := by
        refine Nat.div_lt_of_lt_mul ?_
        have hp : 2 ^ (k - e').toNat * 2 ^ (e' - e - t).toNat =
            2 ^ (-e).toNat * 2 ^ (k - t).toNat := by
          rw [← Nat.pow_add, ← Nat.pow_add]
          congr 1
          omega
        calc
          m' <<< (e' - e - t).toNat = m' * 2 ^ (e' - e - t).toNat := Nat.shiftLeft_eq _ _
          _ ≤ 2 ^ (k - e').toNat * 2 ^ (e' - e - t).toNat := Nat.mul_le_mul_right _ hb
          _ = 2 ^ (-e).toNat * 2 ^ (k - t).toNat := hp
          _ < m * 2 ^ (k - t).toNat := Nat.mul_lt_mul_of_pos_right h1 (Nat.two_pow_pos _)
      have hc : divCore .binary64 m' e' m e =
          (m' <<< (e' - e - t).toNat / m, t,
            accuracyOfFraction (m' <<< (e' - e - t).toNat % m) m) := by
        rw [← ht]
        rfl
      rw [div_finite, hc]
      exact isAtMost_roundWithAccuracy hk htk hq _ _

/-! Products. -/

theorem isNonneg_mul {u : UnpackedFloat} (hu : IsNonneg u) (m : Nat) (e : Int) (hm : 0 < m) :
    IsNonneg (mul .binary64 u (.finite .positive m e hm)) := by
  cases u with
  | notANumber => cases hu
  | infinity s =>
    cases hu
    rfl
  | zero s => cases s <;> trivial
  | finite s m' e' hm' =>
    cases hu
    exact isNonneg_roundWithAccuracy _ _ _

theorem isAtMost_mul_one {k : Int} {u : UnpackedFloat} (hk : -1074 ≤ k) (hu : IsAtMost k u) :
    IsAtMost (k + 1) (mul .binary64 u (.finite .positive (2 ^ 52) (-52) (by decide))) := by
  cases u with
  | notANumber => cases hu
  | infinity s =>
    cases hu
    rfl
  | zero s => cases s <;> trivial
  | finite s m e hm =>
    cases s with
    | negative => exact isAtMost_roundWithAccuracy_negative (k + 1) _ _ _
    | positive =>
      obtain ⟨he, hb⟩ := hu rfl
      refine isAtMost_roundWithAccuracy (by omega) (by omega) ?_ _ _
      have hp : 2 ^ (k + 1 - (e + -52)).toNat = 2 ^ (k - e).toNat * 2 ^ 53 := by
        rw [← Nat.pow_add]
        congr 1
        omega
      have hpos : 0 < 2 ^ (k - e).toNat := Nat.two_pow_pos _
      rw [hp]
      generalize 2 ^ (k - e).toNat = p at hb hpos
      omega

theorem isNonneg_ofScientific (m : Nat) (e : Int) :
    IsNonneg (UnpackedFloat.ofScientific .binary64 m e) := by
  unfold UnpackedFloat.ofScientific
  by_cases hm : m = 0
  · rw [dif_pos hm]
    trivial
  rw [dif_neg hm]
  refine iteInduction (motive := IsNonneg) (fun _ => rfl) fun _ => ?_
  refine iteInduction (motive := IsNonneg) (fun _ => trivial) fun _ => ?_
  refine iteInduction (motive := IsNonneg) (fun _ => ?_) fun _ => ?_
  · exact isNonneg_roundWithAccuracy _ _ _
  · exact isNonneg_roundWithAccuracy _ _ _

/-! Doubles. -/

theorem nonneg_add {a b : Float} (ha : IsNonneg a.toModel.unpack) (hb : IsNonneg b.toModel.unpack) :
    IsNonneg (a + b).toModel.unpack :=
  isNonneg_repacked (isNonneg_add ha hb)

theorem atMost_add {k : Int} {a b : Float} (hk : -1022 ≤ k) (hk' : k ≤ 969)
    (ha : IsAtMost k a.toModel.unpack) (hb : IsAtMost k b.toModel.unpack) :
    IsAtMost (k + 2) (a + b).toModel.unpack :=
  isAtMost_repacked (by omega) (by omega) (isAtMost_add (by omega) ha hb)

/-- A double above one. -/
def IsDivisor (b : Float) : Prop :=
  ∃ m e hm, b.toModel.unpack = .finite .positive m e hm ∧ e ≤ 0 ∧ 2 ^ (-e).toNat < m

theorem nonneg_div {a b : Float} (hb : IsDivisor b) (ha : IsNonneg a.toModel.unpack) :
    IsNonneg (a / b).toModel.unpack := by
  obtain ⟨m, e, hm, hb, -⟩ := hb
  have h := isNonneg_repacked (isNonneg_div ha m e hm)
  rw [← hb] at h
  exact h

theorem atMost_div {k : Int} {a b : Float} (hk : -1022 ≤ k) (hk' : k ≤ 971) (hb : IsDivisor b)
    (ha : IsAtMost k a.toModel.unpack) : IsAtMost k (a / b).toModel.unpack := by
  obtain ⟨m, e, hm, hb, he, h1⟩ := hb
  have h := isAtMost_repacked hk hk' (isAtMost_div (by omega) ha hm he h1)
  rw [← hb] at h
  exact h

theorem unpack_one : (1 : Float).toModel.unpack = .finite .positive (2 ^ 52) (-52) (by decide) := by
  rfl

theorem tenToZero (h : 0 < Float.exactlyRepresentablePowersOfTen.size) :
    Float.exactlyRepresentablePowersOfTen[0] = 1 := rfl

theorem nonneg_ofScientific (m : Nat) :
    IsNonneg (Float.ofScientific m false 0).toModel.unpack := by
  unfold Float.ofScientific
  split
  · have h : IsNonneg m.toUInt64.toFloat.toModel.unpack :=
      isNonneg_repacked (isNonneg_normalize (Int.natCast_nonneg _) _ _)
    have hmul := isNonneg_repacked (isNonneg_mul h (2 ^ 52) (-52) (by decide))
    rw [← unpack_one, ← tenToZero (by decide)] at hmul
    exact hmul
  · exact isNonneg_repacked (isNonneg_ofScientific _ _)

theorem atMost_ofScientific {m n : Nat} (hn : n ≤ 53) (hm : m < 2 ^ n) :
    IsAtMost (n + 1) (Float.ofScientific m false 0).toModel.unpack := by
  have hm' : m < 2 ^ 53 ∧ 0 ≤ 22 :=
    ⟨Nat.lt_of_lt_of_le hm (Nat.pow_le_pow_right (by decide) hn), by decide⟩
  unfold Float.ofScientific
  rw [dif_pos hm']
  have h : IsAtMost n m.toUInt64.toFloat.toModel.unpack := by
    refine isAtMost_repacked (by omega) (by omega) (isAtMost_normalize (by omega) (fun _ => ?_) _)
    have hle : m.toUInt64.toNat ≤ m := Nat.mod_le _ _
    have hz : ((n : Int) - 0).toNat = n := by omega
    refine ⟨by omega, ?_⟩
    rw [hz]
    exact Int.ofNat_lt.mpr (Nat.lt_of_le_of_lt hle hm)
  have hmul := isAtMost_repacked (by omega) (by omega) (isAtMost_mul_one (by omega) h)
  rw [← unpack_one, ← tenToZero (by decide)] at hmul
  exact hmul

/-- A whole number is no less than nothing, or at most as much as any power of two. -/
theorem bounds_ofInt (n : Int) :
    IsNonneg (ofInt n).toModel.unpack ∨
      ∀ k, -1022 ≤ k → k ≤ 971 → IsAtMost k (ofInt n).toModel.unpack := by
  cases n with
  | ofNat m => exact .inl (nonneg_ofScientific m)
  | negSucc m =>
    refine .inr fun k hk hk' => ?_
    exact isAtMost_repacked hk hk' ((nonneg_ofScientific (m + 1)).isAtMost_neg k)

/-! Comparing. -/

/-- How a double is held: a mantissa of 53 binary digits at most, and of fewer only at the least
exponent. -/
theorem mantissa_of_unpack {b : BitVec 64} {s : Sign} {m : Nat} {e : Int} {hm : 0 < m}
    (h : UnpackedFloat.unpack .binary64 b = .finite s m e hm) :
    m < 2 ^ 53 ∧ (e = -1074 ∨ 2 ^ 52 ≤ m) := by
  have hlt : (@unpackMantissa .binary64 b).toNat < 2 ^ 52 := BitVec.isLt _
  obtain ⟨-, hu | hu⟩ | ⟨-, ⟨-, hu⟩ | ⟨hpos, hu⟩⟩ | ⟨-, -, hpos, hu⟩ := unpack_cases b
  · cases hu.symm.trans h
  · cases hu.symm.trans h
  · cases hu.symm.trans h
  · cases hu.symm.trans h
    exact ⟨by omega, .inl rfl⟩
  · cases hu.symm.trans h
    rw [toNat_implicit]
    exact ⟨by omega, .inr (by omega)⟩

theorem lt_iff_unpack (a b : Float) : a < b ↔ a.toModel.unpack.lt b.toModel.unpack = true :=
  decide_eq_true_iff

theorem le_iff_unpack (a b : Float) : a ≤ b ↔ a.toModel.unpack.le b.toModel.unpack = true :=
  decide_eq_true_iff

theorem unpack_zero : (0 : Float).toModel.unpack = .zero .positive := by rfl

theorem negative_ne_positive : Sign.negative ≠ .positive := Sign.noConfusion

theorem zero_le_iff (x : Float) : 0 ≤ x ↔ IsNonneg x.toModel.unpack := by
  rw [le_iff_unpack, unpack_zero]
  cases x.toModel.unpack with
  | notANumber => exact iff_of_false Bool.false_ne_true id
  | zero s => exact iff_of_true rfl trivial
  | infinity s =>
    cases s with
    | positive => exact iff_of_true rfl rfl
    | negative => exact iff_of_false Bool.false_ne_true negative_ne_positive
  | finite s m e hm =>
    cases s with
    | positive => exact iff_of_true rfl rfl
    | negative => exact iff_of_false Bool.false_ne_true negative_ne_positive

theorem lt_zero_iff (x : Float) : x < 0 ↔ x.isNaN = false ∧ ¬ IsNonneg x.toModel.unpack := by
  have hn : x.isNaN = x.toModel.unpack.isNaN := rfl
  rw [lt_iff_unpack, unpack_zero, hn]
  cases x.toModel.unpack with
  | notANumber => exact iff_of_false Bool.false_ne_true fun h => Bool.false_ne_true h.1.symm
  | zero s => exact iff_of_false Bool.false_ne_true fun h => h.2 trivial
  | infinity s =>
    cases s with
    | positive => exact iff_of_false Bool.false_ne_true fun h => h.2 rfl
    | negative => exact iff_of_true rfl ⟨rfl, negative_ne_positive⟩
  | finite s m e hm =>
    cases s with
    | positive => exact iff_of_false Bool.false_ne_true fun h => h.2 rfl
    | negative => exact iff_of_true rfl ⟨rfl, negative_ne_positive⟩

/-- For a mantissa as it is held, to be at most one is to be so in the order of exponents first. -/
theorem at_most_one_iff {m : Nat} {e : Int} (hm : m < 2 ^ 53) (he : e = -1074 ∨ 2 ^ 52 ≤ m) :
    (e ≤ 0 ∧ m ≤ 2 ^ (0 - e).toNat) ↔ e < -52 ∨ (e = -52 ∧ m ≤ 2 ^ 52) := by
  constructor
  · rintro ⟨h0, hb⟩
    by_cases h : e < -52
    · exact .inl h
    · have hle : 2 ^ (0 - e).toNat ≤ 2 ^ 52 := Nat.pow_le_pow_right (by decide) (by omega)
      by_cases h52 : e = -52
      · exact .inr ⟨h52, by omega⟩
      · have hlt : 2 ^ (0 - e).toNat ≤ 2 ^ 51 := Nat.pow_le_pow_right (by decide) (by omega)
        omega
  · rintro (h | ⟨rfl, h⟩)
    · have hle : 2 ^ 53 ≤ 2 ^ (0 - e).toNat := Nat.pow_le_pow_right (by decide) (by omega)
      exact ⟨by omega, by omega⟩
    · exact ⟨by decide, h⟩

theorem isLE_then_iff (e e' : Int) (m m' : Nat) :
    ((compare e e').then (compare m m')).isLE = true ↔ e < e' ∨ (e = e' ∧ m ≤ m') := by
  rcases Int.lt_trichotomy e e' with h | rfl | h
  · rw [Int.compare_eq_lt.mpr h]
    simp [h]
  · rw [Int.compare_eq_eq.mpr rfl]
    simp [Nat.isLE_compare]
  · rw [Int.compare_eq_gt.mpr h]
    simp
    omega

theorem eq_lt_then_iff (e e' : Int) (m m' : Nat) :
    (compare e e').then (compare m m') = .lt ↔ e < e' ∨ (e = e' ∧ m < m') := by
  rcases Int.lt_trichotomy e e' with h | rfl | h
  · rw [Int.compare_eq_lt.mpr h]
    simp [h]
  · rw [Int.compare_eq_eq.mpr rfl]
    simp [Nat.compare_eq_lt]
  · rw [Int.compare_eq_gt.mpr h]
    simp
    omega

theorem isAtMost_zero_iff {x : Float} {m : Nat} {e : Int} {hm : 0 < m}
    (hx : x.toModel.unpack = .finite .positive m e hm) :
    IsAtMost 0 x.toModel.unpack ↔ e < -52 ∨ (e = -52 ∧ m ≤ 2 ^ 52) := by
  obtain ⟨h1, h2⟩ := mantissa_of_unpack hx
  rw [hx, ← at_most_one_iff h1 h2]
  exact ⟨fun h => h rfl, fun h _ => h⟩

theorem le_one_iff (x : Float) : x ≤ 1 ↔ IsAtMost 0 x.toModel.unpack := by
  rw [le_iff_unpack, unpack_one]
  cases hx : x.toModel.unpack with
  | notANumber => exact iff_of_false Bool.false_ne_true id
  | zero s => exact iff_of_true rfl trivial
  | infinity s =>
    cases s with
    | positive => exact iff_of_false Bool.false_ne_true negative_ne_positive.symm
    | negative => exact iff_of_true rfl rfl
  | finite s m e hm =>
    cases s with
    | negative => exact iff_of_true rfl fun h => absurd h negative_ne_positive
    | positive =>
      rw [← hx, isAtMost_zero_iff hx, hx]
      exact isLE_then_iff e (-52) m (2 ^ 52)

theorem one_lt_iff (x : Float) : 1 < x ↔ x.isNaN = false ∧ ¬ IsAtMost 0 x.toModel.unpack := by
  have hn : x.isNaN = x.toModel.unpack.isNaN := rfl
  rw [lt_iff_unpack, unpack_one, hn]
  cases hx : x.toModel.unpack with
  | notANumber => exact iff_of_false Bool.false_ne_true fun h => Bool.false_ne_true h.1.symm
  | zero s => exact iff_of_false Bool.false_ne_true fun h => h.2 trivial
  | infinity s =>
    cases s with
    | positive => exact iff_of_true rfl ⟨rfl, negative_ne_positive.symm⟩
    | negative => exact iff_of_false Bool.false_ne_true fun h => h.2 rfl
  | finite s m e hm =>
    cases s with
    | negative => exact iff_of_false Bool.false_ne_true fun h => h.2 fun h => absurd h negative_ne_positive
    | positive =>
      rw [← hx, isAtMost_zero_iff hx, hx]
      have hlt : UnpackedFloat.lt (.finite .positive (2 ^ 52) (-52) (by decide))
          (.finite .positive m e hm) = true ↔ -52 < e ∨ (-52 = e ∧ 2 ^ 52 < m) :=
        beq_iff_eq.trans (Option.some_inj.trans (eq_lt_then_iff (-52) e (2 ^ 52) m))
      rw [hlt]
      constructor
      · intro h
        exact ⟨rfl, by omega⟩
      · rintro ⟨-, h⟩
        omega

theorem isNaN_of_ne {x : Float} (h : x.toModel.unpack ≠ .notANumber) : x.isNaN = false := by
  have hn : x.isNaN = x.toModel.unpack.isNaN := rfl
  rw [hn]
  cases hx : x.toModel.unpack with
  | notANumber => exact absurd hx h
  | _ => rfl

theorem isNaN_of_isNonneg {x : Float} (h : IsNonneg x.toModel.unpack) : x.isNaN = false :=
  isNaN_of_ne fun hn => by
    rw [hn] at h
    exact h

theorem isNaN_of_isAtMost {k : Int} {x : Float} (h : IsAtMost k x.toModel.unpack) :
    x.isNaN = false :=
  isNaN_of_ne fun hn => by
    rw [hn] at h
    exact h

/-- What is below nothing is below every number above nothing. -/
theorem lt_of_lt_zero {x y : Float} {m : Nat} {e : Int} {hm : 0 < m}
    (hy : y.toModel.unpack = .finite .positive m e hm) (h : x < 0) : x < y := by
  rw [lt_iff_unpack, unpack_zero] at h
  rw [lt_iff_unpack, hy]
  cases hx : x.toModel.unpack with
  | notANumber =>
    rw [hx] at h
    cases h
  | zero s =>
    rw [hx] at h
    cases h
  | infinity s =>
    rw [hx] at h
    cases s with
    | positive => cases h
    | negative => rfl
  | finite s m e hm =>
    rw [hx] at h
    cases s with
    | positive => cases h
    | negative => rfl

/-! Shares. -/

/-- Between nothing and the whole. -/
def IsShare (x : Float) : Prop := 0 ≤ x ∧ x ≤ 1

instance (x : Float) : Decidable (IsShare x) := inferInstanceAs (Decidable (_ ∧ _))

theorem isShare_iff (x : Float) :
    IsShare x ↔ IsNonneg x.toModel.unpack ∧ IsAtMost 0 x.toModel.unpack := by
  rw [IsShare, zero_le_iff, le_one_iff]

theorem IsShare.isNaN {x : Float} (h : IsShare x) : x.isNaN = false :=
  isNaN_of_isAtMost ((isShare_iff x).mp h).2

theorem isShare_of_not_lt {x : Float} (hn : x.isNaN = false) (h0 : ¬ x < 0) (h1 : ¬ 1 < x) :
    IsShare x := by
  rw [lt_zero_iff] at h0
  rw [one_lt_iff] at h1
  rw [isShare_iff]
  exact ⟨Classical.not_not.mp fun h => h0 ⟨hn, h⟩, Classical.not_not.mp fun h => h1 ⟨hn, h⟩⟩

theorem IsShare.half {x : Float} (h : IsShare x) : IsShare (x / 2) := by
  have h2 : IsDivisor 2 := ⟨2 ^ 52, -51, by decide, by rfl, by decide, by decide⟩
  obtain ⟨h0, h1⟩ := (isShare_iff x).mp h
  exact (isShare_iff (x / 2)).mpr ⟨nonneg_div h2 h0, atMost_div (by decide) (by decide) h2 h1⟩

end Utterance.Decimal
