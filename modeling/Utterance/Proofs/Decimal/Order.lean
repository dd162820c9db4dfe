import Utterance.Decimal.Double
import Utterance.Proofs.Decimal.Exact

/-! The order of doubles and the order of their words.

Doubles that are numbers are in the order of the keys of their words, but for the two zeros: these are
equal as numbers, while the word of the negative one has the smaller key. -/

namespace Utterance.Decimal

open Float.Model Float.Model.UnpackedFloat

/-! What a word holds. -/

theorem unpack_subnormal_ofNat (s : Sign) {m : Nat} (hm : 0 < m) (h : m < 2 ^ 52) :
    let b := packComponents .binary64 s 0#11 (BitVec.ofNat 52 m)
    UnpackedFloat.unpack .binary64 b = .finite s m (-1074) hm := by
  intro b
  have he : @unpackExponent .binary64 b = 0#11 := by simp [b]
  have hx : @unpackMantissa .binary64 b = BitVec.ofNat 52 m := by simp [b]
  have hn : (BitVec.ofNat 52 m).toNat = m := by rw [BitVec.toNat_ofNat, Nat.mod_eq_of_lt h]
  obtain ⟨h', -⟩ | ⟨-, ⟨h', -⟩ | ⟨_, h'⟩⟩ | ⟨-, h', -⟩ := unpack_cases b
  · exact absurd (he.symm.trans h') (by decide)
  · have hz : m = 0 := by rw [← hn, ← hx, h']; rfl
    omega
  · rw [h', unpackSign_packComponents, ofBitVec_toBitVec]
    exact finite_congr s _ _ (by rw [hx, hn]) rfl
  · exact absurd he h'

/-- The exponent of a normal double, as it is written. -/
theorem bounds_unpackExponent {b : BitVec 64} (h : @unpackExponent .binary64 b ≠ 2047#11)
    (h' : @unpackExponent .binary64 b ≠ 0#11) :
    0 < (@unpackExponent .binary64 b).toNat ∧ (@unpackExponent .binary64 b).toNat < 2047 := by
  have hlt : (@unpackExponent .binary64 b).toNat < 2 ^ 11 := BitVec.isLt _
  have hpos : (@unpackExponent .binary64 b).toNat ≠ 0 := fun hz => h' (BitVec.eq_of_toNat_eq hz)
  have hmax : (@unpackExponent .binary64 b).toNat ≠ 2047 := fun hz => h (BitVec.eq_of_toNat_eq hz)
  omega

/-- What a word holds is held in a double as it is. -/
theorem repacked_unpack (b : BitVec 64) :
    repacked (UnpackedFloat.unpack .binary64 b) = UnpackedFloat.unpack .binary64 b := by
  have hlt : (@unpackMantissa .binary64 b).toNat < 2 ^ 52 := BitVec.isLt _
  obtain ⟨-, h | h⟩ | ⟨-, ⟨-, h⟩ | ⟨hm, h⟩⟩ | ⟨h2047, h0, hm, h⟩ := unpack_cases b
  · rw [h]
    generalize Sign.ofBitVec _ = s
    cases s <;> rfl
  · rw [h]
    rfl
  · rw [h]
    generalize Sign.ofBitVec _ = s
    cases s <;> rfl
  · have hlog : ¬(@unpackMantissa .binary64 b).toNat.log2 + 1 = 53 := by
      have hl : (@unpackMantissa .binary64 b).toNat.log2 < 52 := (Nat.log2_lt (by omega)).mpr hlt
      omega
    rw [h, repacked, pack_finite, if_neg (by decide), if_neg hlog]
    exact unpack_subnormal_ofNat _ hm hlt
  · obtain ⟨hpos, hmax⟩ := bounds_unpackExponent h2047 h0
    have hlog : (1#1 ++ @unpackMantissa .binary64 b).toNat.log2 + 1 = 53 := by
      rw [log2_of_bounds] <;> rw [toNat_implicit] <;> omega
    rw [h, repacked, pack_finite, if_neg (by omega), if_pos hlog,
      unpack_normal_ofNat _ hm hlog (by omega) (by omega)]
    exact finite_congr _ _ _ rfl (by omega)

/-- A mantissa of 53 binary digits, or the least exponent. -/
def IsTight : UnpackedFloat → Prop
  | .finite _ m e _ => -1074 ≤ e ∧ e ≤ 971 ∧ m < 2 ^ 53 ∧ (e = -1074 ∨ 2 ^ 52 ≤ m)
  | _ => True

theorem isTight_unpack (b : BitVec 64) : IsTight (UnpackedFloat.unpack .binary64 b) := by
  have hlt : (@unpackMantissa .binary64 b).toNat < 2 ^ 52 := BitVec.isLt _
  obtain ⟨-, h | h⟩ | ⟨-, ⟨-, h⟩ | ⟨_, h⟩⟩ | ⟨h2047, h0, _, h⟩ := unpack_cases b <;> rw [h]
  · trivial
  · trivial
  · trivial
  · exact ⟨by omega, by omega, by omega, .inl rfl⟩
  · obtain ⟨hpos, hmax⟩ := bounds_unpackExponent h2047 h0
    have hm := toNat_implicit (@unpackMantissa .binary64 b)
    exact ⟨by omega, by omega, by omega, .inr (by omega)⟩

/-! The order of doubles. -/

/-- How many doubles a number is away from zero, with the sign of the number. -/
def place : UnpackedFloat → Int
  | .notANumber | .zero _ => 0
  | .infinity s => s.apply (2047 * 2 ^ 52)
  | .finite s m e _ => s.apply ((e + 1074) * 2 ^ 52 + m)

theorem place_zero (s : Sign) : place (.zero s) = 0 := rfl

theorem place_infinity (s : Sign) : place (.infinity s) = s.apply (2047 * 2 ^ 52) := rfl

theorem place_finite (s : Sign) (m : Nat) (e : Int) (hm : 0 < m) :
    place (.finite s m e hm) = s.apply ((e + 1074) * 2 ^ 52 + m) := rfl

theorem isGE_then_iff (e e' : Int) (m m' : Nat) :
    ((compare e e').then (compare m m')).isGE = true ↔ e' < e ∨ (e = e' ∧ m' ≤ m) := by
  rw [← Ordering.isLE_swap, Ordering.swap_then, ← Std.OrientedOrd.eq_swap, ← Std.OrientedOrd.eq_swap,
    isLE_then_iff, eq_comm]

theorem le_iff_place {u v : UnpackedFloat} (hu : IsTight u) (hv : IsTight v) (hu' : u ≠ .notANumber)
    (hv' : v ≠ .notANumber) : u.le v = true ↔ place u ≤ place v := by
  cases u with
  | notANumber => exact absurd rfl hu'
  | infinity s =>
    cases v with
    | notANumber => exact absurd rfl hv'
    | infinity s' | zero s' => cases s <;> cases s' <;> decide
    | finite s' m' e' hm' =>
      obtain ⟨h1, h2, h3, -⟩ := hv
      unfold UnpackedFloat.le UnpackedFloat.compare place
      cases s <;> cases s' <;> simp [Sign.apply] <;> omega
  | zero s =>
    cases v with
    | notANumber => exact absurd rfl hv'
    | infinity s' | zero s' => cases s <;> cases s' <;> decide
    | finite s' m' e' hm' =>
      obtain ⟨h1, h2, h3, -⟩ := hv
      unfold UnpackedFloat.le UnpackedFloat.compare place
      cases s' <;> simp [Sign.apply] <;> omega
  | finite s m e hm =>
    obtain ⟨h1, h2, h3, h4⟩ := hu
    cases v with
    | notANumber => exact absurd rfl hv'
    | infinity s' =>
      unfold UnpackedFloat.le UnpackedFloat.compare place
      cases s <;> cases s' <;> simp [Sign.apply] <;> omega
    | zero s' =>
      unfold UnpackedFloat.le UnpackedFloat.compare place
      cases s <;> simp [Sign.apply] <;> omega
    | finite s' m' e' hm' =>
      obtain ⟨h1', h2', h3', h4'⟩ := hv
      unfold UnpackedFloat.le UnpackedFloat.compare place
      cases s <;> cases s' <;> simp [Sign.apply, isLE_then_iff, isGE_then_iff] <;> omega

theorem then_swap (e e' : Int) (m m' : Nat) :
    ((compare e e').then (compare m m')).swap = (compare e' e).then (compare m' m) := by
  rw [Ordering.swap_then, ← Std.OrientedOrd.eq_swap, ← Std.OrientedOrd.eq_swap]

/-- Two numbers compare, and the other way round the other way. -/
theorem exists_compare {u v : UnpackedFloat} (hu : u ≠ .notANumber) (hv : v ≠ .notANumber) :
    ∃ o, u.compare v = some o ∧ v.compare u = some o.swap := by
  cases u with
  | notANumber => exact absurd rfl hu
  | infinity s | zero s =>
    cases v with
    | notANumber => exact absurd rfl hv
    | infinity s' | zero s' | finite s' => cases s <;> cases s' <;> exact ⟨_, rfl, rfl⟩
  | finite s m e hm =>
    cases v with
    | notANumber => exact absurd rfl hv
    | infinity s' | zero s' => cases s <;> cases s' <;> exact ⟨_, rfl, rfl⟩
    | finite s' m' e' hm' =>
      cases s with
      | negative =>
        cases s' with
        | negative => exact ⟨_, rfl, congrArg (fun o : Ordering => some o.swap) (then_swap e e' m m').symm⟩
        | positive => exact ⟨_, rfl, rfl⟩
      | positive =>
        cases s' with
        | negative => exact ⟨_, rfl, rfl⟩
        | positive => exact ⟨_, rfl, congrArg some (then_swap e e' m m').symm⟩

theorem unpack_eq_notANumber_iff {x : Float} : x.toModel.unpack = .notANumber ↔ x.isNaN = true := by
  have hn : x.isNaN = x.toModel.unpack.isNaN := rfl
  rw [hn]
  cases x.toModel.unpack with
  | notANumber => exact iff_of_true rfl rfl
  | _ => exact iff_of_false UnpackedFloat.noConfusion Bool.false_ne_true

/-- Of two numbers one is less exactly if the other is not at most as much. -/
theorem lt_iff_not_le {x y : Float} (hx : x.isNaN = false) (hy : y.isNaN = false) : x < y ↔ ¬y ≤ x := by
  have hne {z : Float} (hz : z.isNaN = false) : z.toModel.unpack ≠ .notANumber := by
    rw [Ne, unpack_eq_notANumber_iff, hz]
    exact Bool.false_ne_true
  obtain ⟨o, ho, hswap⟩ := exists_compare (hne hx) (hne hy)
  rw [lt_iff_unpack, le_iff_unpack, UnpackedFloat.lt, UnpackedFloat.le, ho, hswap]
  cases o <;> decide

/-! Doubles from `2 ^ 64` on. -/

theorem unpack_twoTo64 :
    (18446744073709551616 : Float).toModel.unpack = .finite .positive (2 ^ 52) 12 (by decide) := by
  rfl

/-- A positive double reaches `2 ^ 64` exactly if it has no digit for less than `2 ^ 12`. -/
theorem twoTo64_le_iff {x : Float} {m : Nat} {e : Int} {hm : 0 < m}
    (hx : x.toModel.unpack = .finite .positive m e hm) : 18446744073709551616 ≤ x ↔ 12 ≤ e := by
  have ht : IsTight x.toModel.unpack := isTight_unpack _
  have hlimit : IsTight (18446744073709551616 : Float).toModel.unpack := isTight_unpack _
  have hplace : place x.toModel.unpack = (e + 1074) * 2 ^ 52 + m := by
    rw [hx]
    rfl
  have hplace' : place (18446744073709551616 : Float).toModel.unpack = (12 + 1074) * 2 ^ 52 + 2 ^ 52 := by
    rw [unpack_twoTo64]
    rfl
  rw [le_iff_unpack, le_iff_place hlimit ht (by rw [unpack_twoTo64]; exact UnpackedFloat.noConfusion)
    (by rw [hx]; exact UnpackedFloat.noConfusion), hplace, hplace']
  rw [hx] at ht
  obtain ⟨h1, h2, h3, h4⟩ := ht
  omega

theorem not_twoTo64_le_zero {x : Float} {s : Sign} (hx : x.toModel.unpack = .zero s) :
    ¬ 18446744073709551616 ≤ x := by
  rw [le_iff_unpack, unpack_twoTo64, hx]
  cases s <;> decide

/-- What a finite double is that is not negative. -/
theorem unpack_of_finite {x : Float} (hf : x.isFinite) (h0 : 0 ≤ x) :
    (∃ s, x.toModel.unpack = .zero s) ∨ ∃ m e hm, x.toModel.unpack = .finite .positive m e hm := by
  have hf' : x.toModel.unpack.isFinite = true := hf
  rw [zero_le_iff] at h0
  cases hu : x.toModel.unpack with
  | notANumber =>
    rw [hu] at h0
    cases h0
  | infinity s =>
    rw [hu] at hf'
    cases hf'
  | zero s => exact .inl ⟨s, rfl⟩
  | finite s m e hm =>
    rw [hu] at h0
    cases h0
    exact .inr ⟨m, e, hm, rfl⟩

/-! The order of words. -/

theorem exponentField_eq {b : BitVec 64} {x : BitVec 11} (h : @unpackExponent .binary64 b = x) :
    b.toNat / 2 ^ 52 % 2048 = x.toNat := by
  rw [← h, toNat_unpackExponent]

theorem mantissaField_eq_zero_iff (b : BitVec 64) :
    b.toNat % 2 ^ 52 = 0 ↔ @unpackMantissa .binary64 b = 0#52 := by
  rw [← toNat_unpackMantissa]
  exact ⟨fun h => BitVec.eq_of_toNat_eq h, fun h => by rw [h]; rfl⟩

/-- With the greatest exponent a word holds no number, unless its mantissa is zero. -/
theorem unpack_top {b : BitVec 64} (h : @unpackExponent .binary64 b = 2047#11) :
    (b.toNat % 2 ^ 52 = 0 ∧
      UnpackedFloat.unpack .binary64 b = .infinity (.ofBitVec (@unpackSign .binary64 b))) ∨
    (b.toNat % 2 ^ 52 ≠ 0 ∧ UnpackedFloat.unpack .binary64 b = .notANumber) := by
  rw [Ne, mantissaField_eq_zero_iff]
  by_cases hm : @unpackMantissa .binary64 b = 0#52
  · exact .inl ⟨hm, (if_pos h).trans (if_pos hm)⟩
  · exact .inr ⟨hm, (if_pos h).trans (if_neg hm)⟩

/-- What the sign of a word makes of the rest of it. -/
theorem apply_sign {b : BitVec 64} {n : Int} (h : n = (b.toNat % 2 ^ 63 : Nat)) :
    (Sign.ofBitVec (@unpackSign .binary64 b)).apply n =
      if b.toNat < 2 ^ 63 then (b.toNat : Int) else 2 ^ 63 - (b.toNat : Int) := by
  have hb : b.toNat < 2 ^ 64 := b.isLt
  have hsign := isMinus_unpackSign b
  generalize Sign.ofBitVec (@unpackSign .binary64 b) = s at hsign
  cases s with
  | negative =>
    have hminus : 2 ^ 63 ≤ b.toNat := of_decide_eq_true hsign.symm
    rw [if_neg (by omega), Sign.apply]
    omega
  | positive =>
    have hplus : ¬2 ^ 63 ≤ b.toNat := of_decide_eq_false hsign.symm
    rw [if_pos (by omega), Sign.apply]
    omega

/-- The place of a number is its word, the sign apart. -/
theorem place_unpack {b : BitVec 64} (hn : UnpackedFloat.unpack .binary64 b ≠ .notANumber) :
    place (UnpackedFloat.unpack .binary64 b) =
      if b.toNat < 2 ^ 63 then (b.toNat : Int) else 2 ^ 63 - (b.toNat : Int) := by
  obtain ⟨h2047, -⟩ | ⟨h0, ⟨hm0, h⟩ | ⟨_, h⟩⟩ | ⟨-, -, _, h⟩ := unpack_cases b
  · have hx : b.toNat / 2 ^ 52 % 2048 = 2047 := exponentField_eq h2047
    obtain ⟨hm, h⟩ | ⟨-, h⟩ := unpack_top h2047
    · rw [h, place_infinity]
      exact apply_sign (by omega)
    · exact absurd h hn
  · have hx : b.toNat / 2 ^ 52 % 2048 = 0 := exponentField_eq h0
    have hm := (mantissaField_eq_zero_iff b).mpr hm0
    have hzero : (Sign.ofBitVec (@unpackSign .binary64 b)).apply 0 = 0 := by
      cases Sign.ofBitVec (@unpackSign .binary64 b) <;> rfl
    rw [h, place_zero, ← hzero]
    exact apply_sign (by omega)
  · have hx : b.toNat / 2 ^ 52 % 2048 = 0 := exponentField_eq h0
    rw [h, place_finite, toNat_unpackMantissa]
    exact apply_sign (by omega)
  · rw [h, place_finite, toNat_implicit, toNat_unpackExponent, toNat_unpackMantissa]
    exact apply_sign (by omega)

namespace Double

theorem unpack_toFloat (w : Double) :
    w.toFloat.toModel.unpack = UnpackedFloat.unpack .binary64 w.bits.toBitVec :=
  repacked_unpack w.bits.toBitVec

theorem unpack_eq_notANumber_iff (w : Double) :
    UnpackedFloat.unpack .binary64 w.bits.toBitVec = .notANumber ↔ w.isNaN = true := by
  have hn : w.isNaN = true ↔ 0x7ff0000000000000 < w.bits.toBitVec.toNat % 2 ^ 63 := decide_eq_true_iff
  rw [hn]
  obtain ⟨h2047, -⟩ | ⟨h0, ⟨-, h⟩ | ⟨_, h⟩⟩ | ⟨h2047, h0, _, h⟩ := unpack_cases w.bits.toBitVec
  · have hx : w.bits.toBitVec.toNat / 2 ^ 52 % 2048 = 2047 := exponentField_eq h2047
    obtain ⟨hm, h⟩ | ⟨hm, h⟩ := unpack_top h2047
    · rw [h]
      exact iff_of_false UnpackedFloat.noConfusion (by omega)
    · exact iff_of_true h (by omega)
  · have hx : w.bits.toBitVec.toNat / 2 ^ 52 % 2048 = 0 := exponentField_eq h0
    rw [h]
    exact iff_of_false UnpackedFloat.noConfusion (by omega)
  · have hx : w.bits.toBitVec.toNat / 2 ^ 52 % 2048 = 0 := exponentField_eq h0
    rw [h]
    exact iff_of_false UnpackedFloat.noConfusion (by omega)
  · obtain ⟨-, hmax⟩ := bounds_unpackExponent h2047 h0
    rw [toNat_unpackExponent] at hmax
    rw [h]
    exact iff_of_false UnpackedFloat.noConfusion (by omega)

theorem le_iff_key (v w : Double) :
    v.toFloat ≤ w.toFloat ↔
      v.isNaN = false ∧ w.isNaN = false ∧ (v.key ≤ w.key ∨ (v.isZero ∧ w.isZero)) := by
  rw [le_iff_unpack, unpack_toFloat, unpack_toFloat, ← Bool.not_eq_true, ← Bool.not_eq_true,
    ← unpack_eq_notANumber_iff, ← unpack_eq_notANumber_iff]
  by_cases hv : UnpackedFloat.unpack .binary64 v.bits.toBitVec = .notANumber
  · rw [hv]
    exact iff_of_false Bool.false_ne_true fun h => h.1 rfl
  by_cases hw : UnpackedFloat.unpack .binary64 w.bits.toBitVec = .notANumber
  · rw [hw]
    refine iff_of_false ?_ fun h => h.2.1 rfl
    cases UnpackedFloat.unpack .binary64 v.bits.toBitVec <;> exact Bool.false_ne_true
  have hbits (u : Double) : u.bits.toBitVec.toNat = u.bits.toNat := rfl
  have hlt (u : Double) : u.bits.toNat < 2 ^ 64 := u.bits.toBitVec.isLt
  have hvlt := hlt v
  have hwlt := hlt w
  rw [le_iff_place (isTight_unpack _) (isTight_unpack _) hv hw, place_unpack hv, place_unpack hw]
  simp only [hv, hw, hbits, key, isZero, decide_eq_true_eq, not_false_iff, true_and]
  split <;> split <;> omega

theorem unpack_ofFloat (x : Float) : (ofFloat x).toFloat.toModel.unpack = x.toModel.unpack :=
  unpack_toFloat (ofFloat x)

/-- A double stands to a word as the word that is made of it. -/
theorem le_toFloat_iff (x : Float) (w : Double) : x ≤ w.toFloat ↔ (ofFloat x).toFloat ≤ w.toFloat := by
  rw [le_iff_unpack, le_iff_unpack, unpack_ofFloat]

theorem isNaN_ofFloat (x : Float) : (ofFloat x).isNaN = x.isNaN := by
  rw [Bool.eq_iff_iff, ← unpack_eq_notANumber_iff, ← Decimal.unpack_eq_notANumber_iff]
  rfl

theorem le_iff_ofFloat (x y : Float) : x ≤ y ↔ (ofFloat x).toFloat ≤ (ofFloat y).toFloat := by
  rw [← le_toFloat_iff, le_iff_unpack, le_iff_unpack, unpack_ofFloat]

/-- A number above zero, as its word tells. -/
structure IsPositive (x : Float) : Prop where
  isNaN : x.isNaN = false
  key : 0 < (ofFloat x).key

theorem key_le_of_isZero {w : Double} (h : w.isZero = true) : w.key ≤ 0 := by
  have hzero : w.bits.toNat % 2 ^ 63 = 0 := of_decide_eq_true h
  unfold key
  dsimp only
  split <;> omega

namespace IsPositive

variable {x y : Float}

/-- Numbers above zero are in the order of the keys of their words. -/
theorem le_iff (hx : IsPositive x) (hy : y.isNaN = false) : x ≤ y ↔ (ofFloat x).key ≤ (ofFloat y).key := by
  have hkey := hx.key
  have hzero : ¬(ofFloat x).isZero = true := fun h => absurd (key_le_of_isZero h) (Int.not_le.mpr hkey)
  rw [le_iff_ofFloat, le_iff_key, isNaN_ofFloat, isNaN_ofFloat, hx.isNaN, hy]
  simp [hzero]

theorem lt_iff (hx : IsPositive x) (hy : IsPositive y) : x < y ↔ (ofFloat x).key < (ofFloat y).key := by
  rw [lt_iff_not_le hx.isNaN hy.isNaN, hy.le_iff hx.isNaN, Int.not_le]

/-- What is at least as much as a number above zero is above zero too. -/
theorem of_le (hx : IsPositive x) (h : x ≤ y) : IsPositive y := by
  have hy : y.isNaN = false := by
    rw [le_iff_ofFloat, le_iff_key, isNaN_ofFloat, isNaN_ofFloat] at h
    exact h.2.1
  have hle := (hx.le_iff hy).mp h
  exact ⟨hy, Int.lt_of_lt_of_le hx.key hle⟩

end IsPositive

end Double

end Utterance.Decimal
