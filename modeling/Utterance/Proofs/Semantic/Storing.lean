import Utterance.Semantic.Embedding

/-! An embedding is stored without loss: the octets of each coordinate are the digits of its word in base 256,
the lowest first. Octets that are read as an embedding are stored again as they were, but for up to three at the
end. -/

namespace Utterance.Embedding

open Decimal (Single)

/-- The digit of a coordinate at place `k` in base 256. -/
def digit (k : Nat) (x : Single) : UInt8 :=
  UInt8.ofNat (x.bits.toNat / 256 ^ k)

theorem octets_eq_digits (x : Single) : octets x = [digit 0 x, digit 1 x, digit 2 x, digit 3 x] := by
  have hdigit (k : UInt32) (n : Nat) (hk : k.toNat % 32 = 8 * n) : (x.bits >>> k).toUInt8 = digit n x := by
    apply UInt8.toNat_inj.mp
    have hpow : 2 ^ (8 * n) = 256 ^ n := Nat.pow_mul 2 8 n
    rw [UInt32.toNat_toUInt8, UInt32.toNat_shiftRight, hk, Nat.shiftRight_eq_div_pow, hpow, digit, UInt8.toNat_ofNat']
  have hzero : x.bits.toUInt8 = digit 0 x := by
    rw [← hdigit 0 0 rfl]
    simp
  rw [octets, hzero, hdigit 8 1 rfl, hdigit 16 2 rfl, hdigit 24 3 rfl]

/-- The word of a coordinate has its octets as digits. -/
theorem toNat_coordinate (a b c d : UInt8) :
    (coordinate a b c d).bits.toNat =
      a.toNat + 256 * b.toNat + 256 ^ 2 * c.toNat + 256 ^ 3 * d.toNat := by
  have ha := a.toNat_lt
  have hb := b.toNat_lt
  have hc := c.toNat_lt
  have hd := d.toNat_lt
  have hor {m n : Nat} (k : Nat) (hm : m < 2 ^ k) : m ||| n <<< k = m + 2 ^ k * n := by
    rw [Nat.or_comm, ← Nat.shiftLeft_add_eq_or_of_lt hm, Nat.shiftLeft_eq, Nat.add_comm, Nat.mul_comm n]
  have hshift (x : UInt8) (k : UInt32) (hk : k.toNat % 32 ≤ 24) :
      (x.toUInt32 <<< k).toNat = x.toNat <<< (k.toNat % 32) := by
    have hle : 2 ^ (k.toNat % 32) ≤ 2 ^ 24 := Nat.pow_le_pow_right (by decide) hk
    have hlt : x.toNat * 2 ^ (k.toNat % 32) < 2 ^ 8 * 2 ^ 24 :=
      Nat.mul_lt_mul_of_lt_of_le x.toNat_lt hle (by decide)
    rw [UInt32.toNat_shiftLeft, UInt8.toNat_toUInt32, Nat.shiftLeft_eq, Nat.mod_eq_of_lt hlt]
  show (a.toUInt32 ||| b.toUInt32 <<< 8 ||| c.toUInt32 <<< 16 ||| d.toUInt32 <<< 24).toNat = _
  rw [UInt32.toNat_or, UInt32.toNat_or, UInt32.toNat_or, hshift b 8 (by decide), hshift c 16 (by decide),
    hshift d 24 (by decide), UInt8.toNat_toUInt32]
  show a.toNat ||| b.toNat <<< 8 ||| c.toNat <<< 16 ||| d.toNat <<< 24 = _
  rw [hor 8 ha, hor 16 (by omega), hor 24 (by omega)]

theorem coordinate_digits (x : Single) : coordinate (digit 0 x) (digit 1 x) (digit 2 x) (digit 3 x) = x := by
  have hx := x.bits.toNat_lt
  have hbits : (coordinate (digit 0 x) (digit 1 x) (digit 2 x) (digit 3 x)).bits = x.bits := by
    apply UInt32.toNat_inj.mp
    rw [toNat_coordinate]
    simp only [digit, UInt8.toNat_ofNat']
    omega
  exact congrArg Single.mk hbits

theorem octets_coordinate (a b c d : UInt8) : octets (coordinate a b c d) = [a, b, c, d] := by
  have ha := a.toNat_lt
  have hb := b.toNat_lt
  have hc := c.toNat_lt
  have hd := d.toNat_lt
  have hdigit (x : UInt8) (k : Nat)
      (h : (coordinate a b c d).bits.toNat / 256 ^ k % 256 = x.toNat) : digit k (coordinate a b c d) = x :=
    UInt8.toNat_inj.mp (by rw [digit, UInt8.toNat_ofNat']; exact h)
  rw [toNat_coordinate] at hdigit
  rw [octets_eq_digits, hdigit a 0 (by omega), hdigit b 1 (by omega), hdigit c 2 (by omega), hdigit d 3 (by omega)]

theorem encode_cons (x : Single) (v : Embedding) : encode (x :: v) = octets x ++ encode v := rfl

theorem length_encode (v : Embedding) : (encode v).length = 4 * v.length := by
  induction v with
  | nil => rfl
  | cons x v ih =>
    rw [encode_cons, List.length_append, ih, List.length_cons]
    show 4 + 4 * v.length = _
    omega

theorem getElem?_encode (v : Embedding) (i : Nat) (k : Fin 4) :
    (encode v)[4 * i + k]? = v[i]?.map (digit k) := by
  induction v generalizing i with
  | nil => rfl
  | cons x v ih =>
    rw [encode_cons, octets_eq_digits]
    cases i with
    | zero =>
      match k with
      | 0 | 1 | 2 | 3 => rfl
    | succ i =>
      have hk : 4 * (i + 1) + k = 4 * i + k + 4 := by omega
      rw [hk]
      exact ih i

theorem decode_encode (v : Embedding) : decode (encode v) = v := by
  induction v with
  | nil => rfl
  | cons x v ih =>
    have hdecode : decode (octets x ++ encode v) =
        coordinate (digit 0 x) (digit 1 x) (digit 2 x) (digit 3 x) :: decode (encode v) := by
      rw [octets_eq_digits]
      rfl
    rw [encode_cons, hdecode, coordinate_digits, ih]

/-- Octets that are read are written again, without those that make no coordinate. -/
theorem encode_decode (blob : List UInt8) :
    encode (decode blob) = blob.take (blob.length - blob.length % 4) := by
  fun_induction decode blob with
  | case1 a b c d rest ih =>
    have hlength : (a :: b :: c :: d :: rest).length - (a :: b :: c :: d :: rest).length % 4 =
        rest.length - rest.length % 4 + 4 := by
      simp only [List.length_cons]
      omega
    rw [encode_cons, octets_coordinate, ih, hlength]
    rfl
  | case2 blob h =>
    have hlt : blob.length < 4 := by
      match blob, h with
      | [], _ | [_], _ | [_, _], _ | [_, _, _], _ => simp
      | a :: b :: c :: d :: rest, h => exact absurd rfl (h a b c d rest)
    rw [Nat.mod_eq_of_lt hlt, Nat.sub_self, List.take_zero]
    rfl

/-- Storing an embedding and reading it are inverse to each other, bit for bit, whatever its coordinates are; of
octets that no embedding is stored as, the last ones are lost that fill up no coordinate. -/
theorem encode_inverse (v : Embedding) (blob : List UInt8) :
    decode (encode v) = v ∧ (encode v).length = 4 * v.length ∧
    (∀ (i : Nat) (k : Fin 4), (encode v)[4 * i + k]? = v[i]?.map (digit k)) ∧
    encode (decode blob) = blob.take (blob.length - blob.length % 4) :=
  ⟨decode_encode v, length_encode v, getElem?_encode v, encode_decode blob⟩

end Utterance.Embedding
