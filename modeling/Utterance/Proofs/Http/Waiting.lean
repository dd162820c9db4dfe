import Utterance.Http.RetryAfter
import Utterance.Proofs.Decimal.Order

/-! How long a server asks to wait: what a span can hold, and what it asks for beyond. -/

namespace Utterance

open Decimal

namespace Span

/-- A span as near to a double of seconds as whole nanoseconds come. -/
def IsNearest (x : Float) (s : Span) : Prop :=
  ∃ negative m q, parts x = .finite negative m q ∧
    2 * ((ratio m q).1 * 1000000000) ≤ 2 * (s.nanos * (ratio m q).2) + (ratio m q).2 ∧
    2 * (s.nanos * (ratio m q).2) ≤ 2 * ((ratio m q).1 * 1000000000) + (ratio m q).2

theorem ratio_pos (m : Nat) (q : Int) : 0 < (ratio m q).2 := by
  cases q with
  | ofNat n => exact Nat.one_pos
  | negSucc n => exact Nat.two_pow_pos (n + 1)

theorem ofSeconds?_of_parts {x : Float} {negative : Bool} {m : Nat} {q : Int}
    (h : parts x = .finite negative m q) (hs : (negative && m != 0) = false) :
    ofSeconds? x =
      if maxSeconds < (ratio m q).1 / (ratio m q).2 then none
      else some ⟨roundHalfEven ((ratio m q).1 * 1000000000) (ratio m q).2⟩ := by
  unfold ofSeconds?
  rw [h]
  dsimp only
  rw [hs, Bool.false_or]
  simp only [decide_eq_true_eq]

/-- The whole seconds of a double pass a word exactly if it has no digit for less than `2 ^ 12`. -/
theorem maxSeconds_lt_iff {m : Nat} {q : Int} (hm : m < 2 ^ 53) (hq : q = -1074 ∨ 2 ^ 52 ≤ m) :
    maxSeconds < (ratio m q).1 / (ratio m q).2 ↔ 12 ≤ q := by
  have hmax : maxSeconds = 2 ^ 64 - 1 := rfl
  cases q with
  | ofNat n =>
    have hwhole : (ratio m (.ofNat n)).1 / (ratio m (.ofNat n)).2 = m * 2 ^ n := Nat.div_one _
    have hlow : 2 ^ 52 ≤ m := hq.resolve_left Int.noConfusion
    have hexp : 12 ≤ Int.ofNat n ↔ 12 ≤ n := Int.ofNat_le
    rw [hwhole, hmax, hexp]
    by_cases hn : 12 ≤ n
    · have hp : 2 ^ 12 ≤ 2 ^ n := Nat.pow_le_pow_right (by decide) hn
      have hle : 2 ^ 52 * 2 ^ 12 ≤ m * 2 ^ n := Nat.mul_le_mul hlow hp
      exact iff_of_true (by omega) hn
    · have hp : 2 ^ n ≤ 2 ^ 11 := Nat.pow_le_pow_right (by decide) (by omega)
      have hle : m * 2 ^ n ≤ m * 2 ^ 11 := Nat.mul_le_mul_left m hp
      exact iff_of_false (by omega) hn
  | negSucc n =>
    have hle : (ratio m (.negSucc n)).1 / (ratio m (.negSucc n)).2 ≤ m := Nat.div_le_self m _
    exact iff_of_false (by omega) (by omega)

/-- A span takes every finite double of seconds that is not negative and below `2 ^ 64`. -/
theorem ofSeconds?_eq_none_iff {x : Float} (hf : x.isFinite) (h0 : 0 ≤ x) :
    ofSeconds? x = none ↔ 18446744073709551616 ≤ x := by
  obtain ⟨s, hx⟩ | ⟨m, e, hm, hx⟩ := unpack_of_finite hf h0
  · have hp : parts x = .finite (isMinus s) 0 (-1074) := by
      rw [parts_eq, hx]
      rfl
    have hzero : ¬maxSeconds < (ratio 0 (-1074)).1 / (ratio 0 (-1074)).2 := by
      rw [maxSeconds_lt_iff (by decide) (.inl rfl)]
      decide
    rw [ofSeconds?_of_parts hp (Bool.and_false _), if_neg hzero]
    exact iff_of_false (Option.some_ne_none _) (not_twoTo64_le_zero hx)
  · have hp : parts x = .finite false m e := by
      rw [parts_eq, hx]
      rfl
    have ht : IsTight x.toModel.unpack := isTight_unpack _
    rw [hx] at ht
    obtain ⟨-, -, h1, h2⟩ := ht
    rw [ofSeconds?_of_parts hp (Bool.false_and _), twoTo64_le_iff hx, ← maxSeconds_lt_iff h1 h2]
    by_cases h : maxSeconds < (ratio m e).1 / (ratio m e).2
    · rw [if_pos h]
      exact iff_of_true rfl h
    · rw [if_neg h]
      exact iff_of_false (Option.some_ne_none _) h

/-- Rounding to nanoseconds gives no second more than a span can hold. -/
theorem roundHalfEven_seconds_le {m : Nat} {q : Int} (hm : m < 2 ^ 53)
    (h : ¬maxSeconds < (ratio m q).1 / (ratio m q).2) :
    roundHalfEven ((ratio m q).1 * 1000000000) (ratio m q).2 / 1000000000 ≤ maxSeconds := by
  have hmax : maxSeconds = 2 ^ 64 - 1 := rfl
  cases q with
  | ofNat n =>
    have hone : (ratio m (.ofNat n)).2 = 1 := rfl
    have hnear := roundHalfEven_near ((ratio m (.ofNat n)).1 * 1000000000) Nat.one_pos
    rw [hone, Nat.div_one] at h
    rw [hone]
    omega
  | negSucc n =>
    have hround := roundHalfEven_le (m * 1000000000) (ratio m (.negSucc n)).2
    have hdiv : m * 1000000000 / (ratio m (.negSucc n)).2 ≤ m * 1000000000 := Nat.div_le_self ..
    show roundHalfEven (m * 1000000000) (ratio m (.negSucc n)).2 / 1000000000 ≤ maxSeconds
    omega

/-- A double that makes a span makes the nearest one. -/
theorem isNearest_of_ofSeconds? {x : Float} {s : Span} (h : ofSeconds? x = some s) :
    s.IsNearest x ∧ s.seconds ≤ maxSeconds := by
  cases hp : parts x with
  | nan =>
    rw [ofSeconds?, hp] at h
    cases h
  | infinite negative =>
    rw [ofSeconds?, hp] at h
    cases h
  | finite negative m q =>
    have hs : (negative && m != 0) = false := by
      cases hs : negative && m != 0 with
      | false => rfl
      | true =>
        rw [ofSeconds?, hp] at h
        simp [hs] at h
    rw [ofSeconds?_of_parts hp hs] at h
    split at h
    case isTrue => cases h
    case isFalse hmax =>
      cases h
      exact ⟨⟨negative, m, q, hp, roundHalfEven_near _ (ratio_pos m q)⟩,
        roundHalfEven_seconds_le (lt_of_parts hp) hmax⟩

end Span

namespace Http.RetryAfter

/-- The seconds that a text is read as where it writes no whole number that fits a word: a finite double that is
not negative. -/
def fractional? (text : String) : Option Float :=
  if (whole? text).isSome then none else (float? text).filter fun x => x.isFinite && 0 ≤ x

variable {now : Int} {header : String}

theorem fractional?_eq_some_iff {text : String} {x : Float} :
    fractional? text = some x ↔ whole? text = none ∧ float? text = some x ∧ x.isFinite ∧ 0 ≤ x := by
  unfold fractional?
  cases whole? text with
  | some n => simp
  | none => simp [Option.filter_eq_some_iff]

theorem read_whole (hs : header.toList.all isShown) {n : Nat} (hn : whole? (Text.trimmed header) = some n) :
    read now header = .span (Span.ofSeconds n) := by
  unfold read
  simp only [hs, hn, Bool.not_true, Bool.false_eq_true, if_false]

theorem read_fractional (hs : header.toList.all isShown) {x : Float}
    (hx : fractional? (Text.trimmed header) = some x) :
    read now header = ((Span.ofSeconds? x).map .span).getD .beyond := by
  obtain ⟨hw, hx, hf, h0⟩ := fractional?_eq_some_iff.mp hx
  have hfilter : (float? (Text.trimmed header)).filter (fun x => x.isFinite && 0 ≤ x) = some x := by
    simp [Option.filter_eq_some_iff, hx, hf, h0]
  unfold read
  simp only [hs, hw, hfilter, Bool.not_true, Bool.false_eq_true, if_false]

/-- Nothing but a double of seconds can be more than a span holds. -/
theorem exists_fractional_of_beyond (h : read now header = .beyond) :
    header.toList.all isShown ∧ ∃ x, fractional? (Text.trimmed header) = some x := by
  cases hs : header.toList.all isShown with
  | false =>
    rw [read, hs] at h
    cases h
  | true =>
    refine ⟨rfl, ?_⟩
    cases hw : whole? (Text.trimmed header) with
    | some n =>
      rw [read_whole hs hw] at h
      cases h
    | none =>
      cases hx : (float? (Text.trimmed header)).filter fun x => x.isFinite && 0 ≤ x with
      | some x =>
        refine ⟨x, ?_⟩
        rw [fractional?, hw, if_neg (Option.isSome_none ▸ Bool.false_ne_true), hx]
      | none =>
        unfold read at h
        simp only [hs, hw, hx, Bool.not_true, Bool.false_eq_true, if_false] at h
        split at h
        case h_1 => cases h
        case h_2 => cases h

theorem whole?_toString (n : Nat) : whole? (toString n) = if n < 2 ^ 64 then some n else none := by
  have hword : int? 0 Span.maxSeconds (toString n) = _ := int?_toString_eq (n := n) (by omega)
  have hmax : Span.maxSeconds = 2 ^ 64 - 1 := rfl
  rw [whole?, hword]
  by_cases h : n < 2 ^ 64
  · rw [if_neg (by omega), if_neg (by omega), if_pos h]
    rfl
  · rw [if_pos (by omega), if_neg h]

/-- A whole number from `2 ^ 64` on is read as a double from `2 ^ 64` on. -/
theorem exists_fractional_toString {n : Nat} (hn : 2 ^ 64 ≤ n) (hn' : n < 2 ^ 1023) :
    ∃ x, fractional? (toString n) = some x ∧ 18446744073709551616 ≤ x := by
  have hlow : 64 ≤ n.log2 := (Nat.le_log2 (by omega)).mpr hn
  obtain ⟨m, e, hm, hunpack, h1, -⟩ := exists_unpack_ofScientific (Nat.le_trans (by decide) hn) hn'
  have hnearest : nearest n 0 = Float.ofScientific n false 0 := by
    rw [nearest_whole (Nat.lt_trans hn' (by decide +kernel)), if_neg (by omega)]
  have hx : (Double.ofFloat (nearest n 0)).toFloat.toModel.unpack = .finite .positive m e hm := by
    rw [hnearest, ← hunpack]
    exact Double.unpack_toFloat _
  refine ⟨(Double.ofFloat (nearest n 0)).toFloat, fractional?_eq_some_iff.mpr ⟨?_, ?_, ?_, ?_⟩,
    (twoTo64_le_iff hx).mpr (by omega)⟩
  · rw [whole?_toString, if_neg (by omega)]
  · exact congrArg (Option.map Double.toFloat) (double?_toString n)
  · show (Double.ofFloat (nearest n 0)).toFloat.toModel.unpack.isFinite = true
    rw [hx]
    rfl
  · rw [zero_le_iff, hx]
    rfl

theorem read_fractional_eq_beyond_iff (hs : header.toList.all isShown) {x : Float}
    (hx : fractional? (Text.trimmed header) = some x) :
    read now header = .beyond ↔ 18446744073709551616 ≤ x := by
  obtain ⟨-, -, hf, h0⟩ := fractional?_eq_some_iff.mp hx
  rw [read_fractional hs hx, ← Span.ofSeconds?_eq_none_iff hf h0]
  cases Span.ofSeconds? x with
  | none => exact iff_of_true rfl rfl
  | some s => exact iff_of_false Wait.noConfusion (Option.some_ne_none s)

/-- What a server asks for is more than a span can hold exactly if it is read as a double of seconds from `2 ^ 64`
on, and any smaller double makes the nearest span. So a whole number is taken as it is below `2 ^ 64`, and is
too much from there on. -/
theorem read_beyond_iff (now : Int) (header : String) :
    (read now header = .beyond ↔ header.toList.all isShown ∧
        ∃ x, fractional? (Text.trimmed header) = some x ∧ 18446744073709551616 ≤ x) ∧
      (header.toList.all isShown → ∀ x, fractional? (Text.trimmed header) = some x →
        ¬18446744073709551616 ≤ x →
          ∃ s : Span, read now header = .span s ∧ s.IsNearest x ∧ s.seconds ≤ Span.maxSeconds) ∧
      (header.toList.all isShown → ∀ n : Nat, n < 2 ^ 1023 → Text.trimmed header = toString n →
        read now header = if n < 2 ^ 64 then .span (Span.ofSeconds n) else .beyond) := by
  refine ⟨⟨?_, ?_⟩, ?_, ?_⟩
  · intro h
    obtain ⟨hs, x, hx⟩ := exists_fractional_of_beyond h
    exact ⟨hs, x, hx, (read_fractional_eq_beyond_iff hs hx).mp h⟩
  · rintro ⟨hs, x, hx, hlimit⟩
    exact (read_fractional_eq_beyond_iff hs hx).mpr hlimit
  · intro hs x hx hlimit
    obtain ⟨-, -, hf, h0⟩ := fractional?_eq_some_iff.mp hx
    obtain ⟨s, hsome⟩ := Option.ne_none_iff_exists'.mp (mt (Span.ofSeconds?_eq_none_iff hf h0).mp hlimit)
    refine ⟨s, ?_, Span.isNearest_of_ofSeconds? hsome⟩
    rw [read_fractional hs hx, hsome]
    rfl
  · intro hs n hn htext
    by_cases h : n < 2 ^ 64
    · rw [if_pos h, read_whole hs (n := n)]
      rw [htext, whole?_toString, if_pos h]
    · obtain ⟨x, hx, hlimit⟩ := exists_fractional_toString (Nat.le_of_not_lt h) hn
      rw [if_neg h, read_fractional_eq_beyond_iff hs (htext ▸ hx)]
      exact hlimit

/-- A request of `2 ^ 64` seconds between blanks, and one of a quarter of a second. -/
theorem read_beyond_requests :
    " 18446744073709551616 ".toList.all isShown ∧ Text.trimmed " 18446744073709551616 " = toString (2 ^ 64) ∧
      read 0 " 18446744073709551616 " = .beyond ∧
      "0.25".toList.all isShown ∧
      (∃ x, fractional? (Text.trimmed "0.25") = some x ∧ ¬18446744073709551616 ≤ x) ∧
      ∃ s : Span, read 0 "0.25" = .span s ∧ s.seconds ≤ Span.maxSeconds := by
  have hspaced : " 18446744073709551616 ".toList.all isShown := by decide +kernel
  have hwhole : Text.trimmed " 18446744073709551616 " = toString (2 ^ 64) := by decide +kernel
  have hshown : "0.25".toList.all isShown := by decide +kernel
  have hfew : ∃ x, fractional? (Text.trimmed "0.25") = some x ∧ ¬18446744073709551616 ≤ x := by
    have h : ((fractional? (Text.trimmed "0.25")).any fun x => !decide (18446744073709551616 ≤ x)) = true := by
      decide +kernel
    obtain ⟨x, hx, hlimit⟩ := (Option.any_eq_true _ _).mp h
    exact ⟨x, hx, by simpa using hlimit⟩
  obtain ⟨-, -, hnumber⟩ := read_beyond_iff 0 " 18446744073709551616 "
  obtain ⟨-, hspan, -⟩ := read_beyond_iff 0 "0.25"
  obtain ⟨x, hx, hlimit⟩ := hfew
  obtain ⟨s, hs, -, hseconds⟩ := hspan hshown x hx hlimit
  have hbeyond := hnumber hspaced (2 ^ 64) (by decide +kernel) hwhole
  exact ⟨hspaced, hwhole, hbeyond, hshown, ⟨x, hx, hlimit⟩, s, hs, hseconds⟩

/-- There are headers that ask for more than a span can hold, also below `2 ^ 64` as they are written. -/
theorem not_within_span :
    read 0 "1e20" = .beyond ∧ read 0 "18446744073709551616" = .beyond ∧
      read 0 "18446744073709551615.0" = .beyond := by
  refine ⟨?_, ?_, ?_⟩
  · decide +kernel
  · decide +kernel
  · decide +kernel

end Http.RetryAfter

end Utterance
