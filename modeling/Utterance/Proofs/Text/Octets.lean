import Utterance.File

/-! The octets of a text are read as this text, and what stands in front of a cut is a text only if the cut
is between two characters. -/

namespace Utterance.Text.Utf8

/-! One octet. -/

theorem read_begun {n : Nat} {p : Pending} (h : lead (UInt8.ofNat n) = .begun p) (rest : List UInt8) :
    read none (UInt8.ofNat n :: rest) = read (some p) rest := by
  rw [read, step, begin, h]
  rfl

theorem read_going {missing lo hi value n : Nat} (hlo : lo ≤ n) (hhi : n ≤ hi) (hn : n < 256)
    (rest : List UInt8) :
    read (some ⟨missing, lo, hi, value⟩) (UInt8.ofNat n :: rest) =
      if missing ≤ 1 then Char.ofNat (value * 64 + n % 64) :: read none rest
      else read (some ⟨missing - 1, 0x80, 0xBF, value * 64 + n % 64⟩) rest := by
  have ht : (UInt8.ofNat n).toNat = n := UInt8.toNat_ofNat_of_lt' hn
  rw [read, step, ht]
  simp only [hlo, hhi, decide_true, Bool.and_true, if_true]
  split <;> rfl

/-- What the first octet of a character of several octets tells. -/
theorem lead_begun {n : Nat} (h : 0xC2 ≤ n) (h' : n < 0xF5) :
    lead (UInt8.ofNat n) = .begun
      (if n < 0xE0 then ⟨1, 0x80, 0xBF, n % 32⟩
      else if n < 0xF0 then
        ⟨2, if n = 0xE0 then 0xA0 else 0x80, if n = 0xED then 0x9F else 0xBF, n % 16⟩
      else ⟨3, if n = 0xF0 then 0x90 else 0x80, if n = 0xF4 then 0x8F else 0xBF, n % 8⟩) := by
  have ht : (UInt8.ofNat n).toNat = n := UInt8.toNat_ofNat_of_lt' (show n < 256 by omega)
  have h1 : ¬n < 0x80 := by omega
  have h2 : ¬n < 0xC2 := by omega
  simp only [lead, ht, if_neg h1, if_neg h2, if_pos h']
  split
  · rfl
  · split <;> rfl

/-! One character. -/

theorem bounds_of_char (c : Char) : c.val.toNat < 0xD800 ∨ 0xE000 ≤ c.val.toNat ∧ c.val.toNat < 0x110000 := by
  obtain h | ⟨h, h'⟩ := c.valid
  · exact .inl h
  · exact .inr ⟨h, h'⟩

theorem read_utf8EncodeChar (c : Char) (rest : List UInt8) :
    read none (String.utf8EncodeChar c ++ rest) = c :: read none rest := by
  have hvalid := bounds_of_char c
  have hc : Char.ofNat c.val.toNat = c := Char.ofNat_toNat c
  unfold String.utf8EncodeChar
  dsimp only
  generalize c.val.toNat = v at hvalid hc
  by_cases h1 : v ≤ 0x7f
  · have ht : (UInt8.ofNat v).toNat = v := UInt8.toNat_ofNat_of_lt' (show v < 256 by omega)
    have hl : lead (UInt8.ofNat v) = .whole c := by
      rw [lead, ht, if_pos (show v < 0x80 by omega), hc]
    rw [if_pos h1, List.singleton_append, read, step, begin, hl]
    rfl
  · rw [if_neg h1]
    by_cases h2 : v ≤ 0x7ff
    · have hlead := lead_begun (n := v / 64 % 32 + 0xc0) (by omega) (by omega)
      rw [if_pos (by omega)] at hlead
      have hvalue : (v / 64 % 32 + 0xc0) % 32 * 64 + (v % 64 + 0x80) % 64 = v := by omega
      rw [if_pos h2, List.cons_append, List.cons_append, read_begun hlead,
        read_going (by omega) (by omega) (by omega), if_pos (by omega), hvalue, hc, List.nil_append]
    · rw [if_neg h2]
      by_cases h3 : v ≤ 0xffff
      · have hlead := lead_begun (n := v / 4096 % 16 + 0xe0) (by omega) (by omega)
        rw [if_neg (by omega), if_pos (by omega)] at hlead
        have hvalue : ((v / 4096 % 16 + 0xe0) % 16 * 64 + (v / 64 % 64 + 0x80) % 64) * 64 +
            (v % 64 + 0x80) % 64 = v := by omega
        rw [if_pos h3, List.cons_append, List.cons_append, List.cons_append, read_begun hlead,
          read_going (by split <;> omega) (by split <;> omega) (by omega),
          if_neg (by omega), read_going (by omega) (by omega) (by omega), if_pos (by omega), hvalue, hc,
          List.nil_append]
      · have hlead := lead_begun (n := v / 262144 % 8 + 0xf0) (by omega) (by omega)
        rw [if_neg (by omega), if_neg (by omega)] at hlead
        have hvalue : (((v / 262144 % 8 + 0xf0) % 8 * 64 + (v / 4096 % 64 + 0x80) % 64) * 64 +
            (v / 64 % 64 + 0x80) % 64) * 64 + (v % 64 + 0x80) % 64 = v := by omega
        rw [if_neg h3, List.cons_append, List.cons_append, List.cons_append, List.cons_append,
          read_begun hlead,
          read_going (by split <;> omega) (by split <;> omega) (by omega),
          if_neg (by omega), read_going (by omega) (by omega) (by omega),
          if_neg (by omega), read_going (by omega) (by omega) (by omega), if_pos (by omega), hvalue, hc,
          List.nil_append]

theorem ne_lineFeed {n : Nat} (h : n < 256) (hn : n ≠ 10) : (10 : UInt8) ≠ UInt8.ofNat n := by
  intro he
  have ht : (UInt8.ofNat n).toNat = n := UInt8.toNat_ofNat_of_lt' h
  rw [← he] at ht
  exact hn ht.symm

/-- The octet of a line feed stands for nothing else. -/
theorem lineFeed_not_mem_utf8EncodeChar {c : Char} (h : c ≠ '\n') : 10 ∉ String.utf8EncodeChar c := by
  have hvalid := bounds_of_char c
  have hc : c.val.toNat ≠ 10 := fun he => h (Char.toNat_inj.mp he)
  have hhigh {n : Nat} (h : 0x80 ≤ n) (h' : n < 256) : (10 : UInt8) ≠ UInt8.ofNat n :=
    ne_lineFeed h' (by omega)
  unfold String.utf8EncodeChar
  dsimp only
  generalize c.val.toNat = v at hvalid hc
  split
  · simpa using ne_lineFeed (by omega) hc
  split
  · simp only [List.mem_cons, List.not_mem_nil, or_false, not_or]
    exact ⟨hhigh (by omega) (by omega), hhigh (by omega) (by omega)⟩
  split
  · simp only [List.mem_cons, List.not_mem_nil, or_false, not_or]
    exact ⟨hhigh (by omega) (by omega), hhigh (by omega) (by omega), hhigh (by omega) (by omega)⟩
  · simp only [List.mem_cons, List.not_mem_nil, or_false, not_or]
    exact ⟨hhigh (by omega) (by omega), hhigh (by omega) (by omega), hhigh (by omega) (by omega),
      hhigh (by omega) (by omega)⟩

/-! Texts. -/

/-- The octets of a text that is given by its characters. -/
theorem encode_ofList (cs : List Char) : encode (String.ofList cs) = cs.flatMap String.utf8EncodeChar := by
  rw [encode, String.toList_ofList]

theorem encode_append_ofList (cs ds : List Char) :
    encode (String.ofList cs) ++ encode (String.ofList ds) = (cs ++ ds).flatMap String.utf8EncodeChar := by
  rw [encode_ofList, encode_ofList, List.flatMap_append]

theorem encode_append (s t : String) : encode (s ++ t) = encode s ++ encode t := by
  rw [encode, String.toList_append, List.flatMap_append]
  rfl

/-- Behind the octets of a text the octets that follow are read as without it. -/
theorem decode_append (s : String) (rest : List UInt8) : decode (encode s ++ rest) = s.toList ++ decode rest := by
  have h (cs : List Char) :
      decode (cs.flatMap String.utf8EncodeChar ++ rest) = cs ++ decode rest := by
    induction cs with
    | nil => rfl
    | cons c cs ih =>
      rw [List.flatMap_cons, List.append_assoc, decode, read_utf8EncodeChar]
      exact congrArg (c :: ·) ih
  exact h s.toList

theorem decode_encode (s : String) : decode (encode s) = s.toList := by
  have hn : decode [] = [] := rfl
  have h := decode_append s []
  rwa [hn, List.append_nil, List.append_nil] at h

theorem lineFeed_not_mem_encode {s : String} (h : '\n' ∉ s.toList) : 10 ∉ encode s := by
  rw [encode, List.mem_flatMap]
  rintro ⟨c, hc, hm⟩
  exact lineFeed_not_mem_utf8EncodeChar (fun he => h (he ▸ hc)) hm

theorem text?_encode (s : String) : text? (encode s) = some s := by
  rw [text?, decode_encode, String.ofList_toList, if_pos rfl]

theorem eq_encode_of_text? {octets : List UInt8} {s : String} (h : text? octets = some s) :
    octets = encode s := by
  unfold text? at h
  dsimp only at h
  split at h
  case isTrue he =>
    cases h
    exact he.symm
  case isFalse => cases h

/-! Cuts. -/

/-- A place in the octets of a text that lies between two of its characters, or at an end. -/
def IsBetween (s : String) (n : Nat) : Prop :=
  ∃ front back, s = front ++ back ∧ n = (encode front).length

/-- What is left of a text is a text exactly if it was cut between two characters. -/
theorem isSome_text?_take_iff {s : String} {n : Nat} (hn : n ≤ (encode s).length) :
    (text? ((encode s).take n)).isSome ↔ IsBetween s n := by
  constructor
  · intro h
    obtain ⟨front, hf⟩ := Option.isSome_iff_exists.mp h
    have hfront : (encode s).take n = encode front := eq_encode_of_text? hf
    have hs : encode s = encode front ++ (encode s).drop n := by
      rw [← hfront, List.take_append_drop]
    -- Both sides are read: the text begins with what is left of it.
    have hread : s.toList = front.toList ++ decode ((encode s).drop n) := by
      rw [← decode_encode s, hs, decode_append, ← hs]
    refine ⟨front, String.ofList (decode ((encode s).drop n)), ?_, ?_⟩
    · rw [← String.toList_inj, String.toList_append, String.toList_ofList, ← hread]
    · rw [← hfront, List.length_take_of_le hn]
  · rintro ⟨front, back, rfl, rfl⟩
    rw [encode_append, List.take_left, text?_encode]
    rfl

end Utterance.Text.Utf8
