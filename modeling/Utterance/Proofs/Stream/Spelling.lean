import Utterance.Json.Reader
import Utterance.Stream.Gate

/-! A string of a document, read by the reader of documents and watched by the gate: both take the
same characters, whatever is written as an escape. -/

namespace Utterance.Stream.Gate

open Json (TextPhase)

/-- How far the gate has come in a string where the reader stands in a phase, and which half of a
pair it holds. -/
def Spelled : TextPhase → Escape → Option Nat → Prop
  | .plain, .none, half => half = none
  | .escape, .backslash, half => half = none
  | .code n value high, .number ds, half =>
    half = high ∧ n ≤ 3 ∧ ds.length = n ∧ (∀ d ∈ ds, (Text.hexValue? d).isSome) ∧
      number? ds = some value
  | .pairMark high, .none, half => half = some high
  | .pairLetter high, .backslash, half => half = some high
  | _, _, _ => False

/-- Takes a character if there is one. -/
def takeAny (g : Gate) (r : StringRole) (d : Option Char) : Gate := d.elim g (g.take r)

theorem ascii_of_range {c lo hi : Char} (h : lo ≤ c ∧ c ≤ hi) (hh : hi.toNat < 128)
    (hl : '+' < lo) : c.toNat < 128 ∧ c ≠ '+' := by
  constructor
  · exact Nat.lt_of_le_of_lt (UInt32.le_iff_toNat_le.mp h.2) hh
  · rintro rfl
    exact absurd (UInt32.le_iff_toNat_le.mp h.1) (Nat.not_le.mpr (UInt32.lt_iff_toNat_lt.mp hl))

theorem hexValue?_ascii {c : Char} (h : (Text.hexValue? c).isSome) :
    c.utf8Size = 1 ∧ c ≠ '+' := by
  have hc : c.toNat < 128 ∧ c ≠ '+' := by
    unfold Text.hexValue? at h
    split at h
    case isTrue hd =>
      simp only [Char.isDigit, Bool.and_eq_true, decide_eq_true_eq] at hd
      exact ascii_of_range hd (by decide) (by decide)
    split at h
    case isTrue hd =>
      simp only [Bool.and_eq_true, decide_eq_true_eq] at hd
      exact ascii_of_range hd (by decide) (by decide)
    split at h
    case isTrue hd =>
      simp only [Bool.and_eq_true, decide_eq_true_eq] at hd
      exact ascii_of_range hd (by decide) (by decide)
    case isFalse => simp at h
  refine ⟨?_, hc.2⟩
  rw [Char.utf8Size, if_pos]
  exact UInt32.le_iff_toNat_le.mpr (Nat.le_of_lt_succ hc.1)

theorem size_of_hex (ds : List Char) (h : ∀ d ∈ ds, (Text.hexValue? d).isSome) :
    (String.ofList ds).utf8ByteSize = ds.length := by
  induction ds with
  | nil => rfl
  | cons d ds ih =>
    have hd := (hexValue?_ascii (h d List.mem_cons_self)).1
    have ih := ih fun e he => h e (List.mem_cons_of_mem d he)
    rw [← List.singleton_append, String.ofList_append, String.utf8ByteSize_append, ih]
    simp [hd]
    omega

theorem number?_hex {ds : List Char} (h : ∀ d ∈ ds, (Text.hexValue? d).isSome) :
    number? ds = ds.foldlM (fun n c => (Text.hexValue? c).map (16 * n + ·)) 0 := by
  cases ds with
  | nil => rfl
  | cons d ds =>
    have hd := (hexValue?_ascii (h d List.mem_cons_self)).2
    simp [number?, hd]

theorem hex_snoc {ds : List Char} {c : Char} {v : Nat} (h : ∀ d ∈ ds, (Text.hexValue? d).isSome)
    (hc : Text.hexValue? c = some v) : ∀ d ∈ ds ++ [c], (Text.hexValue? d).isSome := by
  intro d hd
  rcases List.mem_append.mp hd with hd | hd
  · exact h d hd
  · rw [List.mem_singleton.mp hd, hc]
    rfl

theorem number?_snoc {ds : List Char} {c : Char} {n v : Nat}
    (h : ∀ d ∈ ds, (Text.hexValue? d).isSome) (hn : number? ds = some n)
    (hc : Text.hexValue? c = some v) : number? (ds ++ [c]) = some (n * 16 + v) := by
  rw [number?_hex h] at hn
  rw [number?_hex (hex_snoc h hc), List.foldlM_append, hn]
  simp [hc, Nat.mul_comm]

/-- The gate inside a string. -/
def inText (g : Gate) (r : StringRole) (e : Escape) (half : Option Nat) : Gate :=
  { g with string := some (r, e), highHalf := half }

theorem takeNumber_half {g : Gate} {r : StringRole} {n : Nat} (hn : 0xD800 ≤ n ∧ n < 0xDC00) :
    g.takeNumber r n = { g with highHalf := some n } := by
  simp [takeNumber, hn]

theorem takeNumber_whole {g : Gate} {r : StringRole} {n k : Nat} (hn : ¬(0xD800 ≤ n ∧ n < 0xDC00))
    (hk : scalar g.highHalf n = k) (hs : ¬(0xD800 ≤ k ∧ k < 0xE000)) :
    g.takeNumber r n = { g with highHalf := none }.take r (Char.ofNat k) := by
  subst hk
  unfold takeNumber
  rw [if_neg (by simpa using hn)]
  exact if_neg (by simpa using hs)

/-- The number of four digits stands for the same in the reader and in the gate. -/
theorem takeNumber_follows {g : Gate} {role : Json.Role} {r : StringRole} {n : Nat}
    {sofar : List Char} {o : List Json.Frame} {s : Json.State}
    (h : (match g.highHalf with
      | none =>
        if 0xd800 ≤ n && n < 0xdc00 then some (.text role (.pairMark n) sofar o)
        else if 0xdc00 ≤ n && n < 0xe000 then none
        else some (.text role .plain (Char.ofNat n :: sofar) o)
      | some k =>
        if 0xdc00 ≤ n && n < 0xe000 then
          some (.text role .plain
            (Char.ofNat (0x10000 + (k - 0xd800) * 0x400 + (n - 0xdc00)) :: sofar) o)
        else none) = some s) :
    ∃ phase half d, s = .text role phase (d.toList ++ sofar) o ∧ Spelled phase .none half ∧
      takeNumber { g with string := some (r, .none) } r n =
        (g.inText r .none half).takeAny r d := by
  cases hh : g.highHalf with
  | none =>
    simp only [hh, Bool.and_eq_true, decide_eq_true_eq] at h
    split at h
    case isTrue hn =>
      cases h
      exact ⟨.pairMark n, some n, none, rfl, rfl, takeNumber_half hn⟩
    case isFalse hn =>
      split at h
      · cases h
      case isFalse hl =>
        cases h
        refine ⟨.plain, none, some (Char.ofNat n), rfl, rfl, takeNumber_whole hn ?_ (by omega)⟩
        simp [scalar]
  | some k =>
    simp only [hh, Bool.and_eq_true, decide_eq_true_eq] at h
    split at h
    case isTrue hl =>
      cases h
      refine ⟨.plain, none, some _, rfl, rfl, takeNumber_whole (by omega) ?_ (by omega)⟩
      simp [scalar, hl]
    · cases h

theorem take_next {g : Gate} {r : StringRole} {e : Escape} {c : Char} (hh : g.highHalf = none) :
    { g with string := some (r, e) }.take r c = (g.inText r e none).takeAny r (some c) := by
  rw [← hh]
  rfl

theorem inText_next {g : Gate} {r : StringRole} {e : Escape} {half : Option Nat}
    (hh : g.highHalf = half) :
    { g with string := some (r, e) } = (g.inText r e half).takeAny r none := by
  rw [← hh]
  rfl

theorem escaped_of_escaped? {c d : Char} (h : Json.escaped? c = some d) :
    escaped c = d ∧ c ≠ 'u' := by
  unfold Json.escaped? at h
  split at h <;> first | (cases h; exact ⟨rfl, by decide⟩) | cases h

/-- A string that goes on in the reader and in the gate alike, by a character at most. -/
def GoesOn (role : Json.Role) (sofar : List Char) (o : List Json.Frame) (s : Json.State)
    (g : Gate) (r : StringRole) (next : Gate) : Prop :=
  ∃ phase e half d, s = .text role phase (d.toList ++ sofar) o ∧ Spelled phase e half ∧
    next = (g.inText r e half).takeAny r d

section

variable {g : Gate} {role : Json.Role} {sofar : List Char} {o : List Json.Frame} {c : Char}
  {s : Json.State} {r : StringRole}

theorem goesOn_plain (h : Json.stepText role .plain sofar o c = some s)
    (hg : g.string = some (r, .none)) (hh : g.highHalf = none) (hq : c ≠ '"') :
    GoesOn role sofar o s g r (g.stepString r .none c) := by
  simp only [Json.stepText, beq_iff_eq, hq, ↓reduceIte] at h
  split at h
  case isTrue hb =>
    cases h
    refine ⟨.escape, .backslash, none, none, rfl, rfl, ?_⟩
    simp only [stepString, hb, beq_self_eq_true, ↓reduceIte]
    exact inText_next hh
  case isFalse hb =>
    split at h
    · cases h
    · cases h
      refine ⟨.plain, .none, none, some c, rfl, rfl, ?_⟩
      simp only [stepString, beq_iff_eq, hb, hq, ↓reduceIte]
      rw [← take_next hh, ← hg]

/-- The letter in front of the digits of a number. -/
theorem goesOn_letter {half : Option Nat} (hh : g.highHalf = half) :
    GoesOn role sofar o (.text role (.code 0 0 half) sofar o) g r (g.stepString r .backslash 'u') :=
  ⟨.code 0 0 half, .number [], half, none, rfl, ⟨rfl, by omega, rfl, by simp, rfl⟩, inText_next hh⟩

theorem goesOn_escape (h : Json.stepText role .escape sofar o c = some s)
    (hh : g.highHalf = none) : GoesOn role sofar o s g r (g.stepString r .backslash c) := by
  simp only [Json.stepText, beq_iff_eq] at h
  split at h
  case isTrue hu =>
    cases h
    subst hu
    exact goesOn_letter hh
  case isFalse hu =>
    obtain ⟨d, hd, rfl⟩ := Option.map_eq_some_iff.mp h
    refine ⟨.plain, .none, none, some d, rfl, rfl, ?_⟩
    simp only [stepString, beq_iff_eq, hu, ↓reduceIte, (escaped_of_escaped? hd).1]
    exact take_next hh

theorem goesOn_code {n value : Nat} {high : Option Nat} {ds : List Char}
    (h : Json.stepText role (.code n value high) sofar o c = some s)
    (hs : Spelled (.code n value high) (.number ds) g.highHalf) :
    GoesOn role sofar o s g r (g.stepString r (.number ds) c) := by
  obtain ⟨hh, hn, hlen, hall, hval⟩ := hs
  simp only [Json.stepText, Option.bind_eq_some_iff] at h
  obtain ⟨v, hv, h⟩ := h
  have hnext := number?_snoc hall hval hv
  have hall' := hex_snoc hall hv
  have hsize := size_of_hex _ hall'
  rw [List.length_append, List.length_singleton, hlen] at hsize
  split at h
  case isTrue hlt =>
    cases h
    refine ⟨.code (n + 1) (value * 16 + v) high, .number (ds ++ [c]), high, none, rfl, ?_, ?_⟩
    · exact ⟨rfl, hlt, by simp [hlen], hall', hnext⟩
    · simp only [stepString, hsize]
      rw [if_neg (by omega)]
      exact inText_next hh
  case isFalse hlt =>
    -- The fourth digit: the number is complete in both.
    have hfour : n + 1 = 4 := by omega
    rw [← hh] at h
    obtain ⟨phase, half, d, rfl, hp, ht⟩ := takeNumber_follows (g := g) (r := r) h
    refine ⟨phase, .none, half, d, rfl, hp, ?_⟩
    simp only [stepString, hsize, hfour, ↓reduceIte, hnext]
    exact ht

theorem goesOn_pairMark {high : Nat} (h : Json.stepText role (.pairMark high) sofar o c = some s)
    (hh : g.highHalf = some high) : GoesOn role sofar o s g r (g.stepString r .none c) := by
  simp only [Json.stepText, beq_iff_eq] at h
  split at h
  case isTrue hb =>
    cases h
    refine ⟨.pairLetter high, .backslash, some high, none, rfl, rfl, ?_⟩
    simp only [stepString, hb, beq_self_eq_true, ↓reduceIte]
    exact inText_next hh
  · cases h

theorem goesOn_pairLetter {high : Nat}
    (h : Json.stepText role (.pairLetter high) sofar o c = some s) (hh : g.highHalf = some high) :
    GoesOn role sofar o s g r (g.stepString r .backslash c) := by
  simp only [Json.stepText, beq_iff_eq] at h
  split at h
  case isTrue hu =>
    cases h
    subst hu
    exact goesOn_letter hh
  · cases h

/-- A string that goes on: the gate takes the character that the reader takes, if any. -/
theorem stepString_follows {phase : TextPhase} {e : Escape}
    (h : Json.stepText role phase sofar o c = some s) (hg : g.string = some (r, e))
    (hs : Spelled phase e g.highHalf) (hq : phase = .plain → c ≠ '"') :
    GoesOn role sofar o s g r (g.stepString r e c) := by
  cases phase with
  | plain =>
    cases e <;> try exact hs.elim
    exact goesOn_plain h hg hs (hq rfl)
  | escape =>
    cases e <;> try exact hs.elim
    exact goesOn_escape h hs
  | code n value high =>
    cases e <;> try exact hs.elim
    exact goesOn_code h hs
  | pairMark high =>
    cases e <;> try exact hs.elim
    exact goesOn_pairMark h hs
  | pairLetter high =>
    cases e <;> try exact hs.elim
    exact goesOn_pairLetter h hs

end

end Utterance.Stream.Gate
