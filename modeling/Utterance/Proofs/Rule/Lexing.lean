import Utterance.Proofs.Decimal.Whole
import Utterance.Proofs.Text.Blank
import Utterance.Rule.Parser

/-! Tokens of the rule language as they are written, and what the lexer finds in their texts. -/

namespace Utterance.Rule

/-! Names. -/

/-- A character inside the name of a constant. -/
def isAtomChar (c : Char) : Bool :=
  isNameChar c || c == '/' || c == '-'

/-- The inside of an identifier: name characters, and colons before a letter. -/
def insideIdent : List Char → Bool
  | [] => true
  | [c] => isNameChar c
  | c :: d :: rest => (isNameChar c || (c == ':' && d.isAlpha)) && insideIdent (d :: rest)

/-- An identifier begins with a small letter. -/
def isIdent (s : String) : Bool :=
  match s.toList with
  | [] => false
  | c :: rest => c.isLower && insideIdent rest

/-- The name of a variable begins with a capital or a low line. -/
def isVarName (s : String) : Bool :=
  match s.toList with
  | [] => false
  | c :: rest => (c.isUpper || c == '_') && rest.all isNameChar

/-- The name of a constant begins with a slash and a name character. -/
def isAtomName (s : String) : Bool :=
  match s.toList with
  | '/' :: c :: rest => isNameChar c && rest.all isAtomChar
  | _ => false

theorem isLower_iff {c : Char} : c.isLower = true ↔ 97 ≤ c.toNat ∧ c.toNat ≤ 122 :=
  Bool.and_eq_true_iff.trans (and_congr decide_eq_true_iff decide_eq_true_iff)

theorem isUpper_iff {c : Char} : c.isUpper = true ↔ 65 ≤ c.toNat ∧ c.toNat ≤ 90 :=
  decide_eq_true_iff

theorem isAlpha_iff {c : Char} : c.isAlpha = true ↔ c.isUpper = true ∨ c.isLower = true :=
  Bool.or_eq_true_iff

theorem toNat_of_isNameChar {c : Char} (h : isNameChar c) : 48 ≤ c.toNat ∧ c.toNat ≤ 122 := by
  simp [isNameChar, Char.isAlphanum, isAlpha_iff, isUpper_iff, isLower_iff, Char.isDigit,
    UInt32.le_iff_toNat_le] at h
  obtain ((h | h) | h) | rfl := h
  · omega
  · omega
  · omega
  · decide

theorem isNameChar_of_isLower {c : Char} (h : c.isLower) : isNameChar c := by
  simp [isNameChar, Char.isAlphanum, isAlpha_iff, h]

theorem isNameChar_of_isDigit {c : Char} (h : c.isDigit) : isNameChar c := by
  simp [isNameChar, Char.isAlphanum, h]

theorem isDigit_of_isLower {c : Char} (h : c.isLower) : c.isDigit = false := by
  simp [isLower_iff, Char.isDigit, UInt32.le_iff_toNat_le] at h ⊢
  omega

theorem isDigit_of_isUpper {c : Char} (h : c.isUpper) : c.isDigit = false := by
  simp [isUpper_iff, Char.isDigit, UInt32.le_iff_toNat_le] at h ⊢
  omega

theorem isLower_of_isUpper {c : Char} (h : c.isUpper) : c.isLower = false := by
  rw [isUpper_iff] at h
  rw [← Bool.not_eq_true, isLower_iff]
  omega

theorem not_isNameChar {c : Char} (h : isAtomChar c = false) : isNameChar c = false := by
  simp only [isAtomChar, Bool.or_eq_false_iff] at h
  exact h.1.1

/-! One token. -/

/-- A token whose characters are `cs` stands at the front of `cs ++ rest`. -/
def Stands (t : Token) (cs rest : List Char) : Prop :=
  ∃ c tail, cs = c :: tail ∧ lexemeAt c (tail ++ rest) = .ok (some t, cs.length)

/-- Behind blanks, comments and marks a token begins with a name character. -/
theorem lexemeAt_nameChar {c : Char} (h : isNameChar c) (rest : List Char) :
    lexemeAt c rest =
      if c.isDigit then (numberAt (c :: rest)).map fun (t, n) => (some t, n)
      else if c.isLower then
        let name := identChars (c :: rest)
        .ok (some (.ident (String.ofList name)), name.length)
      else if c.isUpper || c == '_' then
        let name := (c :: rest).takeWhile isNameChar
        .ok (some (.var (String.ofList name)), name.length)
      else .error (.unexpected c) := by
  have hn := toNat_of_isNameChar h
  have hb : Text.isBlank c = false := Text.isBlank_visible (by omega) (by omega)
  have hne : ∀ d : Char, isNameChar d = false → (c == d) = false := by
    intro d hd
    rw [beq_eq_false_iff_ne]
    rintro rfl
    simp [h] at hd
  simp [lexemeAt, hb, hne '#' rfl, hne '(' rfl, hne ')' rfl, hne ',' rfl, hne '.' rfl, hne ':' rfl,
    hne '!' rfl, hne '=' rfl, hne '<' rfl, hne '>' rfl, hne '"' rfl, hne '/' rfl, hne '-' rfl]

theorem takeWhile_append {p : Char → Bool} {cs rest : List Char} (h : cs.all p)
    (hr : ∀ c ∈ rest.head?, p c = false) : (cs ++ rest).takeWhile p = cs := by
  rw [List.takeWhile_append_of_pos (by simpa using h)]
  cases rest with
  | nil => simp
  | cons c rest => simp [hr c rfl]

theorem identChars_append {cs rest : List Char} (h : insideIdent cs)
    (hr : ∀ c ∈ rest.head?, isNameChar c = false ∧ c ≠ ':') : identChars (cs ++ rest) = cs := by
  induction cs with
  | nil =>
    cases rest with
    | nil => rfl
    | cons c rest =>
      obtain ⟨hn, hc⟩ := hr c rfl
      simp [identChars, hn, hc]
  | cons c cs ih =>
    cases cs with
    | nil =>
      have hc : isNameChar c := h
      have ht := ih rfl
      rw [List.nil_append] at ht
      simp [identChars, hc, ht]
    | cons d cs =>
      rw [insideIdent, Bool.and_eq_true] at h
      obtain ⟨hc, hi⟩ := h
      have ht := ih hi
      rw [List.cons_append] at ht
      rw [List.cons_append, List.cons_append, identChars, ht]
      simp [hc]

theorem stands_ident {name : String} (h : isIdent name) {rest : List Char}
    (hr : ∀ c ∈ rest.head?, isNameChar c = false ∧ c ≠ ':') :
    Stands (.ident name) name.toList rest := by
  unfold isIdent at h
  split at h
  · cases h
  case h_2 c tail hs =>
    obtain ⟨hl, hi⟩ := Bool.and_eq_true_iff.mp h
    have hc : isNameChar c := isNameChar_of_isLower hl
    refine ⟨c, tail, hs, ?_⟩
    have hi : insideIdent (c :: tail) := by
      cases tail with
      | nil => exact hc
      | cons d tail => simp [insideIdent, hc, hi]
    have hn := identChars_append hi hr
    rw [List.cons_append] at hn
    simp [lexemeAt_nameChar hc, isDigit_of_isLower hl, hl, hn, ← hs]

theorem stands_var {name : String} (h : isVarName name) {rest : List Char}
    (hr : ∀ c ∈ rest.head?, isNameChar c = false) : Stands (.var name) name.toList rest := by
  unfold isVarName at h
  split at h
  · cases h
  case h_2 c tail hs =>
    obtain ⟨hu, ha⟩ := Bool.and_eq_true_iff.mp h
    have hk : isNameChar c ∧ c.isDigit = false ∧ c.isLower = false := by
      obtain hu | rfl := Bool.or_eq_true_iff.mp hu |>.imp_right beq_iff_eq.mp
      · exact ⟨by simp [isNameChar, Char.isAlphanum, isAlpha_iff, hu], isDigit_of_isUpper hu,
          isLower_of_isUpper hu⟩
      · decide
    obtain ⟨hc, hd, hl⟩ := hk
    have hn : (c :: tail ++ rest).takeWhile isNameChar = c :: tail :=
      takeWhile_append (by simp [hc, ha]) hr
    rw [List.cons_append] at hn
    refine ⟨c, tail, hs, ?_⟩
    rw [lexemeAt_nameChar hc, hn]
    simp [hd, hl, hu, ← hs]

theorem stands_atom {name : String} (h : isAtomName name) {rest : List Char}
    (hr : ∀ c ∈ rest.head?, isAtomChar c = false) : Stands (.atom name) name.toList rest := by
  unfold isAtomName at h
  split at h
  case h_1 c tail hs =>
    obtain ⟨hc, ha⟩ := Bool.and_eq_true_iff.mp h
    have hn : (c :: tail ++ rest).takeWhile (fun d => isNameChar d || d == '/' || d == '-') =
        c :: tail :=
      takeWhile_append (p := isAtomChar) (by simp [isAtomChar, hc, ha]) hr
    have hb : Text.isBlank '/' = false := by decide
    refine ⟨'/', c :: tail, hs, ?_⟩
    rw [List.cons_append] at hn ⊢
    have ht : String.ofList ('/' :: c :: tail) = name := by rw [← hs, String.ofList_toList]
    simp [lexemeAt, hb, headIs, hc, hn, ht, hs]
  · cases h

theorem stringChars_quoteChar (c : Char) (rest : List Char) :
    stringChars (quoteChar c ++ rest) =
      (stringChars rest).map fun (cs, n) => (c :: cs, n + (quoteChar c).length) := by
  unfold quoteChar
  split
  case h_6 hq hb hn hr ht =>
    rw [List.cons_append, List.nil_append, stringChars]
    · rfl
    · simpa using hq
    · exact fun h _ => hb h
    · exact fun _ _ h _ => hb h
  all_goals rfl

theorem stringChars_flatMap (cs rest : List Char) :
    stringChars (cs.flatMap quoteChar ++ '"' :: rest) = .ok (cs, (cs.flatMap quoteChar).length + 1) := by
  induction cs with
  | nil => rfl
  | cons c cs ih =>
    rw [List.flatMap_cons, List.append_assoc, stringChars_quoteChar, ih]
    simp [Except.map]
    omega

theorem stands_str (s : String) (rest : List Char) : Stands (.str s) (quote s).toList rest := by
  have hb : Text.isBlank '"' = false := by decide
  have hs := stringChars_flatMap s.toList rest
  refine ⟨'"', s.toList.flatMap quoteChar ++ ['"'], by simp [quote], ?_⟩
  simp [lexemeAt, hb, hs, quote, Except.map]

/-- A number without a fraction, between a sign and a text that does not go on with it. -/
theorem numberAt_whole {sign whole rest : List Char} {n : Int}
    (hs : (if (sign ++ whole ++ rest).head? == some '-' then ['-'] else []) = sign)
    (hw : whole.all Char.isDigit) (hd : ∀ c ∈ rest.head?, c.isDigit = false)
    (hp : ∀ c tail, rest = '.' :: c :: tail → c.isDigit = false)
    (hi : Decimal.int64? (String.ofList (sign ++ whole)) = .ok n) :
    numberAt (sign ++ whole ++ rest) = .ok (.int n, (sign ++ whole).length) := by
  have hdigits : ((sign ++ whole ++ rest).drop sign.length).takeWhile Char.isDigit = whole := by
    rw [List.append_assoc, List.drop_left]
    exact takeWhile_append hw hd
  have hrest : (sign ++ whole ++ rest).drop (sign.length + whole.length) = rest := by
    rw [← List.length_append, List.drop_left]
  have hpart : ∀ tail, rest = '.' :: tail → tail.takeWhile Char.isDigit = [] := by
    rintro (_ | ⟨c, tail⟩) rfl
    · rfl
    · simp [hp c tail rfl]
  unfold numberAt
  simp only [hs, hdigits, hrest]
  by_cases h : ∃ tail, rest = '.' :: tail
  · obtain ⟨tail, rfl⟩ := h
    simp [hpart tail rfl, hi, -String.ofList_append]
  · have hn : ∀ tail, rest = '.' :: tail → False := fun tail ht => h ⟨tail, ht⟩
    simp [hi, -String.ofList_append]

theorem stands_int {n : Int} (hl : -(2 ^ 63) ≤ n) (hu : n < 2 ^ 63) {rest : List Char}
    (hd : ∀ c ∈ rest.head?, c.isDigit = false)
    (hp : ∀ c tail, rest = '.' :: c :: tail → c.isDigit = false) :
    Stands (.int n) (toString n).toList rest := by
  have hi : Decimal.int64? (String.ofList (Decimal.signOf n ++ Nat.toDigits 10 n.natAbs)) = .ok n := by
    rw [← Decimal.toList_toString, String.ofList_toList]
    exact Decimal.int64?_toString hl hu
  have ha := Decimal.all_isDigit_toDigits n.natAbs
  obtain ⟨c, cs, hc⟩ := List.exists_cons_of_ne_nil (Nat.toDigits_ne_nil (n := n.natAbs) (b := 10))
  rw [hc] at hi ha
  have hdigit : c.isDigit := by
    rw [List.all_cons, Bool.and_eq_true] at ha
    exact ha.1
  rw [Decimal.toList_toString, hc]
  by_cases h : n < 0
  · have hs : Decimal.signOf n = ['-'] := if_pos h
    have hn : numberAt (['-'] ++ c :: cs ++ rest) = .ok (.int n, (['-'] ++ c :: cs).length) :=
      numberAt_whole rfl ha hd hp (hs ▸ hi)
    have hb : Text.isBlank '-' = false := by decide
    refine ⟨'-', c :: cs, by rw [hs]; rfl, ?_⟩
    rw [hs]
    simp only [List.cons_append, List.nil_append] at hn
    simp [lexemeAt, hb, headIs, hdigit, hn, Except.map]
  · have hs : Decimal.signOf n = [] := if_neg h
    have hm : c ≠ '-' := by
      rintro rfl
      exact absurd hdigit (by decide)
    have hn : numberAt ([] ++ c :: cs ++ rest) = .ok (.int n, ([] ++ c :: cs).length) :=
      numberAt_whole (by simp [hm]) ha hd hp (hs ▸ hi)
    refine ⟨c, cs, by rw [hs]; rfl, ?_⟩
    rw [hs]
    simp only [List.nil_append, List.cons_append] at hn
    simp [lexemeAt_nameChar (isNameChar_of_isDigit hdigit), hdigit, hn, Except.map]

/-! Many tokens. -/

/-- The characters that a token takes are passed over once it has been read. -/
theorem lexFrom_skip (line : Nat) (cs rest : List Char) :
    lexFrom line cs.length (cs ++ rest) = lexFrom (line + cs.count '\n') 0 rest := by
  induction cs generalizing line with
  | nil => rfl
  | cons c cs ih =>
    rw [List.length_cons, List.cons_append, lexFrom, ih, List.count_cons]
    split <;> congr 1
    omega

theorem lexFrom_stands {t : Token} {cs rest : List Char} (h : Stands t cs rest) (line : Nat) :
    lexFrom line 0 (cs ++ rest) =
      (lexFrom (line + cs.count '\n') 0 rest).map (⟨t, line⟩ :: ·) := by
  obtain ⟨c, tail, rfl, hc⟩ := h
  have hs := lexFrom_skip line (c :: tail) rest
  rw [List.length_cons, List.cons_append, lexFrom] at hs
  rw [List.cons_append, lexFrom, hc, ← hs]
  rfl

theorem lexFrom_blank {c : Char} (h : Text.isBlank c) (line : Nat) (rest : List Char) :
    lexFrom line 0 (c :: rest) = lexFrom (line + [c].count '\n') 0 rest := by
  have hb : lexemeAt c rest = .ok (none, 1) := by simp [lexemeAt, h]
  have hs := lexFrom_skip line [c] rest
  rw [List.length_singleton, List.singleton_append, lexFrom] at hs
  rw [lexFrom, hb, ← hs]

/-- A comment is passed over, up to the line feed at its end. -/
theorem lexFrom_comment (line : Nat) (cs : List Char) :
    lexFrom line 0 ('#' :: cs) = lexFrom line 0 (cs.dropWhile (· != '\n')) := by
  have hs := lexFrom_skip line (cs.takeWhile (· != '\n')) (cs.dropWhile (· != '\n'))
  have hcount : (cs.takeWhile (· != '\n')).count '\n' = 0 :=
    List.count_eq_zero.mpr fun hm => by simpa using List.all_eq_true.mp List.all_takeWhile '\n' hm
  rw [List.takeWhile_append_dropWhile, hcount, Nat.add_zero] at hs
  have hl : lexemeAt '#' cs = .ok (none, 1 + (cs.takeWhile (· != '\n')).length) := rfl
  refine Eq.trans ?_ hs
  rw [lexFrom, hl]
  dsimp only
  rw [Nat.add_sub_cancel_left]
  rfl

end Utterance.Rule
