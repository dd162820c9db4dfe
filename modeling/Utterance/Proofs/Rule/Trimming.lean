import Utterance.Proofs.Rule.Reading

/-! Blanks around a program change nothing in its clauses. -/

namespace Utterance.Rule

section

/-! A blank goes on with no token. -/

variable {tail : List Char}

theorem headIs_append {p : Char → Bool} (hp : ∀ c ∈ tail.head?, p c = false) (cs : List Char) :
    headIs p (cs ++ tail) = headIs p cs := by
  cases cs with
  | nil =>
    cases tail with
    | nil => rfl
    | cons c tail => exact hp c rfl
  | cons c cs => rfl

theorem head?_beq (cs : List Char) (d : Char) : (cs.head? == some d) = headIs (· == d) cs := by
  cases cs <;> rfl

theorem takeWhile_append_left {p : Char → Bool} (hp : ∀ c ∈ tail.head?, p c = false)
    (cs : List Char) : (cs ++ tail).takeWhile p = cs.takeWhile p := by
  induction cs with
  | nil => exact takeWhile_append rfl hp
  | cons c cs ih => rw [List.cons_append, List.takeWhile_cons, List.takeWhile_cons, ih]

theorem stringChars_append {cs : List Char} {found : List Char × Nat} (h : stringChars cs = .ok found)
    (tail : List Char) : stringChars (cs ++ tail) = .ok found := by
  fun_induction stringChars cs generalizing found with
  | case1 => cases h
  | case2 rest => exact h
  | case3 => cases h
  | case4 c rest meant =>
    rename_i ih
    obtain ⟨front, hr, rfl⟩ := exists_of_map_ok h
    have hs : stringChars ('\\' :: c :: (rest ++ tail)) =
        (stringChars (rest ++ tail)).map fun found => (meant :: found.1, found.2 + 2) := rfl
    rw [List.cons_append, List.cons_append, hs, ih hr]
    rfl
  | case5 c rest hq hend hescape ih =>
    have hc : c ≠ '\\' := by
      rintro rfl
      cases rest with
      | nil => exact hend rfl rfl
      | cons d rest => exact hescape d rest rfl rfl
    obtain ⟨front, hr, rfl⟩ := exists_of_map_ok h
    rw [List.cons_append, stringChars, ih hr]
    · rfl
    · exact hq
    · exact fun hs _ => hc hs
    · exact fun _ _ hs _ => hc hs

variable (hb : ∀ c ∈ tail.head?, Text.isBlank c)
include hb

/-- A blank is none of the characters of a kind, if these are visible. -/
theorem not_of_blank {p : Char → Bool} (hp : ∀ c, p c → 33 ≤ c.toNat ∧ c.toNat < 133) :
    ∀ c ∈ tail.head?, p c = false := by
  intro c hc
  rw [Bool.eq_false_iff]
  intro h
  exact absurd (hb c hc) (by simp [Text.isBlank_visible (hp c h).1 (hp c h).2])

theorem not_char_of_blank {d : Char} (h1 : 33 ≤ d.toNat) (h2 : d.toNat < 133) :
    ∀ c ∈ tail.head?, (c == d) = false :=
  not_of_blank hb fun c hc => by rw [beq_iff_eq.mp hc]; exact ⟨h1, h2⟩

theorem not_nameChar_of_blank : ∀ c ∈ tail.head?, isNameChar c = false :=
  not_of_blank hb fun c hc => by
    have hn := toNat_of_isNameChar hc
    omega

theorem not_atomChar_of_blank : ∀ c ∈ tail.head?, isAtomChar c = false := by
  intro c hc
  simp only [isAtomChar, Bool.or_eq_false_iff]
  exact ⟨⟨not_nameChar_of_blank hb c hc, not_char_of_blank hb (by decide) (by decide) c hc⟩,
    not_char_of_blank hb (by decide) (by decide) c hc⟩

theorem not_alpha_of_blank : ∀ c ∈ tail.head?, c.isAlpha = false :=
  not_of_blank hb fun c hc => by
    have hn := toNat_of_isNameChar (c := c) (by simp [isNameChar, Char.isAlphanum, hc])
    omega

theorem not_digit_of_blank : ∀ c ∈ tail.head?, c.isDigit = false :=
  not_of_blank hb fun c hc => by
    have hn := toNat_of_isNameChar (isNameChar_of_isDigit hc)
    omega

theorem identChars_append_left (cs : List Char) : identChars (cs ++ tail) = identChars cs := by
  induction cs with
  | nil =>
    refine identChars_append rfl fun c hc => ⟨not_nameChar_of_blank hb c hc, ?_⟩
    exact beq_eq_false_iff_ne.mp (not_char_of_blank hb (by decide) (by decide) c hc)
  | cons c cs ih =>
    have hhead := headIs_append (not_alpha_of_blank hb) cs
    unfold headIs at hhead
    rw [List.cons_append, identChars_cons, identChars_cons, ih, hhead]

theorem takeWhile_drop_append {n : Nat} {cs : List Char} (hn : n ≤ cs.length) :
    ((cs ++ tail).drop n).takeWhile Char.isDigit = (cs.drop n).takeWhile Char.isDigit := by
  rw [List.drop_append_of_le_length hn, takeWhile_append_left (not_digit_of_blank hb)]

theorem numberAt_append {cs : List Char} (hc : cs ≠ []) : numberAt (cs ++ tail) = numberAt cs := by
  have hhead : (cs ++ tail).head? = cs.head? := by
    cases cs with
    | nil => exact absurd rfl hc
    | cons c cs => rfl
  unfold numberAt
  rw [hhead]
  dsimp only
  generalize hs : (if cs.head? == some '-' then ['-'] else []) = sign
  have hsign : sign.length ≤ cs.length := by
    have hpos := List.length_pos_iff.mpr hc
    rw [← hs]
    split
    · exact hpos
    · exact Nat.zero_le _
  have hwhole : sign.length + ((cs.drop sign.length).takeWhile Char.isDigit).length ≤ cs.length := by
    have hle := (List.takeWhile_prefix Char.isDigit (l := cs.drop sign.length)).length_le
    rw [List.length_drop] at hle
    omega
  rw [takeWhile_drop_append hb hsign, List.drop_append_of_le_length hwhole]
  generalize cs.drop (sign.length + ((cs.drop sign.length).takeWhile Char.isDigit).length) = rest
  cases rest with
  | nil =>
    cases tail with
    | nil => rfl
    | cons d tail =>
      have hd : d ≠ '.' :=
        beq_eq_false_iff_ne.mp (not_char_of_blank hb (by decide) (by decide) d rfl)
      simp [hd]
  | cons d rest =>
    by_cases hd : d = '.'
    · simp [hd, takeWhile_append_left (not_digit_of_blank hb)]
    · simp [hd]

/-- What the lexer finds is found in front of blanks as well, but for a comment, which they prolong. -/
theorem lexemeAt_append {c : Char} (hc : c ≠ '#') {rest : List Char} {found : Option Token × Nat}
    (h : lexemeAt c rest = .ok found) : lexemeAt c (rest ++ tail) = .ok found := by
  have hchar (d : Char) (h1 : 33 ≤ d.toNat) (h2 : d.toNat < 133) :
      headIs (· == d) (rest ++ tail) = headIs (· == d) rest :=
    headIs_append (not_char_of_blank hb h1 h2) rest
  have hname := headIs_append (not_nameChar_of_blank hb) rest
  have hdigit := headIs_append (not_digit_of_blank hb) rest
  have hnumber := numberAt_append hb (List.cons_ne_nil c rest)
  have hident := identChars_append_left hb (c :: rest)
  have hvar := takeWhile_append_left (not_nameChar_of_blank hb) (c :: rest)
  have hatom := takeWhile_append_left (not_atomChar_of_blank hb) rest
  rw [List.cons_append] at hnumber hident hvar
  by_cases hq : c = '"'
  · subst hq
    have hl (rest : List Char) : lexemeAt '"' rest =
        (stringChars rest).map fun found => (some (.str (String.ofList found.1)), found.2 + 1) := rfl
    rw [hl] at h ⊢
    obtain ⟨front, hs, rfl⟩ := exists_of_map_ok h
    rw [stringChars_append hs]
    rfl
  · rw [← h]
    unfold lexemeAt
    simp only [head?_beq, hchar '=' (by decide) (by decide), hchar '-' (by decide) (by decide), hname,
      hdigit, hnumber, hident, hvar]
    unfold isAtomChar at hatom
    simp [hq, hc, hatom]

end

/-! Blanks at the ends. -/

theorem lexFrom_blanks {blanks : List Char} (hb : blanks.all Text.isBlank) (line skip : Nat) :
    lexFrom line skip blanks = .ok [] := by
  induction blanks generalizing line skip with
  | nil => rfl
  | cons c blanks ih =>
    obtain ⟨hc, hrest⟩ := Bool.and_eq_true_iff.mp hb
    cases skip with
    | zero => rw [lexFrom_blank hc, ih hrest]
    | succ skip => exact ih hrest _ skip

theorem lexFrom_blanks_append {blanks : List Char} (hb : blanks.all Text.isBlank) (line : Nat)
    (cs : List Char) :
    lexFrom line 0 (blanks ++ cs) = lexFrom (line + blanks.count '\n') 0 cs := by
  induction blanks generalizing line with
  | nil => rfl
  | cons c blanks ih =>
    obtain ⟨hc, hrest⟩ := Bool.and_eq_true_iff.mp hb
    have hcount : ([c] ++ blanks).count '\n' = [c].count '\n' + blanks.count '\n' :=
      List.count_append
    rw [List.singleton_append] at hcount
    rw [List.cons_append, lexFrom_blank hc, ih hrest, hcount, Nat.add_assoc]

/-- Blanks behind a text add no token. A comment at its end goes on over them: there, more characters
are passed over than the text has. -/
theorem lexFrom_append_blanks {blanks : List Char} (hb : blanks.all Text.isBlank) {cs : List Char}
    {line skip skip' : Nat} (hs : skip' = skip ∨ cs.length ≤ skip ∧ cs.length ≤ skip')
    {ts : List Lexeme} (h : lexFrom line skip cs = .ok ts) :
    lexFrom line skip' (cs ++ blanks) = .ok ts := by
  induction cs generalizing line skip skip' ts with
  | nil =>
    cases h
    exact lexFrom_blanks hb line skip'
  | cons c rest ih =>
    rw [List.length_cons] at hs
    cases skip with
    | succ skip =>
      obtain ⟨skip', rfl⟩ : ∃ n, skip' = n + 1 := ⟨skip' - 1, by omega⟩
      exact ih (by omega) h
    | zero =>
      obtain rfl : skip' = 0 := by omega
      have hfront : ∀ d ∈ blanks.head?, Text.isBlank d := fun d hd =>
        List.all_eq_true.mp hb d (List.mem_of_mem_head? hd)
      obtain ⟨t, n, us, hf, hr, rfl⟩ := exists_of_lexFrom_cons h
      rw [List.cons_append]
      by_cases hc : c = '#'
      · subst hc
        cases hf
        refine lexFrom_cons rfl (ih ?_ hr)
        rw [Nat.add_sub_cancel_left, Nat.add_sub_cancel_left, List.takeWhile_append]
        split
        case isTrue hall => exact .inr ⟨Nat.le_of_eq hall.symm, by simp⟩
        case isFalse => exact .inl rfl
      · exact lexFrom_cons (lexemeAt_append hfront hc hf) (ih (.inl rfl) hr)

/-! Lines are told in faults only. -/

theorem map_token_lexFrom {line skip : Nat} {cs : List Char} {ts : List Lexeme}
    (h : lexFrom line skip cs = .ok ts) (line' : Nat) :
    ∃ ts', lexFrom line' skip cs = .ok ts' ∧ ts'.map Lexeme.token = ts.map Lexeme.token := by
  induction cs generalizing line line' skip ts with
  | nil =>
    cases h
    exact ⟨[], rfl, rfl⟩
  | cons c rest ih =>
    cases skip with
    | succ skip => exact ih h _
    | zero =>
      obtain ⟨t, n, us, hf, hr, rfl⟩ := exists_of_lexFrom_cons h
      obtain ⟨us', hr', ht⟩ := ih hr (if c == '\n' then line' + 1 else line')
      refine ⟨_, lexFrom_cons hf hr', ?_⟩
      rw [List.map_append, List.map_append, ht, List.map_map, List.map_map]
      rfl

theorem parseFrom_congr {s : State} {line line' : Nat} {ts ts' : List Lexeme} {cs : List Clause}
    (ht : ts'.map Lexeme.token = ts.map Lexeme.token) (h : parseFrom s line ts = .ok cs) :
    parseFrom s line' ts' = .ok cs := by
  induction ts generalizing s line line' ts' cs with
  | nil =>
    rw [List.map_nil, List.map_eq_nil_iff] at ht
    subst ht
    rw [parseFrom] at h ⊢
    cases hm : s.missing? with
    | none =>
      rw [hm] at h
      exact h
    | some cause =>
      rw [hm] at h
      cases h
  | cons t ts ih =>
    obtain ⟨u, us, rfl, hu, hus⟩ := List.map_eq_cons_iff.mp ht
    obtain ⟨s', c, ds, hstep, hr, rfl⟩ := exists_of_parseFrom_cons h
    rw [← hu] at hstep
    exact parseFrom_cons hstep (ih hus hr)

/-- A program has the clauses that it has without the blanks around it. -/
theorem parseProgram_of_trimmed {source : String} {cs : List Clause}
    (h : parseProgram (Text.trimmed source) = .ok cs) : parseProgram source = .ok cs := by
  obtain ⟨ts, hl, hp⟩ := exists_of_parseProgram h
  obtain ⟨front, back, hfront, hback, hs⟩ := Text.exists_trim source.toList
  rw [lex, Text.trimmed, String.toList_ofList] at hl
  obtain ⟨ts', hl', ht⟩ := map_token_lexFrom hl (1 + front.count '\n')
  have hlex : lex source = .ok ts' := by
    rw [lex, hs, lexFrom_blanks_append hfront]
    exact lexFrom_append_blanks hback (.inl rfl) hl'
  exact parseProgram_of_parse hlex (parseFrom_congr ht hp)

end Utterance.Rule
