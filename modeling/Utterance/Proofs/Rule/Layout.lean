import Utterance.Proofs.Rule.Writing

/-! Tokens are found again in any layout, on the lines on which they were written. -/

namespace Utterance.Rule

/-- A token as it is written. -/
def Token.write : Token → String
  | .ident name => name
  | .var name => name
  | .atom name => name
  | .str text => quote text
  | .int n => toString n
  | .float x => writeFloat x
  | .openParen => "("
  | .closeParen => ")"
  | .comma => ","
  | .period => "."
  | .implies => ":-"
  | .bang => "!"
  | .compare op => op.write

/-- White space, and comments up to the ends of their lines. -/
inductive IsLayout : List Char → Prop
  | nil : IsLayout []
  | blank {c : Char} {cs : List Char} (h : Text.isBlank c) (hs : IsLayout cs) : IsLayout (c :: cs)
  | comment (text : List Char) {cs : List Char} (h : '\n' ∉ text) (hs : IsLayout cs) :
      IsLayout ('#' :: (text ++ '\n' :: cs))

/-- The text of tokens with layout behind each. -/
def spread (ps : List (Token × List Char)) : List Char :=
  ps.flatMap fun (t, gap) => t.write.toList ++ gap

/-- Tokens that can be written, with layout behind each; only behind the last one there may be none. -/
structure IsSpread (ps : List (Token × List Char)) : Prop where
  readable : ∀ p ∈ ps, p.1.isReadable
  layout : ∀ p ∈ ps, IsLayout p.2
  apart : ∀ p ∈ ps.dropLast, p.2 ≠ []

/-- The tokens of a text that starts on `line`, each on the line on which it begins. -/
def placed (line : Nat) : List (Token × List Char) → List Lexeme
  | [] => []
  | (t, gap) :: ps => ⟨t, line⟩ :: placed (line + (t.write.toList ++ gap).count '\n') ps

/-! Layout. -/

/-- Layout is passed over, and the lines that end in it are counted. -/
theorem lexFrom_layout {gap : List Char} (h : IsLayout gap) (line : Nat) (rest : List Char) :
    lexFrom line 0 (gap ++ rest) = lexFrom (line + gap.count '\n') 0 rest := by
  induction h generalizing line with
  | nil => rfl
  | @blank c cs h hs ih =>
    rw [List.cons_append, lexFrom_blank h, ih, Nat.add_assoc, ← List.count_append]
    rfl
  | @comment text cs h hs ih =>
    have htext : text.all (· != '\n') := by
      simpa using fun c hc => ne_of_mem_of_not_mem hc h
    have hdrop : (text ++ '\n' :: (cs ++ rest)).dropWhile (· != '\n') = '\n' :: (cs ++ rest) := by
      rw [List.dropWhile_append_of_pos (by simpa using htext)]
      rfl
    have hcount : ('#' :: (text ++ '\n' :: cs)).count '\n' = 1 + cs.count '\n' := by
      rw [List.count_cons_of_ne (by decide), List.count_append, List.count_eq_zero.mpr h,
        List.count_cons_self]
      omega
    rw [List.cons_append, List.append_assoc, List.cons_append, lexFrom_comment, hdrop,
      lexFrom_blank (by decide), ih, hcount, ← Nat.add_assoc]
    rfl

theorem divided_layout {gap : List Char} (h : IsLayout gap) (hne : gap ≠ []) (rest : List Char) :
    Divided (gap ++ rest) := by
  cases h with
  | nil => exact absurd rfl hne
  | @blank c cs h hs => exact divided_cons (by simp [isDivider, h]) _
  | comment text h hs => exact divided_cons (by decide) _

/-! Tokens. -/

theorem Divided.ne_equals {cs : List Char} (h : Divided cs) : ∀ c ∈ cs.head?, c ≠ '=' := by
  rintro c hc rfl
  exact absurd (h '=' hc) (by decide)

/-- A token that can be written stands in front of a text that divides it from what follows. -/
theorem stands_write {t : Token} (h : t.isReadable) {rest : List Char} (hr : Divided rest) :
    Stands t t.write.toList rest := by
  have hname : ∀ c ∈ rest.head?, isAtomChar c = false ∧ c ≠ ':' := by
    intro c hc
    obtain ⟨ha, hcolon, -⟩ := not_isAtomChar_of_isDivider (hr c hc)
    exact ⟨ha, hcolon⟩
  cases t with
  | ident name =>
    refine stands_ident h fun c hc => ?_
    obtain ⟨ha, hcolon⟩ := hname c hc
    exact ⟨not_isNameChar ha, hcolon⟩
  | var name => exact stands_arg (a := .var name) h hr.apart
  | atom name => exact stands_arg (a := .term (.atom name)) h hr.apart
  | str text => exact stands_str text rest
  | int n => exact stands_arg (a := .term (.int n)) h hr.apart
  | float x => cases h
  | openParen => exact stands_openParen rest
  | closeParen => exact stands_closeParen rest
  | comma => exact stands_comma rest
  | period => exact ⟨'.', [], rfl, rfl⟩
  | implies => exact stands_implies rest
  | bang => exact stands_bang hr.ne_equals
  | compare op => exact stands_compare op hr.ne_equals

/-! Texts. -/

theorem spread_cons (t : Token) (gap : List Char) (ps : List (Token × List Char)) :
    spread ((t, gap) :: ps) = t.write.toList ++ (gap ++ spread ps) := by
  rw [spread, List.flatMap_cons, List.append_assoc]
  rfl

namespace IsSpread

variable {t : Token} {gap : List Char} {ps : List (Token × List Char)}

theorem tail (h : IsSpread ((t, gap) :: ps)) : IsSpread ps where
  readable p hp := h.readable p (List.mem_cons_of_mem _ hp)
  layout p hp := h.layout p (List.mem_cons_of_mem _ hp)
  apart p hp := by
    cases ps with
    | nil => cases hp
    | cons q ps => exact h.apart p (List.mem_cons_of_mem _ hp)

/-- What is written behind a token divides it from the next one. -/
theorem divided (h : IsSpread ((t, gap) :: ps)) : Divided (gap ++ spread ps) := by
  have hgap : IsLayout gap := h.layout (t, gap) List.mem_cons_self
  by_cases hne : gap = []
  · cases ps with
    | nil =>
      subst hne
      rintro c ⟨⟩
    | cons p ps => exact absurd hne (h.apart (t, gap) List.mem_cons_self)
  · exact divided_layout hgap hne _

end IsSpread

theorem lexFrom_spread {ps : List (Token × List Char)} (h : IsSpread ps) (line : Nat) :
    lexFrom line 0 (spread ps) = .ok (placed line ps) := by
  induction ps generalizing line with
  | nil => rfl
  | cons p ps ih =>
    obtain ⟨t, gap⟩ := p
    have ht : t.isReadable := h.readable (t, gap) List.mem_cons_self
    have hgap : IsLayout gap := h.layout (t, gap) List.mem_cons_self
    rw [spread_cons, lexFrom_stands (stands_write ht h.divided), lexFrom_layout hgap, ih h.tail,
      Nat.add_assoc, ← List.count_append]
    rfl

theorem map_token_placed (line : Nat) (ps : List (Token × List Char)) :
    (placed line ps).map Lexeme.token = ps.map Prod.fst := by
  induction ps generalizing line with
  | nil => rfl
  | cons p ps ih => exact congrArg (p.1 :: ·) (ih _)

/-- The line of a token is told by what is written in front of it. -/
theorem line_placed {line i : Nat} {ps : List (Token × List Char)} (h : i < (placed line ps).length) :
    (placed line ps)[i].line = line + (spread (ps.take i)).count '\n' := by
  induction ps generalizing line i with
  | nil => cases h
  | cons p ps ih =>
    obtain ⟨t, gap⟩ := p
    cases i with
    | zero => rfl
    | succ i =>
      have hi : i < (placed (line + (t.write.toList ++ gap).count '\n') ps).length :=
        Nat.lt_of_succ_lt_succ h
      have hline := ih hi
      rw [List.take_succ_cons, spread_cons, ← List.append_assoc, List.count_append, ← Nat.add_assoc]
      exact hline

/-- From tokens that are written with layout between them, in front of them and behind them, the lexer
gets the same tokens. The line of each is told by the line feeds in front of it. -/
theorem lex_spread {lead : List Char} {ps : List (Token × List Char)} (hl : IsLayout lead)
    (h : IsSpread ps) :
    ∃ ts, lex (String.ofList (lead ++ spread ps)) = .ok ts ∧ ts.map Lexeme.token = ps.map Prod.fst ∧
      ∀ i (hi : i < ts.length), ts[i].line = 1 + (lead ++ spread (ps.take i)).count '\n' := by
  refine ⟨placed (1 + lead.count '\n') ps, ?_, map_token_placed _ ps, fun i hi => ?_⟩
  · rw [lex, String.toList_ofList, lexFrom_layout hl, lexFrom_spread h]
  · rw [line_placed hi, List.count_append, Nat.add_assoc]

/-- A comment that looks like tokens, between blanks. -/
def remark : List Char :=
  ' ' :: '#' :: ("\"seen\"(X). # :- -1".toList ++ ['\n', '\t'])

/-- A clause with as few characters between its tokens as the layout allows, and with comments. -/
def laidOutClause : List (Token × List Char) :=
  [(.ident "fits:in", remark), (.openParen, ['\n']), (.str "#\n\"\\é😀", [' ']), (.comma, remark),
    (.int (-(2 ^ 63)), ['\r', '\n']), (.closeParen, [' ']), (.implies, remark), (.bang, [' ']),
    (.compare .eq, [' ']), (.compare .le, ['\n']), (.atom "/a-b/c", [' ']), (.period, [])]

theorem isLayout_remark : IsLayout remark :=
  .blank (by decide) (.comment _ (by decide) (.blank (by decide) .nil))

theorem isLayout_of_isBlank {cs : List Char} (h : cs.all Text.isBlank) : IsLayout cs := by
  induction cs with
  | nil => exact .nil
  | cons c cs ih =>
    obtain ⟨hc, hcs⟩ := Bool.and_eq_true_iff.mp h
    exact .blank hc (ih hcs)

theorem isSpread_laidOutClause : IsSpread laidOutClause where
  readable := by decide +kernel
  layout := by
    have hgaps : ∀ p ∈ laidOutClause, p.2 = remark ∨ p.2.all Text.isBlank := by decide +kernel
    intro p hp
    obtain h | h := hgaps p hp
    · rw [h]
      exact isLayout_remark
    · exact isLayout_of_isBlank h
  apart := by decide +kernel

theorem lex_spread_laidOutClause :
    IsLayout remark ∧ IsSpread laidOutClause ∧
      ∃ ts, lex (String.ofList (remark ++ spread laidOutClause)) = .ok ts ∧
        ts.map Lexeme.token = laidOutClause.map Prod.fst ∧
        ∀ i (hi : i < ts.length),
          ts[i].line = 1 + (remark ++ spread (laidOutClause.take i)).count '\n' :=
  ⟨isLayout_remark, isSpread_laidOutClause, lex_spread isLayout_remark isSpread_laidOutClause⟩

end Utterance.Rule
