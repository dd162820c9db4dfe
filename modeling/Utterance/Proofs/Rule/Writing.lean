import Utterance.Proofs.Rule.Reading

/-! Clauses are read back from the way they are written. -/

namespace Utterance.Rule

/-- The tokens that a condition is written as. -/
def BodyItem.tokens : BodyItem → List Token
  | .holds l => .ident l.predicate :: argTokens l.args
  | .fails l => .bang :: .ident l.predicate :: argTokens l.args
  | .compare left op right => [left.token, .compare op, right.token]

/-- The tokens that conditions are written as. -/
def itemTokens (items : List BodyItem) : List Token :=
  List.intercalate [.comma] (items.map BodyItem.tokens)

/-! From characters to tokens. -/

theorem stands_implies (rest : List Char) : Stands .implies [':', '-'] rest :=
  ⟨':', ['-'], rfl, rfl⟩

theorem stands_bang {rest : List Char} (h : ∀ c ∈ rest.head?, c ≠ '=') : Stands .bang ['!'] rest := by
  refine ⟨'!', [], rfl, ?_⟩
  cases rest with
  | nil => rfl
  | cons c rest =>
    have hb : Text.isBlank '!' = false := by decide
    simp [lexemeAt, hb, h c rfl]

theorem stands_compare (op : Comparison) {rest : List Char} (h : ∀ c ∈ rest.head?, c ≠ '=') :
    Stands (.compare op) op.write.toList rest := by
  have hnext : (rest.head? == some '=') = false := by
    cases rest with
    | nil => rfl
    | cons c rest => simp [h c rfl]
  have hb : Text.isBlank '=' = false ∧ Text.isBlank '<' = false ∧ Text.isBlank '>' = false := by decide
  cases op with
  | eq => exact ⟨'=', [], rfl, by simp [lexemeAt, hnext, hb, Comparison.write]⟩
  | ne => exact ⟨'!', ['='], rfl, rfl⟩
  | lt => exact ⟨'<', [], rfl, by simp [lexemeAt, hnext, hb, Comparison.write]⟩
  | le => exact ⟨'<', ['='], rfl, rfl⟩
  | gt => exact ⟨'>', [], rfl, by simp [lexemeAt, hnext, hb, Comparison.write]⟩
  | ge => exact ⟨'>', ['='], rfl, rfl⟩

theorem newline_not_mem_compare (op : Comparison) : '\n' ∉ op.write.toList := by
  cases op <;> decide

theorem divided_blank (rest : List Char) : Divided (' ' :: rest) :=
  divided_cons (by decide) rest

theorem apart_period : Apart ['.'] := by
  refine ⟨?_, ?_⟩
  · rintro c ⟨⟩
    decide
  · rintro c tail ⟨⟩

theorem lexFrom_space (line : Nat) (rest : List Char) :
    lexFrom line 0 (' ' :: rest) = lexFrom line 0 rest :=
  lexFrom_blank (by decide) line rest

theorem lexFrom_item {i : BodyItem} (h : i.isReadable) {rest : List Char} (hd : Apart rest)
    {line : Nat} {ts : List Lexeme} (hr : lexFrom line 0 rest = .ok ts) :
    lexFrom line 0 (i.write.toList ++ rest) = .ok (onLine line i.tokens ++ ts) := by
  cases i with
  | holds l => exact lexFrom_literal h hr
  | fails l =>
    obtain ⟨c, tail, hw, hc⟩ := exists_write_eq_cons h
    have hl := lexFrom_literal h hr
    have hs : (BodyItem.fails l).write.toList ++ rest = ['!'] ++ (l.write.toList ++ rest) := by
      simp [BodyItem.write]
    rw [hs]
    refine lexFrom_line (stands_bang ?_) (by decide) hl
    rw [hw]
    rintro _ ⟨⟩ rfl
    exact absurd hc (by decide)
  | compare left op right =>
    obtain ⟨hleft, hright⟩ := Bool.and_eq_true_iff.mp h
    have hs : (BodyItem.compare left op right).write.toList ++ rest =
        left.write.toList ++ (' ' :: (op.write.toList ++ (' ' :: (right.write.toList ++ rest)))) := by
      simp [BodyItem.write]
    rw [hs]
    refine lexFrom_line (stands_arg hleft (divided_blank _).apart) (newline_not_mem_arg hleft) ?_
    rw [lexFrom_space]
    refine lexFrom_line (stands_compare op (by rintro _ ⟨⟩; decide)) (newline_not_mem_compare op) ?_
    rw [lexFrom_space]
    exact lexFrom_line (stands_arg hright hd) (newline_not_mem_arg hright) hr

/-! From tokens to clauses. -/

theorem step_left (head : Literal) (items : List BodyItem) (left : Arg) :
    step (.item head items) left.token = .ok (.operator head items left, none) := by
  cases left with
  | var name => rfl
  | term t => cases t <;> rfl

theorem step_right (head : Literal) (items : List BodyItem) (left : Arg) (op : Comparison)
    (right : Arg) :
    step (.operand head items left op) right.token =
      .ok (.afterItem head (items ++ [.compare left op right]), none) := by
  cases right with
  | var name => rfl
  | term t => cases t <;> rfl

theorem parseFrom_item (head : Literal) (before : List BodyItem) (i : BodyItem) (last line : Nat)
    (rest : List Token) :
    parseFrom (.item head before) last (onLine line (i.tokens ++ rest)) =
      parseFrom (.afterItem head (before ++ [i])) line (onLine line rest) := by
  cases i with
  | holds l => exact parseFrom_argTokens (.body head before false) l.predicate l.args line line rest
  | fails l => exact parseFrom_argTokens (.body head before true) l.predicate l.args line line rest
  | compare left op right =>
    show parseFrom _ _ (⟨left.token, line⟩ :: ⟨.compare op, line⟩ :: ⟨right.token, line⟩ ::
      onLine line rest) = _
    rw [parseFrom, step_left]
    show parseFrom (.operand head before left op) line (⟨right.token, line⟩ :: onLine line rest) = _
    rw [parseFrom, step_right]

/-- The conditions behind those that were read, up to the period. -/
theorem parseFrom_items (head : Literal) (before items : List BodyItem) (h : items ≠ [])
    (last line : Nat) :
    parseFrom (.item head before) last (onLine line (itemTokens items ++ [.period])) =
      .ok [⟨head, before ++ items⟩] := by
  induction items generalizing before last with
  | nil => exact absurd rfl h
  | cons i items ih =>
    cases items with
    | nil =>
      rw [itemTokens, List.map_singleton, List.intercalate_singleton, parseFrom_item]
      rfl
    | cons j items =>
      have hs : itemTokens (i :: j :: items) ++ [.period] =
          i.tokens ++ .comma :: (itemTokens (j :: items) ++ [.period]) := by
        simp [itemTokens, List.intercalate_cons_cons]
      rw [hs, parseFrom_item]
      have hi := ih (before ++ [i]) (by simp) line
      rw [List.append_assoc, List.singleton_append] at hi
      exact hi

/-! Clauses. -/

/-- The tokens that a clause and its period are written as. -/
def Clause.tokens (c : Clause) : List Token :=
  .ident c.head.predicate :: (argTokens c.head.args ++
    if c.body.isEmpty then [.period] else .implies :: (itemTokens c.body ++ [.period]))

theorem lexFrom_body {items : List BodyItem} (h : items.all BodyItem.isReadable) :
    lexFrom 1 0 ((Text.join ", " (items.map BodyItem.write)).toList ++ ['.']) =
      .ok (onLine 1 (itemTokens items ++ [.period])) := by
  rw [onLine_append]
  refine lexFrom_join (fun i hi _ _ hd hr => ?_) apart_period rfl
  exact lexFrom_item (List.all_eq_true.mp h i hi) hd hr

theorem lex_write {c : Clause} (h : c.isReadable) : lex (c.write ++ ".") = .ok (onLine 1 c.tokens) := by
  obtain ⟨hhead, hbody⟩ := Bool.and_eq_true_iff.mp h
  have htokens (ts : List Token) : onLine 1 (.ident c.head.predicate :: (argTokens c.head.args ++ ts)) =
      onLine 1 (.ident c.head.predicate :: argTokens c.head.args) ++ onLine 1 ts :=
    onLine_append 1 (.ident c.head.predicate :: argTokens c.head.args) ts
  unfold lex Clause.write Clause.tokens
  cases hb : c.body.isEmpty with
  | true =>
    have hend : lexFrom 1 0 ['.'] = .ok (onLine 1 [.period]) := rfl
    rw [if_pos rfl, if_pos rfl, String.toList_append, htokens]
    exact lexFrom_literal hhead hend
  | false =>
    have hs : (c.head.write ++ " :- " ++ Text.join ", " (c.body.map BodyItem.write) ++ ".").toList =
        c.head.write.toList ++ (' ' :: ([':', '-'] ++
          (' ' :: ((Text.join ", " (c.body.map BodyItem.write)).toList ++ ['.'])))) := by
      simp
    rw [if_neg (by decide), if_neg (by decide), hs, htokens]
    refine lexFrom_literal hhead ?_
    rw [lexFrom_space]
    refine lexFrom_line (stands_implies _) (by decide) ?_
    rw [lexFrom_space]
    exact lexFrom_body hbody

theorem parse_tokens (c : Clause) : parse (onLine 1 c.tokens) = .ok [c] := by
  obtain ⟨⟨name, args⟩, body⟩ := c
  have hhead (rest : List Token) :
      parse (onLine 1 (.ident name :: (argTokens args ++ rest))) =
        parseFrom (.afterHead ⟨name, args⟩) 1 (onLine 1 rest) :=
    parseFrom_argTokens .head name args 1 1 rest
  unfold Clause.tokens
  rw [hhead]
  cases body with
  | nil => rfl
  | cons i items => exact parseFrom_items ⟨name, args⟩ [] (i :: items) (by simp) 1 1

/-- A clause is read back from its text. -/
theorem parseProgram_write {c : Clause} (h : c.isReadable) : parseProgram (c.write ++ ".") = .ok [c] := by
  exact parseProgram_of_parse (lex_write h) (parse_tokens c)

end Utterance.Rule
