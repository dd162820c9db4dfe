import Utterance.Proofs.Rule.Lexing

/-! Literals and ground facts are read back from the way they are written. -/

namespace Utterance.Rule

/-! What can be read back. -/

/-- Whether a term has a text that is read back as the same term: a name, a string of any characters or
a word of 64 bits. -/
def Term.isReadable : Term → Bool
  | .atom name => isAtomName name
  | .str _ => true
  | .int n => -(2 ^ 63) ≤ n && n < 2 ^ 63
  | .float _ => false

def Arg.isReadable : Arg → Bool
  | .term t => t.isReadable
  | .var name => isVarName name

def Literal.isReadable (l : Literal) : Bool :=
  isIdent l.predicate && l.args.all Arg.isReadable

def Fact.isReadable (f : Fact) : Bool :=
  isIdent f.predicate && f.args.all Term.isReadable

/-- The token that an argument is written as. -/
def Arg.token : Arg → Token
  | .term (.atom name) => .atom name
  | .term (.str s) => .str s
  | .term (.int n) => .int n
  | .term (.float x) => .float x
  | .var name => .var name

/-- The tokens behind the predicate of a literal. -/
def argTokens (args : List Arg) : List Token :=
  .openParen :: ((args.map Arg.token).intersperse .comma ++ [.closeParen])

/-- Tokens that stand on one line. -/
def onLine (line : Nat) (ts : List Token) : List Lexeme :=
  ts.map fun t => ⟨t, line⟩

theorem onLine_append (line : Nat) (ts us : List Token) :
    onLine line (ts ++ us) = onLine line ts ++ onLine line us :=
  List.map_append

/-- A fact as a clause without conditions. -/
def Fact.clause (f : Fact) : Clause :=
  ⟨⟨f.predicate, f.args.map .term⟩, []⟩

/-! From characters to tokens. -/

/-- A character that ends every name and every number. -/
def isDivider (c : Char) : Bool :=
  Text.isBlank c || c == '#' || c == '(' || c == ')' || c == ','

/-- A text that nothing in front of it goes on with. -/
def Divided (cs : List Char) : Prop :=
  ∀ c ∈ cs.head?, isDivider c

theorem divided_cons {c : Char} (h : isDivider c) (cs : List Char) : Divided (c :: cs) := by
  rintro _ ⟨⟩
  exact h

theorem not_isAtomChar_of_isDivider {c : Char} (h : isDivider c) :
    isAtomChar c = false ∧ c ≠ ':' ∧ c ≠ '.' := by
  by_cases hb : Text.isBlank c
  · have hv : ¬(33 ≤ c.toNat ∧ c.toNat < 133) := by
      rintro ⟨h1, h2⟩
      simp [Text.isBlank_visible h1 h2] at hb
    have hne : ∀ d : Char, 33 ≤ d.toNat → d.toNat < 133 → c ≠ d := by
      rintro d h1 h2 rfl
      exact hv ⟨h1, h2⟩
    have hn : isNameChar c = false := by
      rw [Bool.eq_false_iff]
      intro hn
      have hc := toNat_of_isNameChar hn
      exact hv ⟨by omega, by omega⟩
    refine ⟨?_, hne ':' (by decide) (by decide), hne '.' (by decide) (by decide)⟩
    simp [isAtomChar, hn, hne '/' (by decide) (by decide), hne '-' (by decide) (by decide)]
  · simp [isDivider, hb] at h
    obtain ((rfl | rfl) | rfl) | rfl := h <;> decide

/-- A text that no argument in front of it goes on with. -/
def Apart (cs : List Char) : Prop :=
  (∀ c ∈ cs.head?, isAtomChar c = false) ∧ ∀ c tail, cs = '.' :: c :: tail → c.isDigit = false

theorem Divided.apart {cs : List Char} (h : Divided cs) : Apart cs := by
  refine ⟨fun c hc => (not_isAtomChar_of_isDivider (h c hc)).1, ?_⟩
  rintro c tail rfl
  exact absurd rfl (not_isAtomChar_of_isDivider (h '.' rfl)).2.2

theorem stands_arg {a : Arg} (h : a.isReadable) {rest : List Char} (hr : Apart rest) :
    Stands a.token a.write.toList rest := by
  have hn : ∀ c ∈ rest.head?, isNameChar c = false := fun c hm => not_isNameChar (hr.1 c hm)
  cases a with
  | var name => exact stands_var h hn
  | term t =>
    cases t with
    | atom name => exact stands_atom h hr.1
    | str s => exact stands_str s rest
    | int n =>
      simp [Arg.isReadable, Term.isReadable] at h
      refine stands_int (by omega) (by omega) ?_ hr.2
      intro c hm
      rw [Bool.eq_false_iff]
      intro hd
      exact absurd (isNameChar_of_isDigit hd) (by simp [hn c hm])
    | float x => cases h

/-! Nothing that is written takes more than one line. -/

theorem not_mem_of_all {p : Char → Bool} {c : Char} (hp : p c = false) {cs : List Char}
    (h : cs.all p) : c ∉ cs := by
  intro hm
  simp [List.all_eq_true.mp h c hm] at hp

theorem all_of_insideIdent {cs : List Char} (h : insideIdent cs) :
    cs.all fun c => isNameChar c || c == ':' := by
  induction cs with
  | nil => rfl
  | cons c cs ih =>
    cases cs with
    | nil =>
      have hc : isNameChar c := h
      simp [hc]
    | cons d cs =>
      obtain ⟨hc, hi⟩ := Bool.and_eq_true_iff.mp h
      rw [List.all_cons, ih hi, Bool.and_true]
      simp only [Bool.or_eq_true, Bool.and_eq_true] at hc ⊢
      exact hc.imp_right And.left

theorem not_mem_ident {name : String} (h : isIdent name) {d : Char}
    (hd : (isNameChar d || d == ':') = false) : d ∉ name.toList := by
  unfold isIdent at h
  split at h
  · cases h
  case h_2 c tail hs =>
    obtain ⟨hl, hi⟩ := Bool.and_eq_true_iff.mp h
    have hall : (c :: tail).all fun c => isNameChar c || c == ':' := by
      rw [List.all_cons, isNameChar_of_isLower hl, all_of_insideIdent hi]
      rfl
    rw [hs]
    exact not_mem_of_all hd hall

theorem newline_not_mem_ident {name : String} (h : isIdent name) : '\n' ∉ name.toList :=
  not_mem_ident h (by decide)

theorem newline_not_mem_var {name : String} (h : isVarName name) : '\n' ∉ name.toList := by
  unfold isVarName at h
  split at h
  · cases h
  case h_2 c tail hs =>
    obtain ⟨hu, ha⟩ := Bool.and_eq_true_iff.mp h
    have hc : c ≠ '\n' := by
      rintro rfl
      exact absurd hu (by decide)
    rw [hs, List.mem_cons, not_or]
    exact ⟨hc.symm, not_mem_of_all (by decide) ha⟩

theorem newline_not_mem_atom {name : String} (h : isAtomName name) : '\n' ∉ name.toList := by
  unfold isAtomName at h
  split at h
  case h_1 c tail hs =>
    obtain ⟨hc, ha⟩ := Bool.and_eq_true_iff.mp h
    have hn : '\n' ∉ c :: tail :=
      not_mem_of_all (p := isAtomChar) (by decide) (by simp [isAtomChar, hc, ha])
    rw [hs, List.mem_cons, not_or]
    exact ⟨by decide, hn⟩
  · cases h

theorem newline_not_mem_quoteChar (c : Char) : '\n' ∉ quoteChar c := by
  unfold quoteChar
  split
  case h_6 _ _ hn _ _ =>
    rw [List.mem_singleton]
    exact fun h => hn h.symm
  all_goals decide

theorem newline_not_mem_arg {a : Arg} (h : a.isReadable) : '\n' ∉ a.write.toList := by
  cases a with
  | var name => exact newline_not_mem_var h
  | term t =>
    cases t with
    | atom name => exact newline_not_mem_atom h
    | str s => simp [Arg.write, Term.write, quote, newline_not_mem_quoteChar]
    | int n => exact Decimal.not_mem_toString (by decide) (by decide) n
    | float x => cases h

/-! From characters to tokens. -/

/-- A token that stands on one line is found on it, and what follows it goes on there. -/
theorem lexFrom_line {t : Token} {cs rest : List Char} (h : Stands t cs rest) (hn : '\n' ∉ cs)
    {line : Nat} {ts : List Lexeme} (hr : lexFrom line 0 rest = .ok ts) :
    lexFrom line 0 (cs ++ rest) = .ok (⟨t, line⟩ :: ts) := by
  rw [lexFrom_stands h, List.count_eq_zero_of_not_mem hn, Nat.add_zero, hr]
  rfl

theorem stands_openParen (rest : List Char) : Stands .openParen ['('] rest :=
  ⟨'(', [], rfl, rfl⟩

theorem stands_closeParen (rest : List Char) : Stands .closeParen [')'] rest :=
  ⟨')', [], rfl, rfl⟩

theorem stands_comma (rest : List Char) : Stands .comma [','] rest :=
  ⟨',', [], rfl, rfl⟩

theorem toList_join_cons (s t : String) (rest : List String) :
    (Text.join ", " (s :: t :: rest)).toList =
      s.toList ++ ([','] ++ (' ' :: (Text.join ", " (t :: rest)).toList)) := by
  simp [Text.join]

/-- Parts with commas between them are split into tokens, if each part is in front of whatever does not
go on with it. -/
theorem lexFrom_join {α : Type} {write : α → String} {tokens : α → List Token} {xs : List α}
    {line : Nat}
    (h : ∀ x ∈ xs, ∀ rest ts, Apart rest → lexFrom line 0 rest = .ok ts →
      lexFrom line 0 ((write x).toList ++ rest) = .ok (onLine line (tokens x) ++ ts))
    {rest : List Char} (hd : Apart rest) {ts : List Lexeme} (hr : lexFrom line 0 rest = .ok ts) :
    lexFrom line 0 ((Text.join ", " (xs.map write)).toList ++ rest) =
      .ok (onLine line (List.intercalate [.comma] (xs.map tokens)) ++ ts) := by
  induction xs with
  | nil => exact hr
  | cons x xs ih =>
    obtain ⟨hx, hxs⟩ := List.forall_mem_cons.mp h
    cases xs with
    | nil =>
      rw [List.map_singleton, List.map_singleton, List.intercalate_singleton]
      exact hx rest ts hd hr
    | cons y ys =>
      rw [List.map_cons, List.map_cons, toList_join_cons, List.append_assoc, List.append_assoc,
        List.map_cons, List.map_cons, List.intercalate_cons_cons, List.append_assoc, onLine_append,
        onLine_append, List.append_assoc, List.append_assoc]
      refine hx _ _ (divided_cons (by decide) _).apart ?_
      refine lexFrom_line (stands_comma _) (by decide) ?_
      rw [List.cons_append, lexFrom_blank (by decide)]
      exact ih hxs

theorem intercalate_comma_token (args : List Arg) :
    List.intercalate [.comma] (args.map fun a => [a.token]) =
      (args.map Arg.token).intersperse .comma := by
  induction args with
  | nil => rfl
  | cons a args ih =>
    cases args with
    | nil => rfl
    | cons b args =>
      rw [List.map_cons] at ih
      rw [List.map_cons, List.map_cons, List.intercalate_cons_cons, ih]
      rfl

theorem lexFrom_args {args : List Arg} (h : args.all Arg.isReadable) {rest : List Char}
    (hd : Divided rest) {line : Nat} {ts : List Lexeme} (hr : lexFrom line 0 rest = .ok ts) :
    lexFrom line 0 ((Text.join ", " (args.map Arg.write)).toList ++ rest) =
      .ok (onLine line ((args.map Arg.token).intersperse .comma) ++ ts) := by
  rw [← intercalate_comma_token]
  refine lexFrom_join (fun a ha _ _ hrest => ?_) hd.apart hr
  have hreadable := List.all_eq_true.mp h a ha
  exact lexFrom_line (stands_arg hreadable hrest) (newline_not_mem_arg hreadable)

/-- A literal is split into its tokens, whatever follows its closing parenthesis. -/
theorem lexFrom_literal {l : Literal} (h : l.isReadable) {rest : List Char} {line : Nat}
    {ts : List Lexeme} (hr : lexFrom line 0 rest = .ok ts) :
    lexFrom line 0 (l.write.toList ++ rest) =
      .ok (onLine line (.ident l.predicate :: argTokens l.args) ++ ts) := by
  obtain ⟨hp, hargs⟩ := Bool.and_eq_true_iff.mp h
  have hclose := lexFrom_line (stands_closeParen rest) (by decide) hr
  have hd : Divided ([')'] ++ rest) := divided_cons (by decide) rest
  have ha := lexFrom_args hargs hd hclose
  have hopen := lexFrom_line (stands_openParen _) (by decide) ha
  have hw : l.write.toList ++ rest =
      l.predicate.toList ++
        (['('] ++ ((Text.join ", " (l.args.map Arg.write)).toList ++ ([')'] ++ rest))) := by
    simp [Literal.write]
  have ht : onLine line (.ident l.predicate :: argTokens l.args) ++ ts =
      ⟨.ident l.predicate, line⟩ :: ⟨.openParen, line⟩ ::
        (onLine line ((l.args.map Arg.token).intersperse .comma) ++ (⟨.closeParen, line⟩ :: ts)) := by
    simp [argTokens, onLine]
  rw [hw, ht]
  refine lexFrom_line (stands_ident hp ?_) (newline_not_mem_ident hp) hopen
  rintro c ⟨⟩
  decide

/-! From tokens to clauses. -/

theorem step_arg (site : Site) (name : String) (args : List Arg) (mayClose : Bool) (a : Arg) :
    step (.argument site name args mayClose) a.token =
      .ok (.afterArgument site name (args ++ [a]), none) := by
  cases a with
  | var name => cases mayClose <;> rfl
  | term t => cases t <;> cases mayClose <;> rfl

/-- The arguments behind those that were read, up to the closing parenthesis; there are some behind a
comma. -/
theorem parseFrom_args (site : Site) (name : String) (before args : List Arg) (mayClose : Bool)
    (h : args = [] → mayClose) (last line : Nat) (rest : List Token) :
    parseFrom (.argument site name before mayClose) last
        (onLine line ((args.map Arg.token).intersperse .comma ++ .closeParen :: rest)) =
      parseFrom (closeLiteral site ⟨name, before ++ args⟩) line (onLine line rest) := by
  induction args generalizing before mayClose last with
  | nil =>
    rw [h rfl, List.append_nil]
    rfl
  | cons a args ih =>
    cases args with
    | nil =>
      show parseFrom _ _ (⟨a.token, line⟩ :: ⟨.closeParen, line⟩ :: onLine line rest) = _
      rw [parseFrom, step_arg]
      rfl
    | cons b args =>
      show parseFrom _ _ (⟨a.token, line⟩ :: ⟨.comma, line⟩ :: onLine line _) = _
      rw [parseFrom, step_arg]
      have hi := ih (before ++ [a]) false (by simp) line
      rw [List.append_assoc, List.singleton_append] at hi
      exact hi

theorem parseFrom_argTokens (site : Site) (name : String) (args : List Arg) (last line : Nat)
    (rest : List Token) :
    parseFrom (.arguments site name) last (onLine line (argTokens args ++ rest)) =
      parseFrom (closeLiteral site ⟨name, args⟩) line (onLine line rest) := by
  rw [argTokens, List.cons_append, List.append_assoc]
  exact parseFrom_args site name [] args true (fun _ => rfl) line line rest

/-! Facts. -/

theorem write_clause_head (f : Fact) : f.clause.head.write = f.write := by
  rw [Literal.write, Fact.write, Fact.clause, List.map_map]
  rfl

theorem isReadable_clause_head {f : Fact} (h : f.isReadable) : f.clause.head.isReadable := by
  obtain ⟨hp, hargs⟩ := Bool.and_eq_true_iff.mp h
  refine Bool.and_eq_true_iff.mpr ⟨hp, ?_⟩
  rw [Fact.clause, List.all_map]
  exact hargs

theorem groundArgs?_map_term (ts : List Term) : groundArgs? (ts.map .term) = some ts := by
  induction ts with
  | nil => rfl
  | cons t ts ih => rw [List.map_cons, groundArgs?, ih]; rfl

theorem fact?_clause (f : Fact) : f.clause.fact? = some f := by
  rw [Clause.fact?, Fact.clause, groundArgs?_map_term]
  rfl

/-- The text of a fact is a program of this one fact. -/
theorem parseProgram_of_parse {source : String} {ts : List Lexeme} {cs : List Clause}
    (hl : lex source = .ok ts) (hp : parse ts = .ok cs) : parseProgram source = .ok cs := by
  unfold parseProgram
  rw [hl]
  dsimp only [Except.bind]
  rw [hp]

theorem parseProgram_source {f : Fact} (h : f.isReadable) : parseProgram f.source = .ok [f.clause] := by
  have hend : lexFrom 1 0 ['.'] = .ok (onLine 1 [.period]) := rfl
  have hl : lex f.source =
      .ok (onLine 1 (.ident f.predicate :: (argTokens f.clause.head.args ++ [.period]))) := by
    have hs : f.source.toList = f.clause.head.write.toList ++ ['.'] := by
      simp [Fact.source, write_clause_head]
    rw [lex, hs, lexFrom_literal (isReadable_clause_head h) hend, ← onLine_append]
    rfl
  have hp := parseFrom_argTokens .head f.predicate f.clause.head.args 1 1 [.period]
  have hc : parse (onLine 1 (.ident f.predicate :: (argTokens f.clause.head.args ++ [.period]))) =
      .ok [f.clause] := hp.trans rfl
  exact parseProgram_of_parse hl hc

/-! Facts in texts of their own. -/

theorem isBlank_of_isLower {c : Char} (h : c.isLower) : Text.isBlank c = false := by
  have hn := toNat_of_isNameChar (isNameChar_of_isLower h)
  exact Text.isBlank_visible (by omega) (by omega)

/-- A text from a small letter to a visible character is not trimmed. -/
theorem trimmed_eq_self {s : String} {c d : Char} {tail front : List Char} (hs : s.toList = c :: tail)
    (hc : c.isLower) (ht : s.toList = front ++ [d]) (hd : Text.isBlank d = false) :
    Text.trimmed s = s := by
  have hb : Text.Bare s.toList := by
    constructor
    · rw [hs]
      rintro _ ⟨⟩
      exact isBlank_of_isLower hc
    · rw [ht, List.getLast?_concat]
      rintro _ ⟨⟩
      exact hd
  rw [Text.trimmed, Text.trim_eq_self hb, String.ofList_toList]

theorem exists_write_eq_cons {l : Literal} (h : l.isReadable) :
    ∃ c tail, l.write.toList = c :: tail ∧ c.isLower := by
  obtain ⟨hp, -⟩ := Bool.and_eq_true_iff.mp h
  unfold isIdent at hp
  split at hp
  · cases hp
  case h_2 c tail hs =>
    obtain ⟨hl, -⟩ := Bool.and_eq_true_iff.mp hp
    have hw : l.write.toList =
        c :: (tail ++ '(' :: ((Text.join ", " (l.args.map Arg.write)).toList ++ [')'])) := by
      simp [Literal.write, hs]
    exact ⟨c, _, hw, hl⟩

theorem exists_write_eq_concat (f : Fact) : ∃ front, f.write.toList = front ++ [')'] :=
  ⟨_, String.toList_append⟩

theorem parseFact_of_parseProgram {text source : String} {c : Clause} {f : Fact}
    (hs : (if (Text.trimmed text).toList.getLast? == some '.' then Text.trimmed text
      else Text.trimmed text ++ ".") = source)
    (hp : parseProgram source = .ok [c]) (hf : c.fact? = some f) : parseFact text = .ok f := by
  unfold parseFact
  simp only [hs, hp, bind, Except.bind, hf]
  rfl

/-- A fact is read back from its text as a clause. -/
theorem parseFact_source {f : Fact} (h : f.isReadable) : parseFact f.source = .ok f := by
  obtain ⟨c, tail, hw, hc⟩ := exists_write_eq_cons (isReadable_clause_head h)
  rw [write_clause_head] at hw
  have hs : f.source.toList = f.write.toList ++ ['.'] := String.toList_append
  have ht : Text.trimmed f.source = f.source :=
    trimmed_eq_self (by rw [hs, hw]; rfl) hc hs (by decide)
  refine parseFact_of_parseProgram ?_ (parseProgram_source h) (fact?_clause f)
  rw [ht, hs, List.getLast?_concat]
  rfl

/-- A fact is read back from its text without the period at the end. -/
theorem parseFact_write {f : Fact} (h : f.isReadable) : parseFact f.write = .ok f := by
  obtain ⟨c, tail, hw, hc⟩ := exists_write_eq_cons (isReadable_clause_head h)
  rw [write_clause_head] at hw
  obtain ⟨front, he⟩ := exists_write_eq_concat f
  have ht : Text.trimmed f.write = f.write := trimmed_eq_self hw hc he (by decide)
  refine parseFact_of_parseProgram ?_ (parseProgram_source h) (fact?_clause f)
  rw [ht, he, List.getLast?_concat]
  rfl

/-- A fact without doubles is read back from its text, whatever its strings hold. -/
theorem parseFact_source_write {f : Fact} (h : f.isReadable) :
    parseFact f.source = .ok f ∧ parseFact f.write = .ok f :=
  ⟨parseFact_source h, parseFact_write h⟩

/-- A fact with the outermost words, and with strings that look like rules. -/
def trickyFact : Fact :=
  ⟨"pkg:seen_2", [.atom "/a-b/c", .str "x\").\nq(Y) :- \\ # \t\r\u0001é😀", .int (-(2 ^ 63)),
    .int (2 ^ 63 - 1), .str ""]⟩

theorem parseFact_trickyFact :
    trickyFact.isReadable ∧
      parseFact trickyFact.source = .ok trickyFact ∧ parseFact trickyFact.write = .ok trickyFact :=
  ⟨by decide +kernel, parseFact_source_write (by decide +kernel)⟩

end Utterance.Rule
