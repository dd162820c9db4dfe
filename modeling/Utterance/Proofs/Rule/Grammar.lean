import Utterance.Proofs.Rule.Writing

/-! The grammar of programs. The parser accepts exactly the token lists that the grammar derives, and
gives each its only reading. -/

namespace Utterance.Rule

/-! The grammar. -/

/-- Parts with commas between them, one at least. -/
inductive IsListOf {α : Type} (R : List Token → α → Prop) : List Token → List α → Prop
  | one {ts : List Token} {x : α} (h : R ts x) : IsListOf R ts [x]
  | cons {ts us : List Token} {x : α} {xs : List α} (h : R ts x) (hs : IsListOf R us xs) :
      IsListOf R (ts ++ .comma :: us) (x :: xs)

/-- An argument is a single token. -/
inductive IsArgument : List Token → Arg → Prop
  | atom (name : String) : IsArgument [.atom name] (.term (.atom name))
  | str (s : String) : IsArgument [.str s] (.term (.str s))
  | int (n : Int) : IsArgument [.int n] (.term (.int n))
  | float (x : Float) : IsArgument [.float x] (.term (.float x))
  | var (name : String) : IsArgument [.var name] (.var name)

/-- A literal is a predicate, alone or with arguments between parentheses. -/
inductive IsLiteral : List Token → Literal → Prop
  | bare (name : String) : IsLiteral [.ident name] ⟨name, []⟩
  | empty (name : String) : IsLiteral [.ident name, .openParen, .closeParen] ⟨name, []⟩
  | applied (name : String) {ts : List Token} {args : List Arg} (h : IsListOf IsArgument ts args) :
      IsLiteral (.ident name :: .openParen :: (ts ++ [.closeParen])) ⟨name, args⟩

/-- A condition is a literal, the negation of one, or a comparison. -/
inductive IsItem : List Token → BodyItem → Prop
  | holds {ts : List Token} {l : Literal} (h : IsLiteral ts l) : IsItem ts (.holds l)
  | fails {ts : List Token} {l : Literal} (h : IsLiteral ts l) : IsItem (.bang :: ts) (.fails l)
  | compare {ts us : List Token} {left right : Arg} (op : Comparison) (hl : IsArgument ts left)
      (hr : IsArgument us right) : IsItem (ts ++ .compare op :: us) (.compare left op right)

/-- A clause is a head, with conditions behind an arrow if it is a rule, and a period. -/
inductive IsClause : List Token → Clause → Prop
  | fact {ts : List Token} {l : Literal} (h : IsLiteral ts l) : IsClause (ts ++ [.period]) ⟨l, []⟩
  | rule {ts us : List Token} {l : Literal} {items : List BodyItem} (h : IsLiteral ts l)
      (hs : IsListOf IsItem us items) : IsClause (ts ++ .implies :: (us ++ [.period])) ⟨l, items⟩

/-- A program is one clause behind the other. -/
inductive IsProgram : List Token → List Clause → Prop
  | nil : IsProgram [] []
  | cons {ts us : List Token} {c : Clause} {cs : List Clause} (h : IsClause ts c)
      (hs : IsProgram us cs) : IsProgram (ts ++ us) (c :: cs)

theorem isArgument_iff {ts : List Token} {a : Arg} : IsArgument ts a ↔ ts = [a.token] := by
  constructor
  · intro h
    cases h <;> rfl
  · rintro rfl
    cases a with
    | var name => exact .var name
    | term t =>
      cases t with
      | atom name => exact .atom name
      | str s => exact .str s
      | int n => exact .int n
      | float x => exact .float x

theorem isArgument_of_arg? {t : Token} {a : Arg} (h : t.arg? = some a) : IsArgument [t] a :=
  isArgument_iff.mpr (by rw [token_of_arg? h])

/-! Runs of the parser, apart from the lines of the tokens. -/

/-- From one state to another over tokens, with the clauses that are completed on the way. -/
inductive Runs : State → List Token → List Clause → State → Prop
  | nil (s : State) : Runs s [] [] s
  | cons {s s' s'' : State} {t : Token} {ts : List Token} {c : Option Clause} {cs : List Clause}
      (h : step s t = .ok (s', c)) (hs : Runs s' ts cs s'') : Runs s (t :: ts) (c.toList ++ cs) s''

theorem missing?_eq_none_iff {s : State} : s.missing? = none ↔ s = .clause := by
  cases s <;> simp [State.missing?]

/-- The parser accepts the tokens over which it comes to stand between clauses. -/
theorem parseFrom_iff_runs {s : State} {line : Nat} {ts : List Lexeme} {cs : List Clause} :
    parseFrom s line ts = .ok cs ↔ Runs s (ts.map Lexeme.token) cs .clause := by
  induction ts generalizing s line cs with
  | nil =>
    rw [parseFrom, List.map_nil]
    constructor
    · intro h
      split at h
      case h_1 hm =>
        cases h
        rw [missing?_eq_none_iff.mp hm]
        exact .nil .clause
      · cases h
    · rintro ⟨⟩
      rfl
  | cons t ts ih =>
    rw [List.map_cons]
    constructor
    · intro h
      obtain ⟨s', c, ds, hstep, hr, rfl⟩ := exists_of_parseFrom_cons h
      exact .cons hstep (ih.mp hr)
    · intro h
      cases h with
      | cons hstep hr => exact parseFrom_cons hstep (ih.mpr hr)

/-! Whatever the grammar derives is read. Each lemma says where a part of a clause leads to, whatever
follows it. -/

/-- A token that completes no clause. -/
theorem Runs.next {s s' s'' : State} {t : Token} {ts : List Token} {cs : List Clause}
    (h : step s t = .ok (s', none)) (hs : Runs s' ts cs s'') : Runs s (t :: ts) cs s'' :=
  .cons h hs

section

variable {ts rest : List Token} {cs : List Clause} {s : State}

theorem runs_arguments {args before : List Arg} (h : IsListOf IsArgument ts args) {site : Site}
    {name : String} {mayClose : Bool}
    (hr : Runs (closeLiteral site ⟨name, before ++ args⟩) rest cs s) :
    Runs (.argument site name before mayClose) (ts ++ .closeParen :: rest) cs s := by
  induction h generalizing before mayClose with
  | @one ts a h =>
    obtain rfl := isArgument_iff.mp h
    exact .next (step_arg site name before mayClose a) (.next rfl hr)
  | @cons ts us a args h hs ih =>
    obtain rfl := isArgument_iff.mp h
    rw [List.append_assoc]
    refine .next (step_arg site name before mayClose a) (.next rfl ?_)
    refine ih ?_
    rwa [List.append_assoc]

theorem step_closeLiteral (site : Site) (l : Literal) (t : Token) :
    step (closeLiteral site l) t = stepAfter t (closeLiteral site l) := by
  cases site <;> rfl

/-- Behind a predicate alone no parenthesis may follow, which would open its arguments. -/
theorem runs_literal {l : Literal} (h : IsLiteral ts l) (site : Site)
    (hrest : ∃ t tail, rest = t :: tail ∧ t ≠ .openParen)
    (hr : Runs (closeLiteral site l) rest cs s) :
    ∃ tail, ts = .ident l.predicate :: tail ∧
      Runs (.arguments site l.predicate) (tail ++ rest) cs s := by
  cases h with
  | bare name =>
    obtain ⟨t, tail, rfl, ht⟩ := hrest
    refine ⟨[], rfl, ?_⟩
    have hstep : step (.arguments site name) t = step (closeLiteral site ⟨name, []⟩) t := by
      rw [step_closeLiteral]
      cases t with
      | openParen => exact absurd rfl ht
      | _ => rfl
    cases hr with
    | cons hs hr => exact .cons (hstep.trans hs) hr
  | empty name => exact ⟨_, rfl, .next rfl (.next rfl hr)⟩
  | @applied name ts args h =>
    refine ⟨.openParen :: (ts ++ [.closeParen]), rfl, ?_⟩
    simpa using Runs.next (s := .arguments site name) rfl (runs_arguments h hr)

theorem runs_item {i : BodyItem} (h : IsItem ts i) {head : Literal} {before : List BodyItem}
    (hrest : ∃ t tail, rest = t :: tail ∧ t ≠ .openParen)
    (hr : Runs (.afterItem head (before ++ [i])) rest cs s) :
    Runs (.item head before) (ts ++ rest) cs s := by
  cases h with
  | holds h =>
    obtain ⟨tail, rfl, hl⟩ := runs_literal h (.body head before false) hrest hr
    exact .next rfl hl
  | fails h =>
    obtain ⟨tail, rfl, hl⟩ := runs_literal h (.body head before true) hrest hr
    exact .next rfl (.next rfl hl)
  | @compare ts us left right op hleft hright =>
    obtain rfl := isArgument_iff.mp hleft
    obtain rfl := isArgument_iff.mp hright
    exact .next (step_left head before left) (.next rfl (.next (step_right head before left op right) hr))

theorem runs_items {items : List BodyItem} (h : IsListOf IsItem ts items) {head : Literal}
    (before : List BodyItem) (hr : Runs .clause rest cs s) :
    Runs (.item head before) (ts ++ .period :: rest) (⟨head, before ++ items⟩ :: cs) s := by
  induction h generalizing before with
  | @one ts i h =>
    refine runs_item h ⟨.period, rest, rfl, by simp⟩ ?_
    exact .cons (c := some ⟨head, before ++ [i]⟩) rfl hr
  | @cons ts us i items h hs ih =>
    rw [List.append_assoc]
    refine runs_item h ⟨.comma, us ++ .period :: rest, rfl, by simp⟩ (.next rfl ?_)
    have hi := ih (before ++ [i])
    rwa [List.append_assoc] at hi

theorem runs_clause {c : Clause} (h : IsClause ts c) (hr : Runs .clause rest cs s) :
    Runs .clause (ts ++ rest) (c :: cs) s := by
  cases h with
  | @fact ts l h =>
    have hend : Runs (closeLiteral .head l) (.period :: rest) (⟨l, []⟩ :: cs) s :=
      .cons (c := some ⟨l, []⟩) rfl hr
    obtain ⟨tail, rfl, hl⟩ := runs_literal h .head ⟨.period, rest, rfl, by simp⟩ hend
    rw [List.append_assoc]
    exact .next rfl hl
  | @rule ts us l items h hs =>
    have hbody : Runs (closeLiteral .head l) (.implies :: (us ++ .period :: rest))
        (⟨l, items⟩ :: cs) s := .next rfl (runs_items hs [] hr)
    obtain ⟨tail, rfl, hl⟩ := runs_literal h .head ⟨.implies, _, rfl, by simp⟩ hbody
    simpa using Runs.next (s := .clause) rfl hl

end

theorem runs_program {ts : List Token} {cs : List Clause} (h : IsProgram ts cs) :
    Runs .clause ts cs .clause := by
  induction h with
  | nil => exact .nil .clause
  | cons h hs ih => exact runs_clause h ih

/-! Whatever is read is derived. The tokens of a clause that were read so far lead to the state of the
parser. -/

/-- The front of a list of parts, up to where its next part begins. -/
inductive IsFrontOf {α : Type} (R : List Token → α → Prop) : List Token → List α → Prop
  | nil : IsFrontOf R [] []
  | comma {ts : List Token} {xs : List α} (h : IsListOf R ts xs) : IsFrontOf R (ts ++ [.comma]) xs

theorem IsListOf.append {α : Type} {R : List Token → α → Prop} {ts us : List Token} {xs ys : List α}
    (h : IsListOf R ts xs) (hs : IsListOf R us ys) : IsListOf R (ts ++ .comma :: us) (xs ++ ys) := by
  induction h with
  | one h => exact .cons h hs
  | cons h _ ih =>
    rw [List.append_assoc]
    exact .cons h ih

theorem IsFrontOf.concat {α : Type} {R : List Token → α → Prop} {ts us : List Token} {xs : List α}
    {x : α} (h : IsFrontOf R ts xs) (hx : R us x) : IsListOf R (ts ++ us) (xs ++ [x]) := by
  cases h with
  | nil => exact .one hx
  | comma h =>
    rw [List.append_assoc]
    exact h.append (.one hx)

/-- The front of a rule, up to where its next condition begins. -/
def Opens (ts : List Token) (head : Literal) (items : List BodyItem) : Prop :=
  ∃ us vs, IsLiteral us head ∧ IsFrontOf IsItem vs items ∧ ts = us ++ .implies :: vs

/-- Tokens that lead to the place of a literal. -/
def Site.Follows (ts : List Token) : Site → Prop
  | .head => ts = []
  | .body l items negated => ∃ us, Opens us l items ∧ ts = us ++ if negated then [.bang] else []

/-- Tokens that lead to a state, from where the last clause has ended. -/
def State.Follows (ts : List Token) : State → Prop
  | .clause => ts = []
  | .item head items => Opens ts head items
  | .predicate site => site.Follows ts
  | .arguments site name => ∃ us, site.Follows us ∧ ts = us ++ [.ident name]
  | .argument site name args mayClose =>
    ∃ us vs, site.Follows us ∧ IsFrontOf IsArgument vs args ∧ (mayClose → vs = [] ∧ args = []) ∧
      ts = us ++ .ident name :: .openParen :: vs
  | .afterArgument site name args =>
    ∃ us vs, site.Follows us ∧ IsListOf IsArgument vs args ∧
      ts = us ++ .ident name :: .openParen :: vs
  | .afterHead head => IsLiteral ts head
  | .operator head items left => ∃ us vs, Opens us head items ∧ IsArgument vs left ∧ ts = us ++ vs
  | .operand head items left op =>
    ∃ us vs, Opens us head items ∧ IsArgument vs left ∧ ts = us ++ vs ++ [.compare op]
  | .afterItem head items =>
    ∃ us vs, IsLiteral us head ∧ IsListOf IsItem vs items ∧ ts = us ++ .implies :: vs

/-- What a step leads to: on in the clause, or to its end. -/
def Proceeds (ts : List Token) (s : State) : Option Clause → Prop
  | none => s.Follows ts
  | some c => s = .clause ∧ IsClause ts c

section

variable {ts us : List Token} {t : Token} {head l : Literal} {items : List BodyItem} {s s' : State}
  {site : Site} {c : Option Clause}

/-- A condition behind the front of a rule. -/
theorem Opens.concat {i : BodyItem} (h : Opens ts head items) (hi : IsItem us i) :
    (State.afterItem head (items ++ [i])).Follows (ts ++ us) := by
  obtain ⟨vs, ws, hhead, hitems, rfl⟩ := h
  exact ⟨vs, ws ++ us, hhead, hitems.concat hi, by simp⟩

theorem follows_closeLiteral (h : site.Follows ts) (hl : IsLiteral us l) :
    (closeLiteral site l).Follows (ts ++ us) := by
  cases site with
  | head =>
    obtain rfl : ts = [] := h
    exact hl
  | body head items negated =>
    obtain ⟨vs, hopens, rfl⟩ := h
    cases negated with
    | false =>
      have hi := hopens.concat (.holds hl)
      simpa [closeLiteral] using hi
    | true =>
      have hi := hopens.concat (.fails hl)
      simpa [closeLiteral] using hi

theorem proceeds_afterHead (h : IsLiteral ts head) (hs : step (.afterHead head) t = .ok (s', c)) :
    Proceeds (ts ++ [t]) s' c := by
  cases t <;> cases hs
  · exact ⟨rfl, .fact h⟩
  · exact ⟨ts, [], h, .nil, rfl⟩

theorem proceeds_afterItem (h : (State.afterItem head items).Follows ts)
    (hs : step (.afterItem head items) t = .ok (s', c)) : Proceeds (ts ++ [t]) s' c := by
  obtain ⟨us, vs, hhead, hitems, rfl⟩ := h
  cases t <;> cases hs
  · exact ⟨us, vs ++ [.comma], hhead, .comma hitems, by simp⟩
  · refine ⟨rfl, ?_⟩
    have hrule := IsClause.rule hhead hitems
    simpa using hrule

theorem proceeds_closeLiteral (h : (closeLiteral site l).Follows ts)
    (hs : step (closeLiteral site l) t = .ok (s', c)) : Proceeds (ts ++ [t]) s' c := by
  cases site with
  | head => exact proceeds_afterHead h hs
  | body head items negated => exact proceeds_afterItem h hs

/-- One token more leads on in the clause, or to its end. -/
theorem proceeds_step (h : s.Follows ts) (hs : step s t = .ok (s', c)) :
    Proceeds (ts ++ [t]) s' c := by
  cases s with
  | clause =>
    obtain rfl : ts = [] := h
    cases t <;> cases hs
    exact ⟨[], rfl, rfl⟩
  | item head items =>
    dsimp only [step] at hs
    split at hs
    · cases hs
      exact ⟨ts, h, rfl⟩
    · cases hs
      exact ⟨ts, ⟨ts, h, by simp⟩, rfl⟩
    · split at hs
      case h_1 left hl =>
        cases hs
        exact ⟨ts, [t], h, isArgument_of_arg? hl, rfl⟩
      · cases hs
  | predicate site =>
    cases t <;> cases hs
    exact ⟨ts, h, rfl⟩
  | arguments site name =>
    obtain ⟨us, hsite, rfl⟩ := h
    dsimp only [step] at hs
    split at hs
    · cases hs
      exact ⟨us, [], hsite, .nil, fun _ => ⟨rfl, rfl⟩, by simp⟩
    · rw [← step_closeLiteral] at hs
      exact proceeds_closeLiteral (follows_closeLiteral hsite (.bare name)) hs
  | argument site name args mayClose =>
    obtain ⟨us, vs, hsite, hargs, hfirst, rfl⟩ := h
    dsimp only [step] at hs
    split at hs
    · cases hs
      obtain ⟨rfl, rfl⟩ := hfirst rfl
      have hl := follows_closeLiteral hsite (.empty name)
      simpa [Proceeds] using hl
    · split at hs
      case h_1 a ha =>
        cases hs
        exact ⟨us, vs ++ [t], hsite, hargs.concat (isArgument_of_arg? ha), by simp⟩
      · cases hs
  | afterArgument site name args =>
    obtain ⟨us, vs, hsite, hargs, rfl⟩ := h
    dsimp only [step] at hs
    split at hs
    · cases hs
      exact ⟨us, vs ++ [.comma], hsite, .comma hargs, by simp, by simp⟩
    · cases hs
      have hl := follows_closeLiteral hsite (.applied name hargs)
      simpa [Proceeds] using hl
    · cases hs
  | operator head items left =>
    obtain ⟨us, vs, hopens, hleft, rfl⟩ := h
    cases t <;> cases hs
    exact ⟨us, vs, hopens, hleft, rfl⟩
  | operand head items left op =>
    obtain ⟨us, vs, hopens, hleft, rfl⟩ := h
    dsimp only [step] at hs
    split at hs
    case h_1 right hr =>
      cases hs
      have hi := hopens.concat (.compare op hleft (isArgument_of_arg? hr))
      simpa [Proceeds] using hi
    · cases hs
  | afterHead head => exact proceeds_afterHead h hs
  | afterItem head items => exact proceeds_afterItem h hs

end

/-- A run that ends between clauses has read a program, together with what led to its beginning. -/
theorem isProgram_of_runs {s : State} {front ts : List Token} {cs : List Clause}
    (h : s.Follows front) (hr : Runs s ts cs .clause) : IsProgram (front ++ ts) cs := by
  generalize hend : State.clause = last at hr
  induction hr generalizing front with
  | nil s =>
    subst hend
    obtain rfl : front = [] := h
    exact .nil
  | @cons s s' s'' t ts c cs hstep hr ih =>
    have hnext := proceeds_step h hstep
    cases c with
    | none =>
      have hp := ih hnext hend
      rwa [List.append_assoc] at hp
    | some c =>
      obtain ⟨rfl, hc⟩ := hnext
      have hp := IsProgram.cons hc (ih rfl hend)
      rwa [List.append_assoc] at hp

/-! Both together. -/

theorem parse_iff_isProgram {ts : List Lexeme} {cs : List Clause} :
    parse ts = .ok cs ↔ IsProgram (ts.map Lexeme.token) cs :=
  ⟨fun h => isProgram_of_runs (s := .clause) rfl (parseFrom_iff_runs.mp h),
    fun h => parseFrom_iff_runs.mpr (runs_program h)⟩

theorem parseProgram_iff_parse {source : String} {ts : List Lexeme} (h : lex source = .ok ts)
    {cs : List Clause} : parseProgram source = .ok cs ↔ parse ts = .ok cs := by
  constructor
  · intro hp
    obtain ⟨us, hl, hcs⟩ := exists_of_parseProgram hp
    rw [h] at hl
    cases hl
    exact hcs
  · exact parseProgram_of_parse h

/-- A source that consists of tokens is read as the clauses that the grammar derives from these, of which
there is one reading at most; if there is none, the source is refused as a whole. -/
theorem parseProgram_iff_isProgram {source : String} {ts : List Lexeme} (h : lex source = .ok ts) :
    (∀ cs, parseProgram source = .ok cs ↔ IsProgram (ts.map Lexeme.token) cs) ∧
      (∀ cs ds, IsProgram (ts.map Lexeme.token) cs → IsProgram (ts.map Lexeme.token) ds → cs = ds) ∧
      ((∀ cs, ¬IsProgram (ts.map Lexeme.token) cs) →
        ∃ e : SyntaxError, parseProgram source = .error (.kernel e.message)) := by
  refine ⟨fun cs => (parseProgram_iff_parse h).trans parse_iff_isProgram, fun cs ds hc hd => ?_,
    fun hnone => ?_⟩
  · rw [← parse_iff_isProgram] at hc hd
    rw [hc] at hd
    exact Except.ok.inj hd
  · cases hp : parse ts with
    | ok cs => exact absurd (parse_iff_isProgram.mp hp) (hnone cs)
    | error e =>
      refine ⟨e, ?_⟩
      rw [parseProgram, h]
      dsimp only [Except.bind]
      rw [hp]

/-- Facts with and without parentheses, and a rule with conditions of every form. -/
def variedProgram : String :=
  "idle. seen(). # Two facts.\nfits:in(X, \"a.\\\"\", -3) :- seen(_), !gone(X, 0.5), X==/a-b, idle."

theorem parseProgram_iff_isProgram_variedProgram :
    ∃ ts cs, lex variedProgram = .ok ts ∧ parseProgram variedProgram = .ok cs ∧ cs.length = 3 ∧
      IsProgram (ts.map Lexeme.token) cs ∧ ∀ ds, IsProgram (ts.map Lexeme.token) ds → cs = ds := by
  have hlength : (parseProgram variedProgram).toOption.map List.length = some 3 := by decide +kernel
  cases hp : parseProgram variedProgram with
  | error e =>
    rw [hp] at hlength
    cases hlength
  | ok cs =>
    rw [hp] at hlength
    obtain ⟨ts, hl, -⟩ := exists_of_parseProgram hp
    obtain ⟨hiff, honly, -⟩ := parseProgram_iff_isProgram hl
    have hcs := (hiff cs).mp hp
    exact ⟨ts, cs, hl, rfl, Option.some.inj hlength, hcs, fun ds => honly cs ds hcs⟩

end Utterance.Rule
