import Utterance.Proofs.Rule.RoundTrip

/-! Whatever is read from a program, but for doubles, has a text from which it is read back.

The lexer finds only tokens that can be written, and the parser puts nothing into a clause but the tokens
that it has read. -/

namespace Utterance

theorem Decimal.bounds_of_int? {low high n : Int} {s : String} (h : int? low high s = .ok n) :
    low ≤ n ∧ n ≤ high := by
  unfold int? at h
  grind

namespace Rule

/-! One step of the lexer and of the parser. -/

theorem exists_of_map_ok {ε α β : Type} {x : Except ε α} {f : α → β} {y : β}
    (h : x.map f = .ok y) : ∃ a, x = .ok a ∧ f a = y := by
  cases x with
  | error e => cases h
  | ok a => exact ⟨a, rfl, Except.ok.inj h⟩

/-- The lexer puts the token that it finds in front of those that follow. -/
theorem lexFrom_cons {line : Nat} {c : Char} {rest : List Char} {t : Option Token} {n : Nat}
    (hf : lexemeAt c rest = .ok (t, n)) {ts : List Lexeme}
    (hr : lexFrom (if c == '\n' then line + 1 else line) (n - 1) rest = .ok ts) :
    lexFrom line 0 (c :: rest) = .ok (t.toList.map (⟨·, line⟩) ++ ts) := by
  rw [lexFrom, hf]
  cases t with
  | none => exact hr
  | some t =>
    dsimp only
    rw [hr]
    rfl

theorem exists_of_lexFrom_cons {line : Nat} {c : Char} {rest : List Char} {ts : List Lexeme}
    (h : lexFrom line 0 (c :: rest) = .ok ts) :
    ∃ t n us, lexemeAt c rest = .ok (t, n) ∧
      lexFrom (if c == '\n' then line + 1 else line) (n - 1) rest = .ok us ∧
      ts = t.toList.map (⟨·, line⟩) ++ us := by
  rw [lexFrom] at h
  split at h
  · cases h
  case h_2 n hf => exact ⟨none, n, ts, hf, h, rfl⟩
  case h_3 t n hf =>
    obtain ⟨us, hr, rfl⟩ := exists_of_map_ok h
    exact ⟨some t, n, us, hf, hr, rfl⟩

/-- The parser puts the clause that it completes in front of those that follow. -/
theorem parseFrom_cons {s s' : State} {line : Nat} {t : Lexeme} {ts : List Lexeme} {c : Option Clause}
    (hs : step s t.token = .ok (s', c)) {cs : List Clause} (hr : parseFrom s' t.line ts = .ok cs) :
    parseFrom s line (t :: ts) = .ok (c.toList ++ cs) := by
  rw [parseFrom, hs]
  cases c with
  | none => exact hr
  | some c =>
    dsimp only
    rw [hr]
    rfl

theorem exists_of_parseFrom_cons {s : State} {line : Nat} {t : Lexeme} {ts : List Lexeme}
    {cs : List Clause} (h : parseFrom s line (t :: ts) = .ok cs) :
    ∃ s' c ds, step s t.token = .ok (s', c) ∧ parseFrom s' t.line ts = .ok ds ∧
      cs = c.toList ++ ds := by
  rw [parseFrom] at h
  split at h
  · cases h
  case h_2 s' hs => exact ⟨s', none, cs, hs, h, rfl⟩
  case h_3 s' c hs =>
    obtain ⟨ds, hr, rfl⟩ := exists_of_map_ok h
    exact ⟨s', some c, ds, hs, hr, rfl⟩

theorem exists_of_parseProgram {source : String} {cs : List Clause}
    (h : parseProgram source = .ok cs) : ∃ ts, lex source = .ok ts ∧ parse ts = .ok cs := by
  unfold parseProgram at h
  cases hl : lex source with
  | error e =>
    rw [hl] at h
    cases h
  | ok ts =>
    rw [hl] at h
    dsimp only [Except.bind] at h
    cases hp : parse ts with
    | error e =>
      rw [hp] at h
      cases h
    | ok ds =>
      rw [hp] at h
      cases h
      exact ⟨ts, rfl, hp⟩

/-! Tokens. -/

/-- Whether a token is a double. -/
def Token.isFloat : Token → Bool
  | .float _ => true
  | _ => false

/-- Whether a token has a text from which the same token is read back. -/
def Token.isReadable : Token → Bool
  | .ident name => isIdent name
  | .var name => isVarName name
  | .atom name => isAtomName name
  | .int n => -(2 ^ 63) ≤ n && n < 2 ^ 63
  | .float _ => false
  | _ => true

/-- A token that can be written, unless it is a double. -/
def Token.IsSound (t : Token) : Prop :=
  t.isFloat = false → t.isReadable

theorem identChars_cons (c : Char) (rest : List Char) :
    identChars (c :: rest) =
      if isNameChar c || (c == ':' && (rest.head?.map Char.isAlpha).getD false) then
        c :: identChars rest
      else [] := rfl

theorem insideIdent_identChars (cs : List Char) : insideIdent (identChars cs) := by
  induction cs with
  | nil => rfl
  | cons c cs ih =>
    rw [identChars_cons]
    split
    case isFalse => rfl
    case isTrue hc =>
      cases cs with
      | nil =>
        simp at hc
        exact hc
      | cons d cs =>
        rw [identChars_cons] at ih ⊢
        split
        case isTrue hd =>
          rw [if_pos hd] at ih
          simp only [insideIdent, ih, Bool.and_true]
          simpa using hc
        case isFalse hd =>
          -- A colon is taken only in front of a letter, which is taken as well.
          simp at hc
          obtain hc | ⟨rfl, ha⟩ := hc
          · exact hc
          · simp [isNameChar, Char.isAlphanum, ha] at hd

theorem isIdent_identChars {c : Char} (h : c.isLower) (rest : List Char) :
    isIdent (String.ofList (identChars (c :: rest))) := by
  have hc : isNameChar c := isNameChar_of_isLower h
  rw [identChars_cons, hc, Bool.true_or, if_pos rfl]
  simp only [isIdent, String.toList_ofList, h, Bool.true_and]
  exact insideIdent_identChars rest

theorem isVarName_takeWhile {c : Char} (h : c.isUpper || c == '_') (rest : List Char) :
    isVarName (String.ofList ((c :: rest).takeWhile isNameChar)) := by
  have hc : isNameChar c := by
    obtain hu | hu := Bool.or_eq_true_iff.mp h
    · simp [isNameChar, Char.isAlphanum, isAlpha_iff, hu]
    · simp [isNameChar, hu]
  rw [List.takeWhile_cons_of_pos hc]
  simp only [isVarName, String.toList_ofList, h, Bool.true_and]
  exact List.all_takeWhile

theorem isAtomName_takeWhile {rest : List Char} (h : headIs isNameChar rest) :
    isAtomName (String.ofList ('/' :: rest.takeWhile isAtomChar)) := by
  cases rest with
  | nil => cases h
  | cons c rest =>
    have hc : isNameChar c := h
    have ha : isAtomChar c := by simp [isAtomChar, hc]
    rw [List.takeWhile_cons_of_pos ha]
    simp only [isAtomName, String.toList_ofList, hc, Bool.true_and]
    exact List.all_takeWhile

theorem isSound_of_numberAt {cs : List Char} {t : Token} {n : Nat}
    (h : numberAt cs = .ok (t, n)) : t.IsSound := by
  unfold numberAt at h
  extract_lets sign whole rest part at h
  split at h
  · split at h
    case h_1 m hm =>
      cases h
      have hb := Decimal.bounds_of_int? hm
      intro _
      simp only [Token.isReadable, Bool.and_eq_true, decide_eq_true_eq]
      omega
    · cases h
  · cases h
    intro hf
    cases hf

/-- What is found at a place of a text, if it is a token, can be written unless it is a double. -/
def FindsSound (found : Except SyntaxCause (Option Token × Nat)) : Prop :=
  ∀ t n, found = .ok (some t, n) → t.IsSound

namespace FindsSound

theorem none (n : Nat) : FindsSound (.ok (none, n)) := by
  rintro _ _ ⟨⟩

theorem mark {t : Token} (h : t.isReadable) (n : Nat) : FindsSound (.ok (some t, n)) := by
  rintro _ _ ⟨⟩ _
  exact h

theorem ite {b : Bool} {x y : Except SyntaxCause (Option Token × Nat)} (hx : b → FindsSound x)
    (hy : FindsSound y) : FindsSound (if b then x else y) := by
  cases b with
  | true => exact hx rfl
  | false => exact hy

theorem string (rest : List Char) :
    FindsSound ((stringChars rest).map fun (cs, n) => (some (.str (String.ofList cs)), n + 1)) := by
  intro t n h
  obtain ⟨found, -, hf⟩ := exists_of_map_ok h
  cases hf
  exact fun _ => rfl

theorem number (cs : List Char) :
    FindsSound ((numberAt cs).map fun (t, n) => (some t, n)) := by
  intro t n h
  obtain ⟨found, hs, hf⟩ := exists_of_map_ok h
  cases hf
  exact isSound_of_numberAt hs

end FindsSound

theorem findsSound_lexemeAt (c : Char) (rest : List Char) : FindsSound (lexemeAt c rest) := by
  unfold lexemeAt
  dsimp only
  refine .ite (fun _ => .none _) <| .ite (fun _ => .none _) ?_
  refine .ite (fun _ => .mark rfl _) <| .ite (fun _ => .mark rfl _) <|
    .ite (fun _ => .mark rfl _) <| .ite (fun _ => .mark rfl _) <| .ite (fun _ => .mark rfl _) ?_
  refine .ite (fun _ => .ite (fun _ => .mark rfl _) (.mark rfl _)) <|
    .ite (fun _ => .mark rfl _) <|
    .ite (fun _ => .ite (fun _ => .mark rfl _) (.mark rfl _)) <|
    .ite (fun _ => .ite (fun _ => .mark rfl _) (.mark rfl _)) ?_
  refine .ite (fun _ => .string rest) <|
    .ite (fun h => .mark (t := .atom _) (isAtomName_takeWhile (Bool.and_eq_true_iff.mp h).2) _) <|
    .ite (fun _ => .number (c :: rest)) <|
    .ite (fun h => .mark (t := .ident _) (isIdent_identChars h rest) _) <|
    .ite (fun h => .mark (t := .var _) (isVarName_takeWhile h rest) _) ?_
  rintro _ _ ⟨⟩

theorem isSound_of_lexFrom {line skip : Nat} {cs : List Char} {ts : List Lexeme}
    (h : lexFrom line skip cs = .ok ts) : ∀ t ∈ ts, t.token.IsSound := by
  induction cs generalizing line skip ts with
  | nil =>
    cases h
    intro t ht
    cases ht
  | cons c rest ih =>
    cases skip with
    | succ skip => exact ih h
    | zero =>
      obtain ⟨t, n, us, hf, hr, rfl⟩ := exists_of_lexFrom_cons h
      rw [List.forall_mem_append]
      refine ⟨?_, ih hr⟩
      cases t with
      | none => simp
      | some t => simpa using findsSound_lexemeAt c rest t n hf

/-! Clauses. -/

/-- The tokens that the parts of a literal were read from. -/
def Literal.words (l : Literal) : List Token :=
  .ident l.predicate :: l.args.map Arg.token

/-- The tokens that the parts of a condition were read from. -/
def BodyItem.words : BodyItem → List Token
  | .holds l | .fails l => l.words
  | .compare left _ right => [left.token, right.token]

/-- The tokens that the parts of a clause were read from. -/
def Clause.words (c : Clause) : List Token :=
  c.head.words ++ c.body.flatMap BodyItem.words

def Site.words : Site → List Token
  | .head => []
  | .body l items _ => (Clause.mk l items).words

def State.words : State → List Token
  | .clause => []
  | .item head items | .afterItem head items => (Clause.mk head items).words
  | .predicate site => site.words
  | .arguments site name => .ident name :: site.words
  | .argument site name args _ | .afterArgument site name args =>
    (Literal.mk name args).words ++ site.words
  | .afterHead head => head.words
  | .operator head items left | .operand head items left _ =>
    left.token :: (Clause.mk head items).words

theorem token_of_arg? {t : Token} {a : Arg} (h : t.arg? = some a) : a.token = t := by
  cases t <;> cases h <;> rfl

theorem words_concat_arg (name : String) (args : List Arg) (a : Arg) :
    (Literal.mk name (args ++ [a])).words = (Literal.mk name args).words ++ [a.token] := by
  simp [Literal.words]

theorem words_concat_item (head : Literal) (items : List BodyItem) (item : BodyItem) :
    (Clause.mk head (items ++ [item])).words = (Clause.mk head items).words ++ item.words := by
  simp [Clause.words]

section

/-! What holds of all tokens that were read holds of all words. -/

variable {P : Token → Prop}

theorem words_closeLiteral {site : Site} {l : Literal} (hs : ∀ x ∈ site.words, P x)
    (hl : ∀ x ∈ l.words, P x) : ∀ x ∈ (closeLiteral site l).words, P x := by
  cases site with
  | head => exact hl
  | body head items negated =>
    dsimp only [closeLiteral, State.words]
    rw [words_concat_item, List.forall_mem_append]
    cases negated <;> exact ⟨hs, hl⟩

theorem words_stepAfter {s s' : State} {t : Token} {c : Option Clause}
    (hs : ∀ x ∈ s.words, P x) (h : stepAfter t s = .ok (s', c)) :
    (∀ x ∈ s'.words, P x) ∧ ∀ d ∈ c, ∀ x ∈ d.words, P x := by
  unfold stepAfter at h
  split at h
  · split at h <;> cases h
    · simpa [State.words, Clause.words] using hs
    · simpa [State.words, Clause.words] using hs
  · split at h <;> cases h
    · simpa [State.words, Clause.words] using hs
    · simpa [State.words, Clause.words] using hs
  · cases h
    exact ⟨hs, by simp⟩

/-- One token is the only one that a step can add to the words. -/
theorem words_step {s s' : State} {t : Token} {c : Option Clause} (hs : ∀ x ∈ s.words, P x)
    (ht : P t) (h : step s t = .ok (s', c)) :
    (∀ x ∈ s'.words, P x) ∧ ∀ d ∈ c, ∀ x ∈ d.words, P x := by
  have harg : ∀ a, t.arg? = some a → P a.token := fun a ha => by rwa [token_of_arg? ha]
  have hnone : ∀ d ∈ (none : Option Clause), ∀ x ∈ d.words, P x := by simp
  cases s with
  | clause =>
    cases t <;> cases h
    simpa [State.words, Site.words] using ht
  | item head items =>
    dsimp only [step] at h
    split at h
    · cases h
      exact ⟨hs, hnone⟩
    · cases h
      exact ⟨List.forall_mem_cons.mpr ⟨ht, hs⟩, hnone⟩
    · split at h
      case h_1 left hl =>
        cases h
        exact ⟨List.forall_mem_cons.mpr ⟨harg left hl, hs⟩, hnone⟩
      · cases h
  | predicate site =>
    cases t <;> cases h
    exact ⟨List.forall_mem_cons.mpr ⟨ht, hs⟩, hnone⟩
  | arguments site name =>
    obtain ⟨hname, hsite⟩ := List.forall_mem_cons.mp hs
    have hl : ∀ x ∈ (Literal.mk name []).words, P x := List.forall_mem_singleton.mpr hname
    dsimp only [step] at h
    split at h
    · cases h
      exact ⟨List.forall_mem_append.mpr ⟨hl, hsite⟩, hnone⟩
    · exact words_stepAfter (words_closeLiteral hsite hl) h
  | argument site name args mayClose =>
    obtain ⟨hl, hsite⟩ := List.forall_mem_append.mp hs
    dsimp only [step] at h
    split at h
    · cases h
      exact ⟨words_closeLiteral hsite hl, hnone⟩
    · split at h
      case h_1 a ha =>
        cases h
        have hla : ∀ x ∈ (Literal.mk name (args ++ [a])).words, P x := by
          rw [words_concat_arg, List.forall_mem_append]
          exact ⟨hl, List.forall_mem_singleton.mpr (harg a ha)⟩
        exact ⟨List.forall_mem_append.mpr ⟨hla, hsite⟩, hnone⟩
      · cases h
  | afterArgument site name args =>
    obtain ⟨hl, hsite⟩ := List.forall_mem_append.mp hs
    dsimp only [step] at h
    split at h
    · cases h
      exact ⟨hs, hnone⟩
    · cases h
      exact ⟨words_closeLiteral hsite hl, hnone⟩
    · cases h
  | operator head items left =>
    cases t <;> cases h
    exact ⟨hs, hnone⟩
  | operand head items left op =>
    obtain ⟨hleft, hitems⟩ := List.forall_mem_cons.mp hs
    dsimp only [step] at h
    split at h
    case h_1 right hr =>
      cases h
      refine ⟨?_, hnone⟩
      dsimp only [State.words]
      rw [words_concat_item, List.forall_mem_append]
      have hright := List.forall_mem_singleton.mpr (harg right hr)
      exact ⟨hitems, List.forall_mem_cons.mpr ⟨hleft, hright⟩⟩
    · cases h
  | afterHead head => exact words_stepAfter hs h
  | afterItem head items => exact words_stepAfter hs h

theorem words_parseFrom {s : State} {line : Nat} {ts : List Lexeme} {cs : List Clause}
    (hs : ∀ x ∈ s.words, P x) (ht : ∀ t ∈ ts, P t.token) (h : parseFrom s line ts = .ok cs) :
    ∀ c ∈ cs, ∀ x ∈ c.words, P x := by
  induction ts generalizing s line cs with
  | nil =>
    rw [parseFrom] at h
    split at h <;> cases h
    simp
  | cons t ts ih =>
    obtain ⟨htoken, hrest⟩ := List.forall_mem_cons.mp ht
    obtain ⟨s', c, ds, hstep, hr, rfl⟩ := exists_of_parseFrom_cons h
    obtain ⟨hs', hc⟩ := words_step hs htoken hstep
    rw [List.forall_mem_append]
    exact ⟨by simpa using hc, ih hs' hrest hr⟩

theorem words_parseProgram {source : String} {cs : List Clause}
    (h : parseProgram source = .ok cs) (ht : ∀ ts, lex source = .ok ts → ∀ t ∈ ts, P t.token) :
    ∀ c ∈ cs, ∀ x ∈ c.words, P x := by
  obtain ⟨ts, hl, hp⟩ := exists_of_parseProgram h
  exact words_parseFrom (by simp [State.words]) (ht ts hl) hp

end

/-! Clauses without doubles. -/

/-- Whether a clause holds no double. -/
def Clause.isFloatless (c : Clause) : Bool :=
  c.words.all (!·.isFloat)

def isFloatless (source : String) : Bool :=
  (lex source).toOption.all (·.all (!·.token.isFloat))

def BodyItem.isReadable : BodyItem → Bool
  | .holds l | .fails l => l.isReadable
  | .compare left _ right => left.isReadable && right.isReadable

def Clause.isReadable (c : Clause) : Bool :=
  c.head.isReadable && c.body.all BodyItem.isReadable

theorem isReadable_token (a : Arg) : a.token.isReadable = a.isReadable := by
  cases a with
  | var name => rfl
  | term t => cases t <;> rfl

theorem all_words_literal (l : Literal) : l.words.all Token.isReadable = l.isReadable := by
  have ha : Token.isReadable ∘ Arg.token = Arg.isReadable := funext isReadable_token
  rw [Literal.words, List.all_cons, List.all_map, ha]
  rfl

theorem all_words_item (i : BodyItem) : i.words.all Token.isReadable = i.isReadable := by
  cases i with
  | holds l => exact all_words_literal l
  | fails l => exact all_words_literal l
  | compare left op right => simp [BodyItem.words, BodyItem.isReadable, isReadable_token]

theorem all_words (c : Clause) : c.words.all Token.isReadable = c.isReadable := by
  have hb : (fun i : BodyItem => i.words.all Token.isReadable) = BodyItem.isReadable :=
    funext all_words_item
  rw [Clause.words, List.all_append, List.all_flatMap, all_words_literal, hb]
  rfl

/-- A clause that is read from a program can be written, if it holds no double. -/
theorem isReadable_of_parseProgram {source : String} {cs : List Clause}
    (h : parseProgram source = .ok cs) {c : Clause} (hc : c ∈ cs) (hf : c.isFloatless) :
    c.isReadable := by
  have hs := words_parseProgram h fun _ hl => isSound_of_lexFrom hl
  rw [← all_words, List.all_eq_true]
  intro x hx
  exact hs c hc x hx (by simpa using List.all_eq_true.mp hf x hx)

/-- The predicate of a clause is an identifier. -/
theorem isIdent_of_parseProgram {source : String} {cs : List Clause}
    (h : parseProgram source = .ok cs) {c : Clause} (hc : c ∈ cs) : isIdent c.head.predicate := by
  have hs := words_parseProgram h fun _ hl => isSound_of_lexFrom hl
  exact hs c hc (.ident c.head.predicate) List.mem_cons_self rfl

/-- Where no double is written, none is read. -/
theorem isFloatless_of_parseProgram {source : String} {cs : List Clause}
    (h : parseProgram source = .ok cs) (hf : isFloatless source) {c : Clause} (hc : c ∈ cs) :
    c.isFloatless := by
  have ht : ∀ ts, lex source = .ok ts → ∀ t ∈ ts, (!t.token.isFloat) = true := by
    intro ts hl
    rw [isFloatless, hl] at hf
    exact List.all_eq_true.mp hf
  exact List.all_eq_true.mpr (words_parseProgram (P := fun t => (!t.isFloat) = true) h ht c hc)

end Rule

end Utterance
