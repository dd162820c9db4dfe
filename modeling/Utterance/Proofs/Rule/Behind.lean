import Utterance.Proofs.Rule.Reading

/-! A text in the place of an argument that goes on behind a constant, with neither a comma nor a closing
parenthesis, is refused with all that follows on its last line. -/

namespace Utterance.Rule

/-! What the lexer finds where no argument ends. -/

/-- Whether a token may stand behind an argument. -/
def Token.endsArgument : Token → Bool
  | .comma | .closeParen => true
  | _ => false

/-- What is found at a place of a text is a token, but none that may stand behind an argument. -/
def FindsWord (found : Except SyntaxCause (Option Token × Nat)) : Prop :=
  ∀ t n, found = .ok (t, n) → ∃ u, t = some u ∧ u.endsArgument = false

namespace FindsWord

theorem mark {t : Token} (h : t.endsArgument = false) (n : Nat) : FindsWord (.ok (some t, n)) := by
  rintro _ _ ⟨⟩
  exact ⟨t, rfl, h⟩

theorem ite {b : Bool} {x y : Except SyntaxCause (Option Token × Nat)} (hx : b → FindsWord x)
    (hy : FindsWord y) : FindsWord (if b then x else y) := by
  cases b with
  | true => exact hx rfl
  | false => exact hy

theorem string (rest : List Char) :
    FindsWord ((stringChars rest).map fun (cs, n) => (some (.str (String.ofList cs)), n + 1)) := by
  intro t n h
  obtain ⟨found, -, hf⟩ := exists_of_map_ok h
  cases hf
  exact ⟨_, rfl, rfl⟩

theorem number (cs : List Char) : FindsWord ((numberAt cs).map fun (t, n) => (some t, n)) := by
  intro t n h
  obtain ⟨found, hs, hf⟩ := exists_of_map_ok h
  cases hf
  unfold numberAt at hs
  extract_lets sign whole rest part at hs
  split at hs
  · split at hs
    · cases hs
      exact ⟨_, rfl, rfl⟩
    · cases hs
  · cases hs
    exact ⟨_, rfl, rfl⟩

end FindsWord

theorem findsWord_lexemeAt {c : Char} (hb : Text.isBlank c = false) (hh : c ≠ '#') (hc : c ≠ ',')
    (hp : c ≠ ')') (rest : List Char) : FindsWord (lexemeAt c rest) := by
  have other {d : Char} {x : Except SyntaxCause (Option Token × Nat)} (hd : c ≠ d) (h : c == d) :
      FindsWord x := absurd (beq_iff_eq.mp h) hd
  unfold lexemeAt
  dsimp only
  refine .ite (fun h => by rw [hb] at h; cases h) <| .ite (other hh) ?_
  refine .ite (fun _ => .mark rfl _) <| .ite (other hp) <| .ite (other hc) <|
    .ite (fun _ => .mark rfl _) <| .ite (fun _ => .mark rfl _) ?_
  refine .ite (fun _ => .ite (fun _ => .mark rfl _) (.mark rfl _)) <|
    .ite (fun _ => .mark rfl _) <|
    .ite (fun _ => .ite (fun _ => .mark rfl _) (.mark rfl _)) <|
    .ite (fun _ => .ite (fun _ => .mark rfl _) (.mark rfl _)) ?_
  refine .ite (fun _ => .string rest) <| .ite (fun _ => .mark rfl _) <|
    .ite (fun _ => .number (c :: rest)) <| .ite (fun _ => .mark rfl _) <|
    .ite (fun _ => .mark rfl _) ?_
  rintro _ _ ⟨⟩

theorem getLast?_of_suffix {u v : List Char} (h : v <:+ u) (hne : v ≠ []) :
    u.getLast? = v.getLast? := by
  obtain ⟨front, rfl⟩ := h
  rw [List.getLast?_append, List.getLast?_eq_some_getLast hne, Option.some_or]

/-- Behind a text without commas and closing parentheses, the last line of which goes on, there is either
nothing but comments or a token that is neither. -/
theorem head_of_lexFrom {u rest : List Char} (hu : ∃ c ∈ u.getLast?, Text.isBlank c = false)
    (hcomma : ',' ∉ u) (hclose : ')' ∉ u) (hrest : '\n' ∉ rest) {line : Nat} {ts : List Lexeme}
    (h : lexFrom line 0 (u ++ rest) = .ok ts) :
    ∀ t ∈ ts.head?, t.token.endsArgument = false := by
  induction hn : u.length using Nat.strongRecOn generalizing u line with
  | ind n ih =>
    obtain ⟨last, hlast, hvisible⟩ := hu
    cases u with
    | nil => cases hlast
    | cons c u =>
      rw [List.mem_cons, not_or] at hcomma hclose
      -- The characters that are passed over leave a shorter text with the same end.
      have hshorter {v : List Char} (hv : v <:+ u) (hne : v ≠ []) {line : Nat}
          (hl : lexFrom line 0 (v ++ rest) = .ok ts) :
          ∀ t ∈ ts.head?, t.token.endsArgument = false := by
        rw [getLast?_of_suffix (hv.trans (List.suffix_cons c u)) hne] at hlast
        refine ih v.length ?_ ⟨last, hlast, hvisible⟩ (fun hm => hcomma.2 (hv.subset hm))
          (fun hm => hclose.2 (hv.subset hm)) hl rfl
        rw [← hn, List.length_cons]
        exact Nat.lt_succ_of_le hv.length_le
      by_cases hb : Text.isBlank c
      · have hne : u ≠ [] := by
          rintro rfl
          obtain rfl : c = last := Option.some.inj hlast
          rw [hb] at hvisible
          cases hvisible
        rw [List.cons_append, lexFrom_blank hb] at h
        exact hshorter (List.suffix_refl u) hne h
      · by_cases hh : c = '#'
        · subst hh
          rw [List.cons_append, lexFrom_comment, List.dropWhile_append] at h
          split at h
          case isTrue hall =>
            -- The comment takes the rest of the text.
            have hline : ∀ d ∈ rest, (d != '\n') = true := by
              intro d hd
              rw [bne_iff_ne]
              rintro rfl
              exact hrest hd
            have hnone : (rest ++ []).dropWhile (· != '\n') = [] := List.dropWhile_append_of_pos hline
            rw [List.append_nil] at hnone
            rw [hnone] at h
            cases h
            rintro _ ⟨⟩
          case isFalse hsome =>
            exact hshorter (List.dropWhile_suffix _) (by simpa using hsome) h
        · obtain ⟨t, n, us, hf, -, rfl⟩ := exists_of_lexFrom_cons h
          rw [Bool.not_eq_true] at hb
          obtain ⟨word, rfl, hword⟩ :=
            findsWord_lexemeAt hb hh (Ne.symm hcomma.1) (Ne.symm hclose.1) _ t n hf
          rintro _ ⟨⟩
          exact hword

/-! What the parser makes of it. -/

theorem parseFrom_afterArgument_ne {ts : List Lexeme}
    (h : ∀ t ∈ ts.head?, t.token.endsArgument = false) (site : Site) (name : String)
    (args : List Arg) (line : Nat) (cs : List Clause) :
    parseFrom (.afterArgument site name args) line ts ≠ .ok cs := by
  intro hp
  cases ts with
  | nil => cases hp
  | cons t ts =>
    obtain ⟨s, c, ds, hstep, -, -⟩ := exists_of_parseFrom_cons hp
    have ht := h t rfl
    unfold step at hstep
    dsimp only at hstep
    split at hstep
    case h_1 hc =>
      rw [hc] at ht
      cases ht
    case h_2 hc =>
      rw [hc] at ht
      cases ht
    case h_3 => cases hstep

/-- No argument is a text that begins with a slash, but is no constant, unless it holds a comma or a
closing parenthesis. -/
theorem parseFrom_argument_ne {v rest : List Char} (hslash : ∃ tail, v = '/' :: tail)
    (hbare : Text.Bare v) (hv : isAtomName (String.ofList v) = false) (hcomma : ',' ∉ v)
    (hclose : ')' ∉ v) (hhead : ∀ c ∈ rest.head?, isNameChar c = false) (hrest : '\n' ∉ rest)
    {line : Nat} {ts : List Lexeme} (hl : lexFrom line 0 (v ++ rest) = .ok ts) (site : Site)
    (name : String) (args : List Arg) (last : Nat) (cs : List Clause) :
    parseFrom (.argument site name args false) last ts ≠ .ok cs := by
  obtain ⟨tail, rfl⟩ := hslash
  by_cases hname : headIs isNameChar tail
  · -- A constant is found, and the text goes on behind it.
    obtain ⟨hatom, u, hu⟩ : isAtomName (String.ofList ('/' :: tail.takeWhile isAtomChar)) ∧
        ∃ u, tail.dropWhile isAtomChar = u := ⟨isAtomName_takeWhile hname, _, rfl⟩
    have htail : tail.takeWhile isAtomChar ++ u = tail := by
      rw [← hu, List.takeWhile_append_dropWhile]
    have hne : u ≠ [] := by
      rintro rfl
      rw [List.append_nil] at htail
      rw [htail, hv] at hatom
      cases hatom
    have hapart : ∀ c ∈ (u ++ rest).head?, isAtomChar c = false := by
      intro c hc
      obtain ⟨d, tail', htail'⟩ := List.exists_cons_of_ne_nil hne
      rw [htail'] at hc
      exact Text.head?_dropWhile c (by rw [hu, htail']; exact hc)
    have hstands := stands_atom hatom hapart
    rw [String.toList_ofList] at hstands
    rw [← htail, ← List.cons_append, List.append_assoc, lexFrom_stands hstands] at hl
    obtain ⟨us, hus, rfl⟩ := exists_of_map_ok hl
    have hsuffix : u <:+ '/' :: tail := by
      rw [← htail, ← List.cons_append]
      exact List.suffix_append _ _
    have hlast : ∃ c ∈ u.getLast?, Text.isBlank c = false := by
      obtain ⟨c, hc⟩ : ∃ c, u.getLast? = some c := ⟨_, List.getLast?_eq_some_getLast hne⟩
      refine ⟨c, hc, hbare.2 c ?_⟩
      rw [getLast?_of_suffix hsuffix hne]
      exact hc
    have hhead := head_of_lexFrom hlast (fun hm => hcomma (hsuffix.subset hm))
      (fun hm => hclose (hsuffix.subset hm)) hrest hus
    exact parseFrom_afterArgument_ne hhead site name (args ++ [.term (.atom _)]) _ cs
  · -- A slash alone is nothing to the lexer.
    have hslash : headIs isNameChar (tail ++ rest) = false := by
      cases tail with
      | nil =>
        cases rest with
        | nil => rfl
        | cons c rest => exact hhead c rfl
      | cons c tail => simpa [headIs] using hname
    have hb : Text.isBlank '/' = false := by decide
    obtain ⟨t, n, us, hf, -, -⟩ := exists_of_lexFrom_cons hl
    simp [lexemeAt, hb, hslash] at hf

end Utterance.Rule
