import Utterance.Learned.Critic
import Utterance.Proofs.Decimal.Exact
import Utterance.Proofs.Decimal.Rounding
import Utterance.Proofs.Learned.Stated
import Utterance.Proofs.Text.Lines

/-! An exemplar is read back from its line.

Any confidence has the percentage of one that can be stated, and whoever reads the fact of an exemplar finds the
same percentage, unless it is one. -/

namespace Utterance.Exemplar

/-! Texts between quotes. -/

theorem toList_quote_append (s : String) (tail : List Char) :
    (Rule.quote s).toList ++ tail = '"' :: (s.toList.flatMap Rule.quoteChar ++ '"' :: tail) := by
  simp [Rule.quote]

theorem toList_quote (s : String) :
    (Rule.quote s).toList = '"' :: (s.toList.flatMap Rule.quoteChar ++ ['"']) := by
  rw [← toList_quote_append, List.append_nil]

/-- A character stands in quotes by itself, or another one stands for it behind a backslash. -/
theorem quoteChar_cases (c : Char) :
    (c ≠ '\\' ∧ c ≠ '"' ∧ Rule.quoteChar c = [c]) ∨ ∃ d, Rule.quoteChar c = ['\\', d] := by
  unfold Rule.quoteChar
  split
  case h_6 hq hb _ _ _ => exact .inl ⟨hb, hq, rfl⟩
  all_goals exact .inr ⟨_, rfl⟩

theorem next_inside {c : Char} (hb : c ≠ '\\') (hq : c ≠ '"') : Quoting.inside.next c = .inside := by
  rw [Quoting.next, if_neg (by simpa using hb), if_neg (by simpa using hq)]

/-! Arguments between commas. -/

/-- A text that stands in one argument, outside of quotes at both ends. -/
def Passes (cs : List Char) : Prop :=
  ∀ rest first others, split .outside rest = first :: others →
    split .outside (cs ++ rest) = (cs ++ first) :: others

theorem split_cons {q : Quoting} {c : Char} (hc : ¬(q = .outside && c == ',') = true)
    {rest first : List Char} {others : List (List Char)} (h : split (q.next c) rest = first :: others) :
    split q (c :: rest) = (c :: first) :: others := by
  rw [split, if_neg hc, h]

theorem passes_append {cs ds : List Char} (hc : Passes cs) (hd : Passes ds) : Passes (cs ++ ds) := by
  intro rest first others h
  rw [List.append_assoc, List.append_assoc]
  exact hc _ _ _ (hd _ _ _ h)

theorem passes_char {c : Char} (hq : c ≠ '"') (hc : c ≠ ',') : Passes [c] := by
  intro rest first others h
  have hnext : Quoting.outside.next c = .outside := if_neg (by simpa using hq)
  exact split_cons (by simpa using hc) (by rw [hnext]; exact h)

theorem passes_plain {cs : List Char} (hq : '"' ∉ cs) (hc : ',' ∉ cs) : Passes cs := by
  induction cs with
  | nil => exact fun _ _ _ h => h
  | cons c cs ih =>
    rw [List.mem_cons, not_or] at hq hc
    exact passes_append (passes_char (Ne.symm hq.1) (Ne.symm hc.1)) (ih hq.2 hc.2)

theorem split_quoteChar (c : Char) {rest first : List Char} {others : List (List Char)}
    (h : split .inside rest = first :: others) :
    split .inside (Rule.quoteChar c ++ rest) = (Rule.quoteChar c ++ first) :: others := by
  obtain ⟨hb, hq, hc⟩ | ⟨d, hc⟩ := quoteChar_cases c
  · rw [hc]
    exact split_cons (by simp) (by rw [next_inside hb hq]; exact h)
  · rw [hc]
    exact split_cons (by decide) (split_cons (by simp [Quoting.next]) h)

theorem passes_quote (s : String) : Passes (Rule.quote s).toList := by
  intro rest first others h
  have hinside (cs : List Char) :
      split .inside (cs.flatMap Rule.quoteChar ++ '"' :: rest) =
        (cs.flatMap Rule.quoteChar ++ '"' :: first) :: others := by
    induction cs with
    | nil => exact split_cons (by decide) h
    | cons c cs ih =>
      rw [List.flatMap_cons, List.append_assoc, split_quoteChar c ih, List.append_assoc]
  rw [toList_quote_append, toList_quote_append]
  exact split_cons (by decide) (hinside s.toList)

theorem split_comma {cs : List Char} (h : Passes cs) (rest : List Char) :
    split .outside (cs ++ ',' :: rest) = cs :: split .outside rest := by
  have hc : split .outside (',' :: rest) = [] :: split .outside rest := rfl
  rw [h _ _ _ hc, List.append_nil]

theorem split_last {cs : List Char} (h : Passes cs) : split .outside cs = [cs] := by
  have hn : split .outside [] = [[]] := rfl
  have hs := h _ _ _ hn
  rwa [List.append_nil] at hs

/-! Quotes. -/

theorem unescape_quoteChar (c : Char) (rest : List Char) :
    unescape (Rule.quoteChar c ++ rest) = c :: unescape rest := by
  unfold Rule.quoteChar
  split
  case h_6 _ hb _ _ _ =>
    rw [List.singleton_append, unescape]
    · exact fun h _ => hb h
    · exact fun _ h _ => hb h
    · exact fun _ h _ => hb h
    · exact fun _ h _ => hb h
    · exact fun _ _ h _ => hb h
  all_goals rfl

theorem unescape_flatMap (cs : List Char) : unescape (cs.flatMap Rule.quoteChar) = cs := by
  induction cs with
  | nil => rfl
  | cons c cs ih => rw [List.flatMap_cons, unescape_quoteChar, ih]

theorem unquote_quote (name s : String) : unquote name (Rule.quote s).toList = .ok s := by
  have hu : unquoted? (Rule.quote s).toList = some (s.toList.flatMap Rule.quoteChar) := by
    rw [toList_quote, unquoted?, List.getLast?_concat, List.dropLast_concat]
    rfl
  rw [unquote, hu]
  dsimp only
  rw [unescape_flatMap, String.ofList_toList]

/-! Facts. -/

theorem bare_of_ends {c d : Char} (hc : Text.isBlank c = false) (hd : Text.isBlank d = false)
    (cs : List Char) : Text.Bare (c :: (cs ++ [d])) := by
  constructor
  · rintro _ ⟨⟩
    exact hc
  · rw [← List.cons_append, List.getLast?_concat]
    rintro _ ⟨⟩
    exact hd

/-- The text of a fact, with its period or without one. -/
theorem bare_fact {args dots : List Char} (hd : dots = [] ∨ dots = ['.']) :
    Text.Bare (predicate.toList ++ '(' :: (args ++ ')' :: dots)) := by
  have hp : predicate.toList = 'l' :: predicate.toList.tail := by decide
  rcases hd with rfl | rfl
  · have hs : predicate.toList ++ '(' :: (args ++ [')']) =
        'l' :: ((predicate.toList.tail ++ '(' :: args) ++ [')']) := by
      rw [hp]
      simp
    rw [hs]
    exact bare_of_ends (by decide) (by decide) _
  · have hs : predicate.toList ++ '(' :: (args ++ [')', '.']) =
        'l' :: ((predicate.toList.tail ++ '(' :: (args ++ [')'])) ++ ['.']) := by
      rw [hp]
      simp
    rw [hs]
    exact bare_of_ends (by decide) (by decide) _

theorem inner?_source {text : String} {args dots : List Char}
    (h : text.toList = predicate.toList ++ '(' :: (args ++ ')' :: dots))
    (hd : dots = [] ∨ dots = ['.']) : inner? text = some args := by
  have hclose (p : Char → Bool) (hp : p ')' = false) :
      ∀ c ∈ (predicate.toList ++ '(' :: (args ++ [')'])).getLast?, p c = false := by
    rw [← List.cons_append, ← List.append_assoc, List.getLast?_concat]
    rintro _ ⟨⟩
    exact hp
  have hs : text.toList = predicate.toList ++ '(' :: (args ++ [')']) ++ dots := by
    rw [h]
    simp
  have hdots : dots.all (· == '.') := by
    rcases hd with rfl | rfl
    · rfl
    · rfl
  have hperiod : Text.trimEnd (· == '.') (Text.trim text.toList) =
      predicate.toList ++ '(' :: (args ++ [')']) := by
    rw [Text.trim_eq_self (h ▸ bare_fact hd), hs]
    exact Text.trimEnd_append hdots (hclose _ rfl)
  have hblank : Text.trimEnd Text.isBlank (predicate.toList ++ '(' :: (args ++ [')']) ++ []) =
      predicate.toList ++ '(' :: (args ++ [')']) :=
    Text.trimEnd_append rfl (hclose _ (by decide))
  have hstart : Text.trimStart Text.isBlank ('(' :: (args ++ [')'])) = '(' :: (args ++ [')']) :=
    Text.dropWhile_eq_self (by rintro _ ⟨⟩; decide)
  rw [List.append_nil] at hblank
  unfold inner?
  rw [hperiod, hblank]
  dsimp only
  rw [Text.after?_append]
  dsimp only [bind, Option.bind]
  rw [hstart]
  simp

theorem parse_of_fields {text : String} {inner phrase verb target constraint confidence : List Char}
    {e : Exemplar} (hi : inner? text = some inner)
    (hf : (split .outside inner).map Text.trim = [phrase, verb, target, constraint, confidence])
    (hp : unquote "phrase" phrase = .ok e.phrase) (hv : verbOf verb = .ok e.verb)
    (ht : unquote "target" target = .ok e.target)
    (hc : unquote "constraint" constraint = .ok e.constraint)
    (hx : confidenceOf confidence = .ok e.confidence) : parse text = .ok e := by
  unfold parse
  rw [hi]
  dsimp only
  rw [hf]
  dsimp only
  rw [hp, hv, ht, hc, hx]
  rfl

/-! Exemplars. -/

theorem percent_nonneg {e : Exemplar} (h : e.IsStated) : 0 ≤ e.percent := by
  have hn := (Decimal.zero_le_iff e.confidence).mp h.nonneg
  unfold percent
  split
  · refine Decimal.nonneg_nearestInt64 (Decimal.nonneg_mul_hundred ?_)
    split
    · exact hn
    · rw [Decimal.unpack_zero]
      trivial
  · exact Decimal.nonneg_nearestInt64 hn

/-- An exemplar as its fact states it: its texts as they may stand there, and its percentage as its
confidence. -/
def reread (e : Exemplar) : Exemplar :=
  ⟨sanitize e.phrase, e.verb, sanitize e.target, sanitize e.constraint,
    (Decimal.float? (toString e.percent)).getD 0⟩

theorem confidenceOf_percent {e : Exemplar} (h : e.IsStated) :
    confidenceOf (toString e.percent).toList = .ok e.reread.confidence := by
  obtain ⟨x, hx, hfinite, hnonneg⟩ :=
    Decimal.exists_float?_toString (percent_nonneg h) (bounds_percent e).2
  unfold confidenceOf reread
  rw [String.ofList_toList, hx, Option.filter_some_pos (by simp [hfinite, hnonneg])]
  rfl

theorem verbOf_atom {verb : String} (h : Rule.isAtomName verb) (hq : '"' ∉ verb.toList) :
    verbOf verb.toList = .ok verb := by
  unfold Rule.isAtomName at h
  split at h
  case h_1 c tail hs =>
    rw [hs] at hq
    simp only [List.mem_cons, not_or] at hq
    have hverb : String.ofList ('/' :: c :: tail) = verb := by rw [← hs, String.ofList_toList]
    rw [hs, verbOf, if_neg, hverb]
    simp [hq]
  · cases h

theorem digits_percent {e : Exemplar} (h : e.IsStated) : (toString e.percent).toList.all Char.isDigit := by
  have hs : Decimal.signOf e.percent = [] := if_neg (Int.not_lt.mpr (percent_nonneg h))
  rw [Decimal.toList_toString, hs]
  exact Decimal.all_isDigit_toDigits _

theorem bare_digits {cs : List Char} (h : cs.all Char.isDigit) : Text.Bare cs := by
  have hb : ∀ c ∈ cs, Text.isBlank c = false := by
    intro c hc
    have hn := Rule.toNat_of_isNameChar (Rule.isNameChar_of_isDigit (List.all_eq_true.mp h c hc))
    exact Text.isBlank_visible (by omega) (by omega)
  exact ⟨fun c hc => hb c (List.mem_of_mem_head? hc), fun c hc => hb c (List.mem_of_mem_getLast? hc)⟩

theorem bare_quote (s : String) : Text.Bare (Rule.quote s).toList := by
  rw [toList_quote]
  exact bare_of_ends (by decide) (by decide) _

/-- The arguments are told apart again. -/
theorem split_written {e : Exemplar} (h : e.IsStated) :
    (split .outside e.written).map Text.trim =
      [(Rule.quote (sanitize e.phrase)).toList, e.verb.toList, (Rule.quote (sanitize e.target)).toList,
        (Rule.quote (sanitize e.constraint)).toList, (toString e.percent).toList] := by
  have hspace {cs : List Char} (hc : Passes cs) : Passes (' ' :: cs) :=
    passes_append (passes_char (by decide) (by decide)) hc
  have htrim {cs : List Char} (hc : Text.Bare cs) : Text.trim (' ' :: cs) = cs :=
    Text.trim_append (show [' '].all Text.isBlank by decide) hc
  have hdigits := digits_percent h
  have hverb : Passes (' ' :: e.verb.toList) := hspace (passes_plain h.quote h.comma)
  have hpercent : Passes (' ' :: (toString e.percent).toList) :=
    hspace (passes_plain (Rule.not_mem_of_all (by decide) hdigits)
      (Rule.not_mem_of_all (by decide) hdigits))
  have hw : e.written = (Rule.quote (sanitize e.phrase)).toList ++ ',' ::
      ((' ' :: e.verb.toList) ++ ',' :: ((' ' :: (Rule.quote (sanitize e.target)).toList) ++ ',' ::
        ((' ' :: (Rule.quote (sanitize e.constraint)).toList) ++ ',' ::
          (' ' :: (toString e.percent).toList)))) := by
    simp [written, behindVerb]
  rw [hw, split_comma (passes_quote _), split_comma hverb, split_comma (hspace (passes_quote _)),
    split_comma (hspace (passes_quote _)), split_last hpercent]
  simp only [List.map_cons, List.map_nil, htrim h.bare, htrim (bare_quote _),
    htrim (bare_digits hdigits), Text.trim_eq_self (bare_quote _)]

/-- An exemplar is read back from the text of its fact, whose period may be missing. -/
theorem parse_reread {e : Exemplar} (h : e.IsStated) (hv : verbOf e.verb.toList = .ok e.verb)
    {text : String} {dots : List Char}
    (ht : text.toList = predicate.toList ++ '(' :: (e.written ++ ')' :: dots))
    (hd : dots = [] ∨ dots = ['.']) : Exemplar.parse text = .ok e.reread :=
  parse_of_fields (inner?_source ht hd) (split_written h) (unquote_quote _ _) hv
    (unquote_quote _ _) (unquote_quote _ _) (confidenceOf_percent h)

theorem parse_source_reread {e : Exemplar} (h : e.IsStated) (hv : verbOf e.verb.toList = .ok e.verb) :
    Exemplar.parse e.fact.source = .ok e.reread :=
  parse_reread h hv (toList_source h) (.inr rfl)

/-- An exemplar whose verb is a constant is read back from the text of its fact, its texts as they may stand
there. -/
theorem parse_source {e : Exemplar} (h : e.IsStated) (hv : Rule.isAtomName e.verb) :
    ∃ x, Exemplar.parse e.fact.source =
      .ok ⟨sanitize e.phrase, e.verb, sanitize e.target, sanitize e.constraint, x⟩ :=
  ⟨_, parse_source_reread h (verbOf_atom hv h.quote)⟩

/-! Lines. -/

theorem newline_not_mem_source {e : Exemplar} (h : e.IsStated) (hv : Rule.isAtomName e.verb) :
    '\n' ∉ e.fact.source.toList := by
  have hphrase : '\n' ∉ (Rule.quote (sanitize e.phrase)).toList :=
    Rule.newline_not_mem_arg (a := .term (.str (sanitize e.phrase))) rfl
  rw [toList_source h, written]
  simp only [List.mem_append, List.mem_cons, hphrase, Rule.newline_not_mem_atom hv,
    newline_not_mem_behindVerb]
  decide

theorem bare_source {e : Exemplar} (h : e.IsStated) : Text.Bare e.fact.source.toList := by
  rw [toList_source h]
  exact bare_fact (.inr rfl)

theorem source_ne_nil {e : Exemplar} (h : e.IsStated) : e.fact.source.toList ≠ [] := by
  simp [toList_source h]

theorem getLast?_source {e : Exemplar} (h : e.IsStated) :
    e.fact.source.toList.getLast? = some '.' := by
  have hs : e.fact.source.toList = predicate.toList ++ '(' :: (e.written ++ [')']) ++ ['.'] := by
    simp [toList_source h]
  rw [hs, List.getLast?_concat]

/-- The line feed behind a fact is not read. -/
theorem parse_line {e e' : Exemplar} (h : e.IsStated) (hp : parse e.fact.source = .ok e') :
    parse e.line = .ok e' := by
  obtain ⟨inner, phrase, verb, target, constraint, confidence, hi, hf, hphrase, hverb, htarget,
    hconstraint, hconfidence⟩ := exists_of_parse hp
  have hline : Text.trim e.line.toList = e.fact.source.toList := by
    have hl : e.line.toList = [] ++ (e.fact.source.toList ++ ['\n']) := by simp [line]
    rw [hl]
    exact Text.trim_around rfl (by decide) (bare_source h)
  have hinner : inner? e.line = inner? e.fact.source := by
    rw [inner?, inner?, hline, Text.trim_eq_self (bare_source h)]
  exact parse_of_fields (hinner.trans hi) hf hphrase hverb htarget hconstraint hconfidence

/-- An exemplar is found in its line, if there are only blanks in front of it. -/
theorem ofLine?_source {e e' : Exemplar} (h : e.IsStated) (hp : parse e.fact.source = .ok e')
    {front : List Char} (hf : front.all Text.isBlank) :
    ofLine? (front ++ e.fact.source.toList) = some e' := by
  have hhead : e.fact.source.toList.head? = some 'l' := by
    rw [toList_source h, List.head?_append]
    rfl
  have hempty : e.fact.source.toList.isEmpty = false := by
    rw [toList_source h]
    rfl
  rw [ofLine?, Text.trim_append hf (bare_source h), hhead, hempty, if_neg (by decide), String.ofList_toList, hp]
  rfl

/-- Behind a text an exemplar shares its line with what follows the last line feed of the text. -/
theorem ofLines_append {e : Exemplar} (h : e.IsStated) (hv : Rule.isAtomName e.verb) (text : String) :
    ofLines (text ++ e.line) =
      ofLines (String.ofList (Text.closedLines text.toList)) ++
        (ofLine? (Text.openLine text.toList ++ e.fact.source.toList)).toList := by
  have ht : (text ++ e.line).toList = text.toList ++ e.fact.source.toList ++ ['\n'] := by simp [line]
  have hl : e.fact.source.toList.getLast? ≠ some '\r' := by
    rw [getLast?_source h]
    decide
  rw [ofLines, ofLines, ht, Text.lines_append (newline_not_mem_source h hv) hl (source_ne_nil h),
    List.filterMap_append, String.toList_ofList]
  cases hs : ofLine? (Text.openLine text.toList ++ e.fact.source.toList) <;>
    simp [hs]

/-! Percentages. -/

open Decimal (nearestInt64)

/-- A confidence as a whole percentage. -/
def percentOf (x : Float) : Int :=
  if x ≤ 1 then nearestInt64 ((if 0 < x then x else 0) * 100) else nearestInt64 x

theorem percent_eq (e : Exemplar) : e.percent = percentOf e.confidence := rfl

/-! Confidences that nobody states. -/

theorem not_pos_of_not_nonneg {x : Float} (h : ¬Decimal.IsNonneg x.toModel.unpack) : ¬0 < x := by
  rw [Decimal.lt_iff_unpack, Decimal.unpack_zero]
  intro hlt
  cases hu : x.toModel.unpack with
  | notANumber =>
    rw [hu] at hlt
    cases hlt
  | zero s => exact h (hu ▸ trivial)
  | infinity s | finite s =>
    rw [hu] at h hlt
    cases s with
    | negative => cases hlt
    | positive => exact h rfl

/-- What is less than nothing, or no number at all, counts as nothing. -/
theorem percentOf_of_not_nonneg {x : Float} (h : ¬Decimal.IsNonneg x.toModel.unpack) : percentOf x = 0 := by
  unfold percentOf
  by_cases hone : x ≤ 1
  · rw [if_pos hone, if_neg (not_pos_of_not_nonneg h)]
    decide +kernel
  · rw [if_neg hone]
    rw [Decimal.le_one_iff] at hone
    have hn : x.toModel.unpack = .notANumber := by
      cases hu : x.toModel.unpack with
      | notANumber => rfl
      | zero s => exact absurd (hu ▸ trivial) h
      | infinity s =>
        rw [hu] at h hone
        cases s with
        | negative => exact absurd rfl hone
        | positive => exact absurd rfl h
      | finite s =>
        rw [hu] at h hone
        cases s with
        | negative =>
          refine absurd ?_ hone
          intro hm
          cases hm
        | positive => exact absurd rfl h
    rw [nearestInt64, Decimal.parts_eq, hn]
    rfl

theorem unpack_of_not_finite {x : Float} (h : Decimal.IsNonneg x.toModel.unpack) (hf : ¬x.isFinite = true) :
    x.toModel.unpack = .infinity .positive := by
  have hu : ¬x.toModel.unpack.isFinite = true := hf
  cases hx : x.toModel.unpack with
  | notANumber =>
    rw [hx] at h
    cases h
  | infinity s =>
    rw [hx] at h
    cases h
    rfl
  | zero s | finite s =>
    rw [hx] at hu
    exact absurd rfl hu

/-- An exemplar with any confidence has the percentage of one that can be stated. -/
theorem exists_percentOf_eq (x : Float) : ∃ y : Float, y.isFinite ∧ 0 ≤ y ∧ percentOf y = percentOf x := by
  by_cases h : Decimal.IsNonneg x.toModel.unpack
  · by_cases hf : x.isFinite
    · exact ⟨x, hf, (Decimal.zero_le_iff x).mpr h, rfl⟩
    · have hu := unpack_of_not_finite h hf
      have hone : ¬x ≤ 1 := by
        rw [Decimal.le_one_iff, hu]
        intro ha
        cases ha
      have hx : percentOf x = 2 ^ 63 - 1 := by
        rw [percentOf, if_neg hone, nearestInt64, Decimal.parts_eq, hu]
        rfl
      refine ⟨1e19, by decide +kernel, by decide +kernel, ?_⟩
      rw [hx]
      decide +kernel
  · refine ⟨0, by decide +kernel, by decide +kernel, ?_⟩
    rw [percentOf_of_not_nonneg h]
    decide +kernel

/-! Reading the percentage. -/

theorem exists_nearestInt64 (x : Float) : ∃ y, percentOf x = nearestInt64 y := by
  unfold percentOf
  split
  · exact ⟨_, rfl⟩
  · exact ⟨_, rfl⟩

/-- One percent is read as the whole. -/
theorem percentOf_read_one {x : Float} (h : Decimal.float? (toString (1 : Int)) = some x) :
    percentOf x = 100 := by
  have hx : Decimal.float? (toString (1 : Int)) = some 1 := by decide +kernel
  obtain rfl : 1 = x := Option.some.inj (hx.symm.trans h)
  decide +kernel

theorem percentOf_read_zero {x : Float} (h : Decimal.float? (toString (0 : Int)) = some x) :
    percentOf x = 0 := by
  have hx : Decimal.float? (toString (0 : Int)) = some 0 := by decide +kernel
  obtain rfl : 0 = x := Option.some.inj (hx.symm.trans h)
  decide +kernel

/-- Whoever reads the fact of an exemplar finds its percentage, but takes one percent for the whole. -/
theorem percent_reread {e : Exemplar} (h : 0 ≤ e.percent) :
    e.reread.percent = if e.percent = 1 then 100 else e.percent := by
  obtain ⟨y, hy⟩ := exists_nearestInt64 e.confidence
  rw [← percent_eq] at hy
  obtain ⟨x, hx, hone, hnearest⟩ := Decimal.float?_nearestInt64 (hy ▸ h)
  rw [← hy] at hx hone hnearest
  have hr : e.reread.percent = percentOf x := by
    rw [percent_eq, reread, hx]
    rfl
  rw [hr]
  generalize e.percent = n at *
  obtain rfl | rfl | hn : n = 0 ∨ n = 1 ∨ 1 < n := by omega
  · rw [if_neg (by decide), percentOf_read_zero hx]
  · rw [if_pos rfl, percentOf_read_one hx]
  · rw [if_neg (by omega), percentOf, if_neg (by rw [hone]; omega), hnearest]

end Utterance.Exemplar
