import Utterance.Proofs.Learned.Keeping

/-! A file of exemplars that was cut off between two characters is read as the exemplars in front of the
cut. What is left of the next one is refused, unless it lacks no more than the end of its line, or its
period too. -/

namespace Utterance

namespace Exemplar

/-! Exemplars with any confidence whose verb is a constant. -/

theorem all_isAtomChar {name : String} (h : Rule.isAtomName name) : name.toList.all Rule.isAtomChar := by
  unfold Rule.isAtomName at h
  split at h
  case h_1 c rest hs =>
    simp only [Bool.and_eq_true] at h
    simp [hs, h.2, Rule.isAtomChar, h.1]
  case h_2 => cases h

theorem isBlank_of_isAtomChar {c : Char} (h : Rule.isAtomChar c) : Text.isBlank c = false := by
  simp only [Rule.isAtomChar, Bool.or_eq_true, beq_iff_eq] at h
  rcases h with (h | rfl) | rfl
  · have hn := Rule.toNat_of_isNameChar h
    exact Text.isBlank_visible (by omega) (by omega)
  · decide
  · decide

/-- Such an exemplar is written as one that can be stated. -/
theorem exists_stated {e : Exemplar} (hv : Rule.isAtomName e.verb) :
    ∃ s : Exemplar, s.IsStated ∧ s.verb = e.verb ∧ s.fact = e.fact ∧ s.written = e.written ∧
      s.reread = e.reread := by
  obtain ⟨x, hfinite, hnonneg, hx⟩ := exists_percentOf_eq e.confidence
  have hall := all_isAtomChar hv
  have hmem : ∀ c ∈ e.verb.toList, Text.isBlank c = false := fun c hc =>
    isBlank_of_isAtomChar (List.all_eq_true.mp hall c hc)
  have hpercent : percent { e with confidence := x } = e.percent := hx
  have hslash : ∃ rest, e.verb.toList = '/' :: rest := by
    unfold Rule.isAtomName at hv
    split at hv
    case h_1 c rest hs => exact ⟨_, hs⟩
    case h_2 => cases hv
  refine ⟨{ e with confidence := x }, ?_, rfl, ?_, ?_, ?_⟩
  · exact
      { slash := hslash
        quote := Rule.not_mem_of_all (by decide) hall
        comma := Rule.not_mem_of_all (by decide) hall
        bare := ⟨fun c hc => hmem c (List.mem_of_mem_head? hc), fun c hc => hmem c (List.mem_of_getLast? hc)⟩
        finite := hfinite
        nonneg := hnonneg }
  · simp only [fact, hpercent]
  · simp only [written, behindVerb, hpercent]
  · simp only [reread, hpercent]

theorem toList_source_atom {e : Exemplar} (hv : Rule.isAtomName e.verb) :
    e.fact.source.toList = predicate.toList ++ '(' :: (e.written ++ [')', '.']) := by
  obtain ⟨s, hs, -, hfact, hwritten, -⟩ := exists_stated hv
  rw [← hfact, ← hwritten, toList_source hs]

theorem newline_not_mem_source_atom {e : Exemplar} (hv : Rule.isAtomName e.verb) :
    '\n' ∉ e.fact.source.toList := by
  obtain ⟨s, hs, hverb, hfact, -, -⟩ := exists_stated hv
  exact hfact ▸ newline_not_mem_source hs (hverb ▸ hv)

theorem parse_source_atom {e : Exemplar} (hv : Rule.isAtomName e.verb) :
    parse e.fact.source = .ok e.reread := by
  obtain ⟨s, hs, hverb, hfact, -, hreread⟩ := exists_stated hv
  rw [← hfact, ← hreread]
  exact parse_source_reread hs (verbOf_atom (hverb ▸ hv) hs.quote)

/-! Torn facts. -/

theorem length_split_le (q : Quoting) (cs rest : List Char) :
    (split q cs).length ≤ (split q (cs ++ rest)).length := by
  induction cs generalizing q with
  | nil => exact List.length_pos_iff.mpr (split_ne_nil q rest)
  | cons c cs ih =>
    rw [List.cons_append]
    unfold split
    split
    · exact Nat.succ_le_succ (ih q)
    · obtain ⟨first, others, h⟩ := List.exists_cons_of_ne_nil (split_ne_nil (q.next c) cs)
      obtain ⟨first', others', h'⟩ := List.exists_cons_of_ne_nil (split_ne_nil (q.next c) (cs ++ rest))
      have hle := ih (q.next c)
      rw [h, h'] at hle ⊢
      exact hle

/-- What ends in a closing parenthesis ends in front of a text that holds none. -/
theorem prefix_of_closeParen {inner front back : List Char} (h : inner ++ [')'] <+: front ++ back)
    (hback : ')' ∉ back) : inner ++ [')'] <+: front := by
  obtain ⟨more, hm⟩ := h
  rcases List.append_eq_append_iff.mp hm with ⟨rest, hfront, -⟩ | ⟨beyond, hinner, hb⟩
  · exact ⟨rest, hfront.symm⟩
  · rcases List.eq_nil_or_concat beyond with rfl | ⟨others, c, rfl⟩
    · exact ⟨[], by rw [List.append_nil, hinner, List.append_nil]⟩
    · have hc : ')' = c := by
        have hl := congrArg List.getLast? hinner
        simpa using hl
      subst hc
      exact absurd (by simp [hb]) hback

/-- The arguments in front of the percentage, as they are written. -/
def texts (e : Exemplar) : List Char :=
  (Rule.quote (sanitize e.phrase)).toList ++ ',' :: ((' ' :: e.verb.toList) ++ ',' ::
    ((' ' :: (Rule.quote (sanitize e.target)).toList) ++ ',' ::
      (' ' :: (Rule.quote (sanitize e.constraint)).toList)))

theorem written_eq (e : Exemplar) : e.written = e.texts ++ (',' :: ' ' :: (toString e.percent).toList) := by
  simp [written, behindVerb, texts]

theorem length_split_texts {e : Exemplar} (h : e.IsStated) : (split .outside e.texts).length = 4 := by
  have hspace {cs : List Char} (hc : Passes cs) : Passes (' ' :: cs) :=
    passes_append (passes_char (by decide) (by decide)) hc
  rw [texts, split_comma (passes_quote _), split_comma (hspace (passes_plain h.quote h.comma)),
    split_comma (hspace (passes_quote _)), split_last (hspace (passes_quote _))]
  rfl

/-- A cut in front of the closing parenthesis leaves four arguments at most. -/
theorem length_split_torn {e : Exemplar} (h : e.IsStated) {inner : List Char}
    (hi : inner ++ [')'] <+: e.written) : (split .outside inner).length ≤ 4 := by
  have hdigits : ')' ∉ ',' :: ' ' :: (toString e.percent).toList := by
    have hn : ')' ∉ (toString e.percent).toList := Rule.not_mem_of_all (by decide) (digits_percent h)
    rw [List.mem_cons, List.mem_cons, not_or, not_or]
    exact ⟨by decide, by decide, hn⟩
  rw [written_eq] at hi
  obtain ⟨rest, hrest⟩ := prefix_of_closeParen hi hdigits
  rw [← length_split_texts h, ← hrest, List.append_assoc]
  exact length_split_le .outside inner _

theorem head?_torn {e : Exemplar} {cs : List Char} (h : cs <+: predicate.toList ++ '(' :: e.written) :
    ∀ c ∈ cs.head?, Text.isBlank c = false := by
  intro c hc
  cases cs with
  | nil => cases hc
  | cons d cs =>
    have hp : predicate.toList = 'l' :: predicate.toList.tail := by decide
    rw [hp, List.cons_append, List.cons_prefix_cons] at h
    cases hc
    rw [h.1]
    decide

theorem inner?_torn {e : Exemplar} {text : String} {inner : List Char}
    (h : text.toList <+: predicate.toList ++ '(' :: e.written) (hi : inner? text = some inner) :
    inner ++ [')'] <+: e.written := by
  have hbody : Text.trimEnd Text.isBlank (Text.trimEnd (· == '.') (Text.trim text.toList)) <+:
      predicate.toList ++ '(' :: e.written :=
    (((Text.prefix_trimEnd _ _).trans (Text.prefix_trimEnd _ _)).trans
      (Text.prefix_trim (head?_torn h))).trans h
  unfold inner? at hi
  simp only [Option.bind_eq_bind, Option.bind_eq_some_iff] at hi
  obtain ⟨rest, hrest, hi⟩ := hi
  rw [Text.eq_of_after? hrest, List.prefix_append_right_inj] at hbody
  cases rest with
  | nil => cases hi
  | cons c rest =>
    obtain ⟨rfl, hwritten⟩ := List.cons_prefix_cons.mp hbody
    have hstart : Text.trimStart Text.isBlank ('(' :: rest) = '(' :: rest :=
      Text.dropWhile_eq_self (by rintro _ ⟨⟩; decide)
    rw [hstart] at hi
    change (if rest.getLast? == some ')' then some rest.dropLast else none) = some inner at hi
    split at hi
    case isTrue hl =>
      obtain ⟨args, rfl⟩ := List.getLast?_eq_some_iff.mp (beq_iff_eq.mp hl)
      rw [List.dropLast_concat] at hi
      cases hi
      exact hwritten
    case isFalse => cases hi

/-- What is left of a fact that was cut off in front of its closing parenthesis states no exemplar. -/
theorem parse_torn {e : Exemplar} (hs : e.IsStated) {text : String}
    (h : text.toList <+: predicate.toList ++ '(' :: e.written) (x : Exemplar) : parse text ≠ .ok x := by
  intro hp
  obtain ⟨inner, phrase, verb, target, constraint, confidence, hi, hf, -⟩ := exists_of_parse hp
  have hle := length_split_torn hs (inner?_torn h hi)
  have hfive := congrArg List.length hf
  simp at hfive
  omega

/-! Torn lines. -/

theorem ofLine?_eq_none {line : List Char} (h : ∀ x, parse (String.ofList (Text.trim line)) ≠ .ok x) :
    ofLine? line = none := by
  unfold ofLine?
  generalize Text.trim line = line at h ⊢
  cases hp : parse (String.ofList line) with
  | error f => simp [hp, Except.toOption]
  | ok x => exact absurd hp (h x)

theorem ofLine?_torn {e : Exemplar} (hv : Rule.isAtomName e.verb) {tail : List Char}
    (h : tail <+: predicate.toList ++ '(' :: e.written) : ofLine? tail = none := by
  obtain ⟨s, hs, -, -, hwritten, -⟩ := exists_stated hv
  have htrim : Text.trim tail <+: predicate.toList ++ '(' :: s.written := by
    rw [hwritten]
    exact (Text.prefix_trim (head?_torn h)).trans h
  refine ofLine?_eq_none fun x => parse_torn hs ?_ x
  rwa [String.toList_ofList]

/-- A fact states its exemplar, also where its period is missing. -/
theorem ofLine?_reread {e : Exemplar} (hv : Rule.isAtomName e.verb) {dots : List Char}
    (hd : dots = [] ∨ dots = ['.']) :
    ofLine? (predicate.toList ++ '(' :: (e.written ++ ')' :: dots)) = some e.reread := by
  obtain ⟨s, hs, hverb, -, hwritten, hreread⟩ := exists_stated hv
  have hp : parse (String.ofList (predicate.toList ++ '(' :: (s.written ++ ')' :: dots))) = .ok s.reread :=
    parse_reread hs (verbOf_atom (hverb ▸ hv) hs.quote) String.toList_ofList hd
  rw [← hwritten, ← hreread, ofLine?, Text.trim_eq_self (bare_fact hd), hp]
  rfl

theorem prefix_of_line {e : Exemplar} {tail more : String} (hne : more ≠ "") (h : tail ++ more = e.line) :
    tail.toList <+: e.fact.source.toList := by
  have hline : tail.toList ++ more.toList = e.fact.source.toList ++ ['\n'] := by
    rw [← String.toList_append, h, line, String.toList_append]
    rfl
  rcases List.prefix_concat_iff.mp ⟨more.toList, hline⟩ with hall | hp
  · rw [← hall] at hline
    exact absurd (by simpa using hline) hne
  · exact hp

/-- What is left of a line that was cut off is the beginning of its fact, or lacks no more than the period
of that, or the end of the line. -/
theorem torn_cases {e : Exemplar} (hv : Rule.isAtomName e.verb) {tail more : String} (hne : more ≠ "")
    (h : tail ++ more = e.line) :
    tail.toList <+: predicate.toList ++ '(' :: e.written ∨ tail ++ "." = e.fact.source ∨
      tail = e.fact.source := by
  have hsource : e.fact.source.toList = (predicate.toList ++ '(' :: e.written) ++ [')'] ++ ['.'] := by
    rw [toList_source_atom hv]
    simp
  have hp := prefix_of_line hne h
  rw [hsource] at hp
  rcases List.prefix_concat_iff.mp hp with hall | hp
  · exact .inr (.inr (String.toList_injective (hall.trans hsource.symm)))
  rcases List.prefix_concat_iff.mp hp with hall | hp
  · refine .inr (.inl (String.toList_injective ?_))
    rw [String.toList_append, hall, hsource]
    rfl
  · exact .inl hp

/-! Files that were cut off. -/

/-- The lines that state an exemplar, each with what it states. -/
def readings (text : String) : List (String × Exemplar) :=
  (Text.lines text.toList).filterMap fun l => (ofLine? l).map fun e => (String.ofList l, e)

theorem ofLines_eq (text : String) : ofLines text = (readings text).map Prod.snd := by
  unfold ofLines readings
  induction Text.lines text.toList with
  | nil => rfl
  | cons l lines ih => cases hl : ofLine? l <;> simp [hl, ih]

/-- What is left of a line, with which the first of the exemplars begins; there is no more than that line. -/
def IsTorn (tail : String) : List Exemplar → Prop
  | [] => tail = ""
  | e :: _ => ∃ more ≠ "", tail ++ more = e.line

/-- The first of the exemplars, if what is left of its line lacks only its end, or its period too. -/
def completed (tail : String) : List Exemplar → List Exemplar
  | [] => []
  | e :: _ => if tail = e.fact.source ∨ tail ++ "." = e.fact.source then [e] else []

theorem prefix_completed (tail : String) (es : List Exemplar) : completed tail es <+: es := by
  cases es with
  | nil => exact List.prefix_refl []
  | cons e es =>
    rw [completed]
    split
    · exact ⟨es, rfl⟩
    · exact List.nil_prefix

/-- A text that was cut off ends in a torn line. -/
theorem exists_torn (es : List Exemplar) {front back : String}
    (h : front ++ back = String.join (es.map line)) :
    ∃ whole torn tail, es = whole ++ torn ∧ front = String.join (whole.map line) ++ tail ∧
      IsTorn tail torn := by
  induction es generalizing front with
  | nil =>
    have hfront : front = "" := by
      have hl := congrArg String.toList h
      simp at hl
      exact hl.1
    exact ⟨[], [], front, rfl, by simp, hfront⟩
  | cons e es ih =>
    rw [List.map_cons, String.join_cons] at h
    have hl := congrArg String.toList h
    rw [String.toList_append, String.toList_append] at hl
    have hfound : (∃ front', front = e.line ++ front' ∧ front' ++ back = String.join (es.map line)) ∨
        ∃ more ≠ "", front ++ more = e.line := by
      rcases List.append_eq_append_iff.mp hl with ⟨more, hline, hback⟩ | ⟨front', hfront, hrest⟩
      · cases more with
        | nil =>
          refine .inl ⟨"", String.toList_injective ?_, String.toList_injective ?_⟩
          · simpa using hline.symm
          · simpa using hback
        | cons c more =>
          refine .inr ⟨String.ofList (c :: more), by simp, String.toList_injective ?_⟩
          rw [hline, String.toList_append, String.toList_ofList]
      · refine .inl ⟨String.ofList front', String.toList_injective ?_, String.toList_injective ?_⟩
        · rw [hfront, String.toList_append, String.toList_ofList]
        · rw [hrest, String.toList_append, String.toList_ofList]
    rcases hfound with ⟨front', rfl, hrest⟩ | htorn
    · obtain ⟨whole, torn, tail, rfl, rfl, htorn⟩ := ih hrest
      exact ⟨e :: whole, torn, tail, rfl, by simp [String.append_assoc], htorn⟩
    · exact ⟨[], e :: es, front, rfl, by simp, htorn⟩

theorem readings_line {e : Exemplar} (hv : Rule.isAtomName e.verb) (rest : String) :
    readings (e.line ++ rest) = (e.fact.source, e.reread) :: readings rest := by
  have hs := toList_source_atom hv
  have hlast : e.fact.source.toList.getLast? ≠ some '\r' := by
    rw [hs, ← List.cons_append, ← List.append_assoc, List.getLast?_append]
    simp
  have htext : (e.line ++ rest).toList = e.fact.source.toList ++ '\n' :: rest.toList := by simp [line]
  have hof : ofLine? e.fact.source.toList = some e.reread := by
    rw [hs]
    exact ofLine?_reread hv (.inr rfl)
  rw [readings, htext, Text.lines_cons (newline_not_mem_source_atom hv) hlast, List.filterMap_cons, hof]
  dsimp only [Option.map_some]
  rw [String.ofList_toList]
  rfl

theorem ofLine?_tail {e : Exemplar} {es : List Exemplar} (hv : Rule.isAtomName e.verb) {tail more : String}
    (hne : more ≠ "") (h : tail ++ more = e.line) :
    (ofLine? tail.toList).toList = (completed tail (e :: es)).map reread := by
  have hs := toList_source_atom hv
  rw [completed]
  split
  case isTrue hc =>
    have hof : ofLine? tail.toList = some e.reread := by
      rcases hc with rfl | hc
      · rw [hs]
        exact ofLine?_reread hv (.inr rfl)
      · have ht : tail.toList = predicate.toList ++ '(' :: (e.written ++ [')']) := by
          rw [← hc, String.toList_append] at hs
          refine List.append_cancel_right (hs.trans ?_)
          simp
        rw [ht]
        exact ofLine?_reread hv (.inl rfl)
    rw [hof]
    rfl
  case isFalse hc =>
    rcases torn_cases hv hne h with hp | hp | hp
    · rw [ofLine?_torn hv hp]
      rfl
    · exact absurd (.inr hp) hc
    · exact absurd (.inl hp) hc

theorem readings_open {text : String} (h : '\n' ∉ text.toList) :
    readings text = (ofLine? text.toList).toList.map fun e => (text, e) := by
  rw [readings, Text.lines_open h]
  cases ht : text.toList with
  | nil => rfl
  | cons c cs =>
    have htext : text = String.ofList (c :: cs) := by rw [← ht, String.ofList_toList]
    cases hof : ofLine? (c :: cs) <;> simp [hof, ← htext]

theorem readings_tail {es : List Exemplar} (hv : ∀ e ∈ es, Rule.isAtomName e.verb) {tail : String}
    (h : IsTorn tail es) : readings tail = (completed tail es).map fun e => (tail, e.reread) := by
  cases es with
  | nil =>
    rw [show tail = "" from h]
    rfl
  | cons e es =>
    obtain ⟨more, hne, hline⟩ := h
    have hatom := hv e List.mem_cons_self
    have hnewline : '\n' ∉ tail.toList := fun hm =>
      newline_not_mem_source_atom hatom ((prefix_of_line hne hline).subset hm)
    rw [readings_open hnewline, ofLine?_tail hatom hne hline, List.map_map]
    rfl

/-- A text that was cut off states the exemplars whose lines are whole, and the next one if its line lacks
no more than its end, or its period too. -/
theorem readings_cut {whole torn : List Exemplar} (hv : ∀ e ∈ whole ++ torn, Rule.isAtomName e.verb)
    {tail : String} (h : IsTorn tail torn) :
    readings (String.join (whole.map line) ++ tail) =
      (whole.map fun e => (e.fact.source, e.reread)) ++
        (completed tail torn).map fun e => (tail, e.reread) := by
  induction whole with
  | nil => simpa using readings_tail hv h
  | cons e whole ih =>
    rw [List.cons_append, List.forall_mem_cons] at hv
    rw [List.map_cons, String.join_cons, String.append_assoc, readings_line hv.1, ih hv.2]
    rfl

end Exemplar

namespace Critic

variable {W : Type}

/-- Whoever loads a file of exemplars that was cut off anywhere is told those in front of the cut, as each
of them is read from its whole line, and nothing else: a torn line states its exemplar if it lacks only its
end, or its period too, and no exemplar at all if it lacks more. -/
theorem loads_torn {es : List Exemplar} (hv : ∀ e ∈ es, Rule.isAtomName e.verb) {front back : String}
    (h : front ++ back = String.join (es.map Exemplar.line)) :
    ∃ whole torn tail, es = whole ++ torn ∧ front = String.join (whole.map Exemplar.line) ++ tail ∧
      Exemplar.IsTorn tail torn ∧ whole ++ Exemplar.completed tail torn <+: es ∧
      Exemplar.readings front =
        (whole.map fun e => (e.fact.source, e.reread)) ++
          ((Exemplar.completed tail torn).map fun e => (tail, e.reread)) ∧
      (∀ e ∈ es, Exemplar.parse e.fact.source = .ok e.reread) ∧
      ∀ (d : Critic W) (file : Part W File) (base : Part W FactBase) watch w, base.Retains → d.Uses base →
        d.file = some file → Watch.IsSteady watch → file.read w = .ofText front →
        d.Loads watch base ((whole ++ Exemplar.completed tail torn).map Exemplar.reread) w := by
  obtain ⟨whole, torn, tail, rfl, rfl, htorn⟩ := Exemplar.exists_torn es h
  have hreadings := Exemplar.readings_cut hv htorn
  have hlines : Exemplar.ofLines (String.join (whole.map Exemplar.line) ++ tail) =
      (whole ++ Exemplar.completed tail torn).map Exemplar.reread := by
    rw [Exemplar.ofLines_eq, hreadings, List.map_append, List.map_append, List.map_map, List.map_map]
    rfl
  refine ⟨whole, torn, tail, rfl, rfl, htorn, ?_, hreadings, ?_, ?_⟩
  · exact (List.prefix_append_right_inj whole).mpr (Exemplar.prefix_completed tail torn)
  · exact fun e he => Exemplar.parse_source_atom (hv e he)
  · intro d file base watch w hb hd hfile hs hw
    rw [← hlines]
    exact hd.loads hb hfile hs hw

open Rehearsal (Stage)

/-- Exemplars, one of them with a phrase that looks like the end of a fact. -/
def pennedExemplars : List Exemplar :=
  [⟨"mend it", "/fix", "a", "", 0.9⟩, ⟨"say (\"so, be it\"). ", "/say", "b", "c", 80⟩]

/-- Their lines, cut off behind that end. -/
def pennedText : String :=
  "learned_exemplar(\"mend it\", /fix, \"a\", \"\", 90).\nlearned_exemplar(\"say (\\\"so, be it\\\")."

theorem loads_torn_pennedText :
    (∀ e ∈ pennedExemplars, Rule.isAtomName e.verb) ∧
      (∃ back, pennedText ++ back = String.join (pennedExemplars.map Exemplar.line)) ∧
      clerk.Loads idle Stage.facts ((pennedExemplars.take 1).map Exemplar.reread) (stageWith pennedText) := by
  have hv : ∀ e ∈ pennedExemplars, Rule.isAtomName e.verb := by decide
  have h : pennedText ++ " \", /say, \"b\", \"c\", 80).\n" =
      String.join (pennedExemplars.map Exemplar.line) := by decide +kernel
  obtain ⟨whole, torn, tail, -, -, -, hprefix, hreadings, -, hloads⟩ := loads_torn hv h
  have hone : (Exemplar.readings pennedText).length = 1 := by decide +kernel
  have hlength : (whole ++ Exemplar.completed tail torn).length = 1 := by
    simpa [hreadings] using hone
  have htake : whole ++ Exemplar.completed tail torn = pennedExemplars.take 1 := by
    rw [List.prefix_iff_eq_take.mp hprefix, hlength]
  refine ⟨hv, ⟨_, h⟩, ?_⟩
  rw [← htake]
  exact hloads clerk Stage.file Stage.facts idle _ (fun _ _ => rfl) uses_clerk rfl steady_idle rfl

end Critic

end Utterance
