import Utterance.Proofs.Learned.Tearing

/-! The fact about an exemplar is found in any text around it, whatever stands in its strings, if no other
fact begins in front of it. -/

namespace Utterance.Exemplar

/-! Parentheses. -/

/-- A text whose parentheses all stand in quotes, and which is outside of quotes at both ends. -/
def KeepsDepth (cs : List Char) : Prop :=
  ∀ depth rest, balanced? depth .outside (cs ++ rest) = (balanced? depth .outside rest).map (cs ++ ·)

theorem balanced?_cons {q : Quoting} {c : Char} (h : q = .outside → c ≠ '(' ∧ c ≠ ')') (depth : Nat)
    (rest : List Char) :
    balanced? depth q (c :: rest) = (balanced? depth (q.next c) rest).map (c :: ·) := by
  rw [balanced?, if_neg, if_neg]
  · simpa using fun hq => (h hq).1
  · simpa using fun hq => (h hq).2

theorem keepsDepth_append {cs ds : List Char} (hc : KeepsDepth cs) (hd : KeepsDepth ds) :
    KeepsDepth (cs ++ ds) := by
  intro depth rest
  rw [List.append_assoc, hc, hd, Option.map_map]
  simp [Function.comp_def]

theorem keepsDepth_plain {cs : List Char} (hq : '"' ∉ cs) (ho : '(' ∉ cs) (hc : ')' ∉ cs) :
    KeepsDepth cs := by
  induction cs with
  | nil =>
    intro depth rest
    simp
  | cons c cs ih =>
    rw [List.mem_cons, not_or] at hq ho hc
    intro depth rest
    have hnext : Quoting.outside.next c = .outside := if_neg (by simpa using Ne.symm hq.1)
    rw [List.cons_append, balanced?_cons (fun _ => ⟨Ne.symm ho.1, Ne.symm hc.1⟩), hnext,
      ih hq.2 ho.2 hc.2, Option.map_map]
    rfl

/-- A character in quotes, as it is written, leaves the walk in quotes. -/
theorem balanced?_quoteChar (c : Char) (depth : Nat) (rest : List Char) :
    balanced? depth .inside (Rule.quoteChar c ++ rest) =
      (balanced? depth .inside rest).map (Rule.quoteChar c ++ ·) := by
  have hinside {q : Quoting} (hq : q ≠ .outside) (d : Char) (cs : List Char) :
      balanced? depth q (d :: cs) = (balanced? depth (q.next d) cs).map (d :: ·) :=
    balanced?_cons (fun h => absurd h hq) depth cs
  obtain ⟨hb, hq, hc⟩ | ⟨d, hc⟩ := quoteChar_cases c
  · rw [hc, List.singleton_append, hinside (by decide), next_inside hb hq]
    rfl
  · have hbackslash : Quoting.inside.next '\\' = .escaped := by decide
    rw [hc, List.cons_append, hinside (by decide), hbackslash, List.singleton_append, hinside (by decide),
      Option.map_map]
    rfl

theorem keepsDepth_quote (s : String) : KeepsDepth (Rule.quote s).toList := by
  have hinside (cs : List Char) (depth : Nat) (rest : List Char) :
      balanced? depth .inside (cs.flatMap Rule.quoteChar ++ '"' :: rest) =
        (balanced? depth .outside rest).map fun tail => cs.flatMap Rule.quoteChar ++ '"' :: tail := by
    induction cs with
    | nil => exact balanced?_cons (by simp) depth rest
    | cons c cs ih =>
      rw [List.flatMap_cons, List.append_assoc, balanced?_quoteChar, ih, Option.map_map]
      simp [Function.comp_def]
  intro depth rest
  have hopen : Quoting.outside.next '"' = .inside := rfl
  simp only [toList_quote_append]
  rw [balanced?_cons (by simp), hopen, hinside, Option.map_map]
  rfl

theorem keepsDepth_written {e : Exemplar} (hv : Rule.isAtomName e.verb) : KeepsDepth e.written := by
  have hall := all_isAtomChar hv
  have hatom {c : Char} (hc : Rule.isAtomChar c = false) : c ∉ e.verb.toList := Rule.not_mem_of_all hc hall
  have hnumber {c : Char} (hc : c.isDigit = false) (hm : c ≠ '-') : c ∉ (toString e.percent).toList :=
    Decimal.not_mem_toString hc hm _
  have hverb : KeepsDepth e.verb.toList :=
    keepsDepth_plain (hatom (by decide)) (hatom (by decide)) (hatom (by decide))
  have hpercent : KeepsDepth (toString e.percent).toList :=
    keepsDepth_plain (hnumber (by decide) (by decide)) (hnumber (by decide) (by decide))
      (hnumber (by decide) (by decide))
  have hmark : KeepsDepth [',', ' '] := keepsDepth_plain (by decide) (by decide) (by decide)
  have hcomma {cs : List Char} (h : KeepsDepth cs) : KeepsDepth (',' :: ' ' :: cs) :=
    keepsDepth_append hmark h
  have hw : e.written = (Rule.quote (sanitize e.phrase)).toList ++ ((',' :: ' ' :: e.verb.toList) ++
      ((',' :: ' ' :: (Rule.quote (sanitize e.target)).toList) ++
        ((',' :: ' ' :: (Rule.quote (sanitize e.constraint)).toList) ++
          (',' :: ' ' :: (toString e.percent).toList)))) := by
    simp [written, behindVerb]
  rw [hw]
  exact keepsDepth_append (keepsDepth_quote _) (keepsDepth_append (hcomma hverb)
    (keepsDepth_append (hcomma (keepsDepth_quote _))
      (keepsDepth_append (hcomma (keepsDepth_quote _)) (hcomma hpercent))))

/-- The walk from a parenthesis ends at the next one that stands outside of quotes. -/
theorem balanced?_closed {args : List Char} (h : KeepsDepth args) (rest : List Char) :
    balanced? 0 .outside ('(' :: (args ++ ')' :: rest)) = some ('(' :: (args ++ [')'])) := by
  have hopen : balanced? 0 .outside ('(' :: (args ++ ')' :: rest)) =
      (balanced? 1 .outside (args ++ ')' :: rest)).map ('(' :: ·) := rfl
  have hclose : balanced? 1 .outside (')' :: rest) = some [')'] := rfl
  rw [hopen, h, hclose]
  rfl

/-! The first fact. -/

/-- What a fact begins with, which has its only parenthesis at its end. -/
def opening : List Char :=
  predicate.toList ++ ['(']

/-- No fact begins in front of one, if none begins in a text by itself. -/
theorem not_opening_isPrefix {cs : List Char} (hcs : cs ≠ []) (h : ¬opening <+: cs) (rest : List Char) :
    ¬opening <+: cs ++ (opening ++ rest) := by
  rintro ⟨more, hm⟩
  rcases List.append_eq_append_iff.mp hm with ⟨x, hx, hrest⟩ | ⟨x, hx, hrest⟩
  · exact h ⟨x, hx.symm⟩
  · -- The parenthesis at the end of what begins in `cs` stands in front of the one behind `cs`.
    have hlt : x.length < opening.length := by
      have hlength := congrArg List.length hx
      have hpos := List.length_pos_iff.mpr hcs
      rw [List.length_append] at hlength
      omega
    have hfront : x <+: predicate.toList := by
      have hp : predicate.toList <+: opening ++ rest := ⟨'(' :: rest, by simp [opening]⟩
      refine List.prefix_of_prefix_length_le ⟨more, hrest.symm⟩ hp (Nat.le_of_lt_succ ?_)
      simpa [opening] using hlt
    rcases List.eq_nil_or_concat x with rfl | ⟨ys, d, rfl⟩
    · rw [List.append_nil] at hx
      exact h (hx ▸ List.prefix_rfl)
    · have hd : '(' = d := by
        have hlast := congrArg List.getLast? hx
        simpa [opening] using hlast
      subst hd
      exact absurd (hfront.subset (by simp)) (by decide : '(' ∉ predicate.toList)

theorem find?_of_not_opening {c : Char} {cs : List Char} (h : ¬opening <+: c :: cs) :
    find? (c :: cs) = find? cs := by
  have hhere : ((Text.after? predicate.toList (c :: cs)).bind fun tail =>
      if tail.head? == some '(' then balanced? 0 .outside tail else none) = none := by
    rw [Option.bind_eq_none_iff]
    intro tail htail
    rw [if_neg]
    intro hhead
    obtain ⟨more, rfl⟩ := List.head?_eq_some_iff.mp (beq_iff_eq.mp hhead)
    rw [Text.eq_of_after? htail] at h
    exact h ⟨more, by simp [opening]⟩
  rw [find?, hhere]
  rfl

/-- A text without the beginning of a fact is passed over. -/
theorem find?_behind {before : List Char} (h : Text.cut? opening before = none) (rest : List Char) :
    find? (before ++ (opening ++ rest)) = find? (opening ++ rest) := by
  induction before with
  | nil => rfl
  | cons c before ih =>
    obtain ⟨hc, hbefore⟩ := Text.not_isPrefixOf_of_cut? h
    have hno : ¬opening <+: c :: before := by
      rw [← List.isPrefixOf_iff_prefix, hc]
      exact Bool.false_ne_true
    rw [List.cons_append, find?_of_not_opening, ih hbefore]
    exact not_opening_isPrefix (List.cons_ne_nil c before) hno rest

theorem find?_closed {args : List Char} (h : KeepsDepth args) (rest : List Char) :
    find? (opening ++ (args ++ ')' :: rest)) = some ('(' :: (args ++ [')'])) := by
  have hs : opening ++ (args ++ ')' :: rest) = predicate.toList ++ '(' :: (args ++ ')' :: rest) := by
    simp [opening]
  have hp : predicate.toList = 'l' :: predicate.toList.tail := by decide
  have hafter : Text.after? predicate.toList (opening ++ (args ++ ')' :: rest)) =
      some ('(' :: (args ++ ')' :: rest)) := by
    rw [hs, Text.after?_append]
  rw [hs, hp, List.cons_append, find?, ← List.cons_append, ← hp, ← hs, hafter, Option.bind_some,
    balanced?_closed h]
  rfl

/-! Exemplars. -/

/-- From any text around it in front of which no other fact begins, the fact about an exemplar is cut out
as it was written, and read back as what it states. -/
theorem extract_source {e : Exemplar} (hv : Rule.isAtomName e.verb) {before : String}
    (hb : Text.contains before (predicate ++ "(") = false) (after : String) :
    let found := extract (before ++ e.fact.source ++ after)
    found = e.fact.source ∧
      ∃ x, parse found = .ok ⟨sanitize e.phrase, e.verb, sanitize e.target, sanitize e.constraint, x⟩ := by
  intro found
  have hcut : Text.cut? opening before.toList = none := by
    simpa [Text.contains, Text.occursIn, opening] using hb
  have htext : (before ++ e.fact.source ++ after).toList =
      before.toList ++ (opening ++ (e.written ++ ')' :: '.' :: after.toList)) := by
    simp [toList_source_atom hv, opening]
  have hfound : found = e.fact.source := by
    rw [← String.toList_inj, toList_source_atom hv]
    show (extract (before ++ e.fact.source ++ after)).toList = _
    rw [extract, htext, find?_behind hcut, find?_closed (keepsDepth_written hv)]
    simp
  rw [hfound, parse_source_atom hv]
  exact ⟨rfl, _, rfl⟩

/-- An exemplar whose texts hold what a fact is written with. -/
def trickyExemplar : Exemplar :=
  ⟨"say \"learned_exemplar(\\\" ✓ :-)", "/run_tests", "a\\, b(", "\"), /fix, \\", 0.5⟩

theorem extract_source_trickyExemplar :
    let found := extract ("A (new learned_exemplar: \"" ++ trickyExemplar.fact.source ++
      "\" learned_exemplar(\"b\", /fix, \"\", \"\", 1).")
    found = trickyExemplar.fact.source ∧
      ∃ x, parse found = .ok ⟨sanitize trickyExemplar.phrase, "/run_tests", sanitize trickyExemplar.target,
        sanitize trickyExemplar.constraint, x⟩ :=
  extract_source (by decide) (by decide) _

end Utterance.Exemplar
