import Utterance.Proofs.Learned.Tearing

/-! A fact that is written anew is read back with the same percentage, unless this is one: the text then
says 1, which is the whole for everyone who reads it. -/

namespace Utterance

namespace Exemplar

theorem sanitize_sanitize (s : String) : sanitize (sanitize s) = sanitize s := by
  have hall : ∀ c ∈ (s.toList.filter isArgumentChar).take maxArgument, isArgumentChar c := by
    intro c hc
    simpa using (List.mem_filter.mp (List.mem_of_mem_take hc)).2
  simp [sanitize, List.filter_eq_self.mpr hall, List.take_take]

theorem fact_reread (e : Exemplar) :
    e.reread.fact = ⟨predicate, [.str (sanitize e.phrase), .named e.verb, .str (sanitize e.target),
      .str (sanitize e.constraint), .int e.reread.percent]⟩ := by
  simp [fact, reread, sanitize_sanitize]

theorem fact_reread_iff (e : Exemplar) : e.reread.fact = e.fact ↔ e.reread.percent = e.percent := by
  rw [fact_reread]
  simp [fact]

theorem texts_reread (e : Exemplar) : e.reread.texts = e.texts := by
  simp [texts, reread, sanitize_sanitize]

theorem percent_reread_iff {e : Exemplar} (h : 0 ≤ e.percent) :
    e.reread.percent = e.percent ↔ e.percent ≠ 1 := by
  rw [percent_reread h]
  split
  · omega
  · simp_all

theorem verbOf_of_parse {text : String} {e : Exemplar} (h : parse text = .ok e) :
    verbOf e.verb.toList = .ok e.verb := by
  obtain ⟨_, _, verb, _, _, _, -, -, -, hv, -⟩ := exists_of_parse h
  rwa [(exists_of_verbOf hv).1]

theorem parse_restated {text : String} {e : Exemplar} (h : parse text = .ok e) :
    parse e.fact.source = .ok e.reread :=
  parse_source_reread (isStated_of_parse h) (verbOf_of_parse h)

theorem normalize_of_parse {text : String} {e : Exemplar} (h : parse text = .ok e) :
    normalize text = .ok e.fact.source := by
  rw [normalize, h]
  rfl

/-- The text of a fact tells its percentage. -/
theorem percent_of_source_reread {e : Exemplar} (hs : e.IsStated) (hr : e.reread.IsStated)
    (h : e.reread.fact.source = e.fact.source) : toString e.reread.percent = toString e.percent := by
  have hl := congrArg String.toList h
  rw [toList_source hs, toList_source hr, written_eq, written_eq, texts_reread] at hl
  refine String.toList_injective ?_
  simpa using hl

theorem normalize_source_iff {text : String} {e : Exemplar} (h : parse text = .ok e) :
    normalize e.fact.source = .ok e.fact.source ↔ e.percent ≠ 1 := by
  have hs := isStated_of_parse h
  have hr := isStated_of_parse (parse_restated h)
  have hn := percent_nonneg hs
  rw [normalize_of_parse (parse_restated h)]
  constructor
  · intro heq hone
    have htext := percent_of_source_reread hs hr (Except.ok.inj heq)
    rw [percent_reread hn, if_pos hone, hone] at htext
    exact absurd htext (by decide)
  · intro hone
    rw [(fact_reread_iff e).mpr ((percent_reread_iff hn).mpr hone)]

/-- Whatever states an exemplar, its fact written anew states the verb as it was, and the texts as they may
stand in a fact. -/
theorem parse_normalize {text : String} {e : Exemplar} (h : parse text = .ok e) :
    ∃ anew e', normalize text = .ok anew ∧ parse anew = .ok e' ∧ e'.verb = e.verb ∧
      e'.phrase = sanitize e.phrase ∧ e'.target = sanitize e.target ∧
      e'.constraint = sanitize e.constraint :=
  ⟨e.fact.source, e.reread, normalize_of_parse h, parse_restated h, rfl, rfl, rfl, rfl⟩

/-- A fact with quotes inside of its texts, a verb that is no constant, a control character, and more than
one period. -/
def unevenFact : String :=
  " learned_exemplar (\"say \"hi\" \\\"b\", /a). \\(b ,\n\"x\x07\\\\\", \"\\,\\n\"z\"\", 1e300 ).. "

theorem parse_normalize_unevenFact :
    ∃ e anew e', parse unevenFact = .ok e ∧ normalize unevenFact = .ok anew ∧ parse anew = .ok e' ∧
      e'.verb = "/a). \\(b" ∧ e'.phrase = "say \"hi\" \"b" ∧ e'.target = "x\\" ∧ e'.constraint = ",\n\"z\"" := by
  have hread : (parse unevenFact).toOption.map
      (fun e => (e.verb, sanitize e.phrase, sanitize e.target, sanitize e.constraint)) =
      some ("/a). \\(b", "say \"hi\" \"b", "x\\", ",\n\"z\"") := by decide +kernel
  cases he : parse unevenFact with
  | error fault =>
    rw [he] at hread
    cases hread
  | ok e =>
    rw [he] at hread
    obtain ⟨anew, e', hn, hp, hverb, hphrase, htarget, hconstraint⟩ := parse_normalize he
    simp only [Except.toOption, Option.map_some, Option.some.injEq, Prod.mk.injEq] at hread
    obtain ⟨rv, rp, rt, rc⟩ := hread
    exact ⟨e, anew, e', rfl, hn, hp, hverb.trans rv, hphrase.trans rp, htarget.trans rt,
      hconstraint.trans rc⟩

end Exemplar

namespace Critic

variable {W : Type} {c : Critic W} {file : Part W File} {base : Part W FactBase} {watch : Watch W}

theorem isAtomName_of_load {e : Exemplar} (h : e.IsStated) (hclose : ')' ∉ e.verb.toList) {n : Nat}
    {b : FactBase} (hl : ((FactBase.load e.fact.source).on b).1 = .ok n) : Rule.isAtomName e.verb := by
  refine Bool.of_not_eq_false fun hv => ?_
  unfold FactBase.load at hl
  cases hp : Rule.parseProgram e.fact.source with
  | ok cs => exact Exemplar.parseProgram_source_ne h hv hclose cs hp
  | error fault =>
    rw [hp] at hl
    cases hl

/-- A base takes the fact about an exemplar that was learned. -/
theorem Uses.of_persist (hb : base.Retains) (h : c.Uses base) {text : String} {e : Exemplar}
    (he : Exemplar.parse text = .ok e) (hclose : ')' ∉ e.verb.toList) {kept : Exemplar} {w v : W}
    (hp : (c.persist watch text).on w = (.ok kept, v)) :
    Rule.isAtomName e.verb ∧ kept = { e with confidence := Decimal.ofInt e.percent } ∧
      base.read v = (base.read w).insert e.fact := by
  have hs := Exemplar.isStated_of_parse he
  obtain ⟨_, w₁, hcheck, hp⟩ := Act.exists_of_bind hp
  obtain ⟨x, w₂, hparse, hp⟩ := Act.exists_of_bind hp
  obtain ⟨hx, rfl⟩ := Act.of_on_ofOutcome hparse
  cases he.symm.trans hx
  obtain ⟨_, w₃, hload, hp⟩ := Act.exists_of_bind hp
  obtain ⟨_, w₄, hkeep, hp⟩ := Act.exists_of_bind hp
  cases hp
  obtain ⟨_, w₅, hcheck', hload⟩ := Act.exists_of_bind hload
  have h₁ := (Act.moves_check (f := base.read) (R := Eq) watch).eq_of_on hcheck
  have h₅ := (Act.moves_check (f := base.read) (R := Eq) watch).eq_of_on hcheck'
  have h₄ := (h.moves_keep e).eq_of_on hkeep
  rw [h.kernel] at hload
  change (base.act (FactBase.load e.fact.source)).on w₅ = _ at hload
  rw [Part.on_act] at hload
  obtain ⟨hok, rfl⟩ := Prod.mk.inj hload
  have hv := isAtomName_of_load hs hclose hok
  refine ⟨hv, rfl, ?_⟩
  have hprogram := Rule.parseProgram_source (Exemplar.isReadable_fact hv)
  have hinsert := FactBase.on_load_single hprogram
    (FactBase.on_enter_fact (Rule.fact?_clause e.fact) (base.read w₅))
  rw [h₄, hb, hinsert, h₅, h₁]

/-- An exemplar is learned, written anew and read back with the same percentage, be it from the text of its
fact, or from the file where it was kept, unless the percentage is one: this is read back as the whole. -/
theorem keeps_percent {text : String} {e : Exemplar} (h : Exemplar.parse text = .ok e) :
    Exemplar.normalize text = .ok e.fact.source ∧
      Exemplar.parse e.fact.source = .ok e.reread ∧
      e.reread.percent = (if e.percent = 1 then 100 else e.percent) ∧
      (Exemplar.normalize e.fact.source = .ok e.fact.source ↔ e.percent ≠ 1) ∧
      (e.reread.fact = e.fact ↔ e.percent ≠ 1) ∧
      ∀ (c : Critic W) (file : Part W File) (base : Part W FactBase) watch content w kept v,
        file.Retains → base.Retains → c.Keeps file → c.Uses base → (file.read w).HasText content →
        (Text.openLine content.toList).all Text.isBlank → ')' ∉ e.verb.toList →
        (c.persist watch text).on w = (.ok kept, v) →
        base.read v = (base.read w).insert e.fact ∧
          ∀ (d : Critic W) (base' : Part W FactBase) watch' u, base'.Retains → d.Uses base' →
            d.file = some file → Watch.IsSteady watch' → file.read u = file.read v →
            d.Loads watch' base'
              (Exemplar.ofLines (String.ofList (Text.closedLines content.toList)) ++ [e.reread]) u := by
  have hs := Exemplar.isStated_of_parse h
  have hn := Exemplar.percent_nonneg hs
  have hreread := Exemplar.parse_restated h
  refine ⟨Exemplar.normalize_of_parse h, hreread, Exemplar.percent_reread hn,
    Exemplar.normalize_source_iff h,
    (Exemplar.fact_reread_iff e).trans (Exemplar.percent_reread_iff hn), ?_⟩
  intro c file base watch content w kept v hf hb hkeeps huses hw hopen hclose hp
  obtain ⟨hv, rfl, hbase⟩ := huses.of_persist hb h hclose hp
  refine ⟨hbase, ?_⟩
  intro d base' watch' u hb' hd hfile hsteady hu
  obtain ⟨x, hx, -, hread⟩ := hkeeps.of_persist hf hw hp
  cases h.symm.trans hx
  have hlines := Exemplar.ofLines_append hs hv content
  rw [Exemplar.ofLine?_source hs hreread hopen] at hlines
  have hloads := hd.loads hb' hfile hsteady (hu.trans hread)
  rwa [hlines] at hloads

open Rehearsal (Stage)

/-- What a critic has learned from a fact, and what it loads of that when it starts with an empty base. -/
def relearned (text : String) : List String × List String :=
  let learned := ((clerk.persist idle text).on (stageWith "")).2
  let loaded := ((clerk.load idle).on (Stage.facts.write {} learned)).2
  ((Stage.facts.read learned).facts.map Rule.Fact.source, (Stage.facts.read loaded).facts.map Rule.Fact.source)

theorem keeps_percent_mendingFact :
    ∃ e kept v, Exemplar.parse mendingFact = .ok e ∧
      (clerk.persist idle mendingFact).on (stageWith "# by hand\n  ") = (.ok kept, v) ∧
      Exemplar.normalize e.fact.source = .ok e.fact.source ∧
      (Stage.facts.read v).facts = [e.fact] ∧
      clerk.Loads idle Stage.facts [e.reread] (Stage.facts.write {} v) ∧ e.reread.fact = e.fact := by
  obtain ⟨kept, v, hp, hverb⟩ := Act.exists_on_of_map
    (a := clerk.persist idle mendingFact) (w := stageWith "# by hand\n  ") (f := Exemplar.verb)
    (y := "/fix") (by decide +kernel)
  have hw : (Stage.file.read (stageWith "# by hand\n  ")).HasText "# by hand\n  " := File.hasText_ofText _
  obtain ⟨e, he, hkept, -⟩ := keeps_clerk.of_persist (fun _ _ => rfl) hw hp
  have hpercent : e.percent ≠ 1 := by
    have h : (Exemplar.parse mendingFact).toOption.all fun e => e.percent != 1 := by decide +kernel
    rw [he] at h
    simpa [Except.toOption] using h
  have hclose : ')' ∉ e.verb.toList := by
    rw [← hkept, hverb]
    decide
  obtain ⟨-, -, -, hnormal, hfact, hlearned⟩ := keeps_percent (W := Stage) he
  obtain ⟨hbase, hloads⟩ := hlearned clerk Stage.file Stage.facts idle "# by hand\n  " _ kept v
    (fun _ _ => rfl) (fun _ _ => rfl) keeps_clerk uses_clerk hw (by decide) hclose hp
  have hcomment : Exemplar.ofLines (String.ofList (Text.closedLines "# by hand\n  ".toList)) = [] := by
    have h : (Exemplar.ofLines (String.ofList (Text.closedLines "# by hand\n  ".toList))).length = 0 := by
      decide +kernel
    exact List.length_eq_zero_iff.mp h
  have hloaded := hloads clerk Stage.facts idle (Stage.facts.write {} v) (fun _ _ => rfl) uses_clerk rfl
    steady_idle rfl
  rw [hcomment] at hloaded
  refine ⟨e, kept, v, he, hp, hnormal.mpr hpercent, ?_, hloaded, hfact.mpr hpercent⟩
  rw [hbase]
  rfl

/-- A fact with a confidence of one percent. -/
def faintFact : String := "learned_exemplar(\"mend it\", /fix, \"a\", \"\", 0.01)."

/-- One percent was stated and learned, but is read back as the whole. -/
theorem not_keeps_percent_faintFact :
    Exemplar.normalize faintFact = .ok "learned_exemplar(\"mend it\", /fix, \"a\", \"\", 1)." ∧
      Exemplar.normalize "learned_exemplar(\"mend it\", /fix, \"a\", \"\", 1)." =
        .ok "learned_exemplar(\"mend it\", /fix, \"a\", \"\", 100)." ∧
      (Exemplar.parse faintFact).toOption.map Exemplar.percent = some 1 ∧
      ((Exemplar.normalize faintFact).bind Exemplar.parse).toOption.map Exemplar.percent = some 100 ∧
      relearned faintFact =
        (["learned_exemplar(\"mend it\", /fix, \"a\", \"\", 1)."],
          ["learned_exemplar(\"mend it\", /fix, \"a\", \"\", 100)."]) := by
  refine ⟨?_, ?_, ?_, ?_, ?_⟩ <;> decide +kernel

end Critic

end Utterance
