import Utterance.Proofs.Act
import Utterance.Proofs.Learned.Line
import Utterance.Proofs.Learned.Teaching
import Utterance.Proofs.Text.Octets
import Utterance.Rehearsal.Stage

/-! An exemplar that was kept in a file is loaded from it again, unless the file ended in the middle of a
line. -/

namespace Utterance

/-! Files. -/

namespace File

/-- A file that is read as a text; where there is no file, this is the empty one. -/
def HasText (f : File) (text : String) : Prop :=
  ∃ text?, f.read = .ok text? ∧ text?.getD "" = text

theorem read_ofText (text : String) : (ofText text).read = .ok (some text) := by
  rw [ofText, read, Text.Utf8.text?_encode]

theorem hasText_ofText (text : String) : (ofText text).HasText text :=
  ⟨some text, read_ofText text, rfl⟩

/-- The octets of a file that is read as a text are those of the text. -/
theorem hasText_cases {f : File} {text : String} (h : f.HasText text) :
    f = .ofText text ∨ f = .missing ∧ text = "" := by
  obtain ⟨text?, hread, rfl⟩ := h
  cases f with
  | missing =>
    cases hread
    exact .inr ⟨rfl, rfl⟩
  | directory => cases hread
  | octets content =>
    rw [read] at hread
    split at hread
    case h_1 s hs =>
      cases hread
      rw [Text.Utf8.eq_encode_of_text? hs]
      exact .inl rfl
    case h_2 => cases hread

theorem append_of_hasText {f : File} {text : String} (h : f.HasText text) (more : String) :
    f.append more = .ok (.ofText (text ++ more)) := by
  obtain rfl | ⟨rfl, rfl⟩ := hasText_cases h
  · rw [ofText, append, ofText, Text.Utf8.encode_append]
  · rw [append, String.empty_append]

end File

namespace Critic

variable {W : Type}

/-! Keeping. -/

/-- A critic with a file of exemplars that none of its other collaborators touches. -/
structure Keeps (c : Critic W) (file : Part W File) : Prop where
  hasFile : c.file = some file
  load : ∀ source, Act.Moves file.read Eq (c.kernel.load source)
  spares : c.Spares file.read

theorem on_appendTo {file : Part W File} {w : W} {text : String} (h : (file.read w).HasText text)
    (more : String) :
    (appendTo file more).on w = (.ok (), file.write (.ofText (text ++ more)) w) := by
  have hv : file.value.on w = (.ok (file.read w), w) := rfl
  unfold appendTo
  rw [Act.on_bind_ok hv, File.append_of_hasText h]
  rfl

namespace Keeps

variable {c : Critic W} {file : Part W File} {watch : Watch W}

theorem read_of_keepLine (hf : file.Retains) (h : c.Keeps file) {e : Exemplar} {text : String} {w v : W}
    (hw : (file.read w).HasText text) (hk : (c.keepLine watch e).on w = (.ok (), v)) :
    file.read v = .ofText (text ++ e.line) := by
  rw [keepLine, h.hasFile] at hk
  obtain rfl := Act.on_of_recover_run (on_appendTo hw e.line) hk
  exact hf _ w

/-- Whoever learns an exemplar adds its line to the file. -/
theorem of_persist (hf : file.Retains) (h : c.Keeps file) {fact text : String} {w v : W}
    (hw : (file.read w).HasText text) {kept : Exemplar}
    (hp : (c.persist watch fact).on w = (.ok kept, v)) :
    ∃ e, Exemplar.parse fact = .ok e ∧ kept.verb = e.verb ∧ file.read v = .ofText (text ++ e.line) := by
  obtain ⟨_, w₁, hcheck, hp⟩ := Act.exists_of_bind hp
  obtain ⟨e, w₂, hparse, hp⟩ := Act.exists_of_bind hp
  obtain ⟨_, w₃, hload, hp⟩ := Act.exists_of_bind hp
  obtain ⟨_, w₄, hkeep, hp⟩ := Act.exists_of_bind hp
  cases hp
  rw [keep_eq] at hkeep
  obtain ⟨_, w₅, hfact, hkeep⟩ := Act.exists_of_bind hkeep
  obtain ⟨_, w₆, hphrase, hkeep⟩ := Act.exists_of_bind hkeep
  obtain ⟨_, w₇, hline, hsynonym⟩ := Act.exists_of_bind hkeep
  obtain ⟨he, rfl⟩ := Act.of_on_ofOutcome hparse
  refine ⟨e, he, rfl, ?_⟩
  have h₁ := (Act.moves_check (f := file.read) (R := Eq) watch).eq_of_on hcheck
  have h₃ := ((h.load _).run watch).eq_of_on hload
  have h₅ := (h.spares.moves_keepFact e).eq_of_on hfact
  have h₆ := (h.spares.moves_keepPhrase e).eq_of_on hphrase
  rw [(h.spares.moves_learnSynonym e).eq_of_on hsynonym]
  refine h.read_of_keepLine hf ?_ hline
  rw [h₆, h₅, h₃, h₁]
  exact hw

end Keeps

/-! Loading. -/

variable {d : Critic W} {file : Part W File} {base : Part W FactBase} {watch : Watch W}

theorem on_read {w : W} (hs : watch.IsSteady) {text? : Option String}
    (hr : (file.read w).read = .ok text?) :
    (watch.run (do Act.ofOutcome (← file.value).read)).on w = (.ok text?, w) := by
  have hv : file.value.on w = (.ok (file.read w), w) := rfl
  unfold Watch.run
  rw [Act.on_bind_ok (hs.on_check w), Act.on_bind_ok hv, hr]
  rfl

theorem exists_on_learnSynonyms (d : Critic W) (base : Part W FactBase) (exemplars : List Exemplar) (w : W) :
    ∃ v, (exemplars.forM d.learnSynonym).on w = (.ok (), v) ∧
      ((∀ verbs, d.verbs = some verbs → ∀ c u, base.read (verbs.write c u) = base.read u) →
        base.read v = base.read w) := by
  induction exemplars generalizing w with
  | nil => exact ⟨w, rfl, fun _ => rfl⟩
  | cons e exemplars ih =>
    obtain ⟨u, hu, hread⟩ : ∃ u, (d.learnSynonym e).on w = (.ok (), u) ∧
        ((∀ verbs, d.verbs = some verbs → ∀ c u, base.read (verbs.write c u) = base.read u) →
          base.read u = base.read w) := by
      unfold learnSynonym
      cases hv : d.verbs with
      | none => exact ⟨w, rfl, fun _ => rfl⟩
      | some verbs => exact ⟨_, rfl, fun h => h verbs rfl _ w⟩
    obtain ⟨v, hv, hrest⟩ := ih u
    exact ⟨v, (Act.on_forM_cons hu exemplars).trans hv, fun h => (hrest h).trans (hread h)⟩

/-- Loading counts these exemplars, and a base is told about them one by one. -/
def Loads (d : Critic W) (watch : Watch W) (base : Part W FactBase) (exemplars : List Exemplar) (w : W) :
    Prop :=
  ∃ v, (d.load watch).on w = (.ok exemplars.length, v) ∧
    base.read v = (exemplars.map Exemplar.fact).foldl FactBase.insert (base.read w)

theorem exists_on_load (hb : base.Retains) (hd : d.kernel = FactBase.kernel base)
    (hfile : d.file = some file) (hs : watch.IsSteady) {w : W} {text : String}
    (hr : (file.read w).read = .ok (some text)) :
    ∃ v, (d.load watch).on w = (.ok (Exemplar.ofLines text).length, v) ∧
      ((∀ verbs, d.verbs = some verbs → ∀ c u, base.read (verbs.write c u) = base.read u) →
        base.read v =
          ((Exemplar.ofLines text).map Exemplar.fact).foldl FactBase.insert (base.read w)) := by
  obtain ⟨u, hu, hread⟩ :=
    FactBase.exists_on_tellAll hb ((Exemplar.ofLines text).map Exemplar.fact) w
  have htold : (watch.run (d.kernel.tellAll ((Exemplar.ofLines text).map Exemplar.fact))).on w =
      (.ok (), u) := by
    unfold Watch.run
    rw [Act.on_bind_ok (hs.on_check w), hd, hu]
  obtain ⟨v, hv, hsame⟩ := exists_on_learnSynonyms d base (Exemplar.ofLines text) u
  refine ⟨v, ?_, fun h => (hsame h).trans hread⟩
  unfold load
  rw [hfile]
  dsimp only
  rw [Act.on_bind_ok (on_read hs hr)]
  dsimp only
  rw [Act.on_bind_ok htold, Act.on_bind_ok hv]
  rfl

theorem Uses.loads (hb : base.Retains) (h : d.Uses base) (hfile : d.file = some file)
    (hs : watch.IsSteady) {w : W} {text : String} (hw : file.read w = .ofText text) :
    d.Loads watch base (Exemplar.ofLines text) w := by
  have hr : (file.read w).read = .ok (some text) := by rw [hw, File.read_ofText]
  obtain ⟨v, hv, hread⟩ := exists_on_load hb h.kernel hfile hs hr
  exact ⟨v, hv, hread h.verbs⟩

/-- An exemplar that was learned is written behind what the file has held. Whoever loads the file then is
told what the closed lines state, and what the line states that the new one has gone on with: this is the
exemplar just written, if that line was blank. -/
theorem keeps_learned {c : Critic W} (hf : file.Retains) (h : c.Keeps file) {fact text : String}
    {w v : W} (hw : (file.read w).HasText text) {kept : Exemplar}
    (hp : (c.persist watch fact).on w = (.ok kept, v)) (hverb : Rule.isAtomName kept.verb) :
    ∃ e e', Exemplar.parse fact = .ok e ∧ Exemplar.parse e.line = .ok e' ∧
      file.read v = .ofText (text ++ e.line) ∧
      Exemplar.ofLines (text ++ e.line) =
        Exemplar.ofLines (String.ofList (Text.closedLines text.toList)) ++
          (Exemplar.ofLine? (Text.openLine text.toList ++ e.fact.source.toList)).toList ∧
      ((Text.openLine text.toList).all Text.isBlank → e' ∈ Exemplar.ofLines (text ++ e.line)) ∧
      ∀ (d : Critic W) base watch u, base.Retains → d.Uses base → d.file = some file →
        Watch.IsSteady watch → file.read u = file.read v →
        d.Loads watch base (Exemplar.ofLines (text ++ e.line)) u := by
  obtain ⟨e, he, hkept, hread⟩ := h.of_persist hf hw hp
  have hstated := Exemplar.isStated_of_parse he
  have hv : Rule.isAtomName e.verb := hkept ▸ hverb
  obtain ⟨x, hx⟩ := Exemplar.parse_source hstated hv
  have hlines := Exemplar.ofLines_append hstated hv text
  refine ⟨e, _, he, Exemplar.parse_line hstated hx, hread, hlines, fun hopen => ?_, ?_⟩
  · rw [hlines, Exemplar.ofLine?_source hstated hx hopen]
    exact List.mem_append_right _ (List.mem_singleton_self _)
  · intro d base watch u hb hd hfile hs hu
    exact hd.loads hb hfile hs (hu.trans hread)

/-! A critic on a stage. -/

open Rehearsal (Stage Script)

/-- A critic that knows the verbs of a stage, with a file there. -/
def bookkeeper (file : Part Stage File) : Critic Stage where
  completer := Script.completer Stage.script false false
  kernel := FactBase.kernel Stage.facts
  verbs := some Stage.verbs
  file := some file

theorem keeps_bookkeeper {file : Part Stage File}
    (hfacts : ∀ b w, file.read (Stage.facts.write b w) = file.read w)
    (hverbs : ∀ c w, file.read (Stage.verbs.write c w) = file.read w) :
    (bookkeeper file).Keeps file where
  hasFile := rfl
  load _ w := (hfacts _ w).symm
  spares :=
    { store := fun _ h => by cases h
      classifier := fun _ h => by cases h
      verbs := fun _ h => by
        cases h
        exact hverbs }

/-- A critic that keeps what it learns in the file of a stage. -/
def clerk : Critic Stage := bookkeeper Stage.file

theorem keeps_clerk : clerk.Keeps Stage.file :=
  keeps_bookkeeper (fun _ _ => rfl) fun _ _ => rfl

theorem uses_clerk : clerk.Uses Stage.facts where
  kernel := rfl
  complete watch _ := (Act.moves_check watch).bind fun _ _ => rfl
  store _ h := by cases h
  classifier _ h := by cases h
  file _ h _ _ := by
    cases h
    rfl
  verbs _ h _ _ := by
    cases h
    rfl

/-- A stage whose file holds a text. -/
def stageWith (text : String) : Stage :=
  { rest := { file := .ofText text } }

theorem steady_idle {W : Type} : Watch.IsSteady (idle (W := W)) :=
  ⟨fun _ => rfl, rfl⟩

theorem keeps_learned_clerk :
    ∃ kept v, (clerk.persist idle mendingFact).on (stageWith "# by hand\n  ") = (.ok kept, v) ∧
      ∃ e e', Exemplar.parse mendingFact = .ok e ∧ Exemplar.parse e.line = .ok e' ∧
        e' ∈ Exemplar.ofLines ("# by hand\n  " ++ e.line) ∧
        clerk.Loads idle Stage.facts (Exemplar.ofLines ("# by hand\n  " ++ e.line)) v := by
  obtain ⟨kept, v, hp, hverb⟩ := Act.exists_on_of_map
    (a := clerk.persist idle mendingFact) (w := stageWith "# by hand\n  ") (f := Exemplar.verb)
    (y := "/fix") (by decide +kernel)
  have hatom : Rule.isAtomName kept.verb := by
    rw [hverb]
    decide
  have hw : (Stage.file.read (stageWith "# by hand\n  ")).HasText "# by hand\n  " :=
    File.hasText_ofText _
  obtain ⟨e, e', he, he', -, -, hmem, hloads⟩ :=
    keeps_learned (fun _ _ => rfl) keeps_clerk hw hp hatom
  exact ⟨kept, v, hp, e, e', he, he', hmem (by decide +kernel),
    hloads clerk Stage.facts idle v (fun _ _ => rfl) uses_clerk rfl steady_idle rfl⟩

/-- A file that was cut off in the middle of a line. -/
def tornText : String := "learned_exemplar(\"half wri"

/-- What is learned after a file was cut off is lost: its line goes on with the torn one, and whoever loads
the file is told nothing. -/
theorem not_keeps_learned_torn :
    ∃ kept v e e', (clerk.persist idle mendingFact).on (stageWith tornText) = (.ok kept, v) ∧
      Rule.isAtomName kept.verb ∧ Exemplar.parse mendingFact = .ok e ∧ Exemplar.parse e.line = .ok e' ∧
      Stage.file.read v = .ofText (tornText ++ e.line) ∧
      e' ∉ Exemplar.ofLines (tornText ++ e.line) ∧
      ∃ u, (clerk.load idle).on (stageWith (tornText ++ e.line)) = (.ok 0, u) ∧
        (Stage.facts.read u).facts = [] := by
  obtain ⟨kept, v, hp, hverb⟩ := Act.exists_on_of_map
    (a := clerk.persist idle mendingFact) (w := stageWith tornText) (f := Exemplar.verb)
    (y := "/fix") (by decide +kernel)
  have hw : (Stage.file.read (stageWith tornText)).HasText tornText := File.hasText_ofText _
  obtain ⟨e, he, hkept, hread⟩ := keeps_clerk.of_persist (fun _ _ => rfl) hw hp
  have hatom : Rule.isAtomName e.verb := by
    rw [← hkept, hverb]
    decide
  have hstated := Exemplar.isStated_of_parse he
  obtain ⟨x, hx⟩ := Exemplar.parse_source hstated hatom
  have hlines : Exemplar.ofLines (tornText ++ e.line) = [] := by
    have hnone : ((Exemplar.parse mendingFact).toOption.map fun e =>
        (Exemplar.ofLines (tornText ++ e.line)).length) = some 0 := by decide +kernel
    rw [he] at hnone
    exact List.length_eq_zero_iff.mp (Option.some.inj hnone)
  have hfile : Stage.file.read (stageWith (tornText ++ e.line)) = .ofText (tornText ++ e.line) := rfl
  obtain ⟨u, hu, hfacts⟩ := uses_clerk.loads (fun _ _ => rfl) rfl steady_idle hfile
  rw [hlines] at hu hfacts
  exact ⟨kept, v, e, _, hp, hkept ▸ hatom, he, Exemplar.parse_line hstated hx, hread,
    hlines ▸ List.not_mem_nil, u, hu, congrArg FactBase.facts hfacts⟩

end Critic

end Utterance
