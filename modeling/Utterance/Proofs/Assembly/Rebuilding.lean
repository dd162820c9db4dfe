import Utterance.Proofs.Kernel.History
import Utterance.Proofs.Learned.Keeping
import Utterance.Proofs.Verb.Corpus

/-! An assembly is built again over a file of exemplars that was cut off, and the exemplars are loaded, just
if the cut lies between two characters. -/

namespace Utterance

/-! Files that were cut off. -/

namespace File

/-- A file that was cut off behind so many octets. -/
def cut (n : Nat) : File → File
  | octets content => octets (content.take n)
  | f => f

theorem read_cut_iff {f : File} {text : String} (h : f.HasText text) {n : Nat}
    (hn : n ≤ (Text.Utf8.encode text).length) :
    (∃ text?, (f.cut n).read = .ok text?) ↔ Text.Utf8.IsBetween text n := by
  obtain rfl | ⟨rfl, rfl⟩ := hasText_cases h
  · rw [← Text.Utf8.isSome_text?_take_iff hn, ofText, cut, read]
    generalize Text.Utf8.text? ((Text.Utf8.encode text).take n) = left?
    cases left? with
    | none =>
      constructor
      · rintro ⟨text?, h⟩
        cases h
      · intro h
        cases h
    | some s => exact ⟨fun _ => rfl, fun _ => ⟨some s, rfl⟩⟩
  · obtain rfl : n = 0 := Nat.le_zero.mp hn
    exact ⟨fun _ => ⟨"", "", rfl, rfl⟩, fun _ => ⟨none, rfl⟩⟩

/-- A file that has gained some lines, each with an exemplar. -/
def Gains (f f' : File) : Prop :=
  ∀ text, f.HasText text → ∃ exemplars : List Exemplar,
    f'.HasText (text ++ String.join (exemplars.map Exemplar.line))

instance : Std.Refl Gains :=
  ⟨fun f text h => ⟨[], by simpa using h⟩⟩

instance : Trans Gains Gains Gains where
  trans h h' text ht := by
    obtain ⟨es, hs⟩ := h text ht
    obtain ⟨fs, hf⟩ := h' _ hs
    exact ⟨es ++ fs, by simpa [String.join_append, String.append_assoc] using hf⟩

end File

/-! Acts that end well. -/

namespace Act

variable {W V α β : Type} {f : W → V}

/-- An act that ends well in any world, and leaves alone what `f` reads of it. -/
def Succeeds (f : W → V) (a : Act W α) : Prop :=
  ∀ w, ∃ x v, a.on w = (.ok x, v) ∧ f v = f w

theorem succeeds_pure (x : α) : Succeeds f (pure x) :=
  fun w => ⟨x, w, rfl, rfl⟩

theorem Succeeds.bind {a : Act W α} {g : α → Act W β} (ha : Succeeds f a) (hg : ∀ x, Succeeds f (g x)) :
    Succeeds f (a >>= g) := by
  intro w
  obtain ⟨x, u, hu, hfu⟩ := ha w
  obtain ⟨y, v, hv, hfv⟩ := hg x u
  exact ⟨y, v, (on_bind_ok hu g).trans hv, hfv.trans hfu⟩

theorem Succeeds.run {watch : Watch W} (hs : watch.IsSteady) {a : Act W α} (ha : Succeeds f a) :
    Succeeds f (watch.run a) :=
  Succeeds.bind (fun w => ⟨(), w, hs.on_check w, rfl⟩) fun _ => ha

theorem Succeeds.recover {a : Act W α} (ha : Succeeds f a) (g : Fault → Act W α) :
    Succeeds f (a.recover g) := by
  intro w
  obtain ⟨x, v, hv, hf⟩ := ha w
  exact ⟨x, v, by rw [on_recover, hv], hf⟩

theorem Moves.attempt_succeeds {a : Act W α} (ha : Moves f Eq a) : Succeeds f a.attempt :=
  fun w => ⟨_, _, rfl, (ha w).symm⟩

theorem succeeds_mapM {g : α → Act W β} (h : ∀ x, Succeeds f (g x)) (xs : List α) :
    Succeeds f (xs.mapM g) := by
  induction xs with
  | nil => exact succeeds_pure []
  | cons x xs ih =>
    rw [List.mapM_cons]
    exact (h x).bind fun y => ih.bind fun ys => succeeds_pure (y :: ys)

theorem exists_on_bind_pure {a : Act W α} {g : α → β} {w : W} :
    (∃ y v, (a >>= fun x => pure (g x)).on w = (.ok y, v)) ↔ ∃ x v, a.on w = (.ok x, v) := by
  constructor
  · rintro ⟨y, v, h⟩
    obtain ⟨x, u, hx, -⟩ := exists_of_bind h
    exact ⟨x, u, hx⟩
  · rintro ⟨x, v, h⟩
    exact ⟨g x, v, on_bind_ok h _⟩

/-- Every fault but the loss of patience is made up for. -/
theorem succeeds_recover {a : Act W α} {g : Fault → Act W α} (ha : Moves f Eq a)
    (he : ∀ w e v, a.on w = (.error e, v) → e.isCancelled = false) (hg : ∀ e, Succeeds f (g e)) :
    Succeeds f (a.recover g) := by
  intro w
  rw [on_recover]
  cases hw : a.on w with
  | mk o u =>
    cases o with
    | ok x => exact ⟨x, u, rfl, ha.eq_of_on hw⟩
    | error e =>
      obtain ⟨y, v, hv, hf⟩ := hg e u
      dsimp only
      rw [he w e u hw]
      exact ⟨y, v, hv, hf.trans (ha.eq_of_on hw)⟩

end Act

/-! Teaching. -/

namespace Critic

variable {W : Type}

/-- A critic is taught one text after the other, however it ends each time. -/
inductive Taught (c : Critic W) : W → W → Prop
  | nothing (w : W) : Taught c w w
  | next {w u : W} (watch : Watch W) (fact : String) (h : Taught c w u) :
      Taught c w ((c.persist watch fact).on u).2

variable {c : Critic W} {file : Part W File} {watch : Watch W}

theorem Keeps.gains_keepLine (hf : file.Retains) (h : c.Keeps file) (e : Exemplar) :
    Act.Moves file.read File.Gains (c.keepLine watch e) := by
  have happend : Act.Moves file.read File.Gains (appendTo file e.line) := by
    intro w text hw
    rw [on_appendTo hw, hf]
    exact ⟨[e], by simpa using File.hasText_ofText (text ++ e.line)⟩
  rw [keepLine, h.hasFile]
  exact (happend.run watch).recover fun _ => Act.moves_pure ()

theorem Keeps.gains_persist (hf : file.Retains) (h : c.Keeps file) (fact : String) :
    Act.Moves file.read File.Gains (c.persist watch fact) := by
  have hgains : ∀ f f' : File, f = f' → f.Gains f' := by
    rintro f _ rfl
    exact Std.Refl.refl f
  refine (Act.moves_check watch).bind fun _ => (Act.moves_ofOutcome _).bind fun e => ?_
  refine (((h.load _).run watch).mono hgains).bind fun _ => Act.Moves.bind ?_ fun _ => Act.moves_pure _
  rw [keep_eq]
  exact ((h.spares.moves_keepFact e).mono hgains).bind fun _ => ((h.spares.moves_keepPhrase e).mono hgains).bind
    fun _ => (h.gains_keepLine hf e).bind fun _ => (h.spares.moves_learnSynonym e).mono hgains

/-- What a critic is taught is added to its file, a line for an exemplar. -/
theorem Taught.gains (hf : file.Retains) (h : c.Keeps file) {w v : W} (hv : c.Taught w v) :
    (file.read w).Gains (file.read v) := by
  induction hv with
  | nothing => exact Std.Refl.refl _
  | next watch fact _ ih => exact Trans.trans ih (h.gains_persist hf fact _)

/-! Loading. -/

/-- Loading goes well just if the file is read as a text, or there is none. -/
theorem on_load_iff {d : Critic W} {base : Part W FactBase} (hb : base.Retains)
    (hd : d.kernel = FactBase.kernel base) (hfile : d.file = some file) (hs : watch.IsSteady) (w : W) :
    (∃ n v, (d.load watch).on w = (.ok n, v)) ↔ ∃ text?, (file.read w).read = .ok text? := by
  constructor
  · rintro ⟨n, v, h⟩
    unfold load at h
    rw [hfile] at h
    obtain ⟨text?, u, hread, -⟩ := Act.exists_of_bind h
    obtain ⟨_, u, hvalue, hread⟩ := Act.exists_of_bind (Act.on_of_run hread)
    cases hvalue
    exact ⟨text?, (Act.of_on_ofOutcome hread).1⟩
  · rintro ⟨text?, hr⟩
    cases text? with
    | none =>
      refine ⟨0, w, ?_⟩
      unfold load
      rw [hfile]
      dsimp only
      rw [Act.on_bind_ok (on_read hs hr)]
      rfl
    | some text =>
      obtain ⟨v, hv, -⟩ := exists_on_load hb hd hfile hs hr
      exact ⟨_, v, hv⟩

end Critic

/-! Building. -/

open Act (Moves Succeeds succeeds_pure)

variable {W V : Type} {f : W → V} {base : Part W FactBase} {watch : Watch W}

theorem FactBase.succeeds_query (p : String) : Succeeds f ((kernel base).query p) :=
  fun w => ⟨_, w, rfl, rfl⟩

theorem FactBase.moves_query (p : String) : Moves f Eq ((kernel base).query p) :=
  fun _ => rfl

theorem FactBase.on_kernel_load (source : String) (w : W) :
    ((kernel base).load source).on w =
      (((load source).on (base.read w)).1, base.write ((load source).on (base.read w)).2 w) := rfl

theorem FactBase.succeeds_load (hf : ∀ b w, f (base.write b w) = f w) {source : String}
    (h : ∀ b, ∃ n b', (load source).on b = (.ok n, b')) : Succeeds f ((kernel base).load source) := by
  intro w
  obtain ⟨n, b', hb⟩ := h (base.read w)
  exact ⟨n, base.write b' w, by rw [on_kernel_load, hb], hf b' w⟩

theorem Assembly.succeeds_furnish (hs : watch.IsSteady) (hf : ∀ b w, f (base.write b w) = f w) :
    Succeeds f (furnish watch (FactBase.kernel base)) := by
  have hquery (p : String) : Succeeds f (watch.run ((FactBase.kernel base).query p)) :=
    (FactBase.succeeds_query p).run hs
  have hknows : Succeeds f (knowsVerbs watch (FactBase.kernel base)) := by
    refine (hquery _).bind fun facts => ?_
    split
    · exact succeeds_pure true
    · exact (hquery _).bind fun facts => succeeds_pure _
  have hload : Succeeds f ((FactBase.kernel base).load Bundled.program) :=
    FactBase.succeeds_load hf fun b => (Bundled.exists_on_load b).imp fun n h => ⟨_, h⟩
  refine hknows.bind fun knows => ?_
  split
  · exact (hload.run hs).bind fun _ => succeeds_pure ()
  · exact succeeds_pure ()

theorem Corpus.succeeds_load (watch : Watch W) (base : Part W FactBase) {verbs : Part W Corpus}
    (hf : ∀ c w, f (verbs.write c w) = f w) :
    Succeeds f (load watch (FactBase.kernel base) verbs) := by
  have hchange (g : Corpus → Corpus) : Moves f Eq (verbs.change g) := fun w => (hf _ w).symm
  have hsource : Moves f Eq (source watch (FactBase.kernel base)) := moves_source FactBase.moves_query
  have hreload : Moves f Eq (reload watch (FactBase.kernel base) verbs) :=
    hsource.bind fun facts => (hchange _).bind fun _ => Act.moves_pure _
  refine Succeeds.bind (fun w => ⟨(), _, rfl, hf _ w⟩) fun _ => ?_
  exact hreload.attempt_succeeds.bind fun _ => succeeds_pure ()

/-- The file of the exemplars in a workspace. -/
abbrev Workspace.learnedIn (place : Part W Workspace) : W → File :=
  (place.comp learnedPart).read

open Workspace (learnedIn)

/-- A plan with a workspace that none of its other collaborators touches. Its embedder, if it has one, does
not lose patience by itself. -/
structure Plan.IsSited (plan : Plan W) (place : Part W Workspace) (base : Part W FactBase)
    (state : Part W Assembly.State) (watch : Watch W) : Prop where
  workspace : plan.workspace = some place
  base : ∀ b w, place.read (base.write b w) = place.read w
  state : ∀ s w, place.read (state.write s w) = place.read w
  embed : ∀ e, plan.embedder = some e → ∀ task text, Moves place.read Eq (e.embed watch task text)
  patient : ∀ e, plan.embedder = some e → ∀ task text w fault v,
    (e.embed watch task text).on w = (.error fault, v) → fault.isCancelled = false

namespace Plan.IsSited

variable {plan : Plan W} {place : Part W Workspace} {state : Part W Assembly.State}

theorem succeeds_embedPhrase? (h : plan.IsSited place base state watch) {e : Embedder W}
    (he : plan.embedder = some e) (p : Semantic.Phrase) :
    Succeeds (learnedIn place) (Classifier.embedPhrase? watch e p) := by
  have hmoves : Moves (learnedIn place) Eq (e.embedFor watch documentTask p.text) :=
    fun w => congrArg Workspace.learned (h.embed e he _ _ w)
  refine Act.succeeds_recover (hmoves.bind fun v => Act.moves_pure _) (fun w fault v hw => ?_)
    fun _ => succeeds_pure none
  rw [Act.on_bind] at hw
  cases ho : (e.embedFor watch documentTask p.text).on w with
  | mk o u =>
    rw [ho] at hw
    cases o with
    | ok x => cases hw
    | error fault' =>
      cases hw
      exact h.patient e he _ _ w fault v ho

theorem succeeds_buildClassifier (h : plan.IsSited place base state watch) (hs : watch.IsSteady)
    {store : Store W} (hstore : Succeeds (learnedIn place) store.entries) :
    Succeeds (learnedIn place) (plan.buildClassifier watch (FactBase.kernel base) store
      (state.comp Assembly.State.learnedPart)) := by
  unfold buildClassifier
  cases he : plan.embedder with
  | none => exact succeeds_pure none
  | some e =>
    have hydrate : Succeeds (learnedIn place) (Classifier.hydrate watch e (FactBase.kernel base)) :=
      ((FactBase.succeeds_query _).run hs).bind fun facts =>
        (Act.succeeds_mapM (h.succeeds_embedPhrase? he) _).bind fun entries => succeeds_pure _
    have hchange (g : Semantic.Index → Semantic.Index) :
        Succeeds (learnedIn place) ((state.comp Assembly.State.learnedPart).change g) :=
      fun w => ⟨(), _, rfl, congrArg Workspace.learned (h.state _ w)⟩
    have hbuild : Succeeds (learnedIn place) (Classifier.build watch e (FactBase.kernel base) store
        (state.comp Assembly.State.learnedPart) plan.tuning) :=
      hydrate.bind fun embedded => hstore.bind fun entries => (hchange _).bind fun _ => succeeds_pure _
    exact (hbuild.bind fun c => succeeds_pure (some c)).recover _

/-- The database of a workspace is opened beside its exemplars. -/
theorem succeeds_openStore (h : plan.IsSited place base state watch) (hp : place.Retains)
    (shelf : Part W Shelf) (w : W) :
    ∃ store v, (plan.openStore shelf).on w = (.ok store, v) ∧ learnedIn place v = learnedIn place w ∧
      Succeeds (learnedIn place) store.entries := by
  have hread (s : Shelf) :
      learnedIn place ((place.comp Workspace.databasePart).write s w) = learnedIn place w :=
    (congrArg Workspace.learned (hp (Workspace.databasePart.write s (place.read w)) w)).trans rfl
  unfold openStore
  rw [h.workspace]
  exact ⟨_, _, rfl, hread _, fun u => ⟨_, u, rfl, rfl⟩⟩

theorem moves_takeCompleter (h : plan.IsSited place base state watch) (outside : Outside W) :
    Moves (learnedIn place) Eq (plan.takeCompleter outside (state.comp Assembly.State.clientPart)) := by
  have hclient (s : Selection) :
      Moves (learnedIn place) Eq (newClient outside (state.comp Assembly.State.clientPart) s) :=
    (Act.moves_ofOutcome _).bind fun c => Moves.bind
      (fun w => (congrArg Workspace.learned (h.state _ w)).symm) fun _ => Act.moves_pure _
  unfold takeCompleter
  cases plan.completer with
  | some c => exact Act.moves_pure c
  | none =>
    cases plan.selection with
    | some s => exact hclient s
    | none =>
      have hsettings :
          Moves (learnedIn place) Eq (plan.workspace.elim (pure none) Workspace.loadSettings) := by
        rw [h.workspace]
        exact (Act.moves_value place).bind fun _ => Act.moves_ofOutcome _
      exact hsettings.bind fun settings => (Act.moves_ofOutcome _).bind hclient

/-- With its completer found, an assembly is built just if its exemplars are loaded. -/
theorem on_build_iff (h : plan.IsSited place base state watch) (hp : place.Retains) (hb : base.Retains)
    (hs : watch.IsSteady) {outside : Outside W} {u : W} {completer : Completer W} {u₁ : W}
    (hc : (plan.takeCompleter outside (state.comp Assembly.State.clientPart)).on u =
      (.ok completer, u₁)) :
    (∃ a v, (Assembly.build plan outside watch (FactBase.kernel base) state).on u = (.ok a, v)) ↔
      ∃ text?, (learnedIn place u).read = .ok text? := by
  -- Whatever is done before the exemplars are loaded ends well, and leaves their file as it was.
  have hbase : ∀ b w, learnedIn place (base.write b w) = learnedIn place w :=
    fun b w => congrArg Workspace.learned (h.base b w)
  have h₁ := (h.moves_takeCompleter outside).eq_of_on hc
  obtain ⟨_, u₂, hfurnish, h₂⟩ := Assembly.succeeds_furnish hs hbase u₁
  obtain ⟨store, u₃, hopen, h₃, hentries⟩ :=
    h.succeeds_openStore hp (state.comp Assembly.State.shelfPart) u₂
  have hverbs : ∀ c w, learnedIn place ((state.comp Assembly.State.verbsPart).write c w) =
      learnedIn place w := fun c w => congrArg Workspace.learned (h.state _ w)
  obtain ⟨_, u₄, hcorpus, h₄⟩ := Corpus.succeeds_load watch base hverbs u₃
  obtain ⟨classifier, u₅, hclassifier, h₅⟩ := h.succeeds_buildClassifier hs hentries u₄
  have hread : learnedIn place u₅ = learnedIn place u := by rw [h₅, h₄, h₃, h₂, h₁]
  unfold Assembly.build
  rw [Act.on_bind_ok hc, Act.on_bind_ok hfurnish, Act.on_bind_ok hopen]
  dsimp only
  rw [Act.on_bind_ok hcorpus, Act.on_bind_ok hclassifier, Act.exists_on_bind_pure, h.workspace, ← hread]
  exact Critic.on_load_iff hb rfl rfl hs u₅

end Plan.IsSited

theorem Workspace.retains_learned {place : Part W Workspace} (hp : place.Retains) :
    (place.comp learnedPart).Retains :=
  fun file w => congrArg learned (hp (learnedPart.write file (place.read w)) w)

/-- However often a critic was taught, its file has gained lines only. Wherever it is cut off then, the
exemplars are loaded, and an assembly is built, just if the cut lies between two characters. -/
theorem Assembly.on_build_cut_iff {c : Critic W} {place : Part W Workspace} (hp : place.Retains)
    (hc : c.Keeps (place.comp Workspace.learnedPart)) {w v : W} (hv : c.Taught w v) {text : String}
    (hw : (place.read w).learned.HasText text) :
    (∃ exemplars : List Exemplar,
      (place.read v).learned.HasText (text ++ String.join (exemplars.map Exemplar.line))) ∧
    ∀ learned, (place.read v).learned.HasText learned →
      ∀ n ≤ (Text.Utf8.encode learned).length, ∀ u, (place.read u).learned = (place.read v).learned.cut n →
        ∀ base watch, Part.Retains base → Watch.IsSteady watch →
          (∀ d : Critic W, d.kernel = FactBase.kernel base →
            d.file = some (place.comp Workspace.learnedPart) →
            ((∃ k x, (d.load watch).on u = (.ok k, x)) ↔ Text.Utf8.IsBetween learned n)) ∧
          ∀ (plan : Plan W) (outside : Outside W) (state : Part W State) completer x,
            plan.IsSited place base state watch →
            (plan.takeCompleter outside (state.comp State.clientPart)).on u = (.ok completer, x) →
            ((∃ a y, (build plan outside watch (FactBase.kernel base) state).on u = (.ok a, y)) ↔
              Text.Utf8.IsBetween learned n) := by
  refine ⟨hv.gains (Workspace.retains_learned hp) hc text hw, ?_⟩
  intro learned hl n hn u hu base watch hb hs
  have hcut : (∃ text?, (place.read u).learned.read = .ok text?) ↔ Text.Utf8.IsBetween learned n := by
    rw [hu]
    exact File.read_cut_iff hl hn
  constructor
  · intro d hd hfile
    exact (Critic.on_load_iff hb hd hfile hs u).trans hcut
  · intro plan outside state completer x hsited hcompleter
    exact (hsited.on_build_iff hp hb hs hcompleter).trans hcut

/-! An assembly on a stage. -/

namespace Assembly

open Rehearsal (Stage Script)

/-- The file of the exemplars in the workspace of a stage. -/
def archive : Part Stage File := Stage.workspace.comp Workspace.learnedPart

theorem keeps_archive : (Critic.bookkeeper archive).Keeps archive :=
  Critic.keeps_bookkeeper (fun _ _ => rfl) fun _ _ => rfl

/-- A plan for the workspace of a stage. -/
def stagePlan : Plan Stage where
  completer := some (Script.completer Stage.script false false)
  workspace := some Stage.workspace

theorem isSited_stagePlan :
    stagePlan.IsSited Stage.workspace Stage.facts (Stage.assembly 0) Critic.idle where
  workspace := rfl
  base _ _ := rfl
  state _ _ := rfl
  embed _ h := by cases h
  patient _ h := by cases h

/-- An outside without anything in it. -/
def nowhere : Outside Stage where
  network := .unreachable
  programs := .missing
  environment _ := none

/-- A fact with a letter that takes two octets. -/
def cafeFact : String := "learned_exemplar(\"café\", /fix, \"a\", \"\", 90)."

/-- The stage on which that fact was learned. -/
def taughtStage : Stage := (((Critic.bookkeeper archive).persist Critic.idle cafeFact).on { rest := {} }).2

theorem taught_taughtStage : (Critic.bookkeeper archive).Taught { rest := {} } taughtStage :=
  .next Critic.idle cafeFact (.nothing _)

theorem hasText_taughtStage : (Stage.workspace.read taughtStage).learned.HasText (cafeFact ++ "\n") :=
  ⟨some (cafeFact ++ "\n"), by decide +kernel, rfl⟩

/-- A stage with a file of exemplars, and nothing else. -/
def stageOver (file : File) : Stage := { rest := { workspace := { learned := file } } }

theorem learned_stageOver (file : File) : (Stage.workspace.read (stageOver file)).learned = file := rfl

theorem on_build_cut_iff_taughtStage :
    (∃ k x, ((Critic.bookkeeper archive).load Critic.idle).on
      (stageOver ((Stage.workspace.read taughtStage).learned.cut 21)) = (.ok k, x)) ∧
    ∃ a y, (build stagePlan nowhere Critic.idle (FactBase.kernel Stage.facts) (Stage.assembly 0)).on
      (stageOver ((Stage.workspace.read taughtStage).learned.cut 21)) = (.ok a, y) := by
  have hplace : Stage.workspace.Retains := fun _ _ => rfl
  have hbase : Stage.facts.Retains := fun _ _ => rfl
  have hempty : (Stage.workspace.read { rest := {} }).learned.HasText "" := ⟨none, rfl, rfl⟩
  have hbetween : Text.Utf8.IsBetween (cafeFact ++ "\n") 21 :=
    ⟨"learned_exemplar(\"caf", "é\", /fix, \"a\", \"\", 90).\n", by decide +kernel, by decide +kernel⟩
  have hiff := (on_build_cut_iff hplace keeps_archive taught_taughtStage hempty).2 _
    hasText_taughtStage 21 (by decide +kernel) _ (learned_stageOver _) Stage.facts Critic.idle hbase
    Critic.steady_idle
  exact ⟨(hiff.1 (Critic.bookkeeper archive) rfl rfl).mpr hbetween,
    (hiff.2 stagePlan nowhere (Stage.assembly 0) _ _ isSited_stagePlan rfl).mpr hbetween⟩

/-- A cut in the middle of a letter hinders everything: neither are the exemplars loaded, nor is an assembly
built. -/
theorem not_on_build_cut_taughtStage :
    (Critic.bookkeeper archive).Taught { rest := {} } taughtStage ∧
    (Stage.workspace.read taughtStage).learned.HasText (cafeFact ++ "\n") ∧
    22 ≤ (Text.Utf8.encode (cafeFact ++ "\n")).length ∧
    ∀ u : Stage, (Stage.workspace.read u).learned = (Stage.workspace.read taughtStage).learned.cut 22 →
      (¬∃ k x, ((Critic.bookkeeper archive).load Critic.idle).on u = (.ok k, x)) ∧
      ¬∃ a y, (build stagePlan nowhere Critic.idle (FactBase.kernel Stage.facts) (Stage.assembly 0)).on u =
        (.ok a, y) := by
  have hn : 22 ≤ (Text.Utf8.encode (cafeFact ++ "\n")).length := by decide +kernel
  refine ⟨taught_taughtStage, hasText_taughtStage, hn, fun u hu => ?_⟩
  have hbase : Stage.facts.Retains := fun _ _ => rfl
  have hcut : ¬∃ text?, (Stage.workspace.read u).learned.read = .ok text? := by
    rw [hu, File.read_cut_iff hasText_taughtStage hn, ← Text.Utf8.isSome_text?_take_iff hn]
    decide +kernel
  have hfile : (Critic.bookkeeper archive).file = some archive := rfl
  constructor
  · rw [Critic.on_load_iff hbase rfl hfile Critic.steady_idle]
    exact hcut
  · rw [isSited_stagePlan.on_build_iff (fun _ _ => rfl) hbase Critic.steady_idle rfl]
    exact hcut

end Assembly

end Utterance
