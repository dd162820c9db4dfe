import Utterance.Interpreter.Basic
import Utterance.Proofs.Act

/-! Logs of faults.

An act is run a second time with a log beside the world, in which every fault is written down that a
collaborator returns. The log changes nothing else, and it tells how the act ends. -/

namespace Utterance

/-! Logs. -/

def Outcome.faults {α : Type} : Outcome α → List Fault
  | .ok _ => []
  | .error e => [e]

namespace Act

variable {W α β : Type}

/-- An act beside a log, in which is written down what its outcome tells. -/
def logging (a : Act W α) (told : Outcome α → List Fault) : Act (W × List Fault) α :=
  ExceptT.mk fun (w, log) => ((a.on w).1, (a.on w).2, log ++ told (a.on w).1)

/-- An act beside a log, in which its fault is written down. -/
def logged (a : Act W α) : Act (W × List Fault) α := a.logging Outcome.faults

@[simp] theorem on_logging (a : Act W α) (told : Outcome α → List Fault) (w : W)
    (log : List Fault) :
    (a.logging told).on (w, log) = ((a.on w).1, (a.on w).2, log ++ told (a.on w).1) := rfl

end Act

/-- The world beside a log. -/
def Part.besideLog (W : Type) : Part (W × List Fault) W := ⟨Prod.fst, fun v w => (v, w.2)⟩

/-- A watch over a world beside a log. -/
def Watch.besideLog {W : Type} (watch : Watch W) : Watch (W × List Fault) :=
  ⟨(Part.besideLog W).comp watch.clock, fun w => watch.calledOff w.1, watch.deadline⟩

/-- A kernel that writes down its faults. -/
def Kernel.logged {W : Type} (k : Kernel W) : Kernel (W × List Fault) where
  tell f := (k.tell f).logged
  tellAll fs := (k.tellAll fs).logged
  query p := (k.query p).logged
  retract p := (k.retract p).logged
  verdict? text verbs := (k.verdict? text verbs).logged
  validate rule := (k.validate rule).logged
  load source := (k.load source).logged

/-- An embedder that writes down its faults, under this watch. -/
def Embedder.logged {W : Type} (watch : Watch W) (e : Embedder W) : Embedder (W × List Fault) :=
  ⟨e.dimensions, e.takesTask, fun _ task text => (e.embed watch task text).logged⟩

/-- A store that writes down its faults. -/
def Store.logged {W : Type} (s : Store W) : Store (W × List Fault) where
  addEntry e := (s.addEntry e).logged
  entries := s.entries.logged
  addFact f := (s.addFact f).logged
  facts := s.facts.logged

/-- A classifier whose collaborators write down their faults, under this watch. -/
def Classifier.logged {W : Type} (watch : Watch W) (c : Classifier W) :
    Classifier (W × List Fault) where
  embedder := c.embedder.logged watch
  embedded := c.embedded
  learned := (Part.besideLog W).comp c.learned
  store := c.store.logged
  tuning := c.tuning

/-- A completer that writes down its faults, under this watch; those that end a stream as well. -/
def Completer.logged {W : Type} (watch : Watch W) (c : Completer W) :
    Completer (W × List Fault) where
  provider := c.provider
  model := (Part.besideLog W).comp c.model
  complete _ a := (c.complete watch a).logged
  structured? := c.structured?.map fun structured _ a => (structured watch a).logged
  stream? := c.stream?.map fun stream _ a =>
    (stream watch a).logging fun o => (o >>= Stream.Streamed.outcome).faults

/-- An interpreter whose collaborators write down their faults, under this watch. -/
def Interpreter.logged {W : Type} (watch : Watch W) (t : Interpreter W) :
    Interpreter (W × List Fault) where
  completer := t.completer.logged watch
  verbs := (Part.besideLog W).comp t.verbs
  classifier := t.classifier.map (Classifier.logged watch)
  kernel := t.kernel.map Kernel.logged
  options := t.options
  display := t.display.map (Part.besideLog W).comp

/-! How an act ends. -/

/-- No loss of patience among faults. -/
def Patient (fs : List Fault) : Prop := ∀ f ∈ fs, f.isCancelled = false

/-- How an act ends whose collaborators have returned these faults: it fails only as it may, with the
last of them or for a loss of patience, and no loss of patience came before. -/
def Settled {W α : Type} (may : Fault → Prop) (watch : Watch W) (x : Outcome α × W)
    (fs : List Fault) : Prop :=
  match x.1 with
  | .ok _ => Patient fs
  | .error e =>
    may e ∧
      ((watch.fault? x.2 = some e ∧ Patient fs) ∨ ∃ before, fs = before ++ [e] ∧ Patient before)

/-- Two acts that do the same, but that the second one writes down the faults of collaborators. -/
def Logs {W α : Type} (may : Fault → Prop) (watch : Watch W) (a : Act W α)
    (b : Act (W × List Fault) α) : Prop :=
  ∀ w log, ∃ fs, b.on (w, log) = ((a.on w).1, (a.on w).2, log ++ fs) ∧ Settled may watch (a.on w) fs

/-- Every fault. -/
def Anyhow (_ : Fault) : Prop := True

section

variable {W α β : Type} {may : Fault → Prop} {watch : Watch W}

theorem Patient.append {fs gs : List Fault} (hf : Patient fs) (hg : Patient gs) :
    Patient (fs ++ gs) := by
  intro f h
  rcases List.mem_append.mp h with h | h
  · exact hf f h
  · exact hg f h

theorem Settled.prepend {x : Outcome α × W} {fs gs : List Fault} (hf : Patient fs)
    (h : Settled may watch x gs) : Settled may watch x (fs ++ gs) := by
  obtain ⟨o, v⟩ := x
  cases o with
  | ok y => exact hf.append h
  | error e =>
    obtain ⟨hm, hw | ⟨before, rfl, hb⟩⟩ := h
    · exact ⟨hm, .inl ⟨hw.1, hf.append hw.2⟩⟩
    · exact ⟨hm, .inr ⟨fs ++ before, (List.append_assoc ..).symm, hf.append hb⟩⟩

theorem Logs.weaken {a : Act W α} {b : Act (W × List Fault) α} (h : Logs may watch a b) :
    Logs Anyhow watch a b := by
  intro w log
  obtain ⟨fs, hb, hs⟩ := h w log
  refine ⟨fs, hb, ?_⟩
  unfold Settled at hs ⊢
  split at hs
  · exact hs
  · exact ⟨trivial, hs.2⟩

theorem logs_pure (x : α) : Logs may watch (pure x) (pure x) := by
  intro w log
  refine ⟨[], ?_, ?_⟩
  · rw [List.append_nil]
    rfl
  · intro f hf
    cases hf

theorem Logs.bind {a : Act W α} {b : Act (W × List Fault) α} {f : α → Act W β}
    {g : α → Act (W × List Fault) β} (ha : Logs may watch a b)
    (hf : ∀ x, Logs may watch (f x) (g x)) : Logs may watch (a >>= f) (b >>= g) := by
  intro w log
  obtain ⟨fs, hb, hs⟩ := ha w log
  rw [Act.on_bind, Act.on_bind, hb]
  rcases h : a.on w with ⟨o, v⟩
  rw [h] at hs
  cases o with
  | error e => exact ⟨fs, rfl, hs⟩
  | ok x =>
    obtain ⟨gs, hg, ht⟩ := hf x v (log ++ fs)
    refine ⟨fs ++ gs, ?_, ht.prepend hs⟩
    rw [← List.append_assoc]
    exact hg

/-- A fault may be passed on, or made up for unless it is a loss of patience. -/
theorem Logs.handle {a : Act W α} {b : Act (W × List Fault) α} {f : Outcome α → Act W β}
    {g : Outcome α → Act (W × List Fault) β} (ha : Logs Anyhow watch a b)
    (hok : ∀ x, Logs may watch (f (.ok x)) (g (.ok x)))
    (herr : ∀ e, (may e ∧ f (.error e) = throw e ∧ g (.error e) = throw e) ∨
      (e.isCancelled = false ∧ Logs may watch (f (.error e)) (g (.error e)))) :
    Logs may watch (a.attempt >>= f) (b.attempt >>= g) := by
  intro w log
  obtain ⟨fs, hb, hs⟩ := ha w log
  rw [Act.on_bind, Act.on_bind, Act.on_attempt, Act.on_attempt, hb]
  rcases h : a.on w with ⟨o, v⟩
  rw [h] at hs
  dsimp only
  cases o with
  | ok x =>
    obtain ⟨gs, hg, ht⟩ := hok x v (log ++ fs)
    refine ⟨fs ++ gs, ?_, ht.prepend hs⟩
    rw [← List.append_assoc]
    exact hg
  | error e =>
    rcases herr e with ⟨hm, hf, hg⟩ | ⟨he, hfg⟩
    · rw [hf, hg]
      exact ⟨fs, rfl, hm, hs.2⟩
    · obtain ⟨gs, hg, ht⟩ := hfg v (log ++ fs)
      have hp : Patient fs := by
        rcases hs.2 with ⟨hw, -⟩ | ⟨before, rfl, hbefore⟩
        · have hl : e.isCancelled = true := Watch.lost_of_fault? hw
          rw [he] at hl
          cases hl
        · refine hbefore.append fun f hf => ?_
          cases List.mem_singleton.mp hf
          exact he
      refine ⟨fs ++ gs, ?_, ht.prepend hp⟩
      rw [← List.append_assoc]
      exact hg

theorem Logs.recover {a : Act W α} {b : Act (W × List Fault) α} {f : Fault → Act W α}
    {g : Fault → Act (W × List Fault) α} (ha : Logs Anyhow watch a b)
    (hf : ∀ e, Logs Lost watch (f e) (g e)) : Logs Lost watch (a.recover f) (b.recover g) := by
  refine ha.handle (fun x => logs_pure x) fun e => ?_
  cases he : e.isCancelled with
  | true => exact .inl ⟨he, by simp [he], by simp [he]⟩
  | false =>
    refine .inr ⟨rfl, ?_⟩
    simp only [he]
    exact hf e

theorem logs_logged (a : Act W α) : Logs Anyhow watch a a.logged := by
  intro w log
  refine ⟨_, rfl, ?_⟩
  rcases a.on w with ⟨o, v⟩
  cases o with
  | ok x =>
    intro f hf
    cases hf
  | error e => exact ⟨trivial, .inr ⟨[], rfl, fun f hf => by cases hf⟩⟩

theorem logs_check : Logs Lost watch watch.check watch.besideLog.check := by
  intro w log
  have hf : watch.besideLog.fault? (w, log) = watch.fault? w := rfl
  refine ⟨[], ?_, ?_⟩
  · rw [Act.on_check, Act.on_check, hf, List.append_nil]
  · rw [Act.on_check]
    cases h : watch.fault? w with
    | none =>
      intro f hn
      cases hn
    | some e => exact ⟨Watch.lost_of_fault? h, .inl ⟨h, fun f hn => by cases hn⟩⟩

theorem Logs.run {a : Act W α} {b : Act (W × List Fault) α} (h : Logs Anyhow watch a b) :
    Logs Anyhow watch (watch.run a) (watch.besideLog.run b) :=
  logs_check.weaken.bind fun _ => h

theorem logs_value {V : Type} (part : Part W V) :
    Logs may watch part.value ((Part.besideLog W).comp part).value := by
  intro w log
  refine ⟨[], ?_, fun f hf => by cases hf⟩
  rw [List.append_nil]
  rfl

theorem Logs.map {a : Act W α} {b : Act (W × List Fault) α} (hab : Logs may watch a b)
    (f : α → β) : Logs may watch (a.map f) (b.map f) := by
  intro w log
  obtain ⟨fs, hb, hs⟩ := hab w log
  rw [Act.on_map, Act.on_map, hb]
  refine ⟨fs, rfl, ?_⟩
  rcases h : a.on w with ⟨o, v⟩
  rw [h] at hs
  cases o <;> exact hs

theorem logs_mapM {f : α → Act W β} {g : α → Act (W × List Fault) β}
    (h : ∀ x, Logs may watch (f x) (g x)) (xs : List α) :
    Logs may watch (xs.mapM f) (xs.mapM g) := by
  induction xs with
  | nil => exact logs_pure []
  | cons x xs ih =>
    rw [List.mapM_cons, List.mapM_cons]
    exact (h x).bind fun y => ih.bind fun ys => logs_pure (y :: ys)

end

end Utterance
