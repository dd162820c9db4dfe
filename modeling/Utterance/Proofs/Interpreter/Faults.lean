import Utterance.Interpreter.Interpret
import Utterance.Proofs.Logs

/-! What becomes of the faults of collaborators in a turn: only a loss of patience ends it, and all
others are made up for. -/

namespace Utterance

section

variable {W : Type} {watch : Watch W}

/-! Decisions. -/

theorem logs_tellOne (kernel : Kernel W) (f : Rule.Fact) :
    Logs Lost watch (Semantic.tellOne watch kernel f)
      (Semantic.tellOne watch.besideLog kernel.logged f) := by
  have ht : Logs Anyhow watch (watch.run (kernel.tell f))
      (watch.besideLog.run (kernel.logged.tell f)) := (logs_logged _).run
  exact (ht.bind fun _ => logs_pure true).recover fun _ => logs_pure false

theorem logs_report (kernel : Kernel W) (facts : List Rule.Fact) :
    Logs Lost watch (Semantic.report watch kernel facts)
      (Semantic.report watch.besideLog kernel.logged facts) := by
  unfold Semantic.report
  split
  · exact logs_pure 0
  · have ht : Logs Anyhow watch (watch.run (kernel.tellAll facts))
        (watch.besideLog.run (kernel.logged.tellAll facts)) := (logs_logged _).run
    refine (ht.bind fun _ => logs_pure facts.length).recover fun _ => ?_
    exact (logs_mapM (logs_tellOne kernel) facts).bind fun taken => logs_pure (taken.count true)

theorem logs_withdraw (kernel : Kernel W) :
    Logs Lost watch (Semantic.withdraw watch kernel)
      (Semantic.withdraw watch.besideLog kernel.logged) := by
  have ht : Logs Anyhow watch (watch.run (kernel.retract Semantic.Match.predicate))
      (watch.besideLog.run (kernel.logged.retract Semantic.Match.predicate)) := (logs_logged _).run
  exact ht.recover fun _ => logs_pure 0

theorem logs_seed (kernel : Kernel W) (message : String) (candidates : List Candidate) :
    Logs Lost watch (Semantic.seed watch kernel message candidates)
      (Semantic.seed watch.besideLog kernel.logged message candidates) :=
  (logs_withdraw kernel).bind fun _ => logs_report kernel _

theorem logs_classify (c : Classifier W) (message : String) :
    Logs Anyhow watch (c.classify watch message)
      ((c.logged watch).classify watch.besideLog message) := by
  have he : Logs Anyhow watch (c.embedder.embedFor watch lookupTask message)
      ((c.logged watch).embedder.embedFor watch.besideLog lookupTask message) := logs_logged _
  exact he.bind fun query => logs_check.weaken.bind fun _ =>
    (logs_value c.learned).bind fun learned => logs_pure _

theorem logs_classifyFor (c : Classifier W) (kernel : Kernel W) (message : String)
    (candidates : List Candidate) :
    Logs Lost watch (c.classifyFor watch kernel message candidates)
      ((c.logged watch).classifyFor watch.besideLog kernel.logged message candidates) := by
  refine (logs_classify c message).handle (fun found => ?_) fun e => ?_
  · exact (logs_withdraw kernel).bind fun _ => (logs_report kernel _).bind fun _ => logs_pure found
  · cases he : e.isCancelled with
    | true => exact .inl ⟨he, by simp [he], by simp [he]⟩
    | false =>
      refine .inr ⟨rfl, ?_⟩
      simp only [he]
      exact (logs_seed kernel message candidates).bind fun _ => logs_pure []

theorem logs_prepare (c : Option (Classifier W)) (kernel : Kernel W) (message : String)
    (candidates : List Candidate) :
    Logs Lost watch (Decision.prepare watch c kernel message candidates)
      (Decision.prepare watch.besideLog (c.map (Classifier.logged watch)) kernel.logged message
        candidates) := by
  cases c with
  | some c => exact logs_classifyFor c kernel message candidates
  | none =>
    exact ((logs_seed kernel message candidates).weaken.bind fun _ => logs_pure []).recover
      fun _ => logs_pure []

theorem logs_verdict (kernel : Kernel W) (message : String) (candidates : List Candidate) :
    Logs Lost watch (Decision.ask watch kernel message candidates)
      (Decision.ask watch.besideLog kernel.logged message candidates) := by
  have hv : Logs Anyhow watch
      (watch.run (kernel.verdict? (sanitize message) (candidates.map Candidate.verb)))
      (watch.besideLog.run
        (kernel.logged.verdict? (sanitize message) (candidates.map Candidate.verb))) :=
    (logs_logged _).run
  exact hv.recover fun _ => logs_pure none

theorem logs_make (corpus : Corpus) (c : Option (Classifier W)) (kernel : Option (Kernel W))
    (message : String) :
    Logs Lost watch (Decision.make watch corpus c kernel message)
      (Decision.make watch.besideLog corpus (c.map (Classifier.logged watch))
        (kernel.map Kernel.logged) message) := by
  refine logs_check.bind fun _ => ?_
  cases kernel with
  | none => exact logs_pure _
  | some kernel =>
    exact (logs_prepare c kernel message _).bind fun similar =>
      (logs_verdict kernel message _).bind fun verdict => logs_pure _

end

/-! Turns. -/

namespace Interpreter

variable {W : Type} {watch : Watch W}

theorem on_present (t : Interpreter W) (pieces : List String) (w : W) :
    (t.present pieces).on w = (.ok (), ((t.present pieces).on w).2) := by
  unfold present
  cases t.display <;> rfl

theorem on_present_logged (t : Interpreter W) (pieces : List String) (w : W) (log : List Fault) :
    ((t.logged watch).present pieces).on (w, log) = (.ok (), ((t.present pieces).on w).2, log) := by
  obtain ⟨completer, verbs, classifier, kernel, options, display⟩ := t
  cases display <;> rfl

theorem refusal?_of_none (t : Interpreter W) (watch : Watch W) (rule : String)
    (h : t.kernel = none) :
    t.refusal? watch rule =
      pure (match Rule.validateRule rule with
        | .ok _ => none
        | .error e => some (rule ++ " => " ++ e.message)) := by
  unfold refusal? Rule.validateRule
  rw [h]
  cases Rule.checkRule rule <;> rfl

theorem logs_refusal? (t : Interpreter W) (rule : String) :
    Logs Lost watch (t.refusal? watch rule) ((t.logged watch).refusal? watch.besideLog rule) := by
  obtain ⟨completer, verbs, classifier, kernel, options, display⟩ := t
  cases kernel with
  | some kernel =>
    have hv : Logs Anyhow watch (watch.run (kernel.validate rule))
        (watch.besideLog.run (kernel.logged.validate rule)) := (logs_logged _).run
    exact (hv.bind fun _ => logs_pure none).recover fun e => logs_pure _
  | none =>
    -- Nobody is asked: the form of the rule alone decides.
    rw [refusal?_of_none _ _ _ rfl, refusal?_of_none _ _ _ rfl]
    exact logs_pure _

theorem logs_validate (t : Interpreter W) (rules : List String) :
    Logs Lost watch (t.validate watch rules) ((t.logged watch).validate watch.besideLog rules) :=
  (logs_mapM (logs_refusal? t) rules).bind fun _ => logs_pure _

theorem logs_simplified (t : Interpreter W) (m : Matter) :
    Logs Lost watch (t.simplified watch m) ((t.logged watch).simplified watch.besideLog m) := by
  have hc : ∀ a : Ask, Logs Anyhow watch ((t.completer.complete watch a).map some)
      (((t.logged watch).completer.complete watch.besideLog a).map some) :=
    fun a => (logs_logged _).map some
  refine ((hc _).recover fun _ => logs_pure none).bind fun reply => ?_
  cases h : reply.bind (Reply.ofLine? m.corpus m.decision) with
  | none => exact logs_pure _
  | some i => exact logs_pure _

theorem logs_judge (t : Interpreter W) (m : Matter) (reply : String) :
    Logs Lost watch (t.judge watch m reply) ((t.logged watch).judge watch.besideLog m reply) := by
  unfold judge
  split
  · exact logs_pure _
  · exact (logs_validate t _).bind fun found => logs_pure _

/-- A stream that begins is shown, and ends with the reply or with a fault. -/
theorem on_askStream (t : Interpreter W) (watch : Watch W) (a : Ask) (w : W)
    {stream : Watch W → Ask → Act W Stream.Streamed} (h : t.completer.stream? = some stream) :
    (t.askStream watch a).on w =
      match (stream watch a).on w with
      | (.error e, v) => (if e.isCancelled then .error e else .ok none, v)
      | (.ok s, v) => (s.outcome.map fun g => some g.content, ((t.present s.surface).on v).2) := by
  unfold askStream
  rw [h]
  dsimp only
  rw [Act.on_bind, Act.on_recover, Act.on_map]
  rcases (stream watch a).on w with ⟨o, v⟩
  cases o with
  | error e => cases he : e.isCancelled <;> simp [Except.map, he]
  | ok s =>
    dsimp only [Except.map]
    rw [Act.on_bind, on_present]
    dsimp only
    cases s.outcome <;> rfl

theorem logs_askStream (t : Interpreter W) (a : Ask) :
    Logs Anyhow watch (t.askStream watch a) ((t.logged watch).askStream watch.besideLog a) := by
  cases hs : t.completer.stream? with
  | none =>
    have hs' : (t.logged watch).completer.stream? = none := by simp [logged, Completer.logged, hs]
    unfold askStream
    rw [hs, hs']
    exact logs_pure none
  | some stream =>
    have hs' : (t.logged watch).completer.stream? = some fun _ a =>
        (stream watch a).logging fun o => (o >>= Stream.Streamed.outcome).faults := by
      simp [logged, Completer.logged, hs]
    intro w log
    rw [on_askStream t watch a w hs, on_askStream _ _ a (w, log) hs', Act.on_logging]
    rcases (stream watch a).on w with ⟨o, v⟩
    cases o with
    | error e =>
      refine ⟨[e], rfl, ?_⟩
      dsimp only [Settled]
      cases he : e.isCancelled with
      | true => exact ⟨trivial, .inr ⟨[], rfl, fun f hf => by cases hf⟩⟩
      | false =>
        intro f hf
        cases List.mem_singleton.mp hf
        exact he
    | ok s =>
      dsimp only
      rw [on_present_logged]
      refine ⟨s.outcome.faults, rfl, ?_⟩
      cases s.outcome with
      | ok g =>
        intro f hf
        cases hf
      | error e => exact ⟨trivial, .inr ⟨[], rfl, fun f hf => by cases hf⟩⟩

theorem logs_askWhole (t : Interpreter W) (a : Ask) :
    Logs Anyhow watch (t.askWhole watch a) ((t.logged watch).askWhole watch.besideLog a) := by
  have hp : ∀ a, Logs Anyhow watch (t.completer.complete watch a)
      ((t.logged watch).completer.complete watch.besideLog a) := fun a => logs_logged _
  cases hs : t.completer.structured? with
  | none =>
    have hs' : (t.logged watch).completer.structured? = none := by
      simp [logged, Completer.logged, hs]
    unfold askWhole
    rw [hs, hs']
    exact hp _
  | some structured =>
    have hs' : (t.logged watch).completer.structured? =
        some fun _ a => (structured watch a).logged := by
      simp [logged, Completer.logged, hs]
    unfold askWhole
    rw [hs, hs']
    refine (logs_logged (structured watch a)).handle (fun reply => logs_pure reply) fun e => ?_
    cases e with
    | unsupported => exact .inr ⟨rfl, hp _⟩
    | _ => exact .inl ⟨trivial, rfl, rfl⟩

theorem logs_ask (t : Interpreter W) (a : Ask) (isFirst : Bool) :
    Logs Anyhow watch (t.ask watch a isFirst) ((t.logged watch).ask watch.besideLog a isFirst) := by
  have ho : (t.logged watch).options = t.options := rfl
  unfold ask
  rw [ho]
  split
  · refine (logs_askStream t a).bind fun streamed => ?_
    cases streamed with
    | some reply => exact logs_pure reply
    | none => exact logs_askWhole t a
  · refine (logs_pure none).bind fun streamed => ?_
    cases streamed with
    | some reply => exact logs_pure reply
    | none => exact logs_askWhole t a

theorem logs_tryOnce (t : Interpreter W) (m : Matter) (attempt : Nat) (faults : List String) :
    Logs Lost watch (t.tryOnce watch m attempt faults)
      ((t.logged watch).tryOnce watch.besideLog m attempt faults) := by
  refine (logs_ask t _ _).handle (fun reply => logs_judge t m reply) fun e => ?_
  cases he : e.isCancelled with
  | true => exact .inl ⟨he, by simp [he], by simp [he]⟩
  | false =>
    refine .inr ⟨rfl, ?_⟩
    simp only [he]
    exact (logs_simplified t m).bind fun i => logs_pure _

theorem logs_tryAll (t : Interpreter W) (m : Matter) (attempt : Nat) (faults : List String)
    (left : Nat) :
    Logs Lost watch (t.tryAll watch m attempt faults left)
      ((t.logged watch).tryAll watch.besideLog m attempt faults left) := by
  induction left generalizing attempt faults with
  | zero =>
    refine (logs_tryOnce t m attempt faults).bind fun r => ?_
    cases r with
    | settled r => exact logs_pure r
    | refused r faults => exact logs_pure _
  | succ left ih =>
    refine (logs_tryOnce t m attempt faults).bind fun r => ?_
    cases r with
    | settled r => exact logs_pure r
    | refused r faults => exact ih (attempt + 1) faults

theorem logs_read (t : Interpreter W) (text : String) (history : List Turn) (attempts : Nat) :
    Logs Lost watch (t.read watch text history attempts)
      ((t.logged watch).read watch.besideLog text history attempts) :=
  (logs_value t.verbs).bind fun corpus => (logs_make corpus _ _ text).bind fun d =>
    logs_tryAll t ⟨text, history, corpus, d⟩ 0 [] (attempts - 1)

theorem logs_record (t : Interpreter W) (i : Intent) :
    Logs Lost watch (t.record watch i) ((t.logged watch).record watch.besideLog i) := by
  obtain ⟨completer, verbs, classifier, kernel, options, display⟩ := t
  cases kernel with
  | none => exact logs_pure ()
  | some kernel =>
    have hr : Logs Anyhow watch (watch.run (kernel.retract Intent.predicate))
        (watch.besideLog.run (kernel.logged.retract Intent.predicate)) := (logs_logged _).run
    have ht : Logs Anyhow watch (watch.run (kernel.tell i.fact))
        (watch.besideLog.run (kernel.logged.tell i.fact)) := (logs_logged _).run
    cases hi : options.recordsIntent with
    | false =>
      simp only [record, logged, Option.map_some, hi]
      exact logs_pure ()
    | true =>
      simp only [record, logged, Option.map_some, hi]
      exact ((hr.bind fun _ => logs_pure ()).recover fun _ => logs_pure ()).bind fun _ =>
        ht.recover fun _ => logs_pure ()

theorem logs_interpret (t : Interpreter W) (text : String) (history : List Turn) (attempts : Nat) :
    Logs Lost watch (t.interpret watch text history attempts)
      ((t.logged watch).interpret watch.besideLog text history attempts) :=
  (logs_read t text history attempts).bind fun r => (logs_record t r.intent).bind fun _ =>
    logs_pure r

theorem logs_understanding (t : Interpreter W) (text : String) (history : List Turn) :
    Logs Lost watch (t.understanding watch text history)
      ((t.logged watch).understanding watch.besideLog text history) :=
  (logs_interpret t text history t.options.attempts).bind fun _ =>
    (logs_value t.verbs).bind fun _ => logs_pure _

/-- How a turn ends whose collaborators have returned these faults: with a result if none of them was a
loss of patience, and else with one, theirs or the caller's. -/
def Ended {α : Type} (watch : Watch W) (x : Outcome α × W) (faults : List Fault) : Prop :=
  ((∃ y, x.1 = .ok y) ∧ ∀ f ∈ faults, f.isCancelled = false) ∨
    ∃ reason, x.1 = .error (.cancelled reason) ∧
      (watch.fault? x.2 = some (.cancelled reason) ∨ .cancelled reason ∈ faults)

theorem ended_of_settled {α : Type} {x : Outcome α × W} {faults : List Fault}
    (h : Settled Lost watch x faults) : Ended watch x faults := by
  obtain ⟨o, v⟩ := x
  cases o with
  | ok y => exact .inl ⟨⟨y, rfl⟩, h⟩
  | error e =>
    obtain ⟨hl, hf⟩ := h
    have he : ∃ reason, e = .cancelled reason := by
      cases e with
      | cancelled reason => exact ⟨reason, rfl⟩
      | _ => cases hl
    obtain ⟨reason, rfl⟩ := he
    refine .inr ⟨reason, rfl, ?_⟩
    rcases hf with ⟨hw, -⟩ | ⟨before, rfl, -⟩
    · exact .inl hw
    · exact .inr (List.mem_append_right before List.mem_cons_self)

theorem ended_of_logs {α : Type} {a : Act W α} {b : Act (W × List Fault) α}
    (h : Logs Lost watch a b) (w : W) :
    ∃ log, b.on (w, []) = ((a.on w).1, (a.on w).2, log) ∧ Ended watch (a.on w) log := by
  obtain ⟨log, hb, hs⟩ := h w []
  exact ⟨log, hb, ended_of_settled hs⟩

/-- Whatever its collaborators do, a turn has a result or ends with a loss of patience; and the latter
only if the caller lost patience or a collaborator returned that very fault. All others are made up for,
as the log shows which the same turn writes beside the world. -/
theorem turn_ends (t : Interpreter W) (watch : Watch W) (text : String) (history : List Turn)
    (attempts : Nat) (w : W) :
    (∃ log,
      ((t.logged watch).interpret watch.besideLog text history attempts).on (w, []) =
        (((t.interpret watch text history attempts).on w).1,
          ((t.interpret watch text history attempts).on w).2, log) ∧
      Ended watch ((t.interpret watch text history attempts).on w) log) ∧
    ∃ log,
      ((t.logged watch).understanding watch.besideLog text history).on (w, []) =
        (((t.understanding watch text history).on w).1,
          ((t.understanding watch text history).on w).2, log) ∧
      Ended watch ((t.understanding watch text history).on w) log :=
  ⟨ended_of_logs (logs_interpret t text history attempts) w,
    ended_of_logs (logs_understanding t text history) w⟩

end Interpreter

end Utterance
