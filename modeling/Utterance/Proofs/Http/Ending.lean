import Utterance.Proofs.Http.Course

/-! How a request ends: its last round tells, that is, the last time it was sent and what the network has
returned for it. A round may also break the program down, by what the answer says about waiting. -/

namespace Utterance.Http

/-- The error in a body that asks for fewer requests. -/
def reported? (body : String) : Option String :=
  (Json.ofText? body).bind RateLimit.inPayload?

/-- One time that a request is sent, what the network returns for it, the text of the body if that is whole,
and the time outside then. -/
structure Round where
  withSchema : Bool
  answer : Except SendError Answer
  text : String
  date : Int

/-- The round of what a network has returned in a world. -/
def Network.round {W : Type} (n : Network W) (withSchema : Bool) (answer : Except SendError Answer) (w : W) :
    Round where
  withSchema
  answer
  text := (answer.toOption.map n.text).getD ""
  date := n.date w

namespace Round

/-- What can be read of an answer; nothing if the connection breaks off. -/
def body? (r : Round) (a : Answer) : Option String :=
  if a.ending = .complete then some r.text else none

/-- The words of an answer; none if the connection breaks off. -/
def words (r : Round) (a : Answer) : String := (r.body? a).getD ""

/-- The server asks for a wait that is more than a span can hold, and does not say that all went well. -/
def Crashes (r : Round) : Prop :=
  ∃ a, r.answer = .ok a ∧ ¬a.isSuccess ∧ a.wait r.date = .beyond

/-- Whether the server asks for the request without its schema. -/
def isDowngrade (r : Round) : Bool :=
  match r.answer with
  | .ok a => a.wait r.date ≠ .beyond && a.status = 400 && r.withSchema && RateLimit.mentionsSchema (r.words a)
  | .error _ => false

/-- All went well, and this is the body. -/
def Accepts (r : Round) (body : String) : Prop :=
  ∃ a, r.answer = .ok a ∧ a.isSuccess ∧ r.body? a = some body ∧ reported? body = none

/-- The server refuses the request for good, with this status and these words. -/
def Refuses (r : Round) (status : Nat) (words : String) : Prop :=
  ∃ a, r.answer = .ok a ∧ a.status = status ∧ r.words a = words ∧ ¬a.isSuccess ∧ ¬a.isServerError ∧
    a.status ≠ 429 ∧ ¬RateLimit.isMarked (r.words a) ∧ ¬r.isDowngrade ∧ ¬r.Crashes

/-- The server asks for fewer requests: by the error in the body where it says that all went well, and
otherwise by its status or its words, perhaps after this wait. -/
def Limits (r : Round) (wait : Option Span) (text : String) : Prop :=
  ∃ a, r.answer = .ok a ∧
    ((a.isSuccess ∧ wait = none ∧
        ∃ body error, r.body? a = some body ∧ reported? body = some error ∧
          text = "error payload: " ++ error) ∨
      (¬a.isSuccess ∧ (a.status = 429 ∨ RateLimit.isMarked (r.words a)) ∧ ¬r.isDowngrade ∧ ¬r.Crashes ∧
        wait = (a.wait r.date).span? ∧ text = statusText a.status (r.words a)))

/-- The server cannot be reached, breaks off where all went well, or has failed without asking for fewer
requests. -/
def Breaks (r : Round) (text : String) : Prop :=
  (∃ e, r.answer = .error e ∧ text = e.message) ∨
    ∃ a, r.answer = .ok a ∧
      ((a.isSuccess ∧ r.body? a = none ∧ text = brokenText) ∨
        (a.isServerError ∧ a.status ≠ 429 ∧ ¬RateLimit.isMarked (r.words a) ∧ ¬r.Crashes ∧
          text = statusText a.status (r.words a)))

/-- The request may be sent once more behind this round. -/
def Fails (r : Round) : Prop :=
  (∃ wait text, r.Limits wait text) ∨ ∃ text, r.Breaks text

end Round

namespace Channel

variable {W : Type} {c : Channel W} {watch : Watch W} {request : Bool → Request}

/-- What an attempt comes to in a round. -/
def verdict (c : Channel W) (r : Round) : Attempt String :=
  match r.answer with
  | .error e => .failed (.transport c.provider e.message)
  | .ok a =>
    if a.isSuccess then c.received (r.body? a)
    else if a.wait r.date = .beyond then .crashed
    else c.judge r.withSchema (a.wait r.date).span? a.status a.isServerError (r.words a)

/-! The verdict of a round. -/

section

variable {r : Round}

theorem crashes_iff {a : Answer} (h : r.answer = .ok a) :
    r.Crashes ↔ ¬a.isSuccess ∧ a.wait r.date = .beyond := by
  constructor
  · rintro ⟨b, hb, hs⟩
    cases h.symm.trans hb
    exact hs
  · exact fun hs => ⟨a, h, hs⟩

theorem isDowngrade_of_answer {a : Answer} (h : r.answer = .ok a) : r.isDowngrade =
    (a.wait r.date ≠ .beyond && a.status = 400 && r.withSchema && RateLimit.mentionsSchema (r.words a)) := by
  rw [Round.isDowngrade, h]

/-- An answer that breaks nothing and does not say that all went well is judged. -/
theorem verdict_of_not_crashes {a : Answer} (ha : r.answer = .ok a) (hs : ¬a.isSuccess) (hc : ¬r.Crashes) :
    c.verdict r = c.judge r.withSchema (a.wait r.date).span? a.status a.isServerError (r.words a) ∧
      r.isDowngrade = (a.status = 400 && r.withSchema && RateLimit.mentionsSchema (r.words a)) := by
  have hw : a.wait r.date ≠ .beyond := fun hw => hc ((crashes_iff ha).mpr ⟨hs, hw⟩)
  rw [isDowngrade_of_answer ha]
  simp only [verdict, ha, if_neg hs, if_neg hw]
  exact ⟨trivial, by simp [hw]⟩

theorem verdict_of_accepts {body : String} (h : r.Accepts body) : c.verdict r = .accepted body := by
  obtain ⟨a, ha, hs, hb, hr⟩ := h
  rw [reported?] at hr
  simp only [verdict, ha, if_pos hs, hb, received, hr]

theorem verdict_of_refuses {status : Nat} {words : String} (h : r.Refuses status words) :
    c.verdict r = .refused (.ofStatus c.provider status words) := by
  obtain ⟨a, ha, rfl, rfl, hs, he, hn, hm, hd, hc⟩ := h
  obtain ⟨hv, hdowngrade⟩ := verdict_of_not_crashes (c := c) ha hs hc
  rw [hdowngrade] at hd
  simp only [hv, judge, if_neg hd]
  simp [hn, hm, he]

theorem verdict_of_limits {wait : Option Span} {text : String} (h : r.Limits wait text) :
    c.verdict r = .failed (.rateLimited c.provider wait text) := by
  obtain ⟨a, ha, ⟨hs, rfl, body, error, hb, hr, rfl⟩ | ⟨hs, hl, hd, hc, rfl, rfl⟩⟩ := h
  · rw [reported?] at hr
    simp only [verdict, ha, if_pos hs, hb, received, hr]
  · obtain ⟨hv, hdowngrade⟩ := verdict_of_not_crashes (c := c) ha hs hc
    rw [hdowngrade] at hd
    have hl : (a.status = 429 || RateLimit.isMarked (r.words a)) = true := by simpa using hl
    simp only [hv, judge, if_neg hd, if_pos hl]

theorem verdict_of_breaks {text : String} (h : r.Breaks text) :
    c.verdict r = .failed (.transport c.provider text) := by
  obtain ⟨e, he, rfl⟩ | ⟨a, ha, ⟨hs, hb, rfl⟩ | ⟨he, hn, hm, hc, rfl⟩⟩ := h
  · simp only [verdict, he]
  · simp only [verdict, ha, if_pos hs, hb, received]
  · have hrange : 500 ≤ a.status ∧ a.status < 600 := by simpa [Answer.isServerError] using he
    have hs : ¬a.isSuccess := by
      simp [Answer.isSuccess]
      omega
    have hd : a.status ≠ 400 := by omega
    obtain ⟨hv, -⟩ := verdict_of_not_crashes (c := c) ha hs hc
    simp only [hv, judge]
    simp [hd, hn, hm, he]

theorem verdict_of_crashes (h : r.Crashes) : c.verdict r = .crashed := by
  obtain ⟨a, ha, hs, hw⟩ := h
  simp only [verdict, ha, if_neg hs, if_pos hw]

theorem verdict_of_isDowngrade (h : r.isDowngrade) : c.verdict r = .unknownSchema := by
  cases ha : r.answer with
  | error e =>
    rw [Round.isDowngrade, ha] at h
    cases h
  | ok a =>
    obtain ⟨hw, hstatus⟩ : a.wait r.date ≠ .beyond ∧ a.status = 400 := by
      rw [isDowngrade_of_answer ha] at h
      simp only [Bool.and_eq_true, decide_eq_true_eq] at h
      exact h.1.1
    have hs : ¬a.isSuccess := by simp [Answer.isSuccess, hstatus]
    obtain ⟨hv, hdowngrade⟩ :=
      verdict_of_not_crashes (c := c) ha hs fun hc => hw ((crashes_iff ha).mp hc).2
    rw [hdowngrade] at h
    simp only [hv, judge, if_pos h]

/-- Every round is of one of six kinds. -/
theorem exists_of_round (r : Round) :
    (∃ body, r.Accepts body) ∨ (∃ status words, r.Refuses status words) ∨
      (∃ wait text, r.Limits wait text) ∨ (∃ text, r.Breaks text) ∨ r.Crashes ∨ r.isDowngrade := by
  cases ha : r.answer with
  | error e => exact .inr (.inr (.inr (.inl ⟨_, .inl ⟨e, ha, rfl⟩⟩)))
  | ok a =>
    by_cases hs : a.isSuccess
    · cases hb : r.body? a with
      | none => exact .inr (.inr (.inr (.inl ⟨_, .inr ⟨a, ha, .inl ⟨hs, hb, rfl⟩⟩⟩)))
      | some body =>
        cases hr : reported? body with
        | none => exact .inl ⟨body, a, ha, hs, hb, hr⟩
        | some error =>
          exact .inr (.inr (.inl ⟨_, _, a, ha, .inl ⟨hs, rfl, body, error, hb, hr, rfl⟩⟩))
    · by_cases hc : r.Crashes
      · exact .inr (.inr (.inr (.inr (.inl hc))))
      by_cases hd : r.isDowngrade
      · exact .inr (.inr (.inr (.inr (.inr hd))))
      by_cases hl : a.status = 429 ∨ RateLimit.isMarked (r.words a)
      · exact .inr (.inr (.inl ⟨_, _, a, ha, .inr ⟨hs, hl, hd, hc, rfl, rfl⟩⟩))
      obtain ⟨hn, hm⟩ := not_or.mp hl
      by_cases he : a.isServerError
      · exact .inr (.inr (.inr (.inl ⟨_, .inr ⟨a, ha, .inr ⟨he, hn, hm, hc, rfl⟩⟩⟩)))
      · exact .inr (.inl ⟨_, _, a, ha, rfl, rfl, hs, he, hn, hm, hd, hc⟩)

theorem exists_verdict_of_fails (c : Channel W) (h : r.Fails) : ∃ e, c.verdict r = .failed e := by
  obtain ⟨wait, text, h⟩ | ⟨text, h⟩ := h
  · exact ⟨_, verdict_of_limits h⟩
  · exact ⟨_, verdict_of_breaks h⟩

end

/-! The rounds of a delivery. -/

theorem of_on_readBody {a : Answer} (ha : a.ending ≠ .never) {body : Option String} {w v : W}
    (h : (c.readBody watch a).on w = (.ok body, v)) :
    v = w ∧ body = if a.ending = .complete then some (c.network.text a) else none := by
  unfold readBody at h
  obtain ⟨_, u, hc, h⟩ := Act.exists_of_bind h
  rw [Act.eq_of_on_check hc] at h
  cases he : a.ending with
  | complete =>
    rw [he] at h
    cases h
    exact ⟨rfl, rfl⟩
  | broken =>
    rw [he] at h
    cases h
    exact ⟨rfl, rfl⟩
  | never => exact absurd he ha

theorem of_on_bodyOf {a : Answer} (ha : a.ending ≠ .never) (hs : a.isSuccess) (withSchema : Bool)
    {x : Attempt String} {w v : W} (h : (c.bodyOf watch a).on w = (.ok x, v)) :
    v = w ∧ x = c.verdict (c.network.round withSchema (.ok a) w) := by
  have hverdict : c.verdict (c.network.round withSchema (.ok a) w) =
      c.received ((c.network.round withSchema (.ok a) w).body? a) := if_pos hs
  unfold bodyOf at h
  obtain ⟨body, u, hread, hx⟩ := Act.exists_of_bind h
  obtain ⟨rfl, hbody⟩ := of_on_readBody ha hread
  rw [hverdict, show (c.network.round withSchema (.ok a) u).body? a = body from hbody.symm]
  cases hx
  exact ⟨rfl, rfl⟩

theorem of_on_decline {a : Answer} (ha : a.ending ≠ .never) (hs : ¬a.isSuccess) {withSchema : Bool}
    {x : Attempt String} {w v : W} (h : (c.decline watch withSchema a).on w = (.ok x, v)) :
    v = w ∧ x = c.verdict (c.network.round withSchema (.ok a) w) := by
  have hverdict : c.verdict (c.network.round withSchema (.ok a) w) =
      if a.wait (c.network.date w) = .beyond then .crashed
      else c.judge withSchema (a.wait (c.network.date w)).span? a.status a.isServerError
        ((c.network.round withSchema (.ok a) w).words a) := if_neg hs
  unfold decline at h
  rw [Act.on_bind_ok (Act.on_get w)] at h
  rw [hverdict]
  dsimp only at h
  split at h
  case isTrue hw =>
    cases h
    exact ⟨rfl, (if_pos hw).symm⟩
  case isFalse hw =>
    obtain ⟨body, u, hread, h⟩ := Act.exists_of_bind h
    obtain ⟨rfl, hbody⟩ := of_on_readBody ha hread
    have hround : body = (c.network.round withSchema (.ok a) u).body? a := hbody
    rw [if_neg hw, Round.words, ← hround]
    cases h
    exact ⟨rfl, rfl⟩

theorem of_on_judged {answer : Except SendError Answer} (ha : HasEnd answer) {withSchema : Bool}
    {x : Attempt String} {w v : W}
    (h : (c.judged watch (c.bodyOf watch) withSchema answer).on w = (.ok x, v)) :
    v = w ∧ x = c.verdict (c.network.round withSchema answer w) := by
  cases answer with
  | error e =>
    cases h
    exact ⟨rfl, rfl⟩
  | ok a =>
    unfold judged at h
    dsimp only at h
    split at h
    case isTrue hs => exact of_on_bodyOf (ha a rfl) hs withSchema h
    case isFalse hs => exact of_on_decline (ha a rfl) hs h

/-- How rounds lead from one world to another: each request is sent behind a wait, if there is one, and at the
pace of the gate, and there are no others. -/
inductive Passed (c : Channel W) (watch : Watch W) (request : Bool → Request) :
    W → List Round → W → Prop
  | done (w : W) : Passed c watch request w [] w
  | next {w paced sent v : W} {withSchema : Bool} {answer : Except SendError Answer} {rounds : List Round}
      (wait : Option Span)
      (hpaced : (Gate.pace c.gate watch).on (watch.waited wait w) = (.ok (), paced))
      (hsent : c.network.send (request withSchema) paced = (answer, sent))
      (rest : Passed c watch request sent rounds v) :
      Passed c watch request w (c.network.round withSchema answer sent :: rounds) v

/-- The tries of a delivery are rounds with their verdicts. -/
theorem exists_passed_of_course (hn : c.network.Ends) {w v : W} {tries : List (Try String)}
    (hc : Course c watch request (c.bodyOf watch) w tries v) :
    ∃ rounds, Passed c watch request w rounds v ∧
      tries.map Try.outcome = rounds.map c.verdict ∧
      tries.map Try.withSchema = rounds.map Round.withSchema := by
  induction hc with
  | done w => exact ⟨[], .done w, rfl, rfl⟩
  | @next w paced sent judged v t tries answer hpaced hsent hjudged rest ih =>
    have ha : HasEnd answer := by
      rintro a rfl
      exact hn _ _ a sent hsent
    obtain ⟨rfl, houtcome⟩ := of_on_judged ha hjudged
    obtain ⟨rounds, hpassed, houtcomes, hschemas⟩ := ih
    refine ⟨_, .next t.wait hpaced hsent hpassed, ?_, ?_⟩
    · rw [List.map_cons, List.map_cons, houtcomes, houtcome]
    · rw [List.map_cons, List.map_cons, hschemas]
      rfl

/-! The last round. -/

section

variable {last : Round} {failures : Nat} {o : Outcome (Option String)}
  (ho : c.backoff.Closes failures o (c.verdict last))
include ho

/-- The last round is of one of five kinds, and each has its outcome. -/
theorem outcome_cases :
    (∃ body, last.Accepts body ∧ o = .ok (some body)) ∨
      (∃ status words, last.Refuses status words ∧ o = .error (.ofStatus c.provider status words)) ∨
      (∃ wait text, last.Limits wait text ∧ o = .error (.rateLimited c.provider wait text) ∧
        ¬c.backoff.IsStuck failures) ∨
      (∃ text, last.Breaks text ∧ o = .error (.transport c.provider text) ∧
        ¬c.backoff.IsStuck failures) ∨
      (last.Crashes ∨ (last.Fails ∧ c.backoff.IsStuck failures)) ∧ o = .ok none := by
  obtain ⟨body, h⟩ | ⟨status, words, h⟩ | ⟨wait, text, h⟩ | ⟨text, h⟩ | h | h := exists_of_round last
  · rw [verdict_of_accepts h] at ho
    exact .inl ⟨body, h, ho⟩
  · rw [verdict_of_refuses h] at ho
    exact .inr (.inl ⟨status, words, h, ho⟩)
  · rw [verdict_of_limits h] at ho
    obtain ⟨ho, rfl⟩ | ⟨ho, hs⟩ := ho
    · exact .inr (.inr (.inl ⟨wait, text, h, ho, c.backoff.not_isStuck_spent⟩))
    · exact .inr (.inr (.inr (.inr ⟨.inr ⟨.inl ⟨wait, text, h⟩, hs⟩, ho⟩)))
  · rw [verdict_of_breaks h] at ho
    obtain ⟨ho, rfl⟩ | ⟨ho, hs⟩ := ho
    · exact .inr (.inr (.inr (.inl ⟨text, h, ho, c.backoff.not_isStuck_spent⟩)))
    · exact .inr (.inr (.inr (.inr ⟨.inr ⟨.inr ⟨text, h⟩, hs⟩, ho⟩)))
  · rw [verdict_of_crashes h] at ho
    exact .inr (.inr (.inr (.inr ⟨.inl h, ho⟩)))
  · rw [verdict_of_isDowngrade h] at ho
    exact ho.elim

theorem eq_ok_iff (body : String) : o = .ok (some body) ↔ last.Accepts body := by
  constructor
  · rintro rfl
    obtain ⟨_, h, ⟨⟩⟩ | ⟨_, _, _, ⟨⟩⟩ | ⟨_, _, _, ⟨⟩, _⟩ | ⟨_, _, ⟨⟩, _⟩ | ⟨_, ⟨⟩⟩ := outcome_cases ho
    exact h
  · intro h
    rw [verdict_of_accepts h] at ho
    exact ho

theorem eq_provider_iff (status : Nat) (text : String) :
    o = .error (.provider c.provider status text) ↔
      ∃ words, last.Refuses status words ∧ text = excerpt words := by
  constructor
  · rintro rfl
    obtain ⟨_, _, ⟨⟩⟩ | ⟨_, words, h, ⟨⟩⟩ | ⟨_, _, _, ⟨⟩, _⟩ | ⟨_, _, ⟨⟩, _⟩ | ⟨_, ⟨⟩⟩ := outcome_cases ho
    exact ⟨words, h, rfl⟩
  · rintro ⟨words, h, rfl⟩
    rw [verdict_of_refuses h] at ho
    exact ho

theorem eq_rateLimited_iff (wait : Option Span) (text : String) :
    o = .error (.rateLimited c.provider wait text) ↔
      last.Limits wait text ∧ ¬c.backoff.IsStuck failures := by
  constructor
  · rintro rfl
    obtain ⟨_, _, ⟨⟩⟩ | ⟨_, _, _, ⟨⟩⟩ | ⟨_, _, h, ⟨⟩, hs⟩ | ⟨_, _, ⟨⟩, _⟩ | ⟨_, ⟨⟩⟩ := outcome_cases ho
    exact ⟨h, hs⟩
  · rintro ⟨h, hs⟩
    rw [verdict_of_limits h] at ho
    exact (ho.resolve_right fun ho => hs ho.2).1

theorem eq_transport_iff (text : String) :
    o = .error (.transport c.provider text) ↔ last.Breaks text ∧ ¬c.backoff.IsStuck failures := by
  constructor
  · rintro rfl
    obtain ⟨_, _, ⟨⟩⟩ | ⟨_, _, _, ⟨⟩⟩ | ⟨_, _, _, ⟨⟩, _⟩ | ⟨_, h, ⟨⟩, hs⟩ | ⟨_, ⟨⟩⟩ := outcome_cases ho
    exact ⟨h, hs⟩
  · rintro ⟨h, hs⟩
    rw [verdict_of_breaks h] at ho
    exact (ho.resolve_right fun ho => hs ho.2).1

theorem eq_none_iff :
    o = .ok none ↔ last.Crashes ∨ (last.Fails ∧ c.backoff.IsStuck failures) := by
  constructor
  · rintro rfl
    obtain ⟨_, _, ⟨⟩⟩ | ⟨_, _, _, ⟨⟩⟩ | ⟨_, _, _, ⟨⟩, _⟩ | ⟨_, _, ⟨⟩, _⟩ | ⟨h, -⟩ := outcome_cases ho
    exact h
  · rintro (h | ⟨hf, hs⟩)
    · rw [verdict_of_crashes h] at ho
      exact ho
    · obtain ⟨e, h⟩ := exists_verdict_of_fails c hf
      rw [h] at ho
      exact (ho.resolve_left fun ho => c.backoff.not_isStuck_spent (ho.2 ▸ hs)).1

theorem eq_of_fails (hf : last.Fails) (hn : o ≠ .ok none) : failures = c.backoff.retries + 1 := by
  obtain ⟨e, h⟩ := exists_verdict_of_fails c hf
  rw [h] at ho
  exact (ho.resolve_right fun ho => hn ho.1).2

theorem provider?_of_outcome {e : Fault} (he : o = .error e) : e.provider? = some c.provider := by
  subst he
  obtain ⟨_, _, ⟨⟩⟩ | ⟨_, _, _, ⟨⟩⟩ | ⟨_, _, _, ⟨⟩, _⟩ | ⟨_, _, ⟨⟩, _⟩ | ⟨_, ⟨⟩⟩ := outcome_cases ho
  all_goals rfl

end

/-- How a request ends that was sent in the rounds `before` and then in the round `last`. -/
structure Concluded (c : Channel W) (hasSchema : Bool) (before : List Round) (last : Round)
    (o : Outcome (Option String)) : Prop where
  accepted : ∀ body, o = .ok (some body) ↔ last.Accepts body
  refused : ∀ status text, o = .error (.provider c.provider status text) ↔
    ∃ words, last.Refuses status words ∧ text = excerpt words
  limited : ∀ wait text, o = .error (.rateLimited c.provider wait text) ↔
    last.Limits wait text ∧ ¬c.backoff.IsStuck ((before ++ [last]).countP (!·.isDowngrade))
  broken : ∀ text, o = .error (.transport c.provider text) ↔
    last.Breaks text ∧ ¬c.backoff.IsStuck ((before ++ [last]).countP (!·.isDowngrade))
  /-- The program breaks down over what the last answer says about waiting, or over its own wait. -/
  crashed : o = .ok none ↔ last.Crashes ∨
    (last.Fails ∧ c.backoff.IsStuck ((before ++ [last]).countP (!·.isDowngrade)))
  /-- A request that is neither accepted nor refused for good is given up when no retry is left; a round in
  which the schema is given up uses none. -/
  spent : (∀ body, ¬last.Accepts body) → (∀ status words, ¬last.Refuses status words) → o ≠ .ok none →
    last.Fails ∧ (before ++ [last]).countP (!·.isDowngrade) = c.backoff.retries + 1
  /-- Nothing is sent behind a round that accepts, refuses or breaks the program down. -/
  earlier : ∀ r ∈ before, (∀ body, ¬r.Accepts body) ∧ (∀ status words, ¬r.Refuses status words) ∧ ¬r.Crashes
  /-- The schema is left out behind the round in which it is given up. -/
  schema : ∀ front r back, before ++ [last] = front ++ r :: back →
    r.withSchema = (hasSchema && !front.any Round.isDowngrade)
  /-- Every fault names the provider. -/
  provider : ∀ e, o = .error e → e.provider? = some c.provider

theorem isUnknownSchema_verdict (r : Round) : (c.verdict r).isUnknownSchema = r.isDowngrade := by
  by_cases hd : r.isDowngrade
  · rw [verdict_of_isDowngrade hd, hd]
    rfl
  · rw [Bool.not_eq_true] at hd
    rw [hd]
    obtain ⟨_, h⟩ | ⟨_, _, h⟩ | ⟨_, _, h⟩ | ⟨_, h⟩ | h | h := exists_of_round r
    · rw [verdict_of_accepts h]
      rfl
    · rw [verdict_of_refuses h]
      rfl
    · rw [verdict_of_limits h]
      rfl
    · rw [verdict_of_breaks h]
      rfl
    · rw [verdict_of_crashes h]
      rfl
    · rw [hd] at h
      cases h

/-- Tries whose outcomes are the verdicts of rounds give up the schema just where these do. -/
theorem any_isDowngrade {tries : List (Try String)} {rounds : List Round}
    (h : tries.map Try.outcome = rounds.map c.verdict) :
    tries.any Try.isDowngrade = rounds.any Round.isDowngrade := by
  have ht : tries.any Try.isDowngrade = (tries.map Try.outcome).any Attempt.isUnknownSchema := by
    rw [List.any_map]
    rfl
  have hr : (Attempt.isUnknownSchema ∘ c.verdict) = Round.isDowngrade :=
    funext isUnknownSchema_verdict
  rw [ht, h, List.any_map, hr]

/-- The failures among tries none of which ends a delivery are those that do not give up the schema. -/
theorem countP_isFailure {tries : List (Try String)} {rounds : List Round}
    (h : tries.map Try.outcome = rounds.map c.verdict)
    (hf : ∀ t ∈ tries, t.isFailure ∨ t.isDowngrade) :
    tries.countP Try.isFailure = rounds.countP (!·.isDowngrade) := by
  have ht : tries.countP Try.isFailure = (tries.map Try.outcome).countP (!·.isUnknownSchema) := by
    rw [List.countP_map]
    refine List.countP_congr fun t hm => ?_
    obtain ⟨wait, withSchema, outcome⟩ := t
    have hkind := hf _ hm
    cases outcome <;>
      simp_all [Try.isFailure, Try.isDowngrade, Attempt.isFailed, Attempt.isUnknownSchema]
  have hr : ((!·.isUnknownSchema) ∘ c.verdict) = fun r : Round => !r.isDowngrade :=
    funext fun r => congrArg (!·) (isUnknownSchema_verdict r)
  rw [ht, h, List.countP_map, hr]

theorem not_last_of_verdict {r : Round} (h : (c.verdict r).isFailed ∨ (c.verdict r).isUnknownSchema) :
    (∀ body, ¬r.Accepts body) ∧ (∀ status words, ¬r.Refuses status words) ∧ ¬r.Crashes := by
  refine ⟨fun body ha => ?_, fun status words ha => ?_, fun ha => ?_⟩
  · rw [verdict_of_accepts ha] at h
    exact h.elim (fun h => by cases h) fun h => by cases h
  · rw [verdict_of_refuses ha] at h
    exact h.elim (fun h => by cases h) fun h => by cases h
  · rw [verdict_of_crashes ha] at h
    exact h.elim (fun h => by cases h) fun h => by cases h

/-- Rounds have their schemas as the tries of a plan whose outcomes are their verdicts. -/
theorem withSchema_of_plan {hasSchema : Bool} {tries : List (Try String)} {o : Outcome (Option String)}
    (h : Plan c.backoff hasSchema 0 none tries o) {front back : List Round} {r : Round}
    (houtcomes : tries.map Try.outcome = (front ++ r :: back).map c.verdict)
    (hschemas : tries.map Try.withSchema = (front ++ r :: back).map Round.withSchema) :
    r.withSchema = (hasSchema && !front.any Round.isDowngrade) := by
  rw [List.map_append] at houtcomes hschemas
  obtain ⟨before, rest, rfl, hbefore, hrest⟩ := List.map_eq_append_iff.mp houtcomes
  obtain ⟨t, after, rfl, -, -⟩ := List.map_eq_cons_iff.mp hrest
  have hlength : (before.map Try.withSchema).length = (front.map Round.withSchema).length := by
    simpa using congrArg List.length hbefore
  rw [List.map_append] at hschemas
  obtain ⟨-, hschema⟩ := List.append_inj hschemas hlength
  rw [← (List.cons.inj hschema).1, h.schema rfl, any_isDowngrade hbefore]

/-- The rounds whose verdicts are those of a plan end as it does. -/
theorem exists_concluded_of_plan {hasSchema : Bool} {tries : List (Try String)} {o : Outcome (Option String)}
    (h : Plan c.backoff hasSchema 0 none tries o) {rounds : List Round}
    (houtcomes : tries.map Try.outcome = rounds.map c.verdict)
    (hschemas : tries.map Try.withSchema = rounds.map Round.withSchema) :
    ∃ before last, rounds = before ++ [last] ∧ Concluded c hasSchema before last o := by
  obtain ⟨front, t, rfl, hclose, hfront⟩ := h.exists_concat
  obtain ⟨before, back, rfl, hbefore, hback⟩ :=
    List.append_eq_map_iff.mp (List.map_append.symm.trans houtcomes)
  obtain ⟨last, rfl, hverdict⟩ : ∃ last, back = [last] ∧ c.verdict last = t.outcome :=
    List.map_eq_singleton_iff.mp hback
  have hearlier : ∀ r ∈ before, (c.verdict r).isFailed ∨ (c.verdict r).isUnknownSchema := by
    intro r hr
    have hm : c.verdict r ∈ front.map Try.outcome := hbefore ▸ List.mem_map_of_mem hr
    obtain ⟨u, hu, hru⟩ := List.mem_map.mp hm
    rw [← hru]
    exact hfront u hu
  have ho : c.backoff.Closes ((before ++ [last]).countP (!·.isDowngrade)) o (c.verdict last) := by
    rw [hverdict]
    refine hclose.congr fun hfailed => ?_
    refine countP_isFailure houtcomes fun u hu => ?_
    obtain hu | rfl := by simpa using hu
    · exact hfront u hu
    · exact .inl hfailed
  refine ⟨before, last, rfl, ?_⟩
  exact
    { accepted := eq_ok_iff ho
      refused := eq_provider_iff ho
      limited := eq_rateLimited_iff ho
      broken := eq_transport_iff ho
      crashed := eq_none_iff ho
      spent := by
        intro ha hr hn
        obtain ⟨body, h, -⟩ | ⟨status, words, h, -⟩ | ⟨wait, text, h, -⟩ | ⟨text, h, -⟩ | ⟨-, h⟩ :=
          outcome_cases ho
        · exact absurd h (ha body)
        · exact absurd h (hr status words)
        · exact ⟨.inl ⟨wait, text, h⟩, eq_of_fails ho (.inl ⟨wait, text, h⟩) hn⟩
        · exact ⟨.inr ⟨text, h⟩, eq_of_fails ho (.inr ⟨text, h⟩) hn⟩
        · exact absurd h hn
      earlier := fun r hr => not_last_of_verdict (hearlier r hr)
      schema := by
        intro front r back hs
        rw [hs] at houtcomes hschemas
        exact withSchema_of_plan h houtcomes hschemas
      provider := fun e he => provider?_of_outcome ho he }

/-! A request with its permit. -/

theorem exists_on_acquire {w : W} (hw : watch.fault? w = none)
    (hfree : (c.gate.read w).available ≠ some 0) :
    ∃ held u, (Gate.acquire c.gate watch).on w = (.ok held, u) := by
  have hg : c.gate.value.on w = (.ok (c.gate.read w), w) := rfl
  have hcheck : watch.check.on w = (.ok (), w) := by rw [Act.on_check, hw]
  unfold Gate.acquire
  rw [Act.on_bind_ok hg]
  cases ha : (c.gate.read w).available with
  | none => exact ⟨false, w, rfl⟩
  | some n =>
    cases n with
    | zero => exact absurd ha hfree
    | succ n => exact ⟨true, _, Act.on_bind_ok hcheck _⟩

theorem on_release (held : Bool) (w : W) : ∃ v, (c.release held).on w = (.ok (), v) := by
  cases held <;> exact ⟨_, rfl⟩

theorem on_permitted_ok {α : Type} {a : Act W α} {held : Bool} {w u v : W} {x : α}
    (hacquired : (Gate.acquire c.gate watch).on w = (.ok held, u)) (ha : a.on u = (.ok x, v)) :
    (c.permitted watch a).on w = (.ok (x, held), v) := by
  have ha : a.attempt.on u = (.ok (.ok x), v) := by rw [Act.on_attempt, ha]
  unfold permitted
  rw [Act.on_bind_ok hacquired, Act.on_bind_ok ha]
  rfl

theorem on_permitted_error {α : Type} {a : Act W α} {held : Bool} {w u v : W} {e : Fault}
    (hacquired : (Gate.acquire c.gate watch).on w = (.ok held, u)) (ha : a.on u = (.error e, v)) :
    (c.permitted watch a).on w = (.error e, ((c.release held).on v).2) := by
  have ha : a.attempt.on u = (.ok (.error e), v) := by rw [Act.on_attempt, ha]
  obtain ⟨v', hr⟩ := on_release (c := c) held v
  unfold permitted
  rw [Act.on_bind_ok hacquired, Act.on_bind_ok ha]
  dsimp only
  rw [Act.on_bind_ok hr, hr]
  rfl

/-- A request ends as its delivery does, and gives its permit back. -/
theorem on_fetch {hasSchema held : Bool} {w u v : W} {o : Outcome (Option String)}
    (hacquired : (Gate.acquire c.gate watch).on w = (.ok held, u))
    (hdelivered : (c.deliver watch request hasSchema (c.bodyOf watch)).on u = (o, v)) :
    (c.fetch watch request hasSchema).on w = (o, ((c.release held).on v).2) := by
  unfold fetch
  cases o with
  | ok body =>
    obtain ⟨v', hr⟩ := on_release (c := c) held v
    rw [Act.on_bind_ok (on_permitted_ok hacquired hdelivered)]
    dsimp only
    rw [Act.on_bind_ok hr, hr]
    rfl
  | error e =>
    rw [Act.on_bind, on_permitted_error hacquired hdelivered]

/-- The last round of a request tells how it ends, whatever the network returns in any of them, where a
permit is free, unless the caller stops it. It ends without an outcome just where the program breaks down. -/
theorem fetch_concluded (c : Channel W) (watch : Watch W) (hclock : watch.clock.Retains)
    (hn : c.network.Ends) (request : Bool → Request) (hasSchema : Bool) {w : W}
    (hw : watch.fault? w = none) (hfree : (c.gate.read w).available ≠ some 0) :
    ∃ held u v o,
      (Gate.acquire c.gate watch).on w = (.ok held, u) ∧
        (c.deliver watch request hasSchema (c.bodyOf watch)).on u = (o, v) ∧
        (c.fetch watch request hasSchema).on w = (o, ((c.release held).on v).2) ∧
        ((∃ e, o = .error e ∧ watch.HasStopped e v) ∨
          ∃ before last, Passed c watch request u (before ++ [last]) v ∧
            Concluded c hasSchema before last o) := by
  obtain ⟨held, u, hacquired⟩ := exists_on_acquire hw hfree
  have hf : Follows c watch request (c.bodyOf watch) hasSchema 0 none _ :=
    follows_deliver hclock (takes_bodyOf c) hn hasSchema
  cases hd : (c.deliver watch request hasSchema (c.bodyOf watch)).on u with
  | mk o v =>
    refine ⟨held, u, v, o, hacquired, hd, on_fetch hacquired hd, (hf u o v hd).imp_right ?_⟩
    rintro ⟨tries, hcourse, hplan⟩
    obtain ⟨rounds, hpassed, houtcomes, hschemas⟩ := exists_passed_of_course hn hcourse
    obtain ⟨before, last, rfl, hconcluded⟩ := exists_concluded_of_plan hplan houtcomes hschemas
    exact ⟨before, last, hpassed, hconcluded⟩

/-- A channel whose server knows no schema, fails, and then asks for fewer requests. The world counts the
requests and keeps the time. -/
def overrun : Channel (Nat × Nat) where
  provider := "overrun"
  network :=
    { send := fun _ w =>
        (match w.1 with
          | 0 => .ok { status := 400, pieces := ["unknown name: response_format".toUTF8.toList] }
          | 1 => .ok { status := 500 }
          | _ => .ok { status := 429, headers := [("Retry-After", "2")] },
          (w.1 + 1, w.2))
      text := Answer.plainText
      date := fun _ => 0 }
  gate := ⟨fun _ => { permits := none, interval := ⟨0⟩ }, fun _ w => w⟩
  backoff := { retries := 1, base := ⟨1000⟩ }

theorem ends_overrun : overrun.network.Ends := by
  rintro r ⟨n, t⟩ a v h
  rcases n with _ | _ | n
  · cases h
    decide
  · cases h
    decide
  · cases h
    decide

/-- Three requests are sent here in the time there is, and the last answer says how long to wait. -/
theorem fetch_concluded_overrun :
    let request : Bool → Request := fun _ => ⟨"http://overrun", [], .null⟩
    let fetched := (overrun.fetch (patient 2000) request true).on (0, 0)
    fetched.1 = .error (.rateLimited "overrun" (some (.ofMillis 2000)) "status 429: ") ∧
      fetched.2 = (3, 1000) ∧
      ∃ before last, Concluded overrun true before last fetched.1 ∧
        last.Limits (some (.ofMillis 2000)) "status 429: " := by
  intro request fetched
  have ho : fetched.1 = .error (.rateLimited "overrun" (some (.ofMillis 2000)) "status 429: ") := by
    decide +kernel
  obtain ⟨held, u, v, o, -, -, hf, h⟩ :=
    overrun.fetch_concluded (patient 2000) (fun _ _ => rfl) ends_overrun request true (w := (0, 0))
      (by decide) (by decide)
  rw [← show fetched.1 = o from congrArg Prod.fst hf] at h
  obtain ⟨e, he, hlost, -⟩ | ⟨before, last, -, hc⟩ := h
  · rw [ho] at he
    cases he
    cases hlost
  · exact ⟨ho, by decide +kernel, before, last, hc, ((hc.limited _ _).mp ho).1⟩

/-- A channel whose server has nothing and asks for more patience than a span can hold. -/
def haughty : Channel (Nat × Nat) where
  provider := "haughty"
  network :=
    { send := fun _ w =>
        (.ok { status := 404, headers := [("Retry-After", "1e20")], pieces := ["gone".toUTF8.toList] },
          (w.1 + 1, w.2))
      text := Answer.plainText
      date := fun _ => 0 }
  gate := ⟨fun _ => { permits := none, interval := ⟨0⟩ }, fun _ w => w⟩
  backoff := {}

/-- One request is sent here. Its answer has a status that is neither a success nor a failure of the server,
asks neither for fewer requests nor for one without a schema, and yet does not end the request with a
refusal: the program breaks down. -/
theorem not_refused_by_haughty :
    let request : Bool → Request := fun _ => ⟨"http://haughty", [], .null⟩
    let fetched := (haughty.fetch (patient 2000) request false).on (0, 0)
    fetched = (.ok none, (1, 0)) ∧
      fetched.1 ≠ .error (.provider "haughty" 404 "gone") ∧
      ¬RateLimit.isMarked "gone" := by
  intro request fetched
  have ho : fetched = (.ok none, (1, 0)) := by decide +kernel
  refine ⟨ho, ?_, by decide +kernel⟩
  rw [ho]
  rintro ⟨⟩

end Channel

end Utterance.Http
