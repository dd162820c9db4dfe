import Utterance.Http.Exchange
import Utterance.Proofs.Act

/-! Which tries may make up the delivery of a request, how many there are, and when they are made; and that every
delivery is made of such tries, unless its caller stops it or a server keeps it waiting for ever. -/

namespace Utterance.Http

variable {α : Type}

namespace Attempt

/-- Whether another attempt is worth while. -/
def isFailed : Attempt α → Bool
  | failed _ => true
  | _ => false

def isUnknownSchema : Attempt α → Bool
  | unknownSchema => true
  | _ => false

end Attempt

/-- Behind so many failures the program breaks down: there is a retry left, but no wait before it. -/
def Backoff.IsStuck (b : Backoff) (failures : Nat) : Prop :=
  failures ≤ b.retries ∧ b.delay failures = none

theorem Backoff.eq_of_delay {b : Backoff} {i : Nat} {span : Span} (h : b.delay (i + 1) = some span) :
    span = ⟨b.base.nanos * Nat.pow 2 (min i 16)⟩ := by
  unfold delay Span.ofNanos? at h
  dsimp only at h
  split at h
  · exact (Option.some.inj h).symm
  · cases h

/-- A base of less than `2 ^ 48` seconds can be doubled as often as the waits are. -/
theorem Backoff.not_isStuck {b : Backoff} (h : b.base.seconds < 2 ^ 48) (failures : Nat) :
    ¬b.IsStuck failures := by
  rintro ⟨-, hnone⟩
  have hle : b.base.nanos * Nat.pow 2 (min (failures - 1) doublings) ≤ b.base.nanos * Nat.pow 2 16 :=
    Nat.mul_le_mul_left _ (Nat.pow_le_pow_right (by decide) (Nat.min_le_right _ _))
  unfold delay at hnone
  generalize b.base.nanos * Nat.pow 2 (min (failures - 1) doublings) = n at hle hnone
  have hbase : b.base.nanos / 1000000000 < 281474976710656 := h
  have hle : n ≤ b.base.nanos * 65536 := hle
  have hroom : n / 1000000000 ≤ 18446744073709551615 := by omega
  unfold Span.ofNanos? at hnone
  dsimp only at hnone
  rw [if_pos (show Span.seconds ⟨n⟩ ≤ Span.maxSeconds from hroom)] at hnone
  cases hnone

theorem Backoff.not_isStuck_spent (b : Backoff) : ¬b.IsStuck (b.retries + 1) :=
  fun h => Nat.not_succ_le_self _ h.1

/-- How an attempt ends a delivery with so many failures, itself among them. If it has failed, every retry is
used, or the program breaks down over the wait before the next one. -/
def Backoff.Closes (b : Backoff) (failures : Nat) (o : Outcome (Option α)) : Attempt α → Prop
  | .accepted a => o = .ok (some a)
  | .refused e => o = .error e
  | .failed e => (o = .error e ∧ failures = b.retries + 1) ∨ (o = .ok none ∧ b.IsStuck failures)
  | .unknownSchema => False
  | .crashed => o = .ok none

theorem Backoff.Closes.congr {b : Backoff} {n m : Nat} {o : Outcome (Option α)} {x : Attempt α}
    (h : b.Closes n o x) (hcount : x.isFailed → n = m) : b.Closes m o x := by
  cases x with
  | failed e => exact hcount rfl ▸ h
  | accepted | refused | unknownSchema | crashed => exact h

/-- The program breaks down over what an answer says, if the base is one that can be doubled. -/
theorem Backoff.Closes.eq_crashed {b : Backoff} {n : Nat} {x : Attempt α} (h : b.Closes n (.ok none) x)
    (hbase : b.base.seconds < 2 ^ 48) : x = .crashed := by
  cases x with
  | accepted a => cases h
  | refused e => cases h
  | failed e =>
    obtain ⟨⟨⟩, -⟩ | ⟨-, hs⟩ := h
    exact absurd hs (b.not_isStuck hbase n)
  | unknownSchema => exact h.elim
  | crashed => rfl

/-- One try at a request. -/
structure Try (α : Type) where
  /-- The wait before it, if there is one. -/
  wait : Option Span
  /-- Whether the request has its schema. -/
  withSchema : Bool
  outcome : Attempt α

/-- Whether the server asks for the request without its schema. -/
def Try.isDowngrade (t : Try α) : Bool := t.outcome.isUnknownSchema

/-- Whether the try may be made once more. -/
def Try.isFailure (t : Try α) : Bool := t.outcome.isFailed

/-- Tries at a request, the first of them after a wait, of whose retries so many were used before, and the
outcome of the last one. -/
inductive Plan (b : Backoff) : Bool → Nat → Option Span → List (Try α) → Outcome (Option α) → Prop
  | accepted {withSchema used wait} (a : α) :
      Plan b withSchema used wait [⟨wait, withSchema, .accepted a⟩] (.ok (some a))
  | refused {withSchema used wait} (e : Fault) :
      Plan b withSchema used wait [⟨wait, withSchema, .refused e⟩] (.error e)
  | spent {withSchema used wait} (e : Fault) (h : used = b.retries) :
      Plan b withSchema used wait [⟨wait, withSchema, .failed e⟩] (.error e)
  | crashed {withSchema used wait} :
      Plan b withSchema used wait [⟨wait, withSchema, .crashed⟩] (.ok none)
  | stuck {withSchema used wait} (e : Fault) (h : b.IsStuck (used + 1)) :
      Plan b withSchema used wait [⟨wait, withSchema, .failed e⟩] (.ok none)
  | again {withSchema used wait span tries o} (e : Fault) (h : used < b.retries)
      (hd : b.delay (used + 1) = some span) (rest : Plan b withSchema (used + 1) (some span) tries o) :
      Plan b withSchema used wait (⟨wait, withSchema, .failed e⟩ :: tries) o
  | plainly {used wait tries o} (rest : Plan b false used none tries o) :
      Plan b true used wait (⟨wait, true, .unknownSchema⟩ :: tries) o

/-- The tries of a whole delivery, and its outcome. -/
structure Scheduled (b : Backoff) (hasSchema : Bool) (tries : List (Try α)) (o : Outcome (Option α)) :
    Prop where
  /-- There is one try more than there are retries, and one more where the schema is given up. -/
  length_le : tries.length ≤ b.retries + 1 + tries.countP Try.isDowngrade
  /-- The schema is given up once at most, and only if there is one. -/
  downgrades_le : tries.countP Try.isDowngrade ≤ if hasSchema then 1 else 0
  /-- The waits double from one to the next, up to a limit, and there are no more than retries. -/
  waits : ∃ n, n ≤ b.retries ∧
    tries.filterMap Try.wait = (List.range n).map fun i => ⟨b.base.nanos * Nat.pow 2 (min i 16)⟩
  /-- Nothing is waited for before the first try. -/
  first : ∀ t ∈ tries.head?, t.wait = none
  /-- A try follows a wait just if the try before it has failed. -/
  wait_iff : ∀ before t u after, tries = before ++ t :: u :: after → (u.wait.isSome ↔ t.isFailure)
  /-- The schema is left out just behind the try with which it is given up. -/
  schema : ∀ before t after, tries = before ++ t :: after →
    t.withSchema = (hasSchema && !before.any Try.isDowngrade)
  /-- The last try tells the outcome. A delivery that gives up has used every retry, even if it has given up
  the schema as well. -/
  last : ∃ t, tries.getLast? = some t ∧ b.Closes (tries.countP Try.isFailure) o t.outcome
  /-- Where the base can be doubled as often as the waits are, only an answer breaks the program down. -/
  crashed : b.base.seconds < 2 ^ 48 → o = .ok none → ∃ t, tries.getLast? = some t ∧ t.outcome = .crashed

namespace Plan

variable {b : Backoff} {withSchema : Bool} {used : Nat} {wait : Option Span} {tries : List (Try α)}
  {o : Outcome (Option α)}

theorem exists_cons (h : Plan b withSchema used wait tries o) :
    ∃ t rest, tries = t :: rest ∧ t.wait = wait := by
  cases h <;> exact ⟨_, _, rfl, rfl⟩

theorem length_le (h : Plan b withSchema used wait tries o) (hu : used ≤ b.retries) :
    tries.length + used ≤ b.retries + 1 + tries.countP Try.isDowngrade := by
  induction h with
  | accepted | refused | spent | crashed | stuck =>
    rw [List.length_singleton]
    omega
  | again e hlt hd rest ih =>
    have hi := ih hlt
    rw [List.length_cons, List.countP_cons_of_neg (by simp [Try.isDowngrade, Attempt.isUnknownSchema])]
    omega
  | plainly rest ih =>
    have hi := ih hu
    rw [List.length_cons, List.countP_cons_of_pos rfl]
    omega

theorem downgrades_le (h : Plan b withSchema used wait tries o) :
    tries.countP Try.isDowngrade ≤ if withSchema then 1 else 0 := by
  induction h with
  | accepted | refused | spent | crashed | stuck => simp [Try.isDowngrade, Attempt.isUnknownSchema]
  | again e hlt hd rest ih =>
    rw [List.countP_cons_of_neg (by simp [Try.isDowngrade, Attempt.isUnknownSchema])]
    exact ih
  | plainly rest ih =>
    rw [List.countP_cons_of_pos rfl]
    exact Nat.succ_le_succ ih

theorem waits_cons (t : Try α) (tries : List (Try α)) :
    (t :: tries).filterMap Try.wait = t.wait.toList ++ tries.filterMap Try.wait := by
  cases h : t.wait <;> simp [h]

theorem waits (h : Plan b withSchema used wait tries o) (hu : used ≤ b.retries) :
    ∃ n, used + n ≤ b.retries ∧ tries.filterMap Try.wait =
      wait.toList ++ (List.range n).map fun i => ⟨b.base.nanos * Nat.pow 2 (min (used + i) 16)⟩ := by
  induction h with
  | accepted | refused | spent | crashed | stuck => exact ⟨0, hu, waits_cons _ []⟩
  | @again withSchema used wait span tries o e hlt hd rest ih =>
    obtain ⟨n, hn, hw⟩ := ih hlt
    refine ⟨n + 1, by omega, ?_⟩
    rw [List.range_succ_eq_map, List.map_cons, List.map_map, waits_cons, hw, Backoff.eq_of_delay hd]
    simp [Function.comp_def, Nat.add_right_comm, Nat.add_assoc]
  | @plainly used wait tries o rest ih =>
    obtain ⟨n, hn, hw⟩ := ih hu
    exact ⟨n, hn, by rw [waits_cons, hw]; rfl⟩

theorem wait_iff (h : Plan b withSchema used wait tries o) {before after : List (Try α)} {t u : Try α}
    (hs : tries = before ++ t :: u :: after) : u.wait.isSome ↔ t.isFailure := by
  induction h generalizing before with
  | accepted | refused | spent | crashed | stuck => cases before <;> simp at hs
  | again e hlt hd rest ih =>
    cases before with
    | nil =>
      obtain ⟨v, vs, hv, hwait⟩ := rest.exists_cons
      rw [hv] at hs
      cases hs
      simp [hwait, Try.isFailure, Attempt.isFailed]
    | cons v before => exact ih (List.cons.inj hs).2
  | plainly rest ih =>
    cases before with
    | nil =>
      obtain ⟨v, vs, hv, hwait⟩ := rest.exists_cons
      rw [hv] at hs
      cases hs
      simp [hwait, Try.isFailure, Attempt.isFailed]
    | cons v before => exact ih (List.cons.inj hs).2

theorem schema (h : Plan b withSchema used wait tries o) {before after : List (Try α)} {t : Try α}
    (hs : tries = before ++ t :: after) :
    t.withSchema = (withSchema && !before.any Try.isDowngrade) := by
  induction h generalizing before with
  | accepted | refused | spent | crashed | stuck =>
    cases before with
    | nil =>
      cases hs
      simp
    | cons v before => simp at hs
  | again e hlt hd rest ih =>
    cases before with
    | nil =>
      cases hs
      simp
    | cons v before =>
      obtain ⟨rfl, htail⟩ := List.cons.inj hs
      rw [ih htail]
      simp [Try.isDowngrade, Attempt.isUnknownSchema]
  | plainly rest ih =>
    cases before with
    | nil =>
      cases hs
      rfl
    | cons v before =>
      obtain ⟨rfl, htail⟩ := List.cons.inj hs
      rw [ih htail]
      simp [Try.isDowngrade, Attempt.isUnknownSchema]

/-- Only failures and the giving up of the schema are followed by another try. -/
theorem exists_concat (h : Plan b withSchema used wait tries o) :
    ∃ before last, tries = before ++ [last] ∧
      b.Closes (tries.countP Try.isFailure + used) o last.outcome ∧
      ∀ t ∈ before, t.isFailure ∨ t.isDowngrade := by
  induction h with
  | accepted | refused | crashed => exact ⟨[], _, rfl, rfl, by simp⟩
  | spent e hu =>
    refine ⟨[], _, rfl, .inl ⟨rfl, ?_⟩, by simp⟩
    rw [hu]
    exact Nat.add_comm _ _
  | @stuck withSchema used wait e hs =>
    refine ⟨[], _, rfl, .inr ⟨rfl, ?_⟩, by simp⟩
    rw [Nat.add_comm] at hs
    exact hs
  | @again withSchema used wait span tries o e hlt hd rest ih =>
    obtain ⟨before, last, rfl, hclose, hb⟩ := ih
    refine ⟨_ :: before, last, rfl, ?_, List.forall_mem_cons.mpr ⟨.inl rfl, hb⟩⟩
    rw [List.countP_cons_of_pos rfl, Nat.add_assoc, Nat.add_comm 1]
    exact hclose
  | @plainly used wait tries o rest ih =>
    obtain ⟨before, last, rfl, hclose, hb⟩ := ih
    refine ⟨_ :: before, last, rfl, ?_, List.forall_mem_cons.mpr ⟨.inr rfl, hb⟩⟩
    rw [List.countP_cons_of_neg (by simp [Try.isFailure, Attempt.isFailed])]
    exact hclose

/-- A plan from the first try on is a schedule. -/
theorem scheduled {hasSchema : Bool} (h : Plan b hasSchema 0 none tries o) :
    Scheduled b hasSchema tries o where
  length_le := h.length_le (Nat.zero_le _)
  downgrades_le := h.downgrades_le
  waits := by
    obtain ⟨n, hn, hw⟩ := h.waits (Nat.zero_le _)
    exact ⟨n, by omega, hw.trans (by simp)⟩
  first := by
    obtain ⟨t, rest, rfl, ht⟩ := h.exists_cons
    rintro _ ⟨⟩
    exact ht
  wait_iff _ _ _ _ hs := h.wait_iff hs
  schema _ _ _ hs := h.schema hs
  last := by
    obtain ⟨before, last, hs, hclose, -⟩ := h.exists_concat
    exact ⟨last, by rw [hs, List.getLast?_concat], hclose⟩
  crashed := by
    rintro hbase rfl
    obtain ⟨before, last, hs, hclose, -⟩ := h.exists_concat
    exact ⟨last, by rw [hs, List.getLast?_concat], hclose.eq_crashed hbase⟩

end Plan

end Utterance.Http

namespace Utterance

/-- The world after a wait, if there is one. -/
def Watch.waited {W : Type} (watch : Watch W) (wait : Option Span) (w : W) : W :=
  wait.elim w fun span => watch.clock.write (watch.clock.read w + span.nanos) w

namespace Http

variable {W α : Type}

/-- A network whose answers all come to an end. -/
def Network.Ends (n : Network W) : Prop :=
  ∀ r w a v, n.send r w = (.ok a, v) → a.ending ≠ .never

/-- What has come back ends, if it is an answer. -/
def HasEnd (answer : Except SendError Answer) : Prop :=
  ∀ a, answer = .ok a → a.ending ≠ .never

theorem Gate.onlyStopped_pace {watch : Watch W} (hclock : watch.clock.Retains) (gate : Part W Gate) :
    Act.OnlyStopped watch (Gate.pace gate watch) := by
  have hvalue {V : Type} (part : Part W V) : Act.OnlyStopped watch part.value :=
    Act.onlyStopped_of_ok fun w => ⟨part.read w, w, rfl⟩
  have hrest : Act.OnlyStopped watch (do
      let now ← watch.clock.value
      gate.change fun g => { g with latest := some now }) :=
    (hvalue _).bind fun _ => Act.onlyStopped_of_ok fun w => ⟨(), _, rfl⟩
  refine (Act.onlyStopped_check watch).bind fun _ => (hvalue _).bind fun _ => (hvalue _).bind fun _ => ?_
  split
  · exact (Act.onlyStopped_sleep hclock _).bind fun _ => hrest
  · exact hrest

namespace Channel

/-- How tries lead from one world to another. Before each the wait goes by, if there is one, and the gate
keeps its pace; then one request is sent, and what the network returns is judged. -/
inductive Course (c : Channel W) (watch : Watch W) (request : Bool → Request)
    (accept : Answer → Act W (Attempt α)) : W → List (Try α) → W → Prop
  | done (w : W) : Course c watch request accept w [] w
  | next {w paced sent judged v : W} {t : Try α} {tries : List (Try α)}
      {answer : Except SendError Answer}
      (hpaced : (Gate.pace c.gate watch).on (watch.waited t.wait w) = (.ok (), paced))
      (hsent : c.network.send (request t.withSchema) paced = (answer, sent))
      (hjudged : (c.judged watch accept t.withSchema answer).on sent = (.ok t.outcome, judged))
      (rest : Course c watch request accept judged tries v) :
      Course c watch request accept w (t :: tries) v

variable {c : Channel W} {watch : Watch W} {request : Bool → Request}
  {accept : Answer → Act W (Attempt α)}

/-- Answers that come to an end are taken without a fault, unless the caller stops it, and the schema does
not matter to it. -/
def Takes (watch : Watch W) (accept : Answer → Act W (Attempt α)) : Prop :=
  ∀ a, a.ending ≠ .never → Act.OnlyStopped watch (accept a) ∧
    Act.Yields (fun x => x.isUnknownSchema = false) (accept a)

theorem onlyStopped_readBody {a : Answer} (ha : a.ending ≠ .never) :
    Act.OnlyStopped watch (c.readBody watch a) := by
  refine (Act.onlyStopped_check watch).bind fun _ => ?_
  cases he : a.ending with
  | complete => exact Act.onlyStopped_pure _
  | broken => exact Act.onlyStopped_pure _
  | never => exact absurd he ha

theorem isUnknownSchema_received (c : Channel W) (body : Option String) :
    (c.received body).isUnknownSchema = false := by
  unfold received
  cases body with
  | none => rfl
  | some body =>
    dsimp only
    split <;> rfl

theorem takes_bodyOf (c : Channel W) : Takes watch (c.bodyOf watch) := fun _ ha =>
  ⟨(onlyStopped_readBody ha).bind fun _ => Act.onlyStopped_pure _,
    Act.yields_bind _ fun body => Act.yields_pure (isUnknownSchema_received c body)⟩

theorem takes_accepted : Takes watch fun a => (pure (.accepted a) : Act W (Attempt Answer)) :=
  fun _ _ => ⟨Act.onlyStopped_pure _, Act.yields_pure rfl⟩

theorem isUnknownSchema_judge (c : Channel W) (wait : Option Span) (status : Nat) (isServerError : Bool)
    (body : String) : (c.judge false wait status isServerError body : Attempt α).isUnknownSchema = false := by
  unfold judge
  rw [Bool.and_false, Bool.false_and, if_neg (by simp)]
  split
  · rfl
  · split <;> rfl

theorem onlyStopped_decline {a : Answer} (ha : a.ending ≠ .never) (withSchema : Bool) :
    Act.OnlyStopped watch (c.decline watch withSchema a : Act W (Attempt α)) := by
  refine (Act.onlyStopped_of_ok fun w => ⟨w, w, rfl⟩).bind fun w => ?_
  dsimp only
  split
  · exact Act.onlyStopped_pure _
  · exact (onlyStopped_readBody ha).bind fun _ => Act.onlyStopped_pure _

/-- Only a server that was sent the schema may not know it. -/
theorem yields_decline (c : Channel W) (a : Answer) (withSchema : Bool) :
    Act.Yields (fun x => x.isUnknownSchema → withSchema)
      (c.decline watch withSchema a : Act W (Attempt α)) := by
  refine Act.yields_bind _ fun w => ?_
  dsimp only
  split
  · exact Act.yields_pure fun h => by cases h
  · refine Act.yields_bind _ fun body => Act.yields_pure fun hx => ?_
    cases withSchema with
    | true => rfl
    | false =>
      rw [isUnknownSchema_judge] at hx
      cases hx

theorem takes_judged (ht : Takes watch accept) {answer : Except SendError Answer} (ha : HasEnd answer)
    (withSchema : Bool) :
    Act.OnlyStopped watch (c.judged watch accept withSchema answer) ∧
      Act.Yields (fun x => x.isUnknownSchema → withSchema)
        (c.judged watch accept withSchema answer) := by
  cases answer with
  | error e => exact ⟨Act.onlyStopped_pure _, Act.yields_pure fun h => by cases h⟩
  | ok a =>
    obtain ⟨hstops, hyields⟩ := ht a (ha a rfl)
    unfold judged
    dsimp only
    split
    · refine ⟨hstops, fun w x v hx h => ?_⟩
      rw [hyields w x v hx] at h
      cases h
    · exact ⟨onlyStopped_decline (ha a rfl) withSchema, yields_decline c a withSchema⟩

/-- A request is sent by the network, unless the caller stops it. -/
theorem on_send {r : Request} {o : Outcome (Except SendError Answer)} {w v : W}
    (h : (c.send watch r).on w = (o, v)) :
    (∃ e, o = .error e ∧ watch.HasStopped e v) ∨
      ∃ answer, o = .ok answer ∧ c.network.send r w = (answer, v) := by
  unfold send at h
  obtain hstop | ⟨_, u, hc, h⟩ := (Act.onlyStopped_check watch).on_bind h
  · exact .inl hstop
  · rw [Act.eq_of_on_check hc, Act.on_bind_ok (Act.on_lift _ w)] at h
    obtain hstop | ⟨_, u', hc', h⟩ := (Act.onlyStopped_check watch).on_bind h
    · exact .inl hstop
    · rw [Act.eq_of_on_check hc'] at h
      cases h
      exact .inr ⟨_, rfl, rfl⟩

/-- An attempt comes to something, unless the caller stops it, and is one try behind the wait that was before
it. -/
theorem on_attempt (hclock : watch.clock.Retains) (ht : Takes watch accept) (hn : c.network.Ends)
    {withSchema : Bool} {wait : Option Span} {u v : W} {o : Outcome (Attempt α)}
    (h : (c.attempt watch request accept withSchema).on (watch.waited wait u) = (o, v)) :
    (∃ e, o = .error e ∧ watch.HasStopped e v) ∨
      ∃ x, o = .ok x ∧ (x.isUnknownSchema → withSchema) ∧
        ∀ tries v', Course c watch request accept v tries v' →
          Course c watch request accept u (⟨wait, withSchema, x⟩ :: tries) v' := by
  unfold attempt at h
  obtain hstop | ⟨_, w₁, hpaced, h⟩ := (Gate.onlyStopped_pace hclock c.gate).on_bind h
  · exact .inl hstop
  have hsends : Act.OnlyStopped watch (c.send watch (request withSchema)) := by
    intro w e v he
    obtain ⟨_, ⟨⟩, hstop⟩ | ⟨_, ⟨⟩, -⟩ := on_send he
    exact hstop
  obtain hstop | ⟨answer, w₂, hsent, h⟩ := hsends.on_bind h
  · exact .inl hstop
  obtain ⟨_, ⟨⟩, -⟩ | ⟨_, ⟨⟩, hsent⟩ := on_send hsent
  have ha : HasEnd answer := by
    rintro a rfl
    exact hn _ _ a w₂ hsent
  obtain ⟨hstops, hyields⟩ := takes_judged (c := c) ht ha withSchema
  cases o with
  | error e => exact .inl ⟨e, rfl, hstops w₂ e v h⟩
  | ok x => exact .inr ⟨x, rfl, hyields w₂ x v h, fun tries v' rest => .next hpaced hsent h rest⟩

/-- Unless its caller stops it, an act behind a wait goes through the tries of a plan, and ends as the plan
does. -/
def Follows (c : Channel W) (watch : Watch W) (request : Bool → Request)
    (accept : Answer → Act W (Attempt α)) (withSchema : Bool) (used : Nat) (wait : Option Span)
    (a : Act W (Option α)) : Prop :=
  ∀ w o v, a.on (watch.waited wait w) = (o, v) →
    (∃ e, o = .error e ∧ watch.HasStopped e v) ∨
      ∃ tries, Course c watch request accept w tries v ∧ Plan c.backoff withSchema used wait tries o

/-- One attempt, and what follows it. -/
theorem follows_follow (hclock : watch.clock.Retains) (ht : Takes watch accept) (hn : c.network.Ends)
    {withSchema : Bool} {used : Nat} {wait : Option Span} {again : Fault → Act W (Option α)}
    {plainly : Act W (Option α)}
    (hagain : ∀ e w o v, (again e).on w = (o, v) →
      (∃ e, o = .error e ∧ watch.HasStopped e v) ∨
        ∃ tries, Course c watch request accept w tries v ∧
          Plan c.backoff withSchema used wait (⟨wait, withSchema, .failed e⟩ :: tries) o)
    (hplainly : withSchema → Follows c watch request accept false used none plainly) :
    Follows c watch request accept withSchema used wait
      (c.attempt watch request accept withSchema >>= follow again plainly) := by
  intro w o v h
  rw [Act.on_bind] at h
  cases hx : (c.attempt watch request accept withSchema).on (watch.waited wait w) with
  | mk x u =>
    rw [hx] at h
    obtain ⟨e, rfl, hstop⟩ | ⟨x, rfl, hschema, hcourse⟩ := on_attempt hclock ht hn hx
    · cases h
      exact .inl ⟨e, rfl, hstop⟩
    · cases x with
      | accepted a =>
        cases h
        exact .inr ⟨_, hcourse [] v (.done v), .accepted a⟩
      | refused e =>
        cases h
        exact .inr ⟨_, hcourse [] v (.done v), .refused e⟩
      | crashed =>
        cases h
        exact .inr ⟨_, hcourse [] v (.done v), .crashed⟩
      | failed e =>
        refine (hagain e u o v h).imp_right fun ⟨tries, hc, hp⟩ => ?_
        exact ⟨_, hcourse tries v hc, hp⟩
      | unknownSchema =>
        obtain rfl : withSchema = true := hschema rfl
        refine (hplainly rfl u o v h).imp_right fun ⟨tries, hc, hp⟩ => ?_
        exact ⟨_, hcourse tries v hc, .plainly hp⟩

/-- The attempts that are left go on with the plan, of whose retries the others were used. -/
theorem follows_attempts (hclock : watch.clock.Retains) (ht : Takes watch accept) (hn : c.network.Ends)
    {withSchema : Bool} {plainly : Nat → Act W (Option α)} {left : Nat} (hl : left ≤ c.backoff.retries)
    (hplainly : withSchema → ∀ n ≤ c.backoff.retries,
      Follows c watch request accept false (c.backoff.retries - n) none (plainly n))
    (wait : Option Span) :
    Follows c watch request accept withSchema (c.backoff.retries - left) wait
      (c.attempts watch (c.attempt watch request accept withSchema) plainly left) := by
  induction left generalizing wait with
  | zero =>
    refine follows_follow hclock ht hn (fun e w o v h => ?_) fun hs => hplainly hs 0 hl
    cases h
    exact .inr ⟨[], .done w, .spent e rfl⟩
  | succ left ih =>
    have hused : c.backoff.retries - (left + 1) + 1 = c.backoff.retries - left := by omega
    refine follows_follow hclock ht hn (fun e w o v h => ?_) fun hs => hplainly hs (left + 1) hl
    cases hd : c.backoff.delay (c.backoff.retries - left) with
    | none =>
      rw [hd] at h
      cases h
      refine .inr ⟨[], .done w, .stuck e ⟨by omega, ?_⟩⟩
      rw [hused]
      exact hd
    | some span =>
      rw [hd] at h
      have hsleeps : Act.OnlyStopped watch (watch.sleep span) := Act.onlyStopped_sleep hclock span
      obtain hstop | ⟨_, u, hu, h⟩ := hsleeps.on_bind h
      · exact .inl hstop
      obtain ⟨_, ⟨⟩, -⟩ | ⟨-, rfl⟩ := Act.on_sleep hclock span hu
      refine (ih (by omega) (some span) w o v h).imp_right fun ⟨tries, hc, hp⟩ => ?_
      refine ⟨tries, hc, .again e (by omega) (hused ▸ hd) ?_⟩
      rw [hused]
      exact hp

theorem follows_deliver (hclock : watch.clock.Retains) (ht : Takes watch accept) (hn : c.network.Ends)
    (hasSchema : Bool) :
    Follows c watch request accept hasSchema 0 none (c.deliver watch request hasSchema accept) := by
  have hplain : ∀ n ≤ c.backoff.retries,
      Follows c watch request accept false (c.backoff.retries - n) none
        (c.attempts watch (c.attempt watch request accept false)
          (fun _ => throw (.transport c.provider SendError.unreachable.message)) n) :=
    fun n hle => follows_attempts hclock ht hn hle (fun hs => by cases hs) none
  have hzero : c.backoff.retries - c.backoff.retries = 0 := Nat.sub_self _
  cases hasSchema with
  | false =>
    have hp := hplain _ (Nat.le_refl _)
    rw [hzero] at hp
    exact hp
  | true =>
    have hp : Follows c watch request accept true (c.backoff.retries - c.backoff.retries) none _ :=
      follows_attempts hclock ht hn (Nat.le_refl _) (fun _ => hplain) none
    rw [hzero] at hp
    exact hp

/-- Unless its caller stops it, the delivery of a request goes through tries from the first world to the last
one, and these keep to the schedule. -/
def IsScheduled (c : Channel W) (watch : Watch W) (request : Bool → Request) (hasSchema : Bool)
    (accept : Answer → Act W (Attempt α)) (w : W) : Prop :=
  ∃ o v, (c.deliver watch request hasSchema accept).on w = (o, v) ∧
    ((∃ e, o = .error e ∧ watch.HasStopped e v) ∨
      ∃ tries, Course c watch request accept w tries v ∧ Scheduled c.backoff hasSchema tries o)

theorem isScheduled_of_takes (hclock : watch.clock.Retains) (ht : Takes watch accept) (hn : c.network.Ends)
    (hasSchema : Bool) (w : W) : IsScheduled c watch request hasSchema accept w := by
  have hf : Follows c watch request accept hasSchema 0 none _ := follows_deliver hclock ht hn hasSchema
  refine ⟨_, _, rfl, (hf w _ _ rfl).imp_right fun ⟨tries, hc, hp⟩ => ⟨tries, hc, hp.scheduled⟩⟩

/-- Whatever the network returns, a request is delivered by tries that keep to the schedule, whether the
body of the answer is read or left to the caller. This may end in three ways: as the last try tells, with
the program broken down, or before its time when the caller stops it. -/
theorem deliver_scheduled (c : Channel W) (watch : Watch W) (hclock : watch.clock.Retains)
    (hn : c.network.Ends) (request : Bool → Request) (hasSchema : Bool) (w : W) :
    IsScheduled c watch request hasSchema (c.bodyOf watch) w ∧
      IsScheduled c watch request hasSchema (fun a => pure (.accepted a)) w :=
  ⟨isScheduled_of_takes hclock (takes_bodyOf c) hn hasSchema w,
    isScheduled_of_takes hclock takes_accepted hn hasSchema w⟩

/-- A channel whose server is out of reach at first, then knows no schema, and then answers. The world
counts the requests and keeps the time. -/
def moody : Channel (Nat × Nat) where
  provider := "moody"
  network :=
    { send := fun _ w =>
        (match w.1 with
          | 0 => .error .unreachable
          | 1 => .ok { status := 400, pieces := ["unknown name: response_format".toUTF8.toList] }
          | _ => .ok { status := 200, pieces := ["42".toUTF8.toList] },
          (w.1 + 1, w.2))
      text := Answer.plainText
      date := fun _ => 0 }
  gate := ⟨fun _ => { permits := none, interval := ⟨0⟩ }, fun _ w => w⟩
  backoff := { retries := 1, base := ⟨1000⟩ }

/-- A watch over the time of this world, of a caller who has so much patience. -/
def patient (deadline : Nat) : Watch (Nat × Nat) :=
  ⟨⟨Prod.snd, fun t w => (w.1, t)⟩, fun _ => false, some deadline⟩

theorem ends_moody : moody.network.Ends := by
  rintro r ⟨n, t⟩ a v h
  rcases n with _ | _ | n
  · cases h
  · cases h
    decide
  · cases h
    decide

/-- Three requests are sent here, and one wait goes by. The deadline comes later. -/
theorem deliver_scheduled_moody :
    let request : Bool → Request := fun _ => ⟨"http://moody", [], .null⟩
    let watch := patient 2000
    let delivered := (moody.deliver watch request true (moody.bodyOf watch)).on (0, 0)
    delivered.1.toOption = some (some "42") ∧ delivered.2 = (3, 1000) ∧
      ∃ tries, moody.Course watch request (moody.bodyOf watch) (0, 0) tries delivered.2 ∧
        Scheduled moody.backoff true tries delivered.1 := by
  intro request watch delivered
  have hok : delivered.1.toOption = some (some "42") := by decide +kernel
  obtain ⟨⟨o, v, hd, h⟩, -⟩ :=
    moody.deliver_scheduled watch (fun _ _ => rfl) ends_moody request true (0, 0)
  obtain rfl : delivered.1 = o := congrArg Prod.fst hd
  obtain rfl : delivered.2 = v := congrArg Prod.snd hd
  refine ⟨hok, by decide +kernel, ?_⟩
  obtain ⟨e, he, -⟩ | h := h
  · rw [he] at hok
    cases hok
  · exact h

end Channel

end Http

end Utterance
