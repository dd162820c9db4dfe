import Utterance.Interpreter.Interpret
import Utterance.Proofs.Act
import Utterance.Proofs.Confidence

/-! How often a model is asked about a message, and which of its replies counts.

A run of attempts is told step by step: each attempt has one answer, and the run goes on only from an
envelope with a rule that was refused. -/

namespace Utterance

/-! Which intents tell doubts: what a reply or a decision says begins otherwise than the mark of doubt. -/

/-- Whether an intent tells that rules were refused to the end. -/
def Intent.IsDoubted (i : Intent) : Prop :=
  ∃ rest, Reading.doubtMark ++ rest ∈ i.ambiguity

theorem Intent.isDoubted_iff (i : Intent) :
    i.IsDoubted ↔ ∃ s ∈ i.ambiguity, Reading.doubtMark.toList <+: s.toList := by
  constructor
  · rintro ⟨rest, h⟩
    refine ⟨_, h, rest.toList, ?_⟩
    rw [String.toList_append]
  · rintro ⟨s, h, rest, hs⟩
    refine ⟨String.ofList rest, ?_⟩
    have he : Reading.doubtMark ++ String.ofList rest = s := by
      apply String.toList_inj.mp
      rw [String.toList_append, String.toList_ofList, hs]
    rw [he]
    exact h

instance (i : Intent) : Decidable i.IsDoubted := decidable_of_iff _ i.isDoubted_iff.symm

/-- A text that begins otherwise than the mark of doubt. -/
def IsPlain (s : String) : Prop := ∃ c, s.toList.head? = some c ∧ c ≠ 'G'

theorem IsPlain.append {s : String} (h : IsPlain s) (rest : String) : IsPlain (s ++ rest) := by
  obtain ⟨c, hc, hg⟩ := h
  refine ⟨c, ?_, hg⟩
  rw [String.toList_append, List.head?_append, hc]
  rfl

theorem Intent.not_isDoubted_of_isPlain {i : Intent} (h : ∀ s ∈ i.ambiguity, IsPlain s) :
    ¬ i.IsDoubted := by
  rintro ⟨rest, hr⟩
  obtain ⟨c, hc, hg⟩ := h _ hr
  have hm : (Reading.doubtMark ++ rest).toList.head? = some 'G' := by
    rw [String.toList_append, List.head?_append]
    rfl
  rw [hm] at hc
  cases hc
  exact hg rfl

theorem Decision.isPlain_of_mem_intent {d : Decision} {message s : String}
    (h : s ∈ (d.intent message).ambiguity) : IsPlain s := by
  have hs : s = "heuristic classification (" ++ d.decider.name ++ ")" := List.mem_singleton.mp h
  subst hs
  exact .append (.append ⟨'h', by decide, by decide⟩ _) _

theorem LineReply.ambiguity_of_read? {reply : String} {i : Intent} (h : read? reply = some i) :
    i.ambiguity = [] := by
  obtain ⟨⟨fs, rest⟩, -, h⟩ := Option.bind_eq_some_iff.mp h
  dsimp only at h
  split at h
  case h_1 =>
    obtain ⟨category, -, h⟩ := Option.bind_eq_some_iff.mp h
    split at h
    · cases h
    · cases h
      rfl
  · cases h

namespace Reply

theorem isPlain_of_mem_closed {c : Corpus} {d : Decision} {i : Intent} {s : String}
    (hi : ∀ s ∈ i.ambiguity, IsPlain s) (h : s ∈ (closed c d i).ambiguity) : IsPlain s := by
  unfold closed at h
  split at h
  · exact hi s h
  · rcases List.mem_append.mp h with h | h
    · exact hi s h
    · cases List.mem_singleton.mp h
      exact .append (.append (.append ⟨'m', by decide, by decide⟩ _) _) _

theorem isPlain_of_mem_ofLine? {c : Corpus} {d : Decision} {reply s : String} {i : Intent}
    (hi : ofLine? c d reply = some i) (h : s ∈ i.ambiguity) : IsPlain s := by
  obtain ⟨j, hj, rfl⟩ := Option.map_eq_some_iff.mp hi
  refine isPlain_of_mem_closed (fun s hs => ?_) h
  rw [LineReply.ambiguity_of_read? hj] at hs
  cases hs

theorem isPlain_of_mem_ofEnvelope {c : Corpus} {d : Decision} {text s : String} {e : Envelope}
    (h : s ∈ (ofEnvelope c d text e).ambiguity) : IsPlain s := by
  rcases List.mem_append.mp h with h | h
  · split at h
    · rcases List.mem_cons.mp h with rfl | h
      · exact ⟨'m', by decide, by decide⟩
      · exact Decision.isPlain_of_mem_intent h
    · refine isPlain_of_mem_closed (fun s hs => ?_) h
      cases hs
  · unfold corrections at h
    rw [Option.mem_toList] at h
    obtain ⟨x, -, rfl⟩ := Option.map_eq_some_iff.mp h
    exact .append ⟨'s', by decide, by decide⟩ _

end Reply

namespace Interpreter

/-- A simpler reply never makes an intent tell doubts. -/
theorem yields_isPlain_simplified {W : Type} (t : Interpreter W) (watch : Watch W) (m : Matter) :
    Act.Yields (fun i => ∀ s ∈ i.ambiguity, IsPlain s) (t.simplified watch m) := by
  refine Act.yields_bind _ fun reply => ?_
  cases h : reply.bind (Reply.ofLine? m.corpus m.decision) with
  | none => exact Act.yields_pure fun s hs => Decision.isPlain_of_mem_intent hs
  | some i =>
    obtain ⟨line, -, hl⟩ := Option.bind_eq_some_iff.mp h
    refine Act.yields_pure fun s hs => ?_
    rcases List.mem_append.mp hs with hs | hs
    · exact Reply.isPlain_of_mem_ofLine? hl hs
    · cases List.mem_singleton.mp hs
      exact ⟨'s', by decide, by decide⟩

end Interpreter

/-! Readings. -/

/-- The reading of an envelope with the rules that pass. -/
def Matter.reading (m : Matter) (e : Envelope) (passed : List String) : Reading where
  intent := Reply.ofEnvelope m.corpus m.decision m.text e
  updates := passed
  understanding := e.control.understanding

namespace Interpreter

variable {W : Type}

/-! Rules. -/

/-- Checks one proposed rule. -/
def check (t : Interpreter W) (watch : Watch W) (rule : String) : Act W Unit :=
  match t.kernel with
  | some kernel => watch.run (kernel.validate rule)
  | none => Act.ofOutcome (Rule.validateRule rule)

/-- Rules that are checked one after the other: those that pass, and the faults of the others. -/
inductive Sifted (t : Interpreter W) (watch : Watch W) :
    W → List String → List String → List String → W → Prop where
  | nil (w) : Sifted t watch w [] [] [] w
  | pass {w u v rule rules passed faults} :
      (t.check watch rule).on w = (.ok (), u) → Sifted t watch u rules passed faults v →
      Sifted t watch w (rule :: rules) (rule :: passed) faults v
  | fail {w u v rule rules passed faults e} :
      (t.check watch rule).on w = (.error e, u) → e.isCancelled = false →
      Sifted t watch u rules passed faults v →
      Sifted t watch w (rule :: rules) passed ((rule ++ " => " ++ e.message) :: faults) v

theorem on_refusal? (t : Interpreter W) (watch : Watch W) (rule : String) (w : W) :
    (t.refusal? watch rule).on w =
      match (t.check watch rule).on w with
      | (.ok _, v) => (.ok none, v)
      | (.error e, v) =>
        if e.isCancelled then (.error e, v) else (.ok (some (rule ++ " => " ++ e.message)), v) := by
  show (Act.recover (do t.check watch rule; pure none) _).on w = _
  rw [Act.on_recover, Act.on_bind]
  rcases (t.check watch rule).on w with ⟨o, v⟩
  cases o <;> rfl

theorem validate_cons (t : Interpreter W) (watch : Watch W) (rule : String) (rules : List String) :
    t.validate watch (rule :: rules) =
      (t.refusal? watch rule >>= fun r => t.validate watch rules >>= fun found =>
        pure (r.elim (rule :: found.1, found.2) fun fault => (found.1, fault :: found.2))) := by
  simp only [validate, List.mapM_cons, bind_assoc, pure_bind]
  congr 1
  funext r
  congr 1
  funext rs
  cases r <;> rfl

theorem sifted_of_validate {t : Interpreter W} {watch : Watch W} {rules : List String} {w v : W}
    {found : List String × List String} (h : (t.validate watch rules).on w = (.ok found, v)) :
    Sifted t watch w rules found.1 found.2 v := by
  induction rules generalizing w found with
  | nil =>
    cases h
    exact .nil _
  | cons rule rules ih =>
    rw [validate_cons] at h
    obtain ⟨r, u, hr, h⟩ := Act.exists_of_bind h
    obtain ⟨rest, v', hrest, h⟩ := Act.exists_of_bind h
    cases h
    rw [on_refusal?] at hr
    split at hr
    case h_1 x _ hc =>
      cases hr
      exact .pass hc (ih hrest)
    case h_2 e _ hc =>
      split at hr
      · cases hr
      · rename_i he
        cases hr
        exact .fail hc (by simpa using he) (ih hrest)

/-- What passes stands in the order of the rules. -/
theorem Sifted.sublist {t : Interpreter W} {watch : Watch W} {w v : W}
    {rules passed faults : List String} (h : Sifted t watch w rules passed faults v) :
    passed.Sublist rules := by
  induction h with
  | nil => exact .slnil
  | pass _ _ ih => exact ih.cons_cons _
  | fail _ _ _ ih => exact ih.cons _

/-! Attempts. -/

/-- What the model says in one attempt. -/
inductive Answer where
  /-- Nothing, for it failed. -/
  | none
  /-- A reply that is no envelope. -/
  | line (reply : String)
  /-- An envelope, with the rules of it that pass and the faults of the others. -/
  | envelope (e : Envelope) (passed faults : List String)

/-- The rules of an answer that pass. -/
def Answer.passed : Answer → List String
  | envelope _ passed _ => passed
  | _ => []

/-- The faults of the other rules. -/
def Answer.faults : Answer → List String
  | envelope _ _ faults => faults
  | _ => []

/-- Asks the model in the attempt after `attempt` ones, the last of which had faults. -/
def invoke (t : Interpreter W) (watch : Watch W) (m : Matter) (attempt : Nat)
    (faults : List String) : Act W String :=
  let a := t.question m
  t.ask watch { a with user := Question.again attempt faults a.user } (attempt = 0)

/-- The answer of one attempt: the model is asked once, and the rules that it proposes are checked. -/
inductive Answered (t : Interpreter W) (watch : Watch W) (m : Matter) (attempt : Nat)
    (faults : List String) : W → Answer → W → Prop where
  | none {w u f} : (t.invoke watch m attempt faults).on w = (.error f, u) →
      f.isCancelled = false → Answered t watch m attempt faults w .none u
  | line {w u reply f} : (t.invoke watch m attempt faults).on w = (.ok reply, u) →
      Envelope.parse reply = .error f → Answered t watch m attempt faults w (.line reply) u
  | envelope {w u v reply e passed refused} :
      (t.invoke watch m attempt faults).on w = (.ok reply, u) → Envelope.parse reply = .ok e →
      Sifted t watch u e.control.updates passed refused v →
      Answered t watch m attempt faults w (.envelope e passed refused) v

/-- A run of attempts, each of which is answered by an envelope with rules that fail. -/
inductive Repeated (t : Interpreter W) (watch : Watch W) (m : Matter) :
    Nat → List String → W → Nat → List String → W → Prop where
  | refl (k faults w) : Repeated t watch m k faults w k faults w
  | step {k faults w a u j refused v} : Answered t watch m k faults w a u → a.faults ≠ [] →
      Repeated t watch m (k + 1) a.faults u j refused v → Repeated t watch m k faults w j refused v

/-- What a message is read as by the answer that counts. -/
inductive Concluded (t : Interpreter W) (watch : Watch W) (m : Matter) :
    W → Answer → Reading → W → Prop where
  | none {w v i} : (t.simplified watch m).on w = (.ok i, v) →
      Concluded t watch m w .none { intent := i } v
  | line (w reply) : Concluded t watch m w (.line reply)
      { intent := (Reply.ofLine? m.corpus m.decision reply).getD (m.decision.intent m.text) } w
  | settled (w e passed) :
      Concluded t watch m w (.envelope e passed []) (m.reading e passed) w
  | doubted {w e passed faults} : faults ≠ [] →
      Concluded t watch m w (.envelope e passed faults) ((m.reading e passed).doubted faults) w

variable {t : Interpreter W} {watch : Watch W} {m : Matter}

theorem answered_of_judge {k : Nat} {faults : List String} {w u v : W} {reply : String} {r : Trial}
    (hi : (t.invoke watch m k faults).on w = (.ok reply, u))
    (h : (t.judge watch m reply).on u = (.ok r, v)) :
    ∃ a, Answered t watch m k faults w a v ∧
      ((∃ x, r = .settled x ∧ a.faults = [] ∧ Concluded t watch m v a x v) ∨
        ∃ x, r = .refused x a.faults ∧ a.faults ≠ [] ∧
          Concluded t watch m v a (x.doubted a.faults) v) := by
  unfold judge at h
  split at h
  case h_1 f hp =>
    cases h
    exact ⟨.line reply, .line hi hp, .inl ⟨_, rfl, rfl, .line _ _⟩⟩
  case h_2 e hp =>
    obtain ⟨⟨passed, refused⟩, v', hs, h⟩ := Act.exists_of_bind h
    have hs := sifted_of_validate hs
    cases refused with
    | nil =>
      cases h
      exact ⟨.envelope e passed [], .envelope hi hp hs, .inl ⟨_, rfl, rfl, .settled _ _ _⟩⟩
    | cons f fs =>
      cases h
      have hf : f :: fs ≠ [] := List.cons_ne_nil f fs
      exact ⟨.envelope e passed (f :: fs), .envelope hi hp hs, .inr ⟨_, rfl, hf, .doubted hf⟩⟩

/-- One attempt: either its answer counts, or it has faults and counts only if it is the last. -/
theorem answered_of_tryOnce {k : Nat} {faults : List String} {w v : W} {r : Trial}
    (h : (t.tryOnce watch m k faults).on w = (.ok r, v)) :
    ∃ a u, Answered t watch m k faults w a u ∧
      ((∃ x, r = .settled x ∧ a.faults = [] ∧ Concluded t watch m u a x v) ∨
        ∃ x, r = .refused x a.faults ∧ a.faults ≠ [] ∧ u = v ∧
          Concluded t watch m u a (x.doubted a.faults) v) := by
  unfold tryOnce at h
  obtain ⟨o, u, ho, h⟩ := Act.exists_of_bind h
  rw [Act.on_attempt] at ho
  have hi : (t.invoke watch m k faults).on w = (o, u) := by
    injection ho with h1 h2
    injection h1 with h1
    exact Prod.ext h1 h2
  cases o with
  | ok reply =>
    obtain ⟨a, ha, h⟩ := answered_of_judge hi h
    refine ⟨a, v, ha, ?_⟩
    rcases h with h | ⟨x, hx, hf, hc⟩
    · exact .inl h
    · exact .inr ⟨x, hx, hf, rfl, hc⟩
  | error e =>
    dsimp only at h
    split at h
    · cases h
    · rename_i he
      obtain ⟨i, v', hs, h⟩ := Act.exists_of_bind h
      cases h
      exact ⟨.none, u, .none hi (by simpa using he), .inl ⟨_, rfl, rfl, .none hs⟩⟩

/-- All attempts: those with faults come first, and then the one that counts. -/
theorem repeated_of_tryAll {k left : Nat} {faults : List String} {w v : W} {r : Reading}
    (h : (t.tryAll watch m k faults left).on w = (.ok r, v)) :
    ∃ j refused u a u', Repeated t watch m k faults w j refused u ∧ j ≤ k + left ∧
      Answered t watch m j refused u a u' ∧ (a.faults ≠ [] → j = k + left) ∧
      Concluded t watch m u' a r v := by
  induction left generalizing k faults w with
  | zero =>
    obtain ⟨x, u, hx, h⟩ := Act.exists_of_bind h
    obtain ⟨a, u', ha, hr⟩ := answered_of_tryOnce hx
    refine ⟨k, faults, w, a, u', .refl k faults w, by omega, ha, fun _ => rfl, ?_⟩
    rcases hr with ⟨y, rfl, -, hc⟩ | ⟨y, rfl, -, -, hc⟩
    · cases h
      exact hc
    · cases h
      exact hc
  | succ left ih =>
    obtain ⟨x, u, hx, h⟩ := Act.exists_of_bind h
    obtain ⟨a, u', ha, hr⟩ := answered_of_tryOnce hx
    rcases hr with ⟨y, rfl, hf, hc⟩ | ⟨y, rfl, hf, rfl, -⟩
    · cases h
      exact ⟨k, faults, w, a, u', .refl k faults w, by omega, ha, fun h => absurd hf h, hc⟩
    · obtain ⟨j, refused, u, b, v', hj, hl, hb, hs, hc⟩ := ih h
      refine ⟨j, refused, u, b, v', .step ha hf hj, by omega, hb, fun h => ?_, hc⟩
      have := hs h
      omega

theorem Concluded.updates_eq {w v : W} {a : Answer} {r : Reading}
    (h : Concluded t watch m w a r v) : r.updates = a.passed := by
  cases h <;> rfl

theorem Concluded.isDoubted_iff {w v : W} {a : Answer} {r : Reading}
    (h : Concluded t watch m w a r v) : r.intent.IsDoubted ↔ a.faults ≠ [] := by
  cases h with
  | none hs =>
    have hp := yields_isPlain_simplified t watch m _ _ _ hs
    exact iff_of_false (Intent.not_isDoubted_of_isPlain hp) fun hf => hf rfl
  | line reply =>
    refine iff_of_false (Intent.not_isDoubted_of_isPlain fun s hs => ?_) fun hf => hf rfl
    cases hl : Reply.ofLine? m.corpus m.decision reply with
    | none =>
      rw [hl] at hs
      exact Decision.isPlain_of_mem_intent hs
    | some i =>
      rw [hl] at hs
      exact Reply.isPlain_of_mem_ofLine? hl hs
  | settled e passed =>
    have hp : ∀ s ∈ (m.reading e passed).intent.ambiguity, IsPlain s :=
      fun s hs => Reply.isPlain_of_mem_ofEnvelope hs
    exact iff_of_false (Intent.not_isDoubted_of_isPlain hp) fun hf => hf rfl
  | doubted hf =>
    rename_i e passed faults
    refine iff_of_true ⟨": " ++ Text.join "; " faults, ?_⟩ hf
    have hd : Reading.doubtMark ++ (": " ++ Text.join "; " faults) =
        Reading.doubtMark ++ ": " ++ Text.join "; " faults := (String.append_assoc ..).symm
    rw [hd]
    exact List.mem_append_right _ List.mem_cons_self

theorem Answered.sublist {k : Nat} {faults passed refused : List String} {w v : W} {e : Envelope}
    (h : Answered t watch m k faults w (.envelope e passed refused) v) :
    passed.Sublist e.control.updates := by
  cases h with
  | envelope _ _ hs => exact hs.sublist

theorem Concluded.confidence_eq {w v : W} {e : Envelope} {passed faults : List String} {r : Reading}
    (h : Concluded t watch m w (.envelope e passed faults) r v)
    (hd : Decimal.IsShare m.decision.confidence) (hf : faults ≠ []) :
    r.intent.confidence = (m.reading e passed).intent.confidence / 2 := by
  have hs : Decimal.IsShare (m.reading e passed).intent.confidence :=
    Reply.isShare_ofEnvelope hd m.corpus m.text e
  cases h with
  | settled => exact absurd rfl hf
  | doubted => exact Reading.confidence_doubted hs faults

/-- A message is read in at most as many attempts as there may be, one at the least. All but the last
of them got envelopes with rules that were refused. Of the last one, the rules that pass are proposed;
the intent tells doubts if and only if other rules of it were refused, and then it counts half. -/
theorem attempts_of_read {text : String} {history : List Turn} {attempts : Nat} {r : Reading}
    {w v : W} (h : (t.read watch text history attempts).on w = (.ok r, v)) :
    ∃ d u₀, (Decision.make watch (t.verbs.read w) t.classifier t.kernel text).on w = (.ok d, u₀) ∧
      ∃ k faults u a u',
        let m : Matter := ⟨text, history, t.verbs.read w, d⟩
        Repeated t watch m 0 [] u₀ k faults u ∧ k < max 1 attempts ∧
        Answered t watch m k faults u a u' ∧ (a.faults ≠ [] → k + 1 = max 1 attempts) ∧
        Concluded t watch m u' a r v ∧
        r.updates = a.passed ∧
        (r.intent.IsDoubted ↔ a.faults ≠ []) ∧
        ∀ e passed refused, a = .envelope e passed refused →
          passed.Sublist e.control.updates ∧
          (refused ≠ [] → r.intent.confidence = (m.reading e passed).intent.confidence / 2) := by
  have hv : t.verbs.value.on w = (.ok (t.verbs.read w), w) := rfl
  rw [read, Act.on_bind_ok hv] at h
  obtain ⟨d, u₀, hd, h⟩ := Act.exists_of_bind h
  obtain ⟨k, faults, u, a, u', hr, hk, ha, hl, hc⟩ := repeated_of_tryAll h
  have hlt : k < max 1 attempts := by
    clear h hv hd hr ha hl hc
    omega
  have hlast : a.faults ≠ [] → k + 1 = max 1 attempts := by
    intro hf
    have hk := hl hf
    clear h hv hd hr ha hl hc
    omega
  have hs : Decimal.IsShare d.confidence := Decision.yields_isShare_make _ _ _ _ _ w d u₀ hd
  refine ⟨d, u₀, hd, k, faults, u, a, u', hr, hlt, ha, hlast, hc, hc.updates_eq,
    hc.isDoubted_iff, ?_⟩
  intro e passed refused he
  subst he
  exact ⟨ha.sublist, hc.confidence_eq hs⟩

/-- An interpreter whose model gives the replies of a list, and fails when none is left. -/
def scripted : Interpreter (List String) where
  completer :=
    { provider := "", model := ⟨fun _ => "", fun _ w => w⟩
      complete := fun _ _ => do
        match ← get with
        | [] => throw (.emptyResponse "")
        | reply :: rest => do
          set rest
          pure reply }
  verbs := ⟨fun _ => ⟨[.named "fix" .mutation 1 ""]⟩, fun _ w => w⟩

/-- A watch over such replies that never loses patience. -/
def unhurried : Watch (List String) := ⟨⟨fun _ => 0, fun _ w => w⟩, fun _ => false, none⟩

/-- Two envelopes: all rules of the first are refused, and of the second the one in the middle. -/
def hastyReplies : List String :=
  ["\x7b\"surface_response\":\"\",\"control_packet\":\x7b\"intent_classification\":\x7b\x7d,\"mangle_updates\":\"lost(\"\x7d\x7d",
    "\x7b\"surface_response\":\"\",\"control_packet\":\x7b\"intent_classification\":\x7b\x7d,\"mangle_updates\":[\"p(1).\",\"p(X)\",\"p(1).\"]\x7d\x7d"]

theorem attempts_of_read_hastyReplies :
    ∃ r v, (scripted.read unhurried "mend x" [] 2).on hastyReplies = (.ok r, v) ∧
      r.updates = ["p(1).", "p(1)."] ∧ r.intent.IsDoubted ∧
      ∃ d u₀ k faults u a u',
        let m : Matter := ⟨"mend x", [], scripted.verbs.read hastyReplies, d⟩
        Repeated scripted unhurried m 0 [] u₀ k faults u ∧ k + 1 = 2 ∧
        Answered scripted unhurried m k faults u a u' ∧ r.updates = a.passed := by
  have he : ((scripted.read unhurried "mend x" [] 2).on hastyReplies).1.toOption.map
      (fun r => (r.updates, decide r.intent.IsDoubted)) = some (["p(1).", "p(1)."], true) := by
    decide +kernel
  obtain ⟨r, v, h, hr⟩ := Act.exists_on_of_map he
  obtain ⟨hu, hd⟩ := Prod.mk.inj hr
  have hdoubt := of_decide_eq_true hd
  obtain ⟨d, u₀, -, k, faults, u, a, u', hr, -, ha, hl, -, hp, hi, -⟩ := attempts_of_read h
  exact ⟨r, v, h, hu, hdoubt, d, u₀, k, faults, u, a, u', hr, hl (hi.mp hdoubt), ha, hp⟩

end Interpreter

end Utterance
