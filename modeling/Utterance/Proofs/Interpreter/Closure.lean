import Utterance.Interpreter.Interpret
import Utterance.Proofs.Verb.Decision

/-! Whatever a model or a kernel says, a message is read as a verb of the corpus, or as the one for
want of any. -/

namespace Utterance

/-- A verb of the corpus, or the one for want of any. -/
def Corpus.Known (c : Corpus) (verb : String) : Prop :=
  verb = fallbackVerb ∨ ∃ v ∈ c.verbs, v.name = verb

/-! Decisions. -/

namespace Corpus

theorem known_of_get? {c : Corpus} {name : String} {v : Verb} (h : c.get? name = some v) :
    c.Known (normalizeVerb name) := by
  obtain ⟨hv, hname⟩ := mem_of_get? h
  exact .inr ⟨v, hv, hname⟩

end Corpus

namespace Decision

theorem yields_make {W : Type} (watch : Watch W) (c : Corpus) (classifier : Option (Classifier W))
    (kernel : Option (Kernel W)) (message : String) :
    Act.Yields (fun d => c.Known d.verb) (make watch c classifier kernel message) := by
  intro w d v h
  obtain ⟨similar, rfl⟩ | ⟨k, similar, u, verdict, d', -, -, -, hverdict, rfl⟩ := split_of_make h
  · obtain ⟨x, hx, score, hd⟩ | ⟨-, hd⟩ := ofCandidates_cases (c.candidates message)
    · obtain ⟨y, hy, hparts⟩ := Corpus.exists_of_mem_candidates hx
      rw [hd]
      exact .inr ⟨y, hy, hparts.name⟩
    · rw [hd]
      exact .inl rfl
  · obtain ⟨-, -, y, hy, hparts⟩ := exists_of_ofVerdict? hverdict
    exact .inr ⟨y, hy, hparts.name⟩

end Decision

/-! Replies. -/

namespace Reply

theorem known_closed {c : Corpus} {d : Decision} {i : Intent} (hd : c.Known d.verb)
    (hi : normalizeVerb i.verb = i.verb) : c.Known (closed c d i).verb := by
  unfold closed
  split
  case isTrue h =>
    rcases Bool.or_eq_true_iff.mp h with h | h
    · exact .inl (beq_iff_eq.mp h)
    · obtain ⟨v, hv⟩ := Option.isSome_iff_exists.mp h
      rw [← hi]
      exact Corpus.known_of_get? hv
  · exact hd

theorem normal_of_read? {reply : String} {i : Intent} (h : LineReply.read? reply = some i) :
    normalizeVerb i.verb = i.verb := by
  obtain ⟨⟨fs, rest⟩, -, h⟩ := Option.bind_eq_some_iff.mp h
  dsimp only at h
  split at h
  case h_1 =>
    obtain ⟨category, -, h⟩ := Option.bind_eq_some_iff.mp h
    split at h
    · cases h
    · cases h
      exact normalizeVerb_normalizeVerb _
  · cases h

theorem known_ofLine? {c : Corpus} {d : Decision} {reply : String} {i : Intent}
    (hd : c.Known d.verb) (h : ofLine? c d reply = some i) : c.Known i.verb := by
  obtain ⟨j, hj, rfl⟩ := Option.map_eq_some_iff.mp h
  exact known_closed hd (normal_of_read? hj)

theorem known_ofEnvelope {c : Corpus} {d : Decision} (text : String) (e : Envelope)
    (hd : c.Known d.verb) : c.Known (ofEnvelope c d text e).verb := by
  unfold ofEnvelope
  dsimp only
  split
  · exact hd
  · exact known_closed hd (normalizeVerb_normalizeVerb _)

end Reply

/-! Turns. -/

theorem Understanding.intent_withShard (u : Understanding) (shard : String) :
    (u.withShard shard).intent = u.intent := by
  unfold withShard
  split <;> rfl

/-- The intent that an attempt has come to so far. -/
def Trial.intent : Trial → Intent
  | .settled r | .refused r _ => r.intent

namespace Interpreter

variable {W : Type} {m : Matter}

theorem yields_simplified (t : Interpreter W) (watch : Watch W)
    (hd : m.corpus.Known m.decision.verb) :
    Act.Yields (fun i => m.corpus.Known i.verb) (t.simplified watch m) := by
  refine Act.yields_bind _ fun reply => ?_
  cases h : reply.bind (Reply.ofLine? m.corpus m.decision) with
  | none => exact Act.yields_pure hd
  | some i =>
    obtain ⟨line, -, hl⟩ := Option.bind_eq_some_iff.mp h
    have hk : m.corpus.Known i.verb := Reply.known_ofLine? hd hl
    exact Act.yields_pure hk

theorem yields_judge (t : Interpreter W) (watch : Watch W) (reply : String)
    (hd : m.corpus.Known m.decision.verb) :
    Act.Yields (fun r => m.corpus.Known r.intent.verb) (t.judge watch m reply) := by
  unfold judge
  cases Envelope.parse reply with
  | error _ =>
    refine Act.yields_pure ?_
    cases h : Reply.ofLine? m.corpus m.decision reply with
    | none => exact hd
    | some i => exact Reply.known_ofLine? hd h
  | ok e =>
    refine Act.yields_bind _ fun ⟨updates, faults⟩ => Act.yields_pure ?_
    split <;> exact Reply.known_ofEnvelope m.text e hd

theorem yields_tryOnce (t : Interpreter W) (watch : Watch W) (attempt : Nat) (faults : List String)
    (hd : m.corpus.Known m.decision.verb) :
    Act.Yields (fun r => m.corpus.Known r.intent.verb) (t.tryOnce watch m attempt faults) := by
  refine Act.yields_bind _ fun o => ?_
  cases o with
  | ok reply => exact t.yields_judge watch reply hd
  | error e =>
    dsimp only
    split
    · exact Act.yields_throw _ e
    · exact (t.yields_simplified watch hd).bind fun i hi => Act.yields_pure hi

/-- The verb stays known over the attempts, however many rules are refused. -/
theorem yields_tryAll (t : Interpreter W) (watch : Watch W) (attempt : Nat) (faults : List String)
    (left : Nat) (hd : m.corpus.Known m.decision.verb) :
    Act.Yields (fun r => m.corpus.Known r.intent.verb)
      (t.tryAll watch m attempt faults left) := by
  induction left generalizing attempt faults with
  | zero =>
    refine (t.yields_tryOnce watch attempt faults hd).bind fun r hr => ?_
    cases r with
    | settled r => exact Act.yields_pure hr
    | refused r faults => exact Act.yields_pure hr
  | succ left ih =>
    refine (t.yields_tryOnce watch attempt faults hd).bind fun r hr => ?_
    cases r with
    | settled r => exact Act.yields_pure hr
    | refused r faults => exact ih (attempt + 1) faults

theorem yieldsAt_read (t : Interpreter W) (watch : Watch W) (text : String) (history : List Turn)
    (attempts : Nat) (w : W) :
    Act.YieldsAt w (fun r => (t.verbs.read w).Known r.intent.verb)
      (t.read watch text history attempts) := by
  have hv : t.verbs.value.on w = (.ok (t.verbs.read w), w) := rfl
  intro r v h
  rw [read, Act.on_bind_ok hv] at h
  have hd := Decision.yields_make watch (t.verbs.read w) t.classifier t.kernel text
  have hr : Act.Yields (fun r : Reading => (t.verbs.read w).Known r.intent.verb) _ :=
    hd.bind fun d hd =>
      t.yields_tryAll (m := ⟨text, history, t.verbs.read w, d⟩) watch 0 [] (attempts - 1) hd
  exact hr w r v h

theorem yieldsAt_interpret (t : Interpreter W) (watch : Watch W) (text : String)
    (history : List Turn) (attempts : Nat) (w : W) :
    Act.YieldsAt w (fun r => (t.verbs.read w).Known r.intent.verb)
      (t.interpret watch text history attempts) :=
  (t.yieldsAt_read watch text history attempts w).bind fun _ hr =>
    Act.yields_bind _ fun _ => Act.yields_pure hr

theorem yieldsAt_understanding (t : Interpreter W) (watch : Watch W) (text : String)
    (history : List Turn) (w : W) :
    Act.YieldsAt w (fun u => (t.verbs.read w).Known u.intent.verb)
      (t.understanding watch text history) := by
  refine (t.yieldsAt_interpret watch text history t.options.attempts w).bind fun r hr =>
    Act.yields_bind _ fun c => Act.yields_pure ?_
  have hs : ∀ shard, ((Understanding.ofIntent r.intent text).withShard shard).intent = r.intent :=
    fun shard => Understanding.intent_withShard ..
  cases r.understanding with
  | none =>
    dsimp only [Option.elim]
    rw [hs]
    exact hr
  | some j =>
    show (t.verbs.read w).Known ((Understanding.withShard _ _).intent.verb)
    rw [hs]
    exact hr

/-- Whatever is made of a message, its verb is one of the corpus with which the turn began, or the
one for want of any. -/
theorem known_of_turn (t : Interpreter W) (watch : Watch W) (text : String) (history : List Turn)
    (attempts : Nat) (w : W) :
    (∀ r v, (t.interpret watch text history attempts).on w = (.ok r, v) →
        (t.verbs.read w).Known r.intent.verb) ∧
      (∀ i v, (t.intent watch text history).on w = (.ok i, v) → (t.verbs.read w).Known i.verb) ∧
      ∀ u v, (t.understanding watch text history).on w = (.ok u, v) →
        (t.verbs.read w).Known u.intent.verb := by
  refine ⟨t.yieldsAt_interpret watch text history attempts w, ?_,
    t.yieldsAt_understanding watch text history w⟩
  exact (t.yieldsAt_interpret watch text history t.options.attempts w).bind fun _ hr =>
    Act.yields_pure hr

/-- A watch that never loses patience. -/
def patient : Watch Unit := ⟨⟨fun _ => 0, fun _ w => w⟩, fun _ => false, none⟩

/-- An interpreter that knows one verb, and whose model always gives the same reply. -/
def replying (reply : String) : Interpreter Unit where
  completer :=
    { provider := "", model := ⟨fun _ => "", fun _ w => w⟩, complete := fun _ _ => pure reply }
  verbs := ⟨fun _ => ⟨[.named "fix" .mutation 1 ""]⟩, fun _ w => w⟩

theorem known_of_turn_replying :
    let t := replying "/mutation | Dance | x | none"
    (∃ r, (t.interpret patient "mend x" [] 2).on () = (.ok r, ()) ∧
      (t.verbs.read ()).Known r.intent.verb) ∧
    (∃ i, (t.intent patient "mend x" []).on () = (.ok i, ()) ∧ (t.verbs.read ()).Known i.verb) ∧
    ∃ u, (t.understanding patient "mend x" []).on () = (.ok u, ()) ∧
      (t.verbs.read ()).Known u.intent.verb := by
  intro t
  obtain ⟨hr, hi, hu⟩ := t.known_of_turn patient "mend x" [] 2 ()
  obtain ⟨r, v, h⟩ : ∃ r v, (t.interpret patient "mend x" [] 2).on () = (.ok r, v) :=
    Act.exists_on_ok (by decide +kernel)
  obtain ⟨i, v', h'⟩ : ∃ i v, (t.intent patient "mend x" []).on () = (.ok i, v) :=
    Act.exists_on_ok (by decide +kernel)
  obtain ⟨u, v'', h''⟩ : ∃ u v, (t.understanding patient "mend x" []).on () = (.ok u, v) :=
    Act.exists_on_ok (by decide +kernel)
  exact ⟨⟨r, h, hr r v h⟩, ⟨i, h', hi i v' h'⟩, u, h'', hu u v'' h''⟩

end Interpreter

end Utterance
