import Utterance.Proofs.Interpreter.Attempts

/-! Whatever a model and a kernel say, and however a turn ends, what it comes to is trusted to a share: to no
less than nothing, to no more than wholly, and never to what is no number. -/

namespace Utterance

open Decimal (IsShare)

/-! Replies. -/

theorem Envelope.isShare_normalizeConfidence (x : Float) : IsShare (normalizeConfidence x) := by
  unfold normalizeConfidence
  split <;> exact isShare_clampConfidence _

namespace LineReply

theorem isShare_confidence (field : Option (List Char)) : IsShare (confidence field) := by
  unfold confidence
  split
  · exact Envelope.isShare_normalizeConfidence _
  · exact ⟨by decide, by decide⟩

theorem isShare_of_read? {reply : String} {i : Intent} (h : read? reply = some i) :
    IsShare i.confidence := by
  obtain ⟨⟨fs, rest⟩, -, h⟩ := Option.bind_eq_some_iff.mp h
  dsimp only at h
  split at h
  case h_1 =>
    obtain ⟨category, -, h⟩ := Option.bind_eq_some_iff.mp h
    split at h
    · cases h
    · cases h
      exact isShare_confidence _
  · cases h

end LineReply

theorem Reply.isShare_ofLine? {c : Corpus} {d : Decision} {reply : String} {i : Intent}
    (h : ofLine? c d reply = some i) : IsShare i.confidence := by
  obtain ⟨j, hj, rfl⟩ := Option.map_eq_some_iff.mp h
  rw [confidence_closed]
  exact LineReply.isShare_of_read? hj

theorem Reading.isShare_doubted {r : Reading} (h : IsShare r.intent.confidence) (faults : List String) :
    IsShare (r.doubted faults).intent.confidence := by
  rw [confidence_doubted h]
  exact h.half

/-! Turns. -/

namespace Interpreter

variable {W : Type} {t : Interpreter W} {watch : Watch W} {m : Matter}

theorem yields_isShare_simplified (t : Interpreter W) (watch : Watch W)
    (hd : IsShare m.decision.confidence) :
    Act.Yields (fun i => IsShare i.confidence) (t.simplified watch m) := by
  refine Act.yields_bind _ fun reply => ?_
  cases h : reply.bind (Reply.ofLine? m.corpus m.decision) with
  | none => exact Act.yields_pure hd
  | some i =>
    obtain ⟨line, -, hl⟩ := Option.bind_eq_some_iff.mp h
    have hi : IsShare i.confidence := Reply.isShare_ofLine? hl
    exact Act.yields_pure hi

/-- Whichever answer counts, the reading is trusted to a share if the decision is. -/
theorem Concluded.isShare {a : Answer} {r : Reading} {w v : W} (h : Concluded t watch m w a r v)
    (hd : IsShare m.decision.confidence) : IsShare r.intent.confidence := by
  have henvelope (e : Envelope) (passed : List String) : IsShare (m.reading e passed).intent.confidence :=
    Reply.isShare_ofEnvelope hd m.corpus m.text e
  cases h with
  | none hs => exact yields_isShare_simplified t watch hd w _ v hs
  | line reply =>
    cases hl : Reply.ofLine? m.corpus m.decision reply with
    | none => exact hd
    | some i => exact Reply.isShare_ofLine? hl
  | settled e passed => exact henvelope e passed
  | doubted hf => exact Reading.isShare_doubted (henvelope _ _) _

theorem yields_isShare_read (t : Interpreter W) (watch : Watch W) (text : String) (history : List Turn)
    (attempts : Nat) :
    Act.Yields (fun r => IsShare r.intent.confidence) (t.read watch text history attempts) := by
  refine Act.yields_bind _ fun c => ?_
  refine (Decision.yields_isShare_make watch c t.classifier t.kernel text).bind fun d hd => ?_
  intro w r v h
  obtain ⟨k, faults, u, a, u', -, -, -, -, hc⟩ := repeated_of_tryAll h
  exact hc.isShare hd

theorem yields_isShare_interpret (t : Interpreter W) (watch : Watch W) (text : String)
    (history : List Turn) (attempts : Nat) :
    Act.Yields (fun r => IsShare r.intent.confidence) (t.interpret watch text history attempts) :=
  (t.yields_isShare_read watch text history attempts).bind fun _ hr =>
    Act.yields_bind _ fun _ => Act.yields_pure hr

theorem yields_isShare_understanding (t : Interpreter W) (watch : Watch W) (text : String)
    (history : List Turn) :
    Act.Yields (fun u => IsShare u.intent.confidence) (t.understanding watch text history) := by
  refine (t.yields_isShare_interpret watch text history t.options.attempts).bind fun r hr =>
    Act.yields_bind _ fun c => Act.yields_pure ?_
  have hs : ∀ shard, ((Understanding.ofIntent r.intent text).withShard shard).intent = r.intent :=
    fun shard => Understanding.intent_withShard ..
  cases r.understanding with
  | none =>
    dsimp only [Option.elim]
    rw [hs]
    exact hr
  | some j =>
    show IsShare (Understanding.withShard _ _).intent.confidence
    rw [hs]
    exact hr

/-- A confidence that may be shown: a number from zero to one. -/
def IsExposed (x : Float) : Prop :=
  x.isNaN = false ∧ 0 ≤ x ∧ x ≤ 1

theorem isExposed_of_isShare {x : Float} (h : IsShare x) : IsExposed x :=
  ⟨h.isNaN, h⟩

/-- Whatever a model replies and a kernel says, and however a turn comes to its end: the confidence of what it
returns, of the decision for a verb and of the intent that is made of this decision alone, is a number from zero
to one. -/
theorem isExposed_of_turn (t : Interpreter W) (watch : Watch W) (text : String) (history : List Turn)
    (attempts : Nat) (w : W) :
    (∀ r v, (t.interpret watch text history attempts).on w = (.ok r, v) →
        IsExposed r.intent.confidence) ∧
      (∀ i v, (t.intent watch text history).on w = (.ok i, v) → IsExposed i.confidence) ∧
      (∀ u v, (t.understanding watch text history).on w = (.ok u, v) →
        IsExposed u.intent.confidence) ∧
      ∀ corpus d v, (Decision.make watch corpus t.classifier t.kernel text).on w = (.ok d, v) →
        IsExposed d.confidence ∧ IsExposed (d.intent text).confidence := by
  refine ⟨fun r v h => ?_, fun i v h => ?_, fun u v h => ?_, fun corpus d v h => ?_⟩
  · exact isExposed_of_isShare (t.yields_isShare_interpret watch text history attempts w r v h)
  · obtain ⟨r, u, hr, h⟩ := Act.exists_of_bind h
    cases h
    exact isExposed_of_isShare (t.yields_isShare_interpret watch text history _ w r _ hr)
  · exact isExposed_of_isShare (t.yields_isShare_understanding watch text history w u v h)
  · have hd := isExposed_of_isShare (Decision.yields_isShare_make watch corpus _ _ text w d v h)
    exact ⟨hd, hd⟩

/-- An interpreter whose kernel and whose model are both more than certain. -/
def boasting : Interpreter Unit :=
  { replying "/mutation | fix | x | none | inf%" with
    kernel := some { Kernel.usual (fun _ => pure ()) (fun _ => pure []) with
      verdict? := fun _ _ => pure (some ⟨"fix", 1 / 0⟩) } }

theorem isExposed_of_turn_boasting :
    (∃ r, (boasting.interpret patient "mend x" [] 2).on () = (.ok r, ()) ∧
        IsExposed r.intent.confidence) ∧
      (∃ i, (boasting.intent patient "mend x" []).on () = (.ok i, ()) ∧ IsExposed i.confidence) ∧
      (∃ u, (boasting.understanding patient "mend x" []).on () = (.ok u, ()) ∧
        IsExposed u.intent.confidence) ∧
      ∃ d, (Decision.make patient (boasting.verbs.read ()) none boasting.kernel "mend x").on () =
          (.ok d, ()) ∧ d.decider = .kernel ∧ IsExposed d.confidence := by
  obtain ⟨hr, hi, hu, hd⟩ := boasting.isExposed_of_turn patient "mend x" [] 2 ()
  obtain ⟨r, v, h⟩ : ∃ r v, (boasting.interpret patient "mend x" [] 2).on () = (.ok r, v) :=
    Act.exists_on_ok (by decide +kernel)
  obtain ⟨i, v', h'⟩ : ∃ i v, (boasting.intent patient "mend x" []).on () = (.ok i, v) :=
    Act.exists_on_ok (by decide +kernel)
  obtain ⟨u, v'', h''⟩ : ∃ u v, (boasting.understanding patient "mend x" []).on () = (.ok u, v) :=
    Act.exists_on_ok (by decide +kernel)
  have hdecider : ((Decision.make patient (boasting.verbs.read ()) none boasting.kernel "mend x").on
      ()).1.toOption.map Decision.decider = some .kernel := by decide +kernel
  obtain ⟨d, w, hmake, hkernel⟩ := Act.exists_on_of_map hdecider
  exact ⟨⟨r, h, hr r v h⟩, ⟨i, h', hi i v' h'⟩, ⟨u, h'', hu u v'' h''⟩, d, hmake, hkernel,
    (hd _ d w hmake).1⟩

end Interpreter

end Utterance
