import Utterance.Proofs.Envelope.Objects
import Utterance.Proofs.Stream.Reading
import Utterance.Provider.Client

/-! What becomes of an error that a service reports, in a whole reply and in the first frame of a stream. -/

namespace Utterance

namespace Stream

/-! The first frame. -/

/-- An object does not close a stream. -/
theorem isDone_of_object {f : Frame} {j : Json} (h : Json.ofText? f.data = some j) (hj : j.isObject) :
    f.isDone = false := by
  obtain ⟨front, body, back, htext, -⟩ := Envelope.exists_isInside h hj
  have hbrace : '{' ∈ Text.trim f.data.toList := by
    refine Text.mem_trim_of_mem ?_ (by decide)
    rw [htext]
    simp
  refine Bool.of_not_eq_true fun hd => ?_
  have htrim : Text.trim f.data.toList = doneData.toList := by
    rw [← beq_iff_eq.mp hd, Text.trimmed, String.toList_ofList]
  rw [htrim] at hbrace
  revert hbrace
  decide

theorem on_frame_error {provider message : String} {reader : FrameReader} {f : Frame} (hd : f.isDone = false)
    (h : reader f = .ok [.error message]) (r : Reader) :
    (Reader.frame provider reader f).on r = (.error (Reader.faultOf provider message), r) := by
  rw [Reader.on_frame, hd, h]
  rfl

theorem on_frames_error {provider message : String} {reader : FrameReader} {f : Frame} (hd : f.isDone = false)
    (h : reader f = .ok [.error message]) (fs : List Frame) (r : Reader) :
    ((f :: fs).forM (Reader.frame provider reader)).on r =
      (.error (Reader.faultOf provider message), r) := by
  rw [List.forM_eq_forM, List.forM_cons, Act.on_bind, on_frame_error hd h]

/-- The frames that a reading may come to: behind a stream that breaks off nothing more is made of what has
come of a last one. -/
def framesUpTo (pieces : List (List UInt8)) (cut : Option Fault) : List Frame :=
  if cut.isSome then (Decoder.push {} pieces.flatten).2 else framesOf pieces.flatten

theorem on_finish_error {provider message : String} {reader : FrameReader} {f : Frame}
    (hd : f.isDone = false) (h : reader f = .ok [.error message]) {r : Reader}
    (hf : r.decoder.finish.2 = some f) :
    (Reader.finish provider reader).on r =
      (.error (Reader.faultOf provider message), r.withDecoder r.decoder.finish.1) := by
  have hframes : ((some f).toList.forM (Reader.frame provider reader)).on
      { r with decoder := r.decoder.finish.1 } =
        (.error (Reader.faultOf provider message), r.withDecoder r.decoder.finish.1) :=
    on_frames_error hd h [] _
  unfold Reader.finish
  rw [Act.on_bind_ok (Act.on_get r), Act.on_bind_ok (Act.on_set ..), hf, Act.on_bind, hframes]

/-- Whatever would be done behind the octets is not done any more. -/
theorem alike_error {provider message : String} {reader : FrameReader} {pieces : List (List UInt8)}
    {f : Frame} {fs : List Frame} (hp : (Decoder.push {} pieces.flatten).2 = f :: fs)
    (hd : f.isDone = false) (h : reader f = .ok [.error message]) (next : Unit → Act Reader Gathered) :
    Reader.Alike ((pieces.forM (Reader.push provider reader) >>= next).on {})
      (.error (Reader.faultOf provider message),
        Reader.withDecoder (Decoder.push {} pieces.flatten).1 {}) := by
  have halike := (Reader.alike_pushes provider reader pieces {}).bind next
  have hframes : (((({} : Reader).decoder.push pieces.flatten).2.forM (Reader.frame provider reader) >>=
      next).on (Reader.withDecoder (({} : Reader).decoder.push pieces.flatten).1 {})) =
        (.error (Reader.faultOf provider message),
          Reader.withDecoder (Decoder.push {} pieces.flatten).1 {}) := by
    rw [Act.on_bind, hp, on_frames_error hd h]
  rwa [hframes] at halike

/-- A stream whose first frame reports an error ends there, however it was cut, and whatever follows. -/
theorem read_error {provider message : String} {reader : FrameReader} {pieces : List (List UInt8)}
    {cut : Option Fault} {f : Frame} (hf : (framesUpTo pieces cut).head? = some f) (hd : f.isDone = false)
    (h : reader f = .ok [.error message]) :
    read provider reader pieces cut = ⟨[], .error (Reader.faultOf provider message)⟩ := by
  cases hp : (Decoder.push {} pieces.flatten).2 with
  | cons g fs =>
    obtain rfl : g = f := by
      cases cut with
      | some e => simpa [framesUpTo, hp] using hf
      | none => simpa [framesUpTo, framesOf, hp] using hf
    have hends : Reader.Alike ((Reader.all provider reader pieces cut).on {}) _ := alike_error hp hd h _
    have hread : read provider reader pieces cut =
        ⟨((Reader.all provider reader pieces cut).on {}).2.sent.reverse,
          ((Reader.all provider reader pieces cut).on {}).1⟩ := rfl
    rw [hread, hends.fst_eq, hends.sent_eq]
    rfl
  | nil =>
    cases cut with
    | some e =>
      simp [framesUpTo, hp] at hf
    | none =>
      have hlast : (Decoder.push {} pieces.flatten).1.finish.2 = some f := by
        simpa [framesUpTo, framesOf, hp] using hf
      generalize hr : Reader.withDecoder (Decoder.push {} pieces.flatten).1 {} = r
      have hempty : (([] : List Frame).forM (Reader.frame provider reader)).on r = (.ok (), r) := rfl
      have hfinish : (Reader.finish provider reader).on r =
          (.error (Reader.faultOf provider message), r.withDecoder r.decoder.finish.1) := by
        refine on_finish_error hd h ?_
        rw [← hr]
        exact hlast
      rw [read_eq, hp]
      dsimp only
      rw [hr, Act.on_bind_ok hempty, hfinish, ← hr]
      rfl

end Stream

theorem Json.isObject_of_get? {j e : Json} {key : String} (h : j.get? key = some e) : j.isObject := by
  obtain ⟨ms, hms, -⟩ := Option.bind_eq_some_iff.mp h
  rw [isObject, hms]
  rfl

namespace Wire

theorem decodeFrame_of_data {f : Stream.Frame} {j : Json} (hf : Json.ofText? f.data = some j) :
    decodeFrame f = .ok j := by
  rw [decodeFrame, hf]

/-! Error payloads. -/

/-- An error payload of a service, and the words that a stream passes on for it. -/
inductive Reports : Wire → Json → String → Prop
  | chat (d : Chat.Dialect) {j e : Json} (he : j.get? "error" = some e) :
    Reports (Chat.wire d) j ((e.getText? "message").getD e.compact)
  | anthropic {j e : Json} (ht : j.getText? "type" = some "error") (he : j.get? "error" = some e) :
    Reports Anthropic.wire j (Anthropic.errorText j "stream error")

namespace Reports

variable {w : Wire} {j : Json} {message : String}

theorem isObject (h : Reports w j message) : j.isObject := by
  cases h with
  | chat d he => exact Json.isObject_of_get? he
  | anthropic ht he => exact Json.isObject_of_get? he

/-- A frame that holds the payload says nothing else. -/
theorem readFrame (h : Reports w j message) {f : Stream.Frame} (hf : Json.ofText? f.data = some j) :
    w.readFrame f = .ok [.error message] := by
  cases h with
  | chat d he =>
    show Chat.readFrame f = _
    rw [Chat.readFrame, decodeFrame_of_data hf]
    simp only [bind, Except.bind, he]
    rfl
  | anthropic ht he =>
    show Anthropic.readFrame f = _
    rw [Anthropic.readFrame, decodeFrame_of_data hf]
    simp only [bind, Except.bind, ht]
    rfl

/-- The fault of a whole reply that holds the payload. -/
def refusal (w : Wire) (j : Json) (why body : String) : Fault :=
  match RateLimit.inPayload? j with
  | some text => .rateLimited w.provider none ("error payload: " ++ text)
  | none => .ofBody w.provider ("error payload: " ++ why) body

theorem on_decodeBody {body : String} (hb : Json.ofText? body = some j) (provider : String) (u : Usage) :
    (Act.ofOutcome (decodeBody provider body)).on u = (.ok j, u) := by
  rw [decodeBody, hb]
  rfl

theorem on_readReply_chat {d : Chat.Dialect} {e : Json} (he : j.get? "error" = some e) {body : String}
    (hb : Json.ofText? body = some j) (u : Usage) :
    ((Chat.wire d).readReply body).on u =
      (.error (refusal (Chat.wire d) j ((e.getText? "message").getD "unknown error") body), u) := by
  show (Chat.readReply d.name body).on u = _
  rw [Chat.readReply, Act.on_bind_ok (on_decodeBody hb d.name u), refuseLimit, refusal, Act.on_bind]
  cases RateLimit.inPayload? j with
  | some text => rfl
  | none =>
    dsimp only [Act.ofOutcome]
    rw [he]
    rfl

theorem on_readReply_anthropic (ht : j.getText? "type" = some "error") {body : String}
    (hb : Json.ofText? body = some j) (u : Usage) :
    (Anthropic.wire.readReply body).on u =
      (.error (refusal Anthropic.wire j (Anthropic.errorText j "unknown error") body), u) := by
  show (Anthropic.readReply body).on u = _
  rw [Anthropic.readReply, Act.on_bind_ok (on_decodeBody hb Anthropic.provider u), refuseLimit, refusal,
    Act.on_bind]
  cases RateLimit.inPayload? j with
  | some text => rfl
  | none =>
    dsimp only [Act.ofOutcome]
    rw [ht]
    rfl

theorem refusal_provider (w : Wire) (j : Json) (why body : String) :
    (refusal w j why body).provider? = some w.provider := by
  unfold refusal
  split
  · rfl
  · rfl

theorem refusal_isRateLimited (w : Wire) (j : Json) (why body : String) :
    (refusal w j why body).isRateLimited = (RateLimit.inPayload? j).isSome := by
  unfold refusal
  split
  case h_1 hl => rw [hl]; rfl
  case h_2 hl => rw [hl]; rfl

/-- A whole reply that holds the payload is refused, as a limit exactly if the error speaks of too many
requests. -/
theorem exists_refusal (h : Reports w j message) {body : String} (hb : Json.ofText? body = some j) :
    ∃ why, ∀ u, (w.readReply body).on u = (.error (refusal w j why body), u) := by
  cases h with
  | chat d he => exact ⟨_, on_readReply_chat he hb⟩
  | anthropic ht he => exact ⟨_, on_readReply_anthropic ht hb⟩

end Reports

/-- An error payload is refused in a whole reply, and ends a stream whose first frame holds it. Both faults
come from the same service. The whole reply is limited if any of the telling members of the error speaks of
too many requests; the stream is limited if the words do that are passed on for it. -/
theorem read_of_report {w : Wire} {j : Json} {message : String} (h : Reports w j message) {body : String}
    (hb : Json.ofText? body = some j) :
    ∃ whole streamed : Fault, (∀ u, (w.readReply body).on u = (.error whole, u)) ∧
      (∀ pieces cut f, (Stream.framesUpTo pieces cut).head? = some f → f.data = body →
        Stream.read w.provider w.readFrame pieces cut = ⟨[], .error streamed⟩) ∧
      whole.provider? = some w.provider ∧ streamed.provider? = some w.provider ∧
      whole.isRateLimited = (RateLimit.inPayload? j).isSome ∧
      streamed.isRateLimited = RateLimit.isMarked message := by
  obtain ⟨why, hwhole⟩ := h.exists_refusal hb
  refine ⟨_, Stream.Reader.faultOf w.provider message, hwhole, ?_, Reports.refusal_provider .., ?_,
    Reports.refusal_isRateLimited .., ?_⟩
  · intro pieces cut f hf hdata
    rw [← hdata] at hb
    exact Stream.read_error hf (Stream.isDone_of_object hb h.isObject) (h.readFrame hb)
  · unfold Stream.Reader.faultOf
    split
    · rfl
    · rfl
  · unfold Stream.Reader.faultOf
    split
    case isTrue hm => rw [hm]; rfl
    case isFalse hm => rw [Bool.of_not_eq_true hm]; rfl

/-- An error whose message speaks of too many requests. -/
def loudReport : String :=
  "\x7b\"type\":\"error\",\"error\":\x7b\"type\":\"overloaded\",\"message\":\"Too many requests\"\x7d\x7d"

/-- An error that is a limit by its type alone. -/
def quietReport : String :=
  "\x7b\"type\":\"error\",\"error\":\x7b\"type\":\"rate_limit_error\",\"message\":\"slow down\"\x7d\x7d"

/-- A stream whose first frame holds an error. -/
def reportStream (report : String) : List UInt8 :=
  ("event: error\ndata: " ++ report ++ "\n\ndata: [DONE]\n\n").toUTF8.toList

theorem read_loudReport :
    ∃ j, Json.ofText? loudReport = some j ∧
      Reports Anthropic.wire j (Anthropic.errorText j "stream error") ∧
      ∃ whole streamed : Fault, (Anthropic.wire.readReply loudReport).on {} = (.error whole, {}) ∧
        Stream.read "anthropic" Anthropic.readFrame
          [(reportStream loudReport).take 40, (reportStream loudReport).drop 40] none =
          ⟨[], .error streamed⟩ ∧
        whole.isRateLimited ∧ streamed.isRateLimited ∧ whole.provider? = streamed.provider? := by
  have hfacts : ((Json.ofText? loudReport).map fun j =>
      (j.getText? "type" == some "error") && (j.get? "error").isSome && (RateLimit.inPayload? j).isSome &&
        RateLimit.isMarked (Anthropic.errorText j "stream error")) = some true := by decide +kernel
  obtain ⟨j, hj, hfacts⟩ := Option.map_eq_some_iff.mp hfacts
  simp only [Bool.and_eq_true, beq_iff_eq] at hfacts
  obtain ⟨⟨⟨ht, he⟩, hlimited⟩, hmarked⟩ := hfacts
  obtain ⟨e, he⟩ := Option.isSome_iff_exists.mp he
  have hreport : Reports Anthropic.wire j (Anthropic.errorText j "stream error") := .anthropic ht he
  obtain ⟨whole, streamed, hwhole, hstreamed, hw, hs, hwl, hsl⟩ := read_of_report hreport hj
  have hfirst : (Stream.framesUpTo [(reportStream loudReport).take 40, (reportStream loudReport).drop 40]
      none).head? = some ⟨some "error", loudReport⟩ := by decide +kernel
  refine ⟨j, hj, hreport, whole, streamed, hwhole {}, hstreamed _ _ _ hfirst rfl, ?_, ?_, hw.trans hs.symm⟩
  · rw [hwl, hlimited]
  · rw [hsl, hmarked]

/-- A limit that only the type of the error tells is one for a whole reply, but not for a stream. -/
theorem not_limited_quietReport :
    ((Anthropic.wire.readReply quietReport).on {}).1 =
        .error (.rateLimited "anthropic" none "error payload: slow down rate_limit_error") ∧
      (Stream.framesUpTo [reportStream quietReport] none).head? = some ⟨some "error", quietReport⟩ ∧
      (Stream.read "anthropic" Anthropic.readFrame [reportStream quietReport] none).outcome.map
          (fun _ => ()) = .error (.transport "anthropic" "slow down") := by
  refine ⟨?_, ?_, ?_⟩
  · decide +kernel
  · decide +kernel
  · decide +kernel

end Wire

end Utterance
