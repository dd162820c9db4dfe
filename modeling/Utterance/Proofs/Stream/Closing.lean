import Utterance.Proofs.Provider.Limits
import Utterance.Proofs.Stream.Frames

/-! What becomes of a stream behind the frame that closes it.

A closing frame is passed over like one that makes no sense, and the reading goes on to the end of the body. -/

namespace Utterance.Stream

/-! The end of a frame. -/

/-- Octets that end right behind a frame. -/
def EndsWith (front : List UInt8) (f : Frame) : Prop :=
  ∃ octets b, front = octets ++ [b] ∧ ((Decoder.push {} octets).1.octet b).2 = some f

namespace Decoder

/-- Only a line that ends yields a frame, and nothing is left of that frame. -/
theorem octet_of_frame {d : Decoder} {b : UInt8} {f : Frame} (h : (d.octet b).2 = some f) :
    d.octet b = ({}, some f) := by
  unfold octet at h ⊢
  by_cases hb : b = 10
  · rw [if_pos hb] at h ⊢
    have hdispatch : d.endLine = dispatch { d with line := [] } := by
      refine (readLine_cases _ _).resolve_right fun hn => ?_
      have hend : d.endLine.2 = none := hn
      rw [hend] at h
      cases h
    have hdata : d.data ≠ [] := by
      intro hd
      have hnone : d.endLine.2 = none := by
        rw [hdispatch]
        exact dispatch_of_data hd
      rw [hnone] at h
      cases h
    refine Prod.ext ?_ h
    rw [hdispatch, dispatch, if_neg (by simpa using hdata)]
  · rw [if_neg hb] at h
    cases h

theorem push_of_endsWith {front : List UInt8} {f : Frame} (h : EndsWith front f) :
    ∃ before, push {} front = ({}, before ++ [f]) := by
  obtain ⟨octets, b, rfl, hf⟩ := h
  have hlast : (push {} octets).1.push [b] = ({}, [f]) := by
    rw [push, octet_of_frame hf]
    rfl
  refine ⟨(push {} octets).2, ?_⟩
  rw [push_append, hlast]

end Decoder

theorem exists_framesOf {front : List UInt8} {f : Frame} (h : EndsWith front f) :
    ∃ before, framesOf front = before ++ [f] := by
  obtain ⟨before, hfront⟩ := Decoder.push_of_endsWith h
  have hnone : (Decoder.finish {}).2 = none := rfl
  refine ⟨before, ?_⟩
  rw [framesOf, hfront, hnone, Option.toList_none, List.append_nil]

/-- Behind the end of a frame a stream goes on as from its beginning. -/
theorem framesUpTo_eq {front back : List UInt8} {f : Frame} (h : EndsWith front f) {pieces : List (List UInt8)}
    (hp : pieces.flatten = front ++ back) (cut : Option Fault) :
    framesUpTo pieces cut = framesOf front ++ framesUpTo [back] cut := by
  obtain ⟨before, hfront⟩ := Decoder.push_of_endsWith h
  have hnone : (Decoder.finish {}).2 = none := rfl
  unfold framesUpTo framesOf
  rw [hp, Decoder.push_append, hfront, List.flatten_singleton, hnone, Option.toList_none, List.append_nil]
  split
  · rfl
  · rw [List.append_assoc]

/-! What a stream comes to, told by its frames. -/

namespace Reader

/-- What is done behind the last frame: the stream breaks off, or the gate lets through what it still may. -/
def ending (cut : Option Fault) : Act Reader Gathered := do
  match cut with
  | some e => throw e
  | none =>
    let r ← get
    set { r with gate := r.gate.finish.1, sent := r.gate.finish.2.toList ++ r.sent }
    pure r.gathered

variable (provider : String) (reader : FrameReader)

/-- Takes frames, and then what is behind the last one. -/
def frames (cut : Option Fault) (fs : List Frame) : Act Reader Gathered :=
  fs.forM (frame provider reader) >>= fun _ => ending cut

theorem frames_append (cut : Option Fault) (fs gs : List Frame) :
    frames provider reader cut (fs ++ gs) =
      fs.forM (frame provider reader) >>= fun _ => frames provider reader cut gs := by
  unfold frames
  rw [List.forM_eq_forM, List.forM_append, bind_assoc]

theorem detached_frames (cut : Option Fault) (fs : List Frame) : Detached (frames provider reader cut fs) := by
  intro d r
  have hframes := detached_forM (detached_frame provider reader) fs d r
  rw [frames, Act.on_bind, Act.on_bind, hframes]
  generalize (fs.forM (frame provider reader)).on r = x
  obtain ⟨o, s⟩ := x
  cases o with
  | ok _ => cases cut <;> rfl
  | error _ => rfl

/-- The end of a stream takes the frame that no blank line has ended. -/
theorem on_finish_eq (r : Reader) :
    (finish provider reader).on r =
      (frames provider reader none r.decoder.finish.2.toList).on (r.withDecoder r.decoder.finish.1) := rfl

end Reader

/-- A reading is told by the frames that it may come to, and by the fault with which the stream breaks off. -/
theorem read_eq_frames (provider : String) (reader : FrameReader) (pieces : List (List UInt8))
    (cut : Option Fault) :
    read provider reader pieces cut =
      ⟨((Reader.frames provider reader cut (framesUpTo pieces cut)).on {}).2.sent.reverse,
        ((Reader.frames provider reader cut (framesUpTo pieces cut)).on {}).1⟩ := by
  cases cut with
  | some e =>
    have halike : Reader.Alike ((Reader.all provider reader pieces (some e)).on {})
        ((Reader.frames provider reader (some e) (framesUpTo pieces (some e))).on
          (Reader.withDecoder (Decoder.push {} pieces.flatten).1 {})) :=
      (Reader.alike_pushes provider reader pieces {}).bind _
    rw [Reader.detached_frames] at halike
    have hread : read provider reader pieces (some e) =
        ⟨((Reader.all provider reader pieces (some e)).on {}).2.sent.reverse,
          ((Reader.all provider reader pieces (some e)).on {}).1⟩ := rfl
    rw [hread, halike.fst_eq, halike.sent_eq]
    rfl
  | none =>
    have hfs : framesUpTo pieces none = framesOf pieces.flatten := rfl
    rw [read_eq, hfs, framesOf, Reader.frames_append]
    generalize Decoder.push {} pieces.flatten = pushed
    obtain ⟨d, fs⟩ := pushed
    dsimp only
    rw [Act.on_bind, Act.on_bind, Reader.detached_forM (Reader.detached_frame provider reader)]
    generalize (fs.forM (Reader.frame provider reader)).on {} = x
    obtain ⟨o, s⟩ := x
    cases o with
    | ok _ =>
      have hfinish := Reader.detached_frames provider reader none d.finish.2.toList d.finish.1 s
      show Streamed.mk ((Reader.finish provider reader).on (s.withDecoder d)).2.sent.reverse
        ((Reader.finish provider reader).on (s.withDecoder d)).1 = _
      have hon : (Reader.finish provider reader).on (s.withDecoder d) =
          (Reader.frames provider reader none d.finish.2.toList).on (s.withDecoder d.finish.1) :=
        Reader.on_finish_eq ..
      rw [hon, hfinish]
      rfl
    | error _ => rfl

/-! What is said behind a frame. -/

/-- What is said adds nothing to what was said before: no error, no text, no reasoning, and no other usage. -/
structure AddsNothing (before behind : List Chunk) : Prop where
  isError : ∀ c ∈ behind, c.isError = false
  text : ∀ s ∈ behind.filterMap Chunk.text?, s = ""
  thinking : ∀ s ∈ behind.filterMap Chunk.thinking?, s = ""
  usage : ∀ block ∈ (behind.filterMap Chunk.usage?).getLast?,
    (before.filterMap Chunk.usage?).getLast? = some block

theorem addsNothing_of_idle (before : List Chunk) {behind : List Chunk}
    (h : ∀ c ∈ behind, (!c.isError && c.text?.isNone && c.thinking?.isNone && c.usage?.isNone) = true) :
    AddsNothing before behind := by
  simp only [Bool.and_eq_true, Bool.not_eq_true', Option.isNone_iff_eq_none] at h
  have hnone {α : Type} {f : Chunk → Option α} (hf : ∀ c ∈ behind, f c = none) : behind.filterMap f = [] :=
    List.filterMap_eq_nil_iff.mpr hf
  refine ⟨fun c hc => (h c hc).1.1.1, ?_, ?_, ?_⟩
  · rw [hnone fun c hc => (h c hc).1.1.2]
    exact List.forall_mem_nil _
  · rw [hnone fun c hc => (h c hc).1.2]
    exact List.forall_mem_nil _
  · rw [hnone fun c hc => (h c hc).2]
    rintro block ⟨⟩

theorem join_append_eq_left_iff (xs ys : List String) :
    String.join (xs ++ ys) = String.join xs ↔ ∀ s ∈ ys, s = "" := by
  have hempty : String.join ys = "" ↔ ∀ s ∈ ys, s = "" := by
    induction ys with
    | nil => simp
    | cons y ys ih => simp [ih]
  rw [← hempty, String.join_append]
  simp

theorem gatheredOf_append_eq_left_iff (before behind : List Chunk) :
    gatheredOf (before ++ behind) = gatheredOf before ↔
      (∀ s ∈ behind.filterMap Chunk.text?, s = "") ∧ (∀ s ∈ behind.filterMap Chunk.thinking?, s = "") ∧
        ∀ block ∈ (behind.filterMap Chunk.usage?).getLast?,
          (before.filterMap Chunk.usage?).getLast? = some block := by
  have husage (last first : Option Json) : last.or first = first ↔ ∀ block ∈ last, first = some block := by
    cases last with
    | none => simp
    | some block => simp [eq_comm]
  simp only [gatheredOf, List.filterMap_append, Gathered.mk.injEq, join_append_eq_left_iff,
    List.getLast?_append, husage]

namespace Gate

/-- Whether nothing may be let through before there is more of the envelope. -/
def IsDrained (g : Gate) : Prop :=
  g.push "" = (g, none)

theorem isDrained_empty : IsDrained {} := rfl

theorem release_release (g : Gate) : g.release.1.release = (g.release.1, none) := by
  by_cases h : g.surface.length ≤ g.released
  · have hg : g.release = (g, none) := if_pos h
    rw [hg]
    exact hg
  · have hg : g.release.1 = { g with released := g.surface.length } := by rw [release, if_neg h]
    rw [hg]
    exact if_pos (Nat.le_refl _)

theorem isDrained_push (g : Gate) (s : String) : IsDrained (g.push s).1 := by
  have hempty (g : Gate) : g.push "" =
      if g.controlDone && !g.held && g.surfaceBegun then g.release else (g, none) := rfl
  rw [push_eq]
  generalize g.run s.toList = g
  unfold IsDrained
  rw [hempty]
  split
  case isTrue => rw [release_release, ite_self]
  case isFalse => rfl

/-- Pieces without text let nothing through. -/
theorem outputs_append_of_empty {g : Gate} (hg : g.IsDrained) (ps : List String) {qs : List String}
    (hq : ∀ q ∈ qs, q = "") : g.outputs (ps ++ qs) = g.outputs ps := by
  induction ps generalizing g with
  | nil =>
    induction qs with
    | nil => rfl
    | cons q qs ih =>
      obtain ⟨rfl, hqs⟩ := List.forall_mem_cons.mp hq
      have hpush : g.push "" = (g, none) := hg
      have hstep : g.outputs ("" :: qs) = (g.push "").2.toList ++ (g.push "").1.outputs qs := rfl
      rw [List.nil_append, hstep, hpush]
      exact ih hqs
  | cons p ps ih => rw [List.cons_append, outputs, outputs, ih (isDrained_push g p)]

end Gate

namespace Reader

variable (provider : String) {reader : FrameReader}

theorem exists_on_chunks_error {cs : List Chunk} (h : ∃ c ∈ cs, c.isError = true) (r : Reader) :
    ∃ e s, (cs.forM (chunk provider)).on r = (.error e, s) := by
  induction cs generalizing r with
  | nil => simp at h
  | cons c cs ih =>
    cases hc : c.isError with
    | true =>
      obtain ⟨message, rfl⟩ : ∃ message, c = .error message := by
        cases c with
        | error message => exact ⟨message, rfl⟩
        | _ => cases hc
      exact ⟨faultOf provider message, r, rfl⟩
    | false =>
      have hcs : ∃ c ∈ cs, c.isError = true := by simpa [hc] using h
      rw [List.forM_eq_forM, List.forM_cons, Act.on_bind_ok (on_chunk provider hc r)]
      exact ih hcs _

theorem exists_on_frame_error {f : Frame} (h : ∃ c ∈ reader.said f, c.isError = true) (r : Reader) :
    ∃ e s, (frame provider reader f).on r = (.error e, s) := by
  rw [on_frame]
  unfold FrameReader.said at h
  split
  case isTrue hd => simp [hd] at h
  case isFalse hd =>
    rw [if_neg hd] at h
    cases hr : reader f with
    | error _ =>
      rw [hr] at h
      simp [Except.toOption] at h
    | ok cs =>
      rw [hr] at h
      obtain ⟨e, s, hcs⟩ := exists_on_chunks_error provider h r
      have hchunks : (cs.forM (chunk provider)).on r = (.error e, s) := hcs
      exact ⟨e, { s with sent := r.sent }, by simp only [hchunks]⟩

/-- Frames one of which reports an error end the reading. -/
theorem exists_on_frames_error {fs : List Frame} (h : ∃ c ∈ fs.flatMap reader.said, c.isError = true)
    (r : Reader) : ∃ e s, (fs.forM (frame provider reader)).on r = (.error e, s) := by
  induction fs generalizing r with
  | nil => simp at h
  | cons f fs ih =>
    rw [List.forM_eq_forM, List.forM_cons]
    by_cases hf : ∃ c ∈ reader.said f, c.isError = true
    · obtain ⟨e, s, hon⟩ := exists_on_frame_error provider hf r
      exact ⟨e, s, by rw [Act.on_bind, hon]⟩
    · have hquiet : ∀ c ∈ reader.said f, c.isError = false := by simpa using hf
      have hfs : ∃ c ∈ fs.flatMap reader.said, c.isError = true := by
        obtain ⟨c, hc, he⟩ := h
        rw [List.flatMap_cons, List.mem_append] at hc
        refine ⟨c, hc.resolve_left fun hm => ?_, he⟩
        rw [hquiet c hm] at he
        cases he
      rw [Act.on_bind_ok (on_frame_of_quiet provider hquiet r)]
      exact ih hfs _

end Reader

/-- A stream that breaks off, or reports an error, is not read to its end. -/
theorem exists_outcome_error (provider : String) {reader : FrameReader} {pieces : List (List UInt8)}
    {cut : Option Fault}
    (h : cut ≠ none ∨ ∃ c ∈ (framesUpTo pieces cut).flatMap reader.said, c.isError = true) :
    ∃ e, (read provider reader pieces cut).outcome = .error e := by
  rw [read_eq_frames]
  dsimp only
  rw [Reader.frames, Act.on_bind]
  rcases h with hcut | hsaid
  · obtain ⟨e, rfl⟩ := Option.ne_none_iff_exists'.mp hcut
    generalize ((framesUpTo pieces (some e)).forM (Reader.frame provider reader)).on {} = x
    obtain ⟨o, s⟩ := x
    cases o with
    | ok _ => exact ⟨e, rfl⟩
    | error e => exact ⟨e, rfl⟩
  · obtain ⟨e, s, hon⟩ := Reader.exists_on_frames_error provider hsaid {}
    rw [hon]
    exact ⟨e, rfl⟩

/-- A frame that closes a stream is passed over. -/
theorem on_frames_done {provider : String} {reader : FrameReader} {f : Frame} (hd : f.isDone)
    (cut : Option Fault) (before behind : List Frame) (r : Reader) :
    (Reader.frames provider reader cut (before ++ [f] ++ behind)).on r =
      (Reader.frames provider reader cut (before ++ behind)).on r := by
  have hframe (r : Reader) : ([f].forM (Reader.frame provider reader)).on r = (.ok ⟨⟩, r) := by
    refine Act.on_forM_cons ?_ []
    rw [Reader.on_frame, if_pos hd]
  have hskip (r : Reader) : (Reader.frames provider reader cut ([f] ++ behind)).on r =
      (Reader.frames provider reader cut behind).on r := by
    rw [Reader.frames_append, Act.on_bind_ok (hframe r)]
  rw [List.append_assoc, Reader.frames_append _ _ _ before, Reader.frames_append _ _ _ before, Act.on_bind,
    Act.on_bind]
  simp only [hskip]

/-- What frames come to that follow others does not matter behind an error. -/
theorem on_frames_append_error {provider : String} {reader : FrameReader} {fs : List Frame} {e : Fault} {r s : Reader}
    (h : (fs.forM (Reader.frame provider reader)).on r = (.error e, s)) (cut : Option Fault) (gs : List Frame) :
    (Reader.frames provider reader cut (fs ++ gs)).on r = (.error e, s) := by
  rw [Reader.frames_append, Act.on_bind, h]

/-- Where no error is reported, what is said behind a front of a body is without effect exactly if it adds
nothing. -/
theorem read_eq_iff_addsNothing (provider : String) {reader : FrameReader} {pieces : List (List UInt8)}
    (fronts : List (List UInt8)) {behind : List Chunk}
    (h : reader.saidIn pieces.flatten = reader.saidIn fronts.flatten ++ behind)
    (hquiet : ∀ c ∈ reader.saidIn pieces.flatten, c.isError = false) :
    read provider reader pieces none = read provider reader fronts none ↔
      AddsNothing (reader.saidIn fronts.flatten) behind := by
  have hboth := hquiet
  rw [h] at hboth
  obtain ⟨hfront, hbehind⟩ := List.forall_mem_append.mp hboth
  rw [read_of_quiet provider hquiet, read_of_quiet provider hfront, h, Streamed.mk.injEq, Except.ok.injEq,
    gatheredOf_append_eq_left_iff, List.filterMap_append]
  constructor
  · rintro ⟨-, htext, hthinking, husage⟩
    exact ⟨hbehind, htext, hthinking, husage⟩
  · rintro ⟨-, htext, hthinking, husage⟩
    exact ⟨Gate.outputs_append_of_empty Gate.isDrained_empty _ htext, htext, hthinking, husage⟩

section Front

variable (provider : String) {reader : FrameReader} {front back : List UInt8} {f : Frame}

theorem outcome_of_quiet (h : ∀ c ∈ reader.saidIn front, c.isError = false) :
    (read provider reader [front] none).outcome = .ok (gatheredOf (reader.saidIn front)) := by
  have honly : [front].flatten = front := List.flatten_singleton ..
  rw [read_of_quiet provider (by rwa [honly]), honly]

/-- An error that is reported in front decides the reading. -/
theorem read_of_front_error (hf : EndsWith front f) (h : ∃ c ∈ reader.saidIn front, c.isError = true)
    {pieces : List (List UInt8)} (hp : pieces.flatten = front ++ back) (cut : Option Fault) :
    read provider reader pieces cut = read provider reader [front] none ∧
      ∃ e, (read provider reader [front] none).outcome = .error e := by
  obtain ⟨e, s, hon⟩ := Reader.exists_on_frames_error provider h {}
  have hfront : framesUpTo [front] none = framesOf front := by
    have hall : framesUpTo [front] none = framesOf [front].flatten := rfl
    rw [hall, List.flatten_singleton]
  have hnone : (Reader.frames provider reader none (framesUpTo [front] none)).on {} = (.error e, s) := by
    have h := on_frames_append_error hon none []
    rwa [List.append_nil, ← hfront] at h
  rw [read_eq_frames, read_eq_frames, framesUpTo_eq hf hp, on_frames_append_error hon, hnone]
  exact ⟨rfl, e, rfl⟩

/-- Behind a front without errors, a stream that goes on is read as if it had ended there exactly if it comes to its
end and adds nothing. -/
theorem read_eq_front_iff (hf : EndsWith front f) (h : ∀ c ∈ reader.saidIn front, c.isError = false)
    {pieces : List (List UInt8)} (hp : pieces.flatten = front ++ back) (cut : Option Fault) :
    read provider reader pieces cut = read provider reader [front] none ↔
      cut = none ∧ AddsNothing (reader.saidIn front) (reader.saidIn back) := by
  have honly : [front].flatten = front := List.flatten_singleton ..
  have hsaid : reader.saidIn pieces.flatten = reader.saidIn front ++ reader.saidIn back := by
    have hall : framesOf pieces.flatten = framesOf front ++ framesOf [back].flatten := framesUpTo_eq hf hp none
    rw [FrameReader.saidIn, hall, List.flatMap_append, List.flatten_singleton]
    rfl
  by_cases hback : cut = none ∧ ∀ c ∈ reader.saidIn back, c.isError = false
  · obtain ⟨rfl, hback⟩ := hback
    have hiff := read_eq_iff_addsNothing provider [front] (by rwa [honly])
      (hsaid ▸ List.forall_mem_append.mpr ⟨h, hback⟩)
    rw [honly] at hiff
    rw [hiff]
    exact ⟨fun hadds => ⟨rfl, hadds⟩, And.right⟩
  · have herror : cut ≠ none ∨ ∃ c ∈ (framesUpTo pieces cut).flatMap reader.said, c.isError = true := by
      by_cases hcut : cut = none
      · obtain ⟨c, hc, he⟩ : ∃ c ∈ reader.saidIn back, c.isError = true := by simpa [hcut] using hback
        subst hcut
        have hmem : c ∈ reader.saidIn pieces.flatten := hsaid ▸ List.mem_append_right _ hc
        exact .inr ⟨c, hmem, he⟩
      · exact .inl hcut
    obtain ⟨e, he⟩ := exists_outcome_error provider herror
    refine iff_of_false (fun hread => ?_) fun hadds => hback ⟨hadds.1, hadds.2.isError⟩
    rw [hread, outcome_of_quiet provider h] at he
    cases he

end Front

/-- A frame that closes a stream does not end it. The stream is read as if the frame were missing, and so it is
read as if it ended with the frame exactly if an error came before, or if nothing is added behind. -/
theorem read_past_done {provider : String} {reader : FrameReader} {front back : List UInt8} {f : Frame}
    (hf : EndsWith front f) (hd : f.isDone) {pieces : List (List UInt8)} (hp : pieces.flatten = front ++ back)
    (cut : Option Fault) :
    (∀ others, framesUpTo others cut = (framesOf front).dropLast ++ framesUpTo [back] cut →
        read provider reader pieces cut = read provider reader others cut) ∧
      (read provider reader pieces cut = read provider reader [front] none ↔
        (∃ e, (read provider reader [front] none).outcome = .error e) ∨
          cut = none ∧ AddsNothing (reader.saidIn front) (reader.saidIn back)) := by
  refine ⟨?_, ?_⟩
  · intro others hothers
    obtain ⟨before, hfront⟩ := exists_framesOf hf
    rw [hfront, List.dropLast_concat] at hothers
    rw [read_eq_frames, read_eq_frames, framesUpTo_eq hf hp, hfront, hothers, on_frames_done hd]
  by_cases hquiet : ∀ c ∈ reader.saidIn front, c.isError = false
  · rw [read_eq_front_iff provider hf hquiet hp cut, outcome_of_quiet provider hquiet]
    simp
  · obtain ⟨hread, herror⟩ := read_of_front_error provider hf (by simpa using hquiet) hp cut
    exact iff_of_true hread (.inl herror)

/-- A frame that closes a stream, with an event and with blanks around its data. -/
def closingFrame : Frame := ⟨some "end", " [DONE] "⟩

/-- A reply with the frame that closes it. -/
def closedFront : List UInt8 :=
  Text.Utf8.encode "data: \x7b\"choices\":[\x7b\"delta\":\x7b\"content\":\"hé\"\x7d\x7d]\x7d\r\n\r\n" ++
    Text.Utf8.encode "event: end\r\ndata:  [DONE] \r\n\r\n"

/-- A comment, a frame that makes no sense, one that says that the reply is over, and a second closing one. -/
def idleBack : List UInt8 :=
  Text.Utf8.encode ": bye\n\ndata: oops\n\ndata: \x7b\"choices\":[\x7b\"finish_reason\":\"stop\"\x7d]\x7d\n\n" ++
    Text.Utf8.encode "data: [DONE]"

/-- One more piece of a reply. -/
def lateBack : List UInt8 :=
  Text.Utf8.encode "data: \x7b\"choices\":[\x7b\"delta\":\x7b\"content\":\"late\"\x7d\x7d]\x7d\n\n"

theorem endsWith_closedFront : EndsWith closedFront closingFrame := by
  have hfront : closedFront = _ := Text.Utf8.encode_append_ofList _ _
  refine ⟨closedFront.dropLast, 10, ?_, ?_⟩
  · rw [hfront]
    decide +kernel
  · rw [hfront]
    decide +kernel

theorem content_closedFront :
    (read "openai" Chat.readFrame [closedFront] none).outcome.map Gathered.content = .ok "hé" := by
  have hfront : closedFront = _ := Text.Utf8.encode_append_ofList _ _
  rw [hfront]
  decide +kernel

theorem read_past_done_idleBack :
    let cut := [(closedFront ++ idleBack).take 41, (closedFront ++ idleBack).drop 41]
    EndsWith closedFront closingFrame ∧ closingFrame.isDone ∧
      read "openai" Chat.readFrame cut none = read "openai" Chat.readFrame [closedFront] none ∧
      (read "openai" Chat.readFrame [closedFront] none).outcome.map Gathered.content = .ok "hé" := by
  intro cut
  have hdone : closingFrame.isDone := by decide +kernel
  have hcut : cut.flatten = closedFront ++ idleBack := by simp [cut]
  have hadds : AddsNothing (FrameReader.saidIn Chat.readFrame closedFront)
      (FrameReader.saidIn Chat.readFrame idleBack) := by
    have hback : idleBack = _ := Text.Utf8.encode_append_ofList _ _
    rw [hback]
    exact addsNothing_of_idle _ (by decide +kernel)
  exact ⟨endsWith_closedFront, hdone,
    (read_past_done endsWith_closedFront hdone hcut none).2.mpr (.inr ⟨rfl, hadds⟩), content_closedFront⟩

/-- What stands behind the frame that closes a stream still belongs to the reply. -/
theorem not_ended_by_done :
    EndsWith closedFront closingFrame ∧ closingFrame.isDone ∧
      (read "openai" Chat.readFrame [closedFront] none).outcome.map Gathered.content = .ok "hé" ∧
      (read "openai" Chat.readFrame [closedFront ++ lateBack] none).outcome.map Gathered.content = .ok "hélate" := by
  have hfront : closedFront = _ := Text.Utf8.encode_append_ofList _ _
  have hback : lateBack = _ := Text.Utf8.encode_ofList _
  refine ⟨endsWith_closedFront, by decide +kernel, content_closedFront, ?_⟩
  rw [hfront, hback]
  decide +kernel

end Utterance.Stream
