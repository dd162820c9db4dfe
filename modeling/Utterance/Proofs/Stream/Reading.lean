import Utterance.Proofs.Act
import Utterance.Proofs.Stream.Passage
import Utterance.Provider.Chat
import Utterance.Stream.Reader

/-! What is made of a stream that reports no error: its reply, its reasoning, and what of the reply
is sent on. A stream is read in the same way however the network cuts it. -/

namespace Utterance.Stream

/-! Cuts. -/

theorem Decoder.push_append (d : Decoder) (xs ys : List UInt8) :
    d.push (xs ++ ys) =
      (((d.push xs).1.push ys).1, (d.push xs).2 ++ ((d.push xs).1.push ys).2) := by
  induction xs generalizing d with
  | nil => rfl
  | cons x xs ih => simp only [List.cons_append, push, ih, List.append_assoc]

namespace Reader

/-- The state with another decoder. -/
def withDecoder (d : Decoder) (r : Reader) : Reader := { r with decoder := d }

@[simp] theorem withDecoder_decoder (d : Decoder) (r : Reader) :
    (r.withDecoder d).decoder = d := rfl

@[simp] theorem withDecoder_gate (d : Decoder) (r : Reader) : (r.withDecoder d).gate = r.gate := rfl

@[simp] theorem withDecoder_gathered (d : Decoder) (r : Reader) :
    (r.withDecoder d).gathered = r.gathered := rfl

@[simp] theorem withDecoder_sent (d : Decoder) (r : Reader) : (r.withDecoder d).sent = r.sent := rfl

/-- An act that has nothing to do with the decoder. -/
def Detached {α : Type} (a : Act Reader α) : Prop :=
  ∀ d r, a.on (r.withDecoder d) = ((a.on r).1, (a.on r).2.withDecoder d)

theorem detached_forM {α : Type} {f : α → Act Reader Unit} (h : ∀ x, Detached (f x)) (xs : List α) :
    Detached (xs.forM f) := by
  intro d r
  induction xs generalizing r with
  | nil => rfl
  | cons x xs ih =>
    simp only [List.forM_eq_forM, List.forM_cons, Act.on_bind, h x d r]
    cases (f x).on r with
    | mk o s =>
      cases o with
      | ok _ => exact ih s
      | error _ => rfl

theorem detached_chunk (provider : String) (c : Chunk) : Detached (chunk provider c) := by
  intro d r
  cases c <;> rfl

/-- How a frame is taken. -/
theorem on_frame (provider : String) (reader : FrameReader) (f : Frame) (r : Reader) :
    (frame provider reader f).on r =
      if f.isDone then (.ok (), r)
      else
        match reader f with
        | .error _ => (.ok (), r)
        | .ok cs =>
          match (cs.forM (chunk provider)).on r with
          | (.ok _, s) => (.ok (), s)
          | (.error e, s) => (.error e, { s with sent := r.sent }) := by
  simp only [frame, Act.on_bind, Act.on_get]
  split
  · rfl
  · cases reader f with
    | error _ => rfl
    | ok cs =>
      simp only [Act.on_bind, Act.on_attempt]
      cases (cs.forM (chunk provider)).on r with
      | mk o s => cases o <;> rfl

theorem detached_frame (provider : String) (reader : FrameReader) (f : Frame) :
    Detached (frame provider reader f) := by
  intro d r
  simp only [on_frame]
  split
  · rfl
  · cases reader f with
    | error _ => rfl
    | ok cs =>
      simp only [detached_forM (detached_chunk provider) cs d r]
      cases (cs.forM (chunk provider)).on r with
      | mk o s => cases o <;> rfl

/-- Two readings that end alike. Where they fail, one may have decoded more than the other. -/
inductive Alike {α : Type} : Outcome α × Reader → Outcome α × Reader → Prop where
  | ok (x : α) (r : Reader) : Alike (.ok x, r) (.ok x, r)
  | error (e : Fault) (r : Reader) (d d' : Decoder) :
    Alike (.error e, r.withDecoder d) (.error e, r.withDecoder d')

theorem Alike.refl {α : Type} (x : Outcome α × Reader) : Alike x x := by
  obtain ⟨o, r⟩ := x
  cases o with
  | ok x => exact .ok x r
  | error e => exact .error e r r.decoder r.decoder

theorem Alike.bind {α β : Type} {a b : Act Reader α} {r s : Reader} (h : Alike (a.on r) (b.on s))
    (f : α → Act Reader β) : Alike ((a >>= f).on r) ((b >>= f).on s) := by
  rw [Act.on_bind, Act.on_bind]
  generalize a.on r = x, b.on s = y at h
  cases h with
  | ok x t => exact .refl _
  | error e t d d' => exact .error e t d d'

theorem Alike.fst_eq {α : Type} {x y : Outcome α × Reader} (h : Alike x y) : x.1 = y.1 := by
  cases h <;> rfl

theorem Alike.sent_eq {α : Type} {x y : Outcome α × Reader} (h : Alike x y) :
    x.2.sent = y.2.sent := by
  cases h <;> rfl

theorem on_push (provider : String) (reader : FrameReader) (octets : List UInt8) (r : Reader) :
    (push provider reader octets).on r =
      ((r.decoder.push octets).2.forM (frame provider reader)).on
        (r.withDecoder (r.decoder.push octets).1) := rfl

/-- Octets in pieces are taken as the frames of all of them. -/
theorem alike_pushes (provider : String) (reader : FrameReader) (pieces : List (List UInt8))
    (r : Reader) :
    Alike ((pieces.forM (push provider reader)).on r)
      (((r.decoder.push pieces.flatten).2.forM (frame provider reader)).on
        (r.withDecoder (r.decoder.push pieces.flatten).1)) := by
  induction pieces generalizing r with
  | nil => exact .ok () r
  | cons p ps ih =>
    have hd := detached_forM (detached_frame provider reader) (r.decoder.push p).2
    simp only [List.forM_eq_forM, List.forM_cons, List.flatten_cons, Decoder.push_append,
      List.forM_append, Act.on_bind, on_push] at hd ⊢
    rw [hd, hd]
    cases (forM (r.decoder.push p).2 (frame provider reader)).on r with
    | mk o s =>
      cases o with
      | ok x => exact ih (s.withDecoder (r.decoder.push p).1)
      | error e => exact .error e s _ _

end Reader

/-- What becomes of a body does not depend on where it is cut. -/
theorem read_eq (provider : String) (reader : FrameReader) (pieces : List (List UInt8)) :
    read provider reader pieces none =
      let fs := (Decoder.push {} pieces.flatten).2.forM (Reader.frame provider reader)
      let x := (fs >>= fun _ => Reader.finish provider reader).on
        (Reader.withDecoder (Decoder.push {} pieces.flatten).1 {})
      ⟨x.2.sent.reverse, x.1⟩ := by
  have h := (Reader.alike_pushes provider reader pieces {}).bind
    fun _ => Reader.finish provider reader
  show Streamed.mk _ _ = Streamed.mk _ _
  rw [← h.fst_eq, ← h.sent_eq]
  rfl

/-! Streams without errors. -/

/-- The frames of a whole body. -/
def framesOf (body : List UInt8) : List Frame :=
  (Decoder.push {} body).2 ++ (Decoder.push {} body).1.finish.2.toList

def Chunk.text? : Chunk → Option String
  | .text s => some s
  | _ => none

def Chunk.thinking? : Chunk → Option String
  | .thinking s => some s
  | _ => none

def Chunk.usage? : Chunk → Option Json
  | .usage block => some block
  | _ => none

def Chunk.isError : Chunk → Bool
  | .error _ => true
  | _ => false

/-- What a frame says: nothing if it closes the stream or makes no sense. -/
def FrameReader.said (reader : FrameReader) (f : Frame) : List Chunk :=
  if f.isDone then [] else (reader f).toOption.getD []

/-- What a whole body says. -/
def FrameReader.saidIn (reader : FrameReader) (body : List UInt8) : List Chunk :=
  (framesOf body).flatMap reader.said

/-- What is gathered from what a stream says. -/
def gatheredOf (cs : List Chunk) : Gathered :=
  ⟨String.join (cs.filterMap Chunk.text?), String.join (cs.filterMap Chunk.thinking?),
    (cs.filterMap Chunk.usage?).getLast?⟩

namespace Reader

/-- The state behind something the stream says that is no error. -/
def taken (r : Reader) : Chunk → Reader
  | .text s =>
    { r with
      gate := (r.gate.push s).1
      gathered := { r.gathered with content := r.gathered.content ++ s }
      sent := (r.gate.push s).2.toList ++ r.sent }
  | .thinking s => { r with gathered := { r.gathered with thinking := r.gathered.thinking ++ s } }
  | .usage block => { r with gathered := { r.gathered with usage := some block } }
  | .done | .error _ => r

theorem on_chunk (provider : String) {c : Chunk} (h : c.isError = false) (r : Reader) :
    (chunk provider c).on r = (.ok (), r.taken c) := by
  cases c with
  | error => cases h
  | _ => rfl

theorem on_chunks (provider : String) {cs : List Chunk} (h : ∀ c ∈ cs, c.isError = false)
    (r : Reader) : (cs.forM (chunk provider)).on r = (.ok (), cs.foldl taken r) := by
  induction cs generalizing r with
  | nil => rfl
  | cons c cs ih =>
    obtain ⟨hc, hcs⟩ := List.forall_mem_cons.mp h
    rw [List.forM_eq_forM, List.forM_cons, Act.on_bind_ok (on_chunk provider hc r)]
    exact ih hcs _

theorem on_frame_of_quiet (provider : String) {reader : FrameReader} {f : Frame}
    (h : ∀ c ∈ reader.said f, c.isError = false) (r : Reader) :
    (frame provider reader f).on r = (.ok (), (reader.said f).foldl taken r) := by
  rw [on_frame]
  unfold FrameReader.said at h ⊢
  split
  · rfl
  case isFalse hd =>
    rw [if_neg hd] at h
    cases hr : reader f with
    | error _ => rfl
    | ok cs =>
      rw [hr] at h
      have hc : (cs.forM (chunk provider)).on r = (.ok (), cs.foldl taken r) :=
        on_chunks provider h r
      simp only [hc]
      rfl

theorem on_frames (provider : String) {reader : FrameReader} {fs : List Frame}
    (h : ∀ c ∈ fs.flatMap reader.said, c.isError = false) (r : Reader) :
    (fs.forM (frame provider reader)).on r = (.ok (), (fs.flatMap reader.said).foldl taken r) := by
  induction fs generalizing r with
  | nil => rfl
  | cons f fs ih =>
    rw [List.flatMap_cons] at h ⊢
    obtain ⟨hf, hfs⟩ := List.forall_mem_append.mp h
    rw [List.forM_eq_forM, List.forM_cons, Act.on_bind_ok (on_frame_of_quiet provider hf r),
      List.foldl_append]
    exact ih hfs _

theorem taken_withDecoder (d : Decoder) (cs : List Chunk) (r : Reader) :
    cs.foldl taken (r.withDecoder d) = (cs.foldl taken r).withDecoder d := by
  induction cs generalizing r with
  | nil => rfl
  | cons c cs ih =>
    rw [List.foldl_cons, List.foldl_cons, ← ih]
    cases c <;> rfl

theorem taken_gathered (cs : List Chunk) (r : Reader) :
    (cs.foldl taken r).gathered =
      ⟨r.gathered.content ++ (gatheredOf cs).content,
        r.gathered.thinking ++ (gatheredOf cs).thinking,
        (gatheredOf cs).usage.or r.gathered.usage⟩ := by
  induction cs generalizing r with
  | nil => simp [gatheredOf]
  | cons c cs ih =>
    rw [List.foldl_cons, ih]
    cases c with
    | text s | thinking s =>
      simp [taken, gatheredOf, List.filterMap_cons, Chunk.text?, Chunk.thinking?, Chunk.usage?,
        String.append_assoc]
    | usage block =>
      simp only [taken, gatheredOf, List.filterMap_cons, Chunk.text?, Chunk.thinking?,
        Chunk.usage?, List.getLast?_cons]
      cases (cs.filterMap Chunk.usage?).getLast? <;> rfl
    | done | error => rfl

theorem reverse_toList_append {α : Type} (o : Option α) (xs : List α) :
    (o.toList ++ xs).reverse = xs.reverse ++ o.toList := by
  cases o <;> simp

/-- What has been sent behind what a stream says, and the rest that its end lets through. -/
theorem taken_sent (cs : List Chunk) (r : Reader) :
    (cs.foldl taken r).sent.reverse ++ (cs.foldl taken r).gate.finish.2.toList =
      r.sent.reverse ++ r.gate.outputs (cs.filterMap Chunk.text?) := by
  induction cs generalizing r with
  | nil => rfl
  | cons c cs ih =>
    rw [List.foldl_cons, ih]
    cases c with
    | text s =>
      simp only [taken, List.filterMap_cons, Chunk.text?, Gate.outputs, reverse_toList_append,
        List.append_assoc]
    | _ => rfl

theorem on_finish (provider : String) {reader : FrameReader} {r : Reader}
    (h : ∀ c ∈ r.decoder.finish.2.toList.flatMap reader.said, c.isError = false) :
    (finish provider reader).on r =
      let s := ((r.decoder.finish.2.toList.flatMap reader.said).foldl taken r).withDecoder
        r.decoder.finish.1
      (.ok s.gathered,
        { s with gate := s.gate.finish.1, sent := s.gate.finish.2.toList ++ s.sent }) := by
  have hf := on_frames provider h (r.withDecoder r.decoder.finish.1)
  rw [taken_withDecoder] at hf
  unfold finish
  rw [Act.on_bind_ok (Act.on_get r), Act.on_bind_ok (Act.on_set ..)]
  exact (Act.on_bind_ok hf _).trans rfl

end Reader

/-- A stream that reports no error is read to its end. -/
theorem read_of_quiet (provider : String) {reader : FrameReader} {pieces : List (List UInt8)}
    (h : ∀ c ∈ reader.saidIn pieces.flatten, c.isError = false) :
    read provider reader pieces none =
      ⟨Gate.outputs {} ((reader.saidIn pieces.flatten).filterMap Chunk.text?),
        .ok (gatheredOf (reader.saidIn pieces.flatten))⟩ := by
  rw [read_eq]
  unfold FrameReader.saidIn framesOf at h ⊢
  generalize Decoder.push {} pieces.flatten = x at h ⊢
  rw [List.flatMap_append] at h ⊢
  obtain ⟨hb, hl⟩ := List.forall_mem_append.mp h
  have hf := Reader.on_frames provider hb (Reader.withDecoder x.1 {})
  rw [Reader.taken_withDecoder] at hf
  have hr := Reader.on_finish provider
    (r := ((x.2.flatMap reader.said).foldl Reader.taken {}).withDecoder x.1) hl
  rw [Reader.taken_withDecoder, Reader.withDecoder_decoder, ← List.foldl_append] at hr
  simp only [Act.on_bind_ok hf, hr]
  generalize x.2.flatMap reader.said ++ _ = cs
  simp only [Reader.withDecoder_gate, Reader.withDecoder_gathered, Reader.withDecoder_sent,
    Reader.reverse_toList_append, Reader.taken_sent, Reader.taken_gathered]
  simp

/-- What is shown of a text depends on nothing but the text. -/
theorem Gate.join_outputs_eq {ps qs : List String} (h : String.join ps = String.join qs) :
    String.join (outputs {} ps) = String.join (outputs {} qs) := by
  have hp := join_outputs tidy_empty ps
  have hq := join_outputs tidy_empty qs
  rw [h] at hp
  exact String.toList_inj.mp (hp.trans hq.symm)

theorem surface_ofContent (content : String) :
    (ofContent content).surface =
      if String.join (Gate.outputs {} [content]) = "" then []
      else [String.join (Gate.outputs {} [content])] := by
  have hj : String.join (Gate.outputs {} [content]) =
      ((Gate.push {} content).2.getD "" ++ (Gate.push {} content).1.finish.2.getD "") := by
    unfold Gate.outputs Gate.outputs
    cases (Gate.push {} content).2 <;> cases (Gate.push {} content).1.finish.2 <;> simp
  rw [hj]
  simp [ofContent]

theorem join_ofContent (content : String) :
    String.join (ofContent content).surface = String.join (Gate.outputs {} [content]) := by
  rw [surface_ofContent]
  split
  case isTrue h => rw [h]; rfl
  · simp

/-- However a body is cut, the same is sent on and the reading ends alike. If the stream reports no
error, its reply is what its pieces of text make, and as much of it is sent on as of a reply that is
complete already. -/
theorem read_of_pieces (provider : String) (reader : FrameReader)
    {pieces pieces' : List (List UInt8)} (h : pieces.flatten = pieces'.flatten) :
    read provider reader pieces none = read provider reader pieces' none ∧
      ((∀ c ∈ reader.saidIn pieces.flatten, c.isError = false) →
        (read provider reader pieces none).outcome =
            .ok (gatheredOf (reader.saidIn pieces.flatten)) ∧
          String.join (read provider reader pieces none).surface =
            String.join (ofContent (gatheredOf (reader.saidIn pieces.flatten)).content).surface ∧
          ((ofContent (gatheredOf (reader.saidIn pieces.flatten)).content).surface = [] →
            (read provider reader pieces none).surface = [])) := by
  refine ⟨by rw [read_eq, read_eq, h], fun hq => ?_⟩
  rw [read_of_quiet provider hq]
  have hj := @Gate.join_outputs_eq ((reader.saidIn pieces.flatten).filterMap Chunk.text?)
    [(gatheredOf (reader.saidIn pieces.flatten)).content] (by simp [gatheredOf])
  refine ⟨rfl, hj.trans (join_ofContent _).symm, fun hn => Gate.outputs_eq_nil ?_⟩
  rw [hj, ← join_ofContent, hn]
  rfl

/-- A body whose first frame holds reasoning and a whole reply. -/
def thoughtfulBody : List UInt8 :=
  ("data: \x7b\"choices\":[\x7b\"delta\":\x7b\"reasoning\":\"…\",\"content\":\"" ++
    "\x7b\\\"control_packet\\\":\x7b\x7d,\\\"surface_response\\\":\\\"é\\\"\x7d" ++
    "\"\x7d\x7d]\x7d\n\ndata: [DONE]\n").toUTF8.toList

theorem read_thoughtfulBody :
    let cut := [thoughtfulBody.take 104, thoughtfulBody.drop 104]
    read "openai" Chat.readFrame cut none = read "openai" Chat.readFrame [thoughtfulBody] none ∧
      ((read "openai" Chat.readFrame cut none).outcome.toOption.map Gathered.thinking = some "…") ∧
      String.join (read "openai" Chat.readFrame cut none).surface = "é" := by
  intro cut
  have hf : cut.flatten = [thoughtfulBody].flatten := by simp [cut]
  have hq : ∀ c ∈ FrameReader.saidIn Chat.readFrame cut.flatten, c.isError = false := by
    decide +kernel
  obtain ⟨he, ho, hs, -⟩ := read_of_pieces "openai" Chat.readFrame hf |>.imp_right fun h => h hq
  refine ⟨he, ?_, ?_⟩
  · rw [ho]
    decide +kernel
  · rw [hs]
    decide +kernel

end Utterance.Stream
