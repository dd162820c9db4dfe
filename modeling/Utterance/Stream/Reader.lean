import Utterance.Act
import Utterance.RateLimit
import Utterance.Stream.Frame
import Utterance.Stream.Gate

/-!
Reading a streamed reply to its end.

Each frame is read as its provider writes them; its pieces of text are gathered, and what the gate
lets through is sent on. A frame that makes no sense is passed over. An error in the stream ends it,
and nothing of the frame that holds it is sent.
-/

namespace Utterance.Stream

structure Gathered where
  content : String := ""
  thinking : String := ""
  usage : Option Json := none

/-- A stream that was read: what was sent on, in order, and how it ended. -/
structure Streamed where
  surface : List String
  outcome : Outcome Gathered

/-- The state of a reading; what was sent is kept latest first. -/
structure Reader where
  decoder : Decoder := {}
  gate : Gate := {}
  gathered : Gathered := {}
  sent : List String := []

namespace Reader

def faultOf (provider message : String) : Fault :=
  if RateLimit.isMarked message then .rateLimited provider none message
  else .transport provider message

def chunk (provider : String) (c : Chunk) : Act Reader Unit := do
  let r ← get
  match c with
  | .text s =>
    let (gate, released) := r.gate.push s
    let gathered := { r.gathered with content := r.gathered.content ++ s }
    set { r with gate, gathered, sent := released.toList ++ r.sent }
  | .thinking s =>
    set { r with gathered := { r.gathered with thinking := r.gathered.thinking ++ s } }
  | .usage block => set { r with gathered := { r.gathered with usage := some block } }
  | .done => pure ()
  | .error message => throw (faultOf provider message)

/-- Takes a frame. If it holds an error, nothing of it is sent. -/
def frame (provider : String) (reader : FrameReader) (f : Frame) : Act Reader Unit := do
  let before := (← get).sent
  if f.isDone then pure ()
  else
    match reader f with
    | .error _ => pure ()
    | .ok chunks =>
      match ← (chunks.forM (chunk provider)).attempt with
      | .ok _ => pure ()
      | .error e =>
        modify fun r => { r with sent := before }
        throw e

def push (provider : String) (reader : FrameReader) (octets : List UInt8) : Act Reader Unit := do
  let r ← get
  let (decoder, frames) := r.decoder.push octets
  set { r with decoder }
  frames.forM (frame provider reader)

def finish (provider : String) (reader : FrameReader) : Act Reader Gathered := do
  let r ← get
  let (decoder, last) := r.decoder.finish
  set { r with decoder }
  last.toList.forM (frame provider reader)
  let r ← get
  let (gate, rest) := r.gate.finish
  set { r with gate, sent := rest.toList ++ r.sent }
  pure r.gathered

/-- Reads a stream that arrives in pieces; behind them it may break off with a fault. -/
def all (provider : String) (reader : FrameReader) (pieces : List (List UInt8)) (cut : Option Fault) :
    Act Reader Gathered := do
  pieces.forM (push provider reader)
  match cut with
  | some e => throw e
  | none => finish provider reader

end Reader

/-- Reads a stream to its end, or to the fault with which it breaks off. -/
def read (provider : String) (reader : FrameReader) (pieces : List (List UInt8))
    (cut : Option Fault) : Streamed :=
  let (outcome, r) := (Reader.all provider reader pieces cut).on {}
  ⟨r.sent.reverse, outcome⟩

/-- A reply that is complete already, as a stream that sends all it may at once. -/
def ofContent (content : String) : Streamed :=
  let (gate, first) := Gate.push {} content
  let rest := gate.finish.2
  let surface := first.getD "" ++ rest.getD ""
  ⟨if surface.isEmpty then [] else [surface], .ok { content }⟩

end Utterance.Stream
