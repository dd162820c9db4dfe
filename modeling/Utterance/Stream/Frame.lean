import Utterance.Json.Basic
import Utterance.Text.Split
import Utterance.Text.Utf8

/-!
The frames of an event stream, read from octets that arrive in pieces, and what a provider's frame says.

A stream consists of lines. A line names a field and its value; a blank line ends a frame, and a line
that begins with a colon says nothing. Only the fields `event` and `data` count.
-/

namespace Utterance.Stream

/-- One frame: the event, if it has a name, and its data. -/
structure Frame where
  event : Option String
  data : String
  deriving DecidableEq

def doneData : String := "[DONE]"

def Frame.isDone (f : Frame) : Bool :=
  Text.trimmed f.data == doneData

/-- What has been read of a frame: the octets of the line that has begun, latest first, and the fields
so far, the latest line of data first. -/
structure Decoder where
  line : List UInt8 := []
  event : Option String := none
  data : List String := []

namespace Decoder

/-- Ends the frame. Without data there is none, and its event is forgotten. -/
def dispatch (d : Decoder) : Decoder × Option Frame :=
  if d.data.isEmpty then ({ d with event := none }, none)
  else ({ d with event := none, data := [] }, some ⟨d.event, Text.join "\n" d.data.reverse⟩)

def field (cs : List Char) : List Char × List Char :=
  match Text.cut? [':'] cs with
  | some (name, ' ' :: value) => (name, value)
  | some (name, value) => (name, value)
  | none => (cs, [])

def readLine (d : Decoder) (cs : List Char) : Decoder × Option Frame :=
  if cs.isEmpty then d.dispatch
  else if cs.head? == some ':' then (d, none)
  else
    let (name, value) := field cs
    if name == "data".toList then ({ d with data := String.ofList value :: d.data }, none)
    else if name == "event".toList then ({ d with event := some (String.ofList value) }, none)
    else (d, none)

def endLine (d : Decoder) : Decoder × Option Frame :=
  let isEnd (c : Char) := c == '\n' || c == '\r'
  readLine { d with line := [] } (Text.trimEnd isEnd (Text.Utf8.decode d.line.reverse))

def octet (d : Decoder) (b : UInt8) : Decoder × Option Frame :=
  if b = 10 then d.endLine else ({ d with line := b :: d.line }, none)

/-- Reads octets: the frames that end among them, in order. -/
def push (d : Decoder) : List UInt8 → Decoder × List Frame
  | [] => (d, [])
  | b :: bs =>
    let (d, frame) := d.octet b
    let (d, frames) := d.push bs
    (d, frame.toList ++ frames)

/-- Ends the stream: a frame that no blank line has ended counts as well. -/
def finish (d : Decoder) : Decoder × Option Frame :=
  if d.line.isEmpty then d.dispatch
  else
    match d.endLine with
    | (d, some frame) => (d, some frame)
    | (d, none) => d.dispatch

end Decoder

inductive Chunk where
  /-- A piece of the reply. -/
  | text (s : String)
  /-- A piece of reasoning, which is never shown. -/
  | thinking (s : String)
  | usage (block : Json)
  | done
  | error (message : String)

/-- How a provider's frames are read; a frame that makes no sense is refused. -/
abbrev FrameReader := Frame → Except String (List Chunk)

end Utterance.Stream
