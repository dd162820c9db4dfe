import Utterance.Proofs.Stream.Reading
import Utterance.Proofs.Text.Lines
import Utterance.Proofs.Text.Octets

/-! Frames that are written as an event stream are read back, wherever the octets of the stream are cut. -/

namespace Utterance.Stream

/-! Streams as they are written. -/

/-- A frame without carriage returns. (No lines state an event with a line feed.) -/
structure Frame.IsWritable (f : Frame) : Prop where
  event : ∀ e ∈ f.event, '\r' ∉ e.toList
  data : '\r' ∉ f.data.toList

def Frame.dataLines (f : Frame) : List String :=
  (Text.splitWhere (· == '\n') f.data.toList).map String.ofList

/-- The lines that state a frame, with the blank one that ends it. -/
def Frame.lines (f : Frame) : List String :=
  (f.event.map ("event: " ++ ·)).toList ++ f.dataLines.map ("data: " ++ ·) ++ [""]

/-- A line as it stands in a stream. A carriage return may stand in front of the line feed that ends it. -/
structure Line where
  text : String
  returns : Bool := false
  newline_not_mem : '\n' ∉ text.toList := by decide

namespace Line

def front (l : Line) : String :=
  l.text ++ if l.returns then "\r" else ""

theorem newline_not_mem_front (l : Line) : '\n' ∉ l.front.toList := by
  have hr : '\n' ∉ (if l.returns then "\r" else "").toList := by cases l.returns <;> decide
  rw [front, String.toList_append, List.mem_append, not_or]
  exact ⟨l.newline_not_mem, hr⟩

/-- A line that says nothing. -/
def isComment (l : Line) : Bool :=
  l.text.toList.head? == some ':'

def write (ls : List Line) : String :=
  String.join (ls.map fun l => l.front ++ "\n")

/-- What lines say, without the comments between them. -/
def said (ls : List Line) : List String :=
  (ls.filter (!·.isComment)).map Line.text

end Line

/-! Streams in pieces. -/

/-- Reads pieces one after the other. -/
def Decoder.pushes (d : Decoder) : List (List UInt8) → Decoder × List Frame
  | [] => (d, [])
  | piece :: pieces =>
    let first := d.push piece
    let rest := first.1.pushes pieces
    (rest.1, first.2 ++ rest.2)

/-- The frames of a stream that arrives in pieces: those that end in a piece, and the one that the end of the
stream ends. -/
def framesFrom (pieces : List (List UInt8)) : List Frame :=
  let taken := Decoder.pushes {} pieces
  taken.2 ++ taken.1.finish.2.toList

theorem Decoder.pushes_eq (d : Decoder) (pieces : List (List UInt8)) : d.pushes pieces = d.push pieces.flatten := by
  induction pieces generalizing d with
  | nil => rfl
  | cons piece pieces ih =>
    simp only [List.flatten_cons, push_append, pushes, ih]

theorem framesFrom_eq (pieces : List (List UInt8)) : framesFrom pieces = framesOf pieces.flatten := by
  rw [framesFrom, Decoder.pushes_eq]
  rfl

/-! Octets of a line. -/

namespace Decoder

theorem push_inside {octets : List UInt8} (h : 10 ∉ octets) (d : Decoder) :
    d.push octets = ({ d with line := octets.reverse ++ d.line }, []) := by
  induction octets generalizing d with
  | nil => rfl
  | cons b octets ih =>
    obtain ⟨hb, hrest⟩ := not_or.mp (mt List.mem_cons.mpr h)
    have hoctet : d.octet b = ({ d with line := b :: d.line }, none) := if_neg (Ne.symm hb)
    rw [push, hoctet]
    dsimp only
    rw [ih hrest]
    simp

theorem line_readLine (d : Decoder) (cs : List Char) : (d.readLine cs).1.line = d.line := by
  unfold readLine dispatch
  dsimp only
  repeat' split
  all_goals rfl

def isLineEnd (c : Char) : Bool := c == '\n' || c == '\r'

/-- Between two lines, a line is read as its text without the characters that end it. -/
theorem push_line {d : Decoder} (hd : d.line = []) {s : String} (hs : '\n' ∉ s.toList) :
    d.push (Text.Utf8.encode (s ++ "\n")) =
      ((d.readLine (Text.trimEnd isLineEnd s.toList)).1,
        (d.readLine (Text.trimEnd isLineEnd s.toList)).2.toList) := by
  obtain ⟨line, event, data⟩ := d
  cases hd
  have hend : Text.Utf8.encode "\n" = [10] := rfl
  have hread : endLine ⟨(Text.Utf8.encode s).reverse, event, data⟩ =
      readLine ⟨[], event, data⟩ (Text.trimEnd isLineEnd s.toList) := by
    rw [endLine, List.reverse_reverse, Text.Utf8.decode_encode]
    rfl
  rw [Text.Utf8.encode_append, hend, push_append, push_inside (Text.Utf8.lineFeed_not_mem_encode hs)]
  dsimp only
  rw [List.append_nil, push, octet, if_pos rfl, hread]
  simp [push]

/-! Lines. -/

/-- Reads lines one after the other. -/
def readLines (d : Decoder) : List String → Decoder × List Frame
  | [] => (d, [])
  | l :: ls =>
    let first := d.readLine l.toList
    let rest := first.1.readLines ls
    (rest.1, first.2.toList ++ rest.2)

theorem readLines_append (d : Decoder) (xs ys : List String) :
    d.readLines (xs ++ ys) =
      (((d.readLines xs).1.readLines ys).1, (d.readLines xs).2 ++ ((d.readLines xs).1.readLines ys).2) := by
  induction xs generalizing d with
  | nil => rfl
  | cons x xs ih => simp only [List.cons_append, readLines, ih, List.append_assoc]

theorem line_readLines (d : Decoder) (ls : List String) : (d.readLines ls).1.line = d.line := by
  induction ls generalizing d with
  | nil => rfl
  | cons l ls ih => rw [readLines, ih, line_readLine]

/-- A comment is read as nothing. -/
theorem push_comment {d : Decoder} (hd : d.line = []) {l : Line} (hl : l.isComment) :
    d.push (Text.Utf8.encode (l.front ++ "\n")) = (d, []) := by
  obtain ⟨cs, hcs⟩ := List.head?_eq_some_iff.mp (beq_iff_eq.mp hl)
  have htrim : ∃ rest, Text.trimEnd isLineEnd l.front.toList = ':' :: rest := by
    rw [Line.front, String.toList_append, hcs]
    exact ⟨_, Text.trimEnd_back (by decide) [] _⟩
  obtain ⟨rest, hrest⟩ := htrim
  rw [push_line hd l.newline_not_mem_front, hrest]
  rfl

/-- A line that says something is read as what it says. -/
theorem push_said {d : Decoder} (hd : d.line = []) {l : Line} (hl : '\r' ∉ l.text.toList) :
    d.push (Text.Utf8.encode (l.front ++ "\n")) =
      ((d.readLine l.text.toList).1, (d.readLine l.text.toList).2.toList) := by
  have hend : ∀ c ∈ l.text.toList, isLineEnd c = false := by
    intro c hc
    simp only [isLineEnd, Bool.or_eq_false_iff, beq_eq_false_iff_ne]
    exact ⟨fun h => l.newline_not_mem (h ▸ hc), fun h => hl (h ▸ hc)⟩
  have htrim : Text.trimEnd isLineEnd l.front.toList = l.text.toList := by
    rw [Line.front, String.toList_append]
    exact Text.trimEnd_append (by cases l.returns <;> decide) fun c hc => hend c (List.mem_of_getLast? hc)
  rw [push_line hd l.newline_not_mem_front, htrim]

theorem push_write {d : Decoder} (hd : d.line = []) {ls : List Line}
    (h : ∀ s ∈ Line.said ls, '\r' ∉ s.toList) :
    d.push (Text.Utf8.encode (Line.write ls)) = d.readLines (Line.said ls) := by
  induction ls generalizing d with
  | nil => rfl
  | cons l ls ih =>
    have hw : Line.write (l :: ls) = (l.front ++ "\n") ++ Line.write ls := by
      simp [Line.write]
    rw [hw, Text.Utf8.encode_append, push_append]
    cases hl : l.isComment with
    | true =>
      have hs : Line.said (l :: ls) = Line.said ls := by simp [Line.said, hl]
      rw [hs] at h ⊢
      rw [push_comment hd hl, ih hd h]
      rfl
    | false =>
      have hs : Line.said (l :: ls) = l.text :: Line.said ls := by simp [Line.said, hl]
      rw [hs] at h ⊢
      obtain ⟨hfirst, hrest⟩ := List.forall_mem_cons.mp h
      rw [push_said hd hfirst, ih ((line_readLine d _).trans hd) hrest]
      rfl

/-! Frames. -/

theorem readLine_event (d : Decoder) (s : String) :
    d.readLine ("event: " ++ s).toList = ({ d with event := some s }, none) := by
  have h : d.readLine ("event: ".toList ++ s.toList) =
      ({ d with event := some (String.ofList s.toList) }, none) := rfl
  rw [String.toList_append, h, String.ofList_toList]

theorem readLine_data (d : Decoder) (s : String) :
    d.readLine ("data: " ++ s).toList = ({ d with data := s :: d.data }, none) := by
  have h : d.readLine ("data: ".toList ++ s.toList) =
      ({ d with data := String.ofList s.toList :: d.data }, none) := rfl
  rw [String.toList_append, h, String.ofList_toList]

theorem readLines_data (d : Decoder) (ls : List String) :
    d.readLines (ls.map ("data: " ++ ·)) = ({ d with data := ls.reverse ++ d.data }, []) := by
  induction ls generalizing d with
  | nil => rfl
  | cons l ls ih =>
    rw [List.map_cons, readLines, readLine_data, ih]
    simp

theorem readLines_event (event : Option String) :
    readLines {} (event.map ("event: " ++ ·)).toList = ({ event }, []) := by
  cases event with
  | none => rfl
  | some e =>
    rw [Option.map_some, Option.toList_some, readLines, readLine_event]
    rfl

theorem readLines_blank (d : Decoder) : d.readLines [""] = (d.dispatch.1, d.dispatch.2.toList) := by
  have h : d.readLine "".toList = d.dispatch := rfl
  rw [readLines, h]
  simp [readLines]

/-- Between two frames, the lines of a frame are read as the frame, and nothing is left of it. -/
theorem readLines_lines (f : Frame) : readLines {} f.lines = ({}, [f]) := by
  have hne : f.dataLines ≠ [] := by simp [Frame.dataLines, Text.splitWhere_ne_nil]
  have hdata : Text.join "\n" f.dataLines = f.data := by
    rw [← String.toList_inj, Frame.dataLines, Text.toList_join_splitWhere]
  rw [Frame.lines, readLines_append, readLines_append, readLines_event, readLines_data, readLines_blank]
  simp [dispatch, hne, hdata]

theorem readLines_frames (fs : List Frame) : readLines {} (fs.flatMap Frame.lines) = ({}, fs) := by
  induction fs with
  | nil => rfl
  | cons f fs ih =>
    rw [List.flatMap_cons, readLines_append, readLines_lines]
    simp [ih]

/-! The end of a stream. -/

theorem finish_of_line {d : Decoder} (h : d.line = []) : d.finish = d.dispatch := by
  rw [finish, h]
  rfl

theorem data_dispatch (d : Decoder) : d.dispatch.1.data = [] := by
  unfold dispatch
  split
  case isTrue h => exact List.isEmpty_iff.mp h
  case isFalse => rfl

theorem dispatch_of_data {d : Decoder} (h : d.data = []) : d.dispatch.2 = none := by
  rw [dispatch, h]
  rfl

/-- Only a blank line yields a frame. -/
theorem readLine_cases (d : Decoder) (cs : List Char) :
    d.readLine cs = d.dispatch ∨ (d.readLine cs).2 = none := by
  unfold readLine
  dsimp only
  split
  · exact .inl rfl
  · right
    repeat' split
    all_goals rfl

theorem data_of_endLine {d : Decoder} {f : Frame} (h : d.endLine.2 = some f) : d.endLine.1.data = [] := by
  rcases readLine_cases { d with line := [] } (Text.trimEnd isLineEnd (Text.Utf8.decode d.line.reverse)) with
    hd | hn
  · have hend : d.endLine = dispatch { d with line := [] } := hd
    rw [hend, data_dispatch]
  · have hend : d.endLine.2 = none := hn
    rw [hend] at h
    cases h

/-- The end of a stream ends the line that has begun, and the frame behind it. -/
theorem finish_endLine (d : Decoder) :
    d.endLine.2.toList ++ d.endLine.1.finish.2.toList = d.finish.2.toList := by
  have hline : d.endLine.1.line = [] := line_readLine _ _
  have hdata (f : Frame) := data_of_endLine (d := d) (f := f)
  rw [finish_of_line hline]
  by_cases hd : d.line = []
  · obtain ⟨line, event, data⟩ := d
    cases hd
    have hend : endLine ⟨[], event, data⟩ = dispatch ⟨[], event, data⟩ := rfl
    rw [hend, dispatch_of_data (data_dispatch _), finish_of_line rfl]
    simp
  · rw [finish, if_neg (by simpa using hd)]
    generalize d.endLine = ended at hdata ⊢
    obtain ⟨next, frame⟩ := ended
    cases frame with
    | none => rfl
    | some f =>
      rw [dispatch_of_data (hdata f rfl)]
      rfl

end Decoder

theorem framesOf_lineFeed (octets : List UInt8) : framesOf (octets ++ [10]) = framesOf octets := by
  have hfeed (d : Decoder) : d.push [10] = (d.endLine.1, d.endLine.2.toList) := by
    simp [Decoder.push, Decoder.octet]
  unfold framesOf
  rw [Decoder.push_append, hfeed]
  dsimp only
  rw [List.append_assoc, Decoder.finish_endLine]

theorem framesOf_write {ls : List Line} (h : ∀ s ∈ Line.said ls, '\r' ∉ s.toList) :
    framesOf (Text.Utf8.encode (Line.write ls)) = (Decoder.readLines {} (Line.said ls ++ [""])).2 := by
  have hline : (Decoder.readLines {} (Line.said ls)).1.line = [] := Decoder.line_readLines {} _
  rw [framesOf, Decoder.push_write rfl h, Decoder.finish_of_line hline, Decoder.readLines_append,
    Decoder.readLines_blank]

theorem return_not_mem_lines {f : Frame} (h : f.IsWritable) : ∀ s ∈ f.lines, '\r' ∉ s.toList := by
  have hmark (lead s : String) (hlead : '\r' ∉ lead.toList) (hs : '\r' ∉ s.toList) :
      '\r' ∉ (lead ++ s).toList := by
    rw [String.toList_append, List.mem_append, not_or]
    exact ⟨hlead, hs⟩
  intro s hs
  rw [Frame.lines, List.mem_append, List.mem_append, Option.mem_toList, List.mem_map, List.mem_singleton] at hs
  rcases hs with (he | ⟨l, hl, rfl⟩) | rfl
  · obtain ⟨e, hevent, rfl⟩ := Option.map_eq_some_iff.mp he
    exact hmark _ _ (by decide) (h.event e hevent)
  · obtain ⟨piece, hpiece, rfl⟩ := List.mem_map.mp hl
    refine hmark _ _ (by decide) fun hm => h.data (Text.mem_of_mem_splitWhere hpiece ?_)
    rwa [String.toList_ofList] at hm
  · decide

/-- Frames that are written as an event stream, with line ends of either kind and comments between the lines,
are read back in their order, wherever the octets are cut. The blank line behind the last frame may be missing,
and the last line may have no end. -/
theorem framesFrom_written {fs : List Frame} (hf : ∀ f ∈ fs, f.IsWritable) {ls : List Line}
    (hl : Line.said ls = fs.flatMap Frame.lines ∨ Line.said ls ++ [""] = fs.flatMap Frame.lines)
    {text : String} (ht : text = Line.write ls ∨ text ++ "\n" = Line.write ls)
    {pieces : List (List UInt8)} (hp : pieces.flatten = Text.Utf8.encode text) : framesFrom pieces = fs := by
  have hlines : ∀ s ∈ fs.flatMap Frame.lines, '\r' ∉ s.toList := by
    intro s hs
    obtain ⟨f, hfs, hs⟩ := List.mem_flatMap.mp hs
    exact return_not_mem_lines (hf f hfs) s hs
  have hsaid : ∀ s ∈ Line.said ls, '\r' ∉ s.toList := by
    intro s hs
    rcases hl with hl | hl
    · exact hlines s (hl ▸ hs)
    · exact hlines s (hl ▸ List.mem_append_left _ hs)
  have hwrite : framesOf (Text.Utf8.encode text) = framesOf (Text.Utf8.encode (Line.write ls)) := by
    rcases ht with rfl | ht
    · rfl
    · rw [← ht, Text.Utf8.encode_append]
      exact (framesOf_lineFeed _).symm
  rw [framesFrom_eq, hp, hwrite, framesOf_write hsaid]
  rcases hl with hl | hl
  · rw [hl, Decoder.readLines_append, Decoder.readLines_frames]
    simp [Decoder.readLines_blank, Decoder.dispatch]
  · rw [hl, Decoder.readLines_frames]

/-- A frame with several lines of data, and one whose data is empty. -/
def chattyFrames : List Frame :=
  [⟨some "ping é", "a\n\n  b"⟩, ⟨none, ""⟩]

/-- Lines that state them, with comments between them and line ends of both kinds, but for the last blank
line. -/
def chattyLines : List Line :=
  [{ text := ": hello\r" }, { text := "event: ping é", returns := true }, { text := "data: a" },
    { text := ":", returns := true }, { text := "data: ", returns := true }, { text := "data:   b" },
    { text := "", returns := true }, { text := "data: " }]

/-- Their text, whose last line has no end. -/
def chattyText : String :=
  ": hello\r\nevent: ping é\r\ndata: a\n:\r\ndata: \r\ndata:   b\n\r\ndata: "

theorem framesFrom_chattyText :
    (∀ f ∈ chattyFrames, f.IsWritable) ∧
      framesFrom ((Text.Utf8.encode chattyText).map fun b => [b]) = chattyFrames := by
  have hwritable : ∀ f ∈ chattyFrames, f.IsWritable := by
    simp only [chattyFrames, List.forall_mem_cons]
    refine ⟨⟨?_, by decide⟩, ⟨?_, by decide⟩, by simp⟩
    · rintro e ⟨⟩
      decide
    · rintro e ⟨⟩
  have hsaid : Line.said chattyLines ++ [""] = chattyFrames.flatMap Frame.lines := by decide +kernel
  have htext : chattyText ++ "\n" = Line.write chattyLines := by decide +kernel
  have hpieces : ((Text.Utf8.encode chattyText).map fun b => [b]).flatten = Text.Utf8.encode chattyText := by
    rw [← List.flatMap_def, List.flatMap_singleton']
  exact ⟨hwritable, framesFrom_written hwritable (.inr hsaid) (.inr htext) hpieces⟩

end Utterance.Stream
