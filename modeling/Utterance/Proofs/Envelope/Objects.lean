import Utterance.Proofs.Envelope.Spans
import Utterance.Proofs.Text.Lines

/-! Which of the objects in a reply is chosen: the first one if it is an envelope, and else the last one, which
is found as it is written. -/

namespace Utterance.Envelope

/-! An object in a text. -/

theorem spans_prose {prose : List Char} (h : '{' ∉ prose) (rest : List Char) :
    spans {} (prose ++ rest) = spans {} rest := by
  induction prose with
  | nil => rfl
  | cons c prose ih =>
    rw [List.mem_cons, not_or] at h
    rw [List.cons_append, spans, Span.step_closed rfl rfl (Ne.symm h.1)]
    exact ih h.2

/-- What stands between the braces of an object that is read alike by itself, at the front of a text, and by
the walk that looks for complete objects. -/
structure IsInside (body : List Char) (j : Json) : Prop where
  decode : Json.decode? ('{' :: (body ++ ['}'])) = some j
  first : ∀ rest, Json.decodeFirst? ('{' :: (body ++ '}' :: rest)) = some (j, rest)
  spans : ∀ rest, spans {} ('{' :: (body ++ '}' :: rest)) = ('{' :: (body ++ ['}'])) :: spans {} rest

theorem isInside_of_run {cs : List Char} {ms : List (String × Json)}
    (h : Json.run (.key true [] []) cs = some (.done (.obj ms))) :
    ∃ body back, cs = body ++ '}' :: back ∧ back.all Json.isSpace ∧
      IsInside body (Json.merged (.obj ms)) := by
  have hopen : Json.step Json.start '{' = some (.key true [] []) := rfl
  have halign : Aligned (.key true [] []) (Span.step {} '{').1 := ⟨rfl, by decide, rfl, rfl⟩
  obtain ⟨body, back, hcs, hback, hbody, hrest⟩ := halign.run trivial h
  refine ⟨body, back, hcs, hback, ?_, ?_, ?_⟩
  · have hrun : Json.run Json.start ('{' :: (body ++ ['}'])) = some (.done (.obj ms)) := by
      rw [Json.run, hopen]
      exact hbody
    rw [Json.decode?, Json.written?, hrun]
    rfl
  · intro rest
    rw [Json.decodeFirst?, Json.runFirst_cons hopen (by simp), (hrest rest).1]
    rfl
  · intro rest
    exact (hrest rest).2

/-- A text of one object, between blanks. -/
theorem exists_isInside {text : String} {j : Json} (h : Json.ofText? text = some j) (hj : j.isObject) :
    ∃ front body back, text.toList = front ++ '{' :: (body ++ '}' :: back) ∧ front.all Json.isSpace ∧
      back.all Json.isSpace ∧ IsInside body j := by
  obtain ⟨v, hv, rfl⟩ := Option.map_eq_some_iff.mp h
  cases v with
  | obj ms =>
    obtain ⟨front, rest, hcs, hfront, hrest⟩ := Json.exists_brace (Json.run_start_done hv)
    obtain ⟨body, back, rfl, hback, hinside⟩ := isInside_of_run hrest
    exact ⟨front, body, back, hcs, hfront, hback, hinside⟩
  | _ => cases hj

theorem not_mem_of_spaces {cs : List Char} (h : cs.all Json.isSpace) : '{' ∉ cs := by
  intro hm
  cases List.all_eq_true.mp h _ hm

theorem dropWhile_prose {prose : List Char} (h : '{' ∉ prose) (rest : List Char) :
    (prose ++ rest).dropWhile (· != '{') = rest.dropWhile (· != '{') := by
  refine List.dropWhile_append_of_pos fun c hc => ?_
  rw [bne_iff_ne]
  rintro rfl
  exact h hc

theorem firstObject_of_isInside {front body rest : List Char} {j : Json} (hfront : '{' ∉ front)
    (h : IsInside body j) :
    firstObject (String.ofList (front ++ '{' :: (body ++ '}' :: rest))) = .ok j := by
  have hdrop : ('{' :: (body ++ '}' :: rest)).dropWhile (· != '{') = '{' :: (body ++ '}' :: rest) := by
    simp
  unfold firstObject
  rw [String.toList_ofList, dropWhile_prose hfront, hdrop]
  dsimp only
  rw [h.first rest]

theorem firstObject_trim {lead body rest : List Char} {j : Json} (hlead : '{' ∉ lead) (h : IsInside body j) :
    firstObject (String.ofList (Text.trim (lead ++ '{' :: (body ++ '}' :: rest)))) = .ok j := by
  have hassoc : Text.trimStart Text.isBlank lead ++ '{' :: (body ++ '}' :: rest) =
      (Text.trimStart Text.isBlank lead ++ '{' :: body) ++ '}' :: rest := by simp
  have htrim : Text.trim (lead ++ '{' :: (body ++ '}' :: rest)) = Text.trimStart Text.isBlank lead ++
      '{' :: (body ++ '}' :: Text.trimEnd Text.isBlank rest) := by
    rw [Text.trim, Text.trimStart_front (by decide), hassoc, Text.trimEnd_back (by decide)]
    simp
  have hstart : '{' ∉ Text.trimStart Text.isBlank lead := fun hm =>
    hlead ((List.dropWhile_suffix _).subset hm)
  rw [htrim]
  exact firstObject_of_isInside hstart h

theorem firstObject_prose {prose : List Char} (h : '{' ∉ prose) :
    firstObject (String.ofList prose) = .error noObject := by
  have hdrop := dropWhile_prose h []
  rw [List.append_nil] at hdrop
  unfold firstObject
  rw [String.toList_ofList, hdrop]
  rfl

theorem stripFences_of_none {cs : List Char} (h : Text.occursIn fence cs = false) :
    stripFences (String.ofList cs) = String.ofList (Text.trim cs) := by
  have hcut : Text.cut? fence cs = none := by simpa [Text.occursIn] using h
  have hfenced : fenced? cs = none := by rw [fenced?, hcut]; rfl
  have hmarks : Text.without fence cs = cs := by
    have hw := @Text.without_of_cut? fence [] cs hcut
    rwa [List.append_nil] at hw
  unfold stripFences
  rw [String.toList_ofList]
  dsimp only
  rw [hfenced]
  dsimp only
  rw [Text.without_of_cut? hcut, hmarks]

/-! Replies. -/

/-- A reply of prose and objects: what stands in front, and each object with what stands behind it. -/
def scattered (front : String) (parts : List (String × String)) : String :=
  front ++ String.join (parts.map fun p => p.1 ++ p.2)

/-- A text of one object, and prose without an opening brace behind it. -/
def IsPart (p : String × String) : Prop :=
  (∃ j, Json.ofText? p.1 = some j ∧ j.isObject) ∧ '{' ∉ p.2.toList

theorem toList_scattered_cons (front : String) (p : String × String) (parts : List (String × String)) :
    (scattered front (p :: parts)).toList =
      front.toList ++ (p.1.toList ++ (scattered p.2 parts).toList) := by
  simp [scattered]

theorem isBlank_of_isSpace {c : Char} (h : Json.isSpace c) : Text.isBlank c := by
  simp only [Json.isSpace, Bool.or_eq_true, beq_iff_eq] at h
  rcases h with ((rfl | rfl) | rfl) | rfl <;> decide

theorem all_isBlank {cs : List Char} (h : cs.all Json.isSpace) : cs.all Text.isBlank := by
  rw [List.all_eq_true] at h ⊢
  exact fun c hc => isBlank_of_isSpace (h c hc)

/-- All that a walk finds of the text of an object is the object, without the blanks around it. -/
theorem spans_text {text : String} {j : Json} (h : Json.ofText? text = some j) (hj : j.isObject) :
    Json.decode? (Text.trim text.toList) = some j ∧
      ∀ rest, spans {} (text.toList ++ rest) = Text.trim text.toList :: spans {} rest := by
  obtain ⟨front, body, back, htext, hfront, hback, hinside⟩ := exists_isInside h hj
  have hbare : Text.Bare ('{' :: (body ++ ['}'])) := by
    constructor
    · rintro c ⟨⟩
      decide
    · intro c hc
      rw [← List.cons_append, List.getLast?_concat] at hc
      cases hc
      decide
  have hassoc : text.toList = front ++ ('{' :: (body ++ ['}']) ++ back) := by simp [htext]
  have htrim : Text.trim text.toList = '{' :: (body ++ ['}']) := by
    rw [hassoc, Text.trim_around (all_isBlank hfront) (all_isBlank hback) hbare]
  refine ⟨htrim ▸ hinside.decode, fun rest => ?_⟩
  have ht : text.toList ++ rest = front ++ '{' :: (body ++ '}' :: (back ++ rest)) := by simp [htext]
  rw [ht, spans_prose (not_mem_of_spaces hfront), hinside.spans, spans_prose (not_mem_of_spaces hback),
    htrim]

theorem spans_scattered {parts : List (String × String)} (h : ∀ p ∈ parts, IsPart p) {front : String}
    (hfront : '{' ∉ front.toList) :
    spans {} (scattered front parts).toList = parts.map fun p => Text.trim p.1.toList := by
  induction parts generalizing front with
  | nil =>
    have ht : (scattered front []).toList = front.toList ++ [] := by simp [scattered]
    rw [ht, spans_prose hfront]
    rfl
  | cons p parts ih =>
    obtain ⟨⟨⟨j, hj, hobject⟩, hprose⟩, hparts⟩ := List.forall_mem_cons.mp h
    rw [toList_scattered_cons, spans_prose hfront, (spans_text hj hobject).2, ih hparts hprose,
      List.map_cons]

/-- The first object of a reply, with what stands around it. -/
theorem exists_first {front : String} (hfront : '{' ∉ front.toList) {p : String × String}
    {parts : List (String × String)} {j : Json} (hj : Json.ofText? p.1 = some j) (hobject : j.isObject) :
    ∃ lead body rest, (scattered front (p :: parts)).toList = lead ++ '{' :: (body ++ '}' :: rest) ∧
      '{' ∉ lead ∧ IsInside body j := by
  obtain ⟨lead, body, back, htext, hlead, -, hinside⟩ := exists_isInside hj hobject
  refine ⟨front.toList ++ lead, body, back ++ (scattered p.2 parts).toList, ?_, ?_, hinside⟩
  · simp [toList_scattered_cons, htext]
  · rw [List.mem_append, not_or]
    exact ⟨hfront, not_mem_of_spaces hlead⟩

/-- What is read of a reply without its fences, which it has none of. -/
theorem firstObject_stripped {text : String} (hfence : Text.occursIn fence text.toList = false)
    {lead body rest : List Char} {j : Json} (ht : text.toList = lead ++ '{' :: (body ++ '}' :: rest))
    (hlead : '{' ∉ lead) (h : IsInside body j) : firstObject (stripFences text) = .ok j := by
  have htext : text = String.ofList text.toList := String.ofList_toList.symm
  rw [htext, stripFences_of_none hfence, ht]
  exact firstObject_trim hlead h

theorem firstObject_text {text : String} {lead body rest : List Char} {j : Json}
    (ht : text.toList = lead ++ '{' :: (body ++ '}' :: rest)) (hlead : '{' ∉ lead)
    (h : IsInside body j) : firstObject text = .ok j := by
  rw [← String.ofList_toList (s := text), ht]
  exact firstObject_of_isInside hlead h

theorem lastObject_of_spans {text : String} {cores : List (List Char)} {core : List Char} {k : Json}
    (hs : spans {} text.toList = cores ++ [core]) (hk : Json.decode? core = some k) :
    lastObject text = String.ofList core := by
  rw [lastObject, hs, List.reverse_append]
  simp [hk]

theorem core_ne_nil {core : List Char} {k : Json} (h : Json.decode? core = some k) : core ≠ [] := by
  rintro rfl
  cases h

theorem lastObject_prose {text : String} (h : '{' ∉ text.toList) : lastObject text = "" := by
  have hs := spans_prose h []
  rw [List.append_nil] at hs
  rw [lastObject, hs]
  rfl

theorem exists_last {front : String} {parts : List (String × String)} (hfront : '{' ∉ front.toList)
    (hparts : ∀ p ∈ parts, IsPart p) {last : String × String} (hl : parts.getLast? = some last) :
    ∃ cores, spans {} (scattered front parts).toList = cores ++ [Text.trim last.1.toList] ∧
      Json.decode? (Text.trim last.1.toList) = Json.ofText? last.1 := by
  obtain ⟨before, rfl⟩ := List.getLast?_eq_some_iff.mp hl
  obtain ⟨⟨j, hj, hobject⟩, -⟩ := hparts last (by simp)
  refine ⟨before.map fun p => Text.trim p.1.toList, ?_, ?_⟩
  · rw [spans_scattered hparts hfront, List.map_append]
    rfl
  · rw [(spans_text hj hobject).1, hj]

/-- The readings of a reply of prose and objects: the first object, once or twice, and the last one. -/
theorem readings_scattered {front : String} {parts : List (String × String)}
    (hfront : '{' ∉ front.toList) (hparts : ∀ p ∈ parts, IsPart p)
    (hfence : Text.occursIn fence (scattered front parts).toList = false) {first last : String × String}
    {j k : Json} (hf : parts.head? = some first) (hl : parts.getLast? = some last)
    (hj : Json.ofText? first.1 = some j) (hk : Json.ofText? last.1 = some k) :
    readings (scattered front parts) = [.ok j, .ok k] ∨
      readings (scattered front parts) = [.ok j, .ok j, .ok k] := by
  obtain ⟨others, rfl⟩ := List.head?_eq_some_iff.mp hf
  obtain ⟨j', hj', hobject⟩ := (hparts first List.mem_cons_self).1
  obtain rfl : j = j' := Option.some.inj (hj.symm.trans hj')
  obtain ⟨lead, body, rest, ht, hlead, hinside⟩ := @exists_first front hfront first others j hj hobject
  obtain ⟨cores, hcores, hcore⟩ := exists_last hfront hparts hl
  rw [hk] at hcore
  have hlast := lastObject_of_spans hcores hcore
  have hne : (String.ofList (Text.trim last.1.toList)).isEmpty = false := by
    simp [core_ne_nil hcore]
  have hread : Json.ofText? (String.ofList (Text.trim last.1.toList)) = some k := by
    rw [Json.ofText?, String.toList_ofList, hcore]
  unfold readings
  dsimp only
  rw [firstObject_text ht hlead hinside, firstObject_stripped hfence ht hlead hinside, hlast, hread]
  split
  · left
    simp [hne]
  · right
    simp [hne]

/-! Refusals. -/

theorem validation_of_classification {j : Json} {fault : Fault} (h : classification j = .error fault) :
    ∃ field why, fault = .validation field why := by
  unfold classification at h
  split at h
  · cases h
  · cases h
    exact ⟨_, _, rfl⟩

theorem validation_of_controlPacket {j : Json} {fault : Fault} (h : controlPacket j = .error fault) :
    ∃ field why, fault = .validation field why := by
  unfold controlPacket at h
  cases hj : j.isObject with
  | false =>
    rw [hj] at h
    cases h
    exact ⟨_, _, rfl⟩
  | true =>
    rw [hj] at h
    simp only [Bool.not_true, Bool.false_eq_true, ↓reduceIte] at h
    cases hc : j.get? "intent_classification" with
    | none =>
      rw [hc] at h
      cases h
      exact ⟨_, _, rfl⟩
    | some c =>
      rw [hc] at h
      cases hclass : classification c with
      | ok x =>
        simp only [hclass] at h
        cases h
      | error fault' =>
        simp only [hclass] at h
        cases h
        exact validation_of_classification hclass

theorem validation_of_ofLower {j : Json} {fault : Fault} (h : ofLower j = .error fault) :
    ∃ field why, fault = .validation field why := by
  unfold ofLower at h
  cases hj : j.isObject with
  | false =>
    rw [hj] at h
    cases h
    exact ⟨_, _, rfl⟩
  | true =>
    rw [hj] at h
    simp only [Bool.not_true, Bool.false_eq_true, ↓reduceIte] at h
    cases hs : j.get? "surface_response" with
    | none =>
      rw [hs] at h
      cases h
      exact ⟨_, _, rfl⟩
    | some t =>
      rw [hs] at h
      cases t with
      | str t =>
        cases hc : j.get? "control_packet" with
        | none =>
          rw [hc] at h
          cases h
          exact ⟨_, _, rfl⟩
        | some c =>
          rw [hc] at h
          cases hp : controlPacket c with
          | ok p =>
            simp only [hp] at h
            cases h
          | error fault' =>
            simp only [hp] at h
            cases h
            exact validation_of_controlPacket hp
      | _ =>
        cases h
        exact ⟨_, _, rfl⟩

/-- In a reply of prose and objects, without the marks of a fence, the first object is chosen if it is an
envelope, and the last one otherwise, whose fault is given if it is no envelope either. -/
theorem parse_scattered {front : String} {parts : List (String × String)}
    (hfront : '{' ∉ front.toList) (hparts : ∀ p ∈ parts, IsPart p)
    (hfence : Text.occursIn fence (scattered front parts).toList = false) :
    (parts = [] → parse (scattered front parts) = .error (.parse noObject)) ∧
      ∀ first last j k, parts.head? = some first → parts.getLast? = some last →
        Json.ofText? first.1 = some j → Json.ofText? last.1 = some k →
        (∀ e, ofJson j = .ok e → parse (scattered front parts) = .ok e) ∧
          (∀ fault, ofJson j = .error fault → parse (scattered front parts) = ofJson k) ∧
          ∀ fault, ofJson k = .error fault → ∃ field why, fault = .validation field why := by
  constructor
  · rintro rfl
    have ht : scattered front [] = front := by simp [scattered]
    rw [ht] at hfence ⊢
    have hfirst : firstObject front = .error noObject := by
      rw [← String.ofList_toList (s := front)]
      exact firstObject_prose hfront
    have hstripped : firstObject (stripFences front) = .error noObject := by
      rw [← String.ofList_toList (s := front), stripFences_of_none hfence]
      exact firstObject_prose fun hm => hfront (Text.mem_of_mem_trim hm)
    unfold parse readings
    dsimp only
    rw [hfirst, hstripped, lastObject_prose hfront]
    split
    · rfl
    · rfl
  · intro first last j k hf hl hj hk
    have hreadings := readings_scattered hfront hparts hfence hf hl hj hk
    refine ⟨fun e he => ?_, fun fault he => ?_, fun fault he => validation_of_ofLower he⟩
    · rcases hreadings with h | h
      · rw [parse, h, choose, he]
      · rw [parse, h, choose, he]
    · have hk : choose (some fault) [.ok k] = ofJson k := by
        rw [choose]
        cases hk : ofJson k with
        | ok e => rfl
        | error fault' => rfl
      rcases hreadings with h | h
      · rw [parse, h, choose, he]
        exact hk
      · rw [parse, h, choose, he]
        dsimp only
        rw [choose, he]
        exact hk

/-- Prose with quotes and closing braces that belong to nothing. -/
def strayProse : String := "It said \"\x7d first:\n"

/-- An object that is no envelope, with an opening brace in a text. -/
def strayNote : String := "\x7b\"note\":\"\\\"\x7b\"\x7d"

/-- An envelope behind a blank. -/
def strayReply : String :=
  " \x7b\"surface_response\":\"Done.\",\"control_packet\":\x7b\"intent_classification\":\x7b\x7d\x7d\x7d"

/-- Both of them, each with stray characters behind it. -/
def strayParts : List (String × String) :=
  [(strayNote, ", \"\x7d then "), (strayReply, " \x7d\"")]

theorem isPart_strayParts : ∀ p ∈ strayParts, IsPart p := by
  have h : ∀ p ∈ strayParts, (Json.ofText? p.1).any Json.isObject ∧ '{' ∉ p.2.toList := by
    decide +kernel
  intro p hp
  obtain ⟨hobject, hprose⟩ := h p hp
  rw [Option.any_eq_true] at hobject
  exact ⟨hobject, hprose⟩

theorem parse_scattered_strayParts :
    '{' ∉ strayProse.toList ∧ (∀ p ∈ strayParts, IsPart p) ∧
      Text.occursIn fence (scattered strayProse strayParts).toList = false ∧
      (parse (scattered strayProse strayParts)).toOption.map Envelope.surface = some "Done." := by
  have hfront : '{' ∉ strayProse.toList := by decide
  have hfence : Text.occursIn fence (scattered strayProse strayParts).toList = false := by
    decide +kernel
  have hnote : ((Json.ofText? strayNote).map fun j => (ofJson j).toOption.isSome) = some false := by
    decide +kernel
  have hreply : ((Json.ofText? strayReply).map fun k => (ofJson k).toOption.map Envelope.surface) =
      some (some "Done.") := by decide +kernel
  obtain ⟨j, hj, hnote⟩ := Option.map_eq_some_iff.mp hnote
  obtain ⟨k, hk, hreply⟩ := Option.map_eq_some_iff.mp hreply
  obtain ⟨-, hlast, -⟩ := (parse_scattered hfront isPart_strayParts hfence).2 _ _ j k rfl rfl hj hk
  refine ⟨hfront, isPart_strayParts, hfence, ?_⟩
  cases ho : ofJson j with
  | error fault =>
    rw [hlast fault ho]
    exact hreply
  | ok e =>
    rw [ho] at hnote
    cases hnote

/-! The last object. -/

/-- The last object of a reply of prose and objects is found as it is written, from its first brace to its
last one; where there is none, nothing is found. -/
theorem lastObject_scattered {front : String} {parts : List (String × String)}
    (hfront : '{' ∉ front.toList) (hparts : ∀ p ∈ parts, IsPart p) :
    (parts = [] → lastObject (scattered front parts) = "") ∧
      ∀ last, parts.getLast? = some last →
        lastObject (scattered front parts) = Text.trimmed last.1 ∧
          (last.1.toList.head? = some '{' → last.1.toList.getLast? = some '}' →
            lastObject (scattered front parts) = last.1) := by
  constructor
  · rintro rfl
    have ht : scattered front [] = front := by simp [scattered]
    rw [ht, lastObject_prose hfront]
  · intro last hl
    obtain ⟨j, hj, -⟩ := (hparts last (List.mem_of_getLast? hl)).1
    obtain ⟨cores, hcores, hcore⟩ := exists_last hfront hparts hl
    have hlast : lastObject (scattered front parts) = Text.trimmed last.1 :=
      lastObject_of_spans hcores (hcore.trans hj)
    refine ⟨hlast, fun hopen hclose => ?_⟩
    have hbare : Text.Bare last.1.toList := by
      constructor
      · intro c hc
        cases hopen.symm.trans hc
        decide
      · intro c hc
        cases hclose.symm.trans hc
        decide
    rw [hlast, Text.trimmed, Text.trim_eq_self hbare, String.ofList_toList]

theorem lastObject_strayParts :
    lastObject (scattered strayProse strayParts) = Text.trimmed strayReply ∧
      lastObject (scattered strayProse strayParts.reverse) = strayNote := by
  have hfront : '{' ∉ strayProse.toList := by decide
  have hreverse : ∀ p ∈ strayParts.reverse, IsPart p := fun p hp =>
    isPart_strayParts p (List.mem_reverse.mp hp)
  obtain ⟨hreply, -⟩ := (lastObject_scattered hfront isPart_strayParts).2 _ rfl
  obtain ⟨-, hnote⟩ := (lastObject_scattered hfront hreverse).2 _ rfl
  exact ⟨hreply, hnote (by decide) (by decide)⟩

end Utterance.Envelope
