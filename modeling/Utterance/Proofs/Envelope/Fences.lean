import Utterance.Proofs.Envelope.Objects

/-! An envelope in a code fence is found behind prose that has braces of its own. -/

namespace Utterance.Envelope

/-- A reply with a text in a code fence: prose, the marks that open the fence, what else stands on their line
(a tag, blanks, the carriage return of a line end), the text with the blanks around it (and so with the carriage
return of its line end), the marks that close the fence on the next line, and anything behind them. -/
def fenced (prose info text after : String) : String :=
  prose ++ String.ofList fence ++ info ++ "\n" ++ text ++ "\n" ++ String.ofList fence ++ after

/-! The content of a fence. -/

theorem exists_suffix_drop {c d : Char} (hc : c ≠ d) (front rest : List Char) :
    ∃ left, left <:+ front ∧
      (if (front ++ c :: rest).head? == some d then (front ++ c :: rest).drop 1 else front ++ c :: rest) =
        left ++ c :: rest := by
  cases front with
  | nil => exact ⟨[], List.suffix_rfl, if_neg (by simpa using hc)⟩
  | cons x front =>
    split
    · exact ⟨front, List.suffix_cons x front, rfl⟩
    · exact ⟨x :: front, List.suffix_rfl, rfl⟩

/-- Nothing of an object is taken for the tag of the fence in front of it. -/
theorem exists_skipTag (front rest : List Char) :
    ∃ left, left <:+ front ∧ skipTag (front ++ '{' :: rest) = left ++ '{' :: rest := by
  have hdrop (p : Char → Bool) (hp : p '{' = false) (cs : List Char) :
      (cs ++ '{' :: rest).dropWhile p = cs.dropWhile p ++ '{' :: rest := Text.trimStart_front hp cs rest
  unfold skipTag
  dsimp only
  rw [hdrop _ (by decide), hdrop _ (by decide)]
  obtain ⟨behindReturn, hreturn, hr⟩ := exists_suffix_drop (c := '{') (d := '\r') (by decide)
    ((front.dropWhile fun c => c.isAlphanum || c == '_' || c == '-').dropWhile fun c => c == ' ' || c == '\t')
    rest
  obtain ⟨left, hleft, hl⟩ := exists_suffix_drop (c := '{') (d := '\n') (by decide) behindReturn rest
  rw [hr, hl]
  exact ⟨left, hleft.trans (hreturn.trans ((List.dropWhile_suffix _).trans (List.dropWhile_suffix _))), rfl⟩

/-- The first fence of a reply is the one behind prose without backticks, and it ends at the first marks
behind its object. -/
theorem exists_content {prose front body back : List Char} (hprose : '`' ∉ prose) (hfront : '`' ∉ front)
    (hmarks : Text.cut? fence ('{' :: (body ++ '}' :: back)) = none) (after : List Char) :
    ∃ left, left <:+ front ∧
      fenced? (prose ++ (fence ++ (front ++ '{' :: (body ++ '}' :: (back ++ '\n' :: (fence ++ after)))))) =
        some (left ++ '{' :: (body ++ '}' :: (back ++ ['\n']))) := by
  obtain ⟨left, hleft, htag⟩ := exists_skipTag front (body ++ '}' :: (back ++ '\n' :: (fence ++ after)))
  have hfence : fence = '`' :: ['`', '`'] := rfl
  have hopen (rest : List Char) : Text.cut? fence (prose ++ (fence ++ rest)) = some (prose, rest) := by
    rw [hfence, Text.cut?_behind hprose, Text.cut?_mark]
    simp
  have hinside : Text.cut? fence (left ++ '{' :: (body ++ '}' :: back)) = none := by
    rw [hfence, Text.cut?_behind (fun hm => hfront (hleft.subset hm)), ← hfence, hmarks]
    rfl
  have hclose := Text.cut?_separated (c := '\n') hinside (by decide) after
  refine ⟨left, hleft, ?_⟩
  rw [fenced?, hopen, Option.bind_some]
  dsimp only
  rw [htag]
  simpa using congrArg (Option.map Prod.fst) hclose

/-! Replies. -/

theorem isObject_of_ofJson {j : Json} {e : Envelope} (h : ofJson j = .ok e) : j.isObject := by
  cases j with
  | obj ms => rfl
  | _ => cases h

/-- What a reply with a fence is read as, once its fence is stripped. -/
theorem firstObject_fenced {prose info text : String} (hprose : '`' ∉ prose.toList)
    (hinfo : '`' ∉ info.toList) (hbrace : '{' ∉ info.toList)
    (hmarks : Text.occursIn fence text.toList = false) {j : Json} (ht : Json.ofText? text = some j)
    (hj : j.isObject) (after : String) :
    firstObject (stripFences (fenced prose info text after)) = .ok j := by
  obtain ⟨lead, body, back, htext, hlead, -, hinside⟩ := exists_isInside ht hj
  have hspaces : '`' ∉ lead := fun hm => by cases List.all_eq_true.mp hlead _ hm
  have hfront : '`' ∉ info.toList ++ '\n' :: lead := by simp [hinfo, hspaces]
  have hfrontBrace : '{' ∉ info.toList ++ '\n' :: lead := by simp [hbrace, not_mem_of_spaces hlead]
  have hobject : Text.cut? fence ('{' :: (body ++ '}' :: back)) = none := by
    have hcut : Text.cut? fence text.toList = none := by simpa [Text.occursIn] using hmarks
    rw [htext, show fence = '`' :: ['`', '`'] from rfl, Text.cut?_behind hspaces] at hcut
    exact Option.map_eq_none_iff.mp hcut
  obtain ⟨left, hleft, hcontent⟩ := exists_content hprose hfront hobject after.toList
  have hlist : (fenced prose info text after).toList = prose.toList ++ (fence ++
      ((info.toList ++ '\n' :: lead) ++ '{' :: (body ++ '}' :: (back ++ '\n' :: (fence ++ after.toList))))) := by
    simp [fenced, htext]
  unfold stripFences
  dsimp only
  rw [hlist, hcontent]
  exact firstObject_trim (fun hm => hfrontBrace (hleft.subset hm)) hinside

theorem choose_ok {fault : Option Fault} {j : Json} {e : Envelope} (h : ofJson j = .ok e)
    (others : List (Except String Json)) : choose fault (.ok j :: others) = .ok e := by
  rw [choose, h]

/-- An envelope in a code fence is the envelope of a reply, whatever stands in front of it without a backtick
and whatever behind it, unless an object at the first brace of the reply is another one. -/
theorem parse_fenced {prose info text after : String} (hprose : '`' ∉ prose.toList)
    (hinfo : '`' ∉ info.toList) (hbrace : '{' ∉ info.toList)
    (hmarks : Text.occursIn fence text.toList = false) {j : Json} (ht : Json.ofText? text = some j)
    {e : Envelope} (he : ofJson j = .ok e)
    (hfirst : ∀ k, firstObject (fenced prose info text after) = .ok k →
      k = j ∨ ∃ fault, ofJson k = .error fault) :
    parse (fenced prose info text after) = .ok e := by
  have hstripped := firstObject_fenced hprose hinfo hbrace hmarks ht (isObject_of_ofJson he) after
  generalize fenced prose info text after = reply at hfirst hstripped ⊢
  -- Where stripping changes nothing, the object in the fence is at the first brace already.
  have hdiffers (h : firstObject reply ≠ .ok j) : stripFences reply ≠ reply := by
    intro hs
    exact h (hs ▸ hstripped)
  unfold parse readings
  dsimp only
  rw [hstripped]
  cases hf : firstObject reply with
  | error words =>
    have hne : firstObject reply ≠ .ok j := by
      rw [hf]
      intro h
      cases h
    rw [if_neg (hdiffers hne), List.append_assoc, List.singleton_append, choose]
    exact choose_ok he _
  | ok k =>
    rcases hfirst k hf with rfl | ⟨fault, hk⟩
    · exact choose_ok he _
    · have hne : firstObject reply ≠ .ok j := by
        rw [hf]
        intro h
        cases h
        rw [he] at hk
        cases hk
      rw [if_neg (hdiffers hne), List.append_assoc, List.singleton_append, choose, hk]
      exact choose_ok he _

/-- Prose with a brace that belongs to nothing, behind an object that is no envelope. -/
def bracedProse : String := "Not \x7b\"note\": \"\\\"\x7b\"\x7d, nor \x7b\"a: \x7d but:\n"

/-- An envelope with two backticks in its response, between line ends of two characters. -/
def quotedReply : String :=
  "\r\n \x7b\"surface_response\":\"Type ``ls``.\",\"control_packet\":\x7b\"intent_classification\":\x7b\x7d\x7d\x7d\r"

/-- The envelope in a fence behind the prose, with marks behind it that open another one. -/
def wordyReply : String :=
  fenced bracedProse "json_5-x \t\r" quotedReply "\n```\x7b\"b\": ["

theorem parse_fenced_wordyReply :
    '`' ∉ bracedProse.toList ∧ Text.occursIn fence quotedReply.toList = false ∧
      (parse wordyReply).toOption.map Envelope.surface = some "Type ``ls``." := by
  have hprose : '`' ∉ bracedProse.toList := by decide
  have hmarks : Text.occursIn fence quotedReply.toList = false := by decide +kernel
  have hnote : (firstObject wordyReply).toOption.all (fun k => (ofJson k).toOption.isNone) = true := by
    decide +kernel
  have hreply : ((Json.ofText? quotedReply).map fun j => (ofJson j).toOption.map Envelope.surface) =
      some (some "Type ``ls``.") := by decide +kernel
  obtain ⟨j, hj, hsurface⟩ := Option.map_eq_some_iff.mp hreply
  refine ⟨hprose, hmarks, ?_⟩
  cases he : ofJson j with
  | error fault =>
    rw [he] at hsurface
    cases hsurface
  | ok e =>
    have hparse : parse wordyReply = .ok e := by
      refine parse_fenced hprose (by decide) (by decide) hmarks hj he fun k hk => .inr ?_
      rw [show firstObject wordyReply = .ok k from hk] at hnote
      cases ho : ofJson k with
      | error fault => exact ⟨fault, rfl⟩
      | ok e' =>
        have hnone : (ofJson k).toOption.isNone = true := hnote
        rw [ho] at hnone
        cases hnone
    rw [hparse, ← he]
    exact hsurface

end Utterance.Envelope
