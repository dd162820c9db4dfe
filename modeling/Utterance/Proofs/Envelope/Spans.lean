import Utterance.Envelope
import Utterance.Proofs.Json.Front

/-! The walk that looks for complete objects finds those that the reader of documents reads, whatever stands
between them. -/

namespace Utterance.Envelope

open Json (Frame State objects complete)

/-! Steps of the walk. -/

namespace Span

theorem step_closed {s : Span} (hs : s.inString = false) (hd : s.depth = 0) {c : Char} (hc : c ≠ '{') :
    s.step c = (s, none) := by
  by_cases hq : c = '"'
  · simp [step, hs, hd, hq]
  · simp [step, hs, hd, hq, hc]

theorem step_plain {s : Span} (hs : s.inString = false) (hd : 0 < s.depth) {c : Char} (hq : c ≠ '"')
    (ho : c ≠ '{') (hc : c ≠ '}') : s.step c = ({ s with sofar := c :: s.sofar }, none) := by
  simp [step, hs, hq, ho, hc, Nat.ne_of_gt hd]

theorem step_quote {s : Span} (hs : s.inString = false) (hd : 0 < s.depth) :
    s.step '"' = ({ s with inString := true, sofar := '"' :: s.sofar }, none) := by
  simp [step, hs, Nat.ne_of_gt hd]

theorem step_open {s : Span} (hs : s.inString = false) :
    s.step '{' = ({ s with depth := s.depth + 1, sofar := '{' :: s.sofar }, none) := by
  simp [step, hs]

theorem step_close {s : Span} (hs : s.inString = false) (hd : 1 < s.depth) :
    s.step '}' = ({ s with depth := s.depth - 1, sofar := '}' :: s.sofar }, none) := by
  simp [step, hs, Nat.ne_of_gt hd, Nat.ne_of_gt (Nat.lt_of_succ_lt hd)]

theorem step_last {s : Span} (hs : s.inString = false) (hd : s.depth = 1) :
    s.step '}' = ({}, some ('}' :: s.sofar).reverse) := by
  simp [step, hs, hd]

theorem step_inText {s : Span} (hs : s.inString = true) {c : Char} (hq : s.escaped = false → c ≠ '"') :
    s.step c = ({ s with sofar := c :: s.sofar, escaped := c == '\\' && !s.escaped }, none) := by
  cases he : s.escaped with
  | true => simp [step, hs, he]
  | false =>
    by_cases hb : c = '\\'
    · simp [step, hs, he, hb]
    · simp [step, hs, he, hb, hq he]

theorem step_endText {s : Span} (hs : s.inString = true) (he : s.escaped = false) :
    s.step '"' = ({ s with inString := false, sofar := '"' :: s.sofar }, none) := by
  simp [step, hs, he]

end Span

/-! The walk beside the reader. -/

/-- A walk that has come as far in an object as the reader. -/
structure Aligned (s : State) (g : Span) : Prop where
  depth : g.depth = s.objects
  inside : 0 < g.depth
  string : g.inString = s.inText
  escaped : g.escaped = s.isEscaped

/-- Where the walk is behind one more character, with which the reader comes to a state: still in the
object, or behind it. -/
inductive Walked (g : Span) (c : Char) (t : State) : Prop
  | within (g' : Span) : g.step c = (g', none) → Aligned t g' → g'.sofar = c :: g.sofar → Walked g c t
  | ended (v : Json) : t = .done v → c = '}' → g.step c = ({}, some (c :: g.sofar).reverse) → Walked g c t

theorem isEscaped_of_inText {s : State} (h : s.inText = false) : s.isEscaped = false := by
  cases s with
  | text => cases h
  | _ => rfl

namespace Aligned

variable {s t : State} {g : Span} {c : Char}

theorem plain (h : Aligned s g) (hs : s.inText = false) (hq : c ≠ '"') (ho : c ≠ '{') (hc : c ≠ '}')
    (hn : t.objects = s.objects) (ht : t.inText = false) : Walked g c t := by
  have hi : g.inString = false := h.string.trans hs
  refine .within _ (Span.step_plain hi h.inside hq ho hc) ⟨?_, h.inside, ?_, ?_⟩ rfl
  · rw [hn]
    exact h.depth
  · exact hi.trans ht.symm
  · rw [isEscaped_of_inText ht, ← isEscaped_of_inText hs]
    exact h.escaped

theorem quiet (h : Aligned s g) (hs : s.inText = false) (hc : Json.isQuiet c)
    (hn : t.objects = s.objects) (ht : t.inText = false) : Walked g c t := by
  simp only [Json.isQuiet, Bool.not_eq_true', Bool.or_eq_false_iff, beq_eq_false_iff_ne] at hc
  exact h.plain hs hc.1.1.1.1.1.1 hc.1.1.1.1.1.2 hc.1.1.1.2 hn ht

/-- The end of an object. -/
theorem close {v : Json} {o : List Frame} (h : Aligned s g) (hs : s.inText = false)
    (hn : s.objects = objects o + 1) (hr : (complete v o).rooted) : Walked g '}' (complete v o) := by
  have hi : g.inString = false := h.string.trans hs
  have hd : g.depth = objects o + 1 := h.depth.trans hn
  by_cases ho : objects o = 0
  · obtain rfl := Json.eq_nil_of_objects (Stream.Gate.rooted_below hr) ho
    exact .ended v rfl rfl (Span.step_last hi hd)
  · have hdeep : 1 < g.depth := by omega
    refine .within _ (Span.step_close hi hdeep) ⟨?_, ?_, ?_, ?_⟩ rfl
    · rw [Json.objects_complete]
      show g.depth - 1 = _
      omega
    · show 0 < g.depth - 1
      omega
    · rw [Json.inText_complete]
      exact hi
    · rw [Json.isEscaped_complete]
      exact h.escaped.trans (isEscaped_of_inText hs)

theorem stepAfter (h : Aligned s g) (hs : Json.stepAfter c s = some t) (hr : t.rooted) : Walked g c t := by
  unfold Json.stepAfter at hs
  split at hs
  case h_1 items o =>
    split at hs
    case isTrue hc =>
      cases hs
      exact h.quiet rfl (Json.isQuiet_of_isSpace hc) rfl rfl
    split at hs
    case isTrue hc =>
      cases hs
      obtain rfl := beq_iff_eq.mp hc
      exact h.plain rfl (by decide) (by decide) (by decide) (Json.objects_array items o) rfl
    split at hs
    case isTrue hc =>
      cases hs
      obtain rfl := beq_iff_eq.mp hc
      exact h.plain rfl (by decide) (by decide) (by decide) (Json.objects_complete _ o)
        (Json.inText_complete _ o)
    case isFalse => cases hs
  case h_2 ms o =>
    split at hs
    case isTrue hc =>
      cases hs
      exact h.quiet rfl (Json.isQuiet_of_isSpace hc) rfl rfl
    split at hs
    case isTrue hc =>
      cases hs
      obtain rfl := beq_iff_eq.mp hc
      exact h.plain rfl (by decide) (by decide) (by decide) rfl rfl
    split at hs
    case isTrue hc =>
      cases hs
      obtain rfl := beq_iff_eq.mp hc
      exact h.close rfl rfl hr
    case isFalse => cases hs
  case h_3 v => exact absurd h.depth (Nat.ne_of_gt h.inside)
  case h_4 => cases hs

theorem stepValue {b : Bool} {o : List Frame} (h : Aligned (.value b o) g)
    (hs : Json.stepValue b o c = some t) : Walked g c t := by
  have hi : g.inString = false := h.string
  cases Json.stepValue_cases hs with
  | space hc => exact h.quiet rfl hc rfl rfl
  | word rest v hc => exact h.quiet rfl hc rfl rfl
  | number phase u hc => exact h.quiet rfl hc rfl rfl
  | text hc =>
    subst hc
    exact .within _ (Span.step_quote hi h.inside) ⟨h.depth, h.inside, rfl, h.escaped⟩ rfl
  | object hc =>
    subst hc
    refine .within _ (Span.step_open hi) ⟨?_, Nat.succ_pos _, hi, h.escaped⟩ rfl
    exact congrArg (· + 1) h.depth
  | array hc =>
    subst hc
    exact h.plain rfl (by decide) (by decide) (by decide) (Json.objects_array [] o) rfl
  | close items rest hc ho =>
    subst hc ho
    exact h.plain rfl (by decide) (by decide) (by decide)
      ((Json.objects_complete _ rest).trans (Json.objects_array items rest).symm)
      (Json.inText_complete _ rest)

theorem stepText {role : Json.Role} {phase : Json.TextPhase} {sofar : List Char} {o : List Frame}
    (h : Aligned (.text role phase sofar o) g) (hs : Json.stepText role phase sofar o c = some t) :
    Walked g c t := by
  have hi : g.inString = true := h.string
  have he : g.escaped = phase.isEscaped := h.escaped
  rcases Json.stepText_escapes hs with ⟨hp, rfl, rfl⟩ | ⟨hq, phase', sofar', rfl, hp⟩
  · have hesc : g.escaped = false := he.trans hp
    refine .within _ (Span.step_endText hi hesc) ⟨?_, h.inside, ?_, ?_⟩ rfl
    · cases role with
      | value => exact h.depth.trans (Json.objects_complete _ o).symm
      | key ms => exact h.depth
    · cases role with
      | value => exact (Json.inText_complete _ o).symm
      | key ms => rfl
    · cases role with
      | value => exact hesc.trans (Json.isEscaped_complete _ o).symm
      | key ms => exact hesc
  · rw [← he] at hq hp
    refine .within _ (Span.step_inText hi hq) ⟨?_, h.inside, hi, hp.symm⟩ rfl
    cases role with
    | value => exact h.depth
    | key ms => exact h.depth

theorem step (h : Aligned s g) (hsound : s.Sound) (hs : Json.step s c = some t) (hr : t.rooted) :
    Walked g c t := by
  have hi : s.inText = false → g.inString = false := fun hs => h.string.trans hs
  cases s with
  | value b o => exact h.stepValue hs
  | text role phase sofar o => exact h.stepText hs
  | key b ms o =>
    simp only [Json.step] at hs
    split at hs
    case isTrue hc =>
      cases hs
      exact h.quiet rfl (Json.isQuiet_of_isSpace hc) rfl rfl
    split at hs
    case isTrue hc =>
      cases hs
      obtain rfl := beq_iff_eq.mp hc
      exact .within _ (Span.step_quote (hi rfl) h.inside) ⟨h.depth, h.inside, rfl, h.escaped⟩ rfl
    split at hs
    case isTrue hc =>
      cases hs
      obtain rfl := beq_iff_eq.mp (Bool.and_eq_true_iff.mp hc).1
      exact h.close rfl rfl hr
    case isFalse => cases hs
  | colon ms k o =>
    simp only [Json.step] at hs
    split at hs
    case isTrue hc =>
      cases hs
      exact h.quiet rfl (Json.isQuiet_of_isSpace hc) rfl rfl
    split at hs
    case isTrue hc =>
      cases hs
      obtain rfl := beq_iff_eq.mp hc
      exact h.plain rfl (by decide) (by decide) (by decide) (Json.objects_object ms k o) rfl
    case isFalse => cases hs
  | word rest v o =>
    have hlower (d : Char) (hd : d ∈ rest) : Json.isQuiet d := Json.isQuiet_of_isLower (hsound.2 d hd)
    simp only [Json.step] at hs
    split at hs
    case h_1 => cases hs
    case h_2 d =>
      split at hs
      case isTrue hc =>
        cases hs
        obtain rfl := beq_iff_eq.mp hc
        exact h.quiet rfl (hlower c List.mem_cons_self) (Json.objects_complete v o) (Json.inText_complete v o)
      case isFalse => cases hs
    case h_3 d more _ =>
      split at hs
      case isTrue hc =>
        cases hs
        obtain rfl := beq_iff_eq.mp hc
        exact h.quiet rfl (hlower c List.mem_cons_self) rfl rfl
      case isFalse => cases hs
  | number phase u o =>
    rcases Json.stepNumber_cases hs with ⟨phase', u', hc, rfl⟩ | ⟨v, -, ha⟩
    · exact h.quiet rfl hc rfl rfl
    · have hv : Aligned (complete v o) g := by
        refine ⟨h.depth.trans (Json.objects_complete v o).symm, h.inside, ?_, ?_⟩
        · exact h.string.trans (Json.inText_complete v o).symm
        · exact h.escaped.trans (Json.isEscaped_complete v o).symm
      exact hv.stepAfter ha hr
  | afterItem items o => exact h.stepAfter hs hr
  | afterMember ms o => exact h.stepAfter hs hr
  | done v => exact h.stepAfter hs hr

theorem not_done (h : Aligned t g) (v : Json) : t ≠ .done v := by
  rintro rfl
  exact absurd h.depth (Nat.ne_of_gt h.inside)

/-- From inside of an object to its end, walk and reader find the same closing brace, whatever follows. -/
theorem run {cs : List Char} {ms : List (String × Json)} (h : Aligned s g) (hsound : s.Sound)
    (hrun : Json.run s cs = some (.done (.obj ms))) :
    ∃ body back, cs = body ++ '}' :: back ∧ back.all Json.isSpace ∧
      Json.run s (body ++ ['}']) = some (.done (.obj ms)) ∧
      ∀ rest, Json.runFirst s (body ++ '}' :: rest) = some (.obj ms, rest) ∧
        spans g (body ++ '}' :: rest) = (g.sofar.reverse ++ body ++ ['}']) :: spans {} rest := by
  induction cs generalizing s g with
  | nil =>
    cases hrun
    exact absurd rfl (h.not_done _)
  | cons c cs ih =>
    obtain ⟨t, ht, hbehind⟩ := Option.bind_eq_some_iff.mp hrun
    cases h.step hsound ht (Stream.Gate.rooted_run hbehind rfl) with
    | within g' hg halign hsofar =>
      obtain ⟨body, back, rfl, hback, hbody, hrest⟩ := ih halign (Json.sound_step hsound ht) hbehind
      refine ⟨c :: body, back, rfl, hback, ?_, ?_⟩
      · rw [List.cons_append, Json.run, ht]
        exact hbody
      · intro rest
        obtain ⟨hfirst, hspans⟩ := hrest rest
        constructor
        · rw [List.cons_append, Json.runFirst_cons ht halign.not_done, hfirst]
        · rw [List.cons_append, spans, hg]
          dsimp only
          rw [hspans, hsofar]
          simp
    | ended v hv hc hg =>
      subst hv hc
      obtain ⟨hback, rfl⟩ := Json.spaces_of_run hbehind
      refine ⟨[], cs, rfl, hback, ?_, ?_⟩
      · rw [List.nil_append, Json.run, ht]
        rfl
      · intro rest
        constructor
        · rw [List.nil_append, Json.runFirst, ht]
          rfl
        · rw [List.nil_append, spans, hg]
          simp

end Aligned

end Utterance.Envelope
