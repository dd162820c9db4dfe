import Utterance.Proofs.Stream.Response

/-! Where an object stands in a text that writes it: behind blanks, from its first brace to the one that
closes it. How many objects are open is told by the reader at every character between. -/

namespace Utterance.Json

/-! A text that does not begin with a brace writes no object. -/

/-- A value that is no container is being read, or has been read. -/
def State.isFlat : State → Bool
  | .text .value _ _ [] | .number _ _ [] => true
  | .word _ v [] => isScalar v
  | .done v => !v.isObject
  | _ => false

theorem isFlat_done {v : Json} (h : isScalar v) : (State.done v).isFlat := by
  simp [State.isFlat, isObject_of_isScalar h]

theorem isFlat_stepDone {v : Json} {c : Char} {s : State} (hv : v.isObject = false)
    (h : stepAfter c (.done v) = some s) : s.isFlat := by
  simp only [stepAfter] at h
  split at h
  · cases h
    simp [State.isFlat, hv]
  · cases h

theorem isFlat_step {s s' : State} {c : Char} (hs : s.isFlat) (h : step s c = some s') : s'.isFlat := by
  cases s with
  | text role phase sofar o =>
    cases role with
    | key ms => cases hs
    | value =>
      cases o with
      | cons f o => cases hs
      | nil =>
        rcases stepText_cases h with ⟨-, -, rfl⟩ | ⟨-, phase', sofar', rfl⟩
        · rfl
        · rfl
  | number phase t o =>
    cases o with
    | cons f o => cases hs
    | nil =>
      rcases stepNumber_cases h with ⟨phase', t', -, rfl⟩ | ⟨v, hv, ha⟩
      · rfl
      · exact isFlat_stepDone (isObject_of_isScalar hv) ha
  | word rest v o =>
    cases o with
    | cons f o => cases hs
    | nil =>
      simp only [step] at h
      repeat' split at h
      all_goals cases h
      · exact isFlat_done hs
      · exact hs
  | done v => exact isFlat_stepDone (by simpa [State.isFlat] using hs) h
  | value b o => cases hs
  | key b ms o => cases hs
  | colon ms k o => cases hs
  | afterItem items o => cases hs
  | afterMember ms o => cases hs

theorem isFlat_run {s s' : State} {cs : List Char} (hs : s.isFlat) (h : run s cs = some s') : s'.isFlat := by
  induction cs generalizing s with
  | nil =>
    cases h
    exact hs
  | cons c cs ih =>
    obtain ⟨t, ht, h⟩ := Option.bind_eq_some_iff.mp h
    exact ih (isFlat_step hs ht) h

/-- What a text begins with behind blanks. -/
theorem start_cases {c : Char} {s : State} (h : step start c = some s) :
    (isSpace c ∧ s = start) ∨ (c = '{' ∧ s = .key true [] []) ∨ s.rooted = false ∨ s.isFlat := by
  by_cases hc : isSpace c
  · left
    simp only [step, start, stepValue, if_pos hc] at h
    exact ⟨hc, (Option.some.inj h).symm⟩
  · right
    cases stepValue_cases h with
    | space =>
      exfalso
      simp only [step, start, stepValue, if_neg hc] at h
      repeat' split at h
      all_goals first | cases h | skip
      obtain ⟨⟨phase, t⟩, -, hs⟩ := Option.map_eq_some_iff.mp h
      cases hs
    | text => exact .inr (.inr rfl)
    | object hc => exact .inl ⟨hc, rfl⟩
    | array => exact .inr (.inl rfl)
    | close items rest _ ho => cases ho
    | word rest v _ hs => exact .inr (.inr hs.1)
    | number => exact .inr (.inr rfl)

/-- A text that writes an object has its first brace behind blanks. -/
theorem exists_brace {cs : List Char} {ms : List (String × Json)}
    (h : run start cs = some (.done (.obj ms))) :
    ∃ front rest, cs = front ++ '{' :: rest ∧ front.all isSpace ∧
      run (.key true [] []) rest = some (.done (.obj ms)) := by
  induction cs with
  | nil => cases h
  | cons c cs ih =>
    obtain ⟨s, hs, h⟩ := Option.bind_eq_some_iff.mp h
    rcases start_cases hs with ⟨hc, rfl⟩ | ⟨rfl, rfl⟩ | hr | hf
    · obtain ⟨front, rest, rfl, hfront, hrest⟩ := ih h
      exact ⟨c :: front, rest, rfl, by simp [hc, hfront], hrest⟩
    · exact ⟨[], cs, rfl, rfl, h⟩
    · rw [Stream.Gate.rooted_run h rfl] at hr
      cases hr
    · have hdone := isFlat_run hf h
      cases hdone

theorem runFirst_cons {s t : State} {c : Char} (h : step s c = some t) (hd : ∀ v, t ≠ .done v)
    (rest : List Char) : runFirst s (c :: rest) = runFirst t rest := by
  rw [runFirst, h]
  cases t with
  | done v => exact absurd rfl (hd v)
  | _ => rfl

/-- Behind a whole value there are only blanks. -/
theorem spaces_of_run {v w : Json} {cs : List Char} (h : run (.done v) cs = some (.done w)) :
    cs.all isSpace ∧ v = w := by
  induction cs with
  | nil =>
    cases h
    exact ⟨rfl, rfl⟩
  | cons c cs ih =>
    obtain ⟨t, ht, h⟩ := Option.bind_eq_some_iff.mp h
    simp only [step, stepAfter] at ht
    split at ht
    case isTrue hc =>
      cases ht
      exact ⟨by simp [hc, (ih h).1], (ih h).2⟩
    case isFalse => cases ht

/-! Open objects. -/

/-- How many of the containers are objects. -/
def objects (o : List Frame) : Nat := o.countP Frame.isObject

/-- How many objects are open. -/
def State.objects : State → Nat
  | .key _ _ o | .colon _ _ o | .text (.key _) _ _ o | .afterMember _ o => Json.objects o + 1
  | .value _ o | .text .value _ _ o | .word _ _ o | .number _ _ o | .afterItem _ o => Json.objects o
  | .done _ => 0

@[simp] theorem objects_array (items : List Json) (o : List Frame) : objects (.array items :: o) = objects o := by
  simp [objects, Frame.isObject]

@[simp] theorem objects_object (ms : List (String × Json)) (k : String) (o : List Frame) :
    objects (.object ms k :: o) = objects o + 1 :=
  List.countP_cons_of_pos rfl

@[simp] theorem objects_complete (v : Json) (o : List Frame) : (complete v o).objects = objects o := by
  cases o with
  | nil => rfl
  | cons f o => cases f <;> simp [complete, State.objects]

/-- Where the outermost container is an object, none is open but behind it. -/
theorem eq_nil_of_objects {o : List Frame} (hr : rooted o) (h : objects o = 0) : o = [] := by
  induction o with
  | nil => rfl
  | cons f o ih =>
    exfalso
    cases o with
    | nil =>
      have hf : f.isObject = true := hr
      simp [objects, hf] at h
    | cons g o =>
      have hg : objects (g :: o) = 0 := by
        simp only [objects, List.countP_cons] at h ⊢
        omega
      cases ih hr hg

/-! Strings. -/

/-- Whether a backslash stands in front. -/
def TextPhase.isEscaped : TextPhase → Bool
  | escape | pairLetter _ => true
  | _ => false

/-- Whether a string is open. -/
def State.inText : State → Bool
  | .text .. => true
  | _ => false

/-- Whether a backslash stands in front, in a string. -/
def State.isEscaped : State → Bool
  | .text _ phase _ _ => phase.isEscaped
  | _ => false

@[simp] theorem inText_complete (v : Json) (o : List Frame) : (complete v o).inText = false := by
  cases o with
  | nil => rfl
  | cons f o => cases f <;> rfl

@[simp] theorem isEscaped_complete (v : Json) (o : List Frame) : (complete v o).isEscaped = false := by
  cases o with
  | nil => rfl
  | cons f o => cases f <;> rfl

/-- A string ends at quotes without a backslash in front, and a backslash without one escapes. -/
theorem stepText_escapes {role : Role} {phase : TextPhase} {sofar : List Char} {o : List Frame} {c : Char}
    {s : State} (h : stepText role phase sofar o c = some s) :
    (phase.isEscaped = false ∧ c = '"' ∧ s = closeText role sofar o) ∨
      (phase.isEscaped = false → c ≠ '"') ∧
        ∃ phase' sofar', s = .text role phase' sofar' o ∧
          phase'.isEscaped = (c == '\\' && !phase.isEscaped) := by
  cases phase with
  | plain =>
    simp only [stepText, beq_iff_eq] at h
    split at h
    case isTrue hc =>
      cases h
      exact .inl ⟨rfl, hc, rfl⟩
    case isFalse hq =>
      refine .inr ⟨fun _ => hq, ?_⟩
      split at h
      case isTrue hb =>
        cases h
        exact ⟨_, _, rfl, by simp [TextPhase.isEscaped, hb]⟩
      case isFalse hb =>
        split at h
        · cases h
        · cases h
          exact ⟨_, _, rfl, by simp [TextPhase.isEscaped, hb]⟩
  | escape =>
    refine .inr ⟨(by rintro ⟨⟩), ?_⟩
    simp only [stepText] at h
    split at h
    · cases h
      exact ⟨_, _, rfl, by simp [TextPhase.isEscaped]⟩
    · obtain ⟨d, -, rfl⟩ := Option.map_eq_some_iff.mp h
      exact ⟨_, _, rfl, by simp [TextPhase.isEscaped]⟩
  | code digits n high =>
    have hc : c ≠ '"' ∧ c ≠ '\\' := by
      constructor
      · rintro rfl
        cases h
      · rintro rfl
        cases h
    refine .inr ⟨fun _ => hc.1, ?_⟩
    simp only [stepText, Option.bind_eq_some_iff] at h
    obtain ⟨d, -, h⟩ := h
    repeat' split at h
    all_goals cases h <;> exact ⟨_, _, rfl, by simp [TextPhase.isEscaped, hc.2]⟩
  | pairMark high =>
    simp only [stepText] at h
    split at h
    case isTrue hc =>
      cases h
      have hc := beq_iff_eq.mp hc
      exact .inr ⟨(by simp [hc]), _, _, rfl, by simp [TextPhase.isEscaped, hc]⟩
    case isFalse => cases h
  | pairLetter high =>
    simp only [stepText] at h
    split at h
    case isTrue hc =>
      cases h
      exact .inr ⟨(by rintro ⟨⟩), _, _, rfl, by simp [TextPhase.isEscaped]⟩
    case isFalse => cases h

end Utterance.Json
