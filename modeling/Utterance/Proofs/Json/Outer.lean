import Utterance.Json.Reader

/-! Where the reader of documents stands in the outermost object: which members are finished, and
which key waits for its value. -/

namespace Utterance.Json

/-- What has been read of the outermost object, the latest members first. -/
structure Outer where
  members : List (String × Json) := []
  waiting : Option String := none

/-- The outermost object below a value, where the given containers are open. -/
def outerOf : List Frame → Outer
  | [] => {}
  | [.object ms k] => ⟨ms, some k⟩
  | [.array _] => {}
  | _ :: f :: rest => outerOf (f :: rest)

theorem outerOf_cons {f : Frame} {o : List Frame} (h : o ≠ []) : outerOf (f :: o) = outerOf o := by
  cases o with
  | nil => exact absurd rfl h
  | cons g rest => cases f <;> rfl

/-- What has been read of the outermost object in a state. -/
def State.outer : State → Outer
  | .key _ ms [] | .text (.key ms) _ _ [] | .afterMember ms [] => ⟨ms, none⟩
  | .colon ms k [] => ⟨ms, some k⟩
  | .done v => ⟨(v.members?.getD []).reverse, none⟩
  | .value _ o | .key _ _ o | .text _ _ _ o | .colon _ _ o | .word _ _ o | .number _ _ o
  | .afterItem _ o | .afterMember _ o => outerOf o

/-- A value that is neither a container nor a string. -/
def isScalar : Json → Bool
  | .null | .bool _ | .int _ | .float _ => true
  | _ => false

/-- What the words of a document are: letters for a value without parts. -/
def State.Sound : State → Prop
  | .word rest v _ => isScalar v ∧ ∀ c ∈ rest, c.isLower
  | _ => True

/-- How a step changes what has been read of the outermost object: a key is read, or the member
whose key waits is finished; an object is finished at its closing brace. -/
inductive Outer.Move (a : Outer) (c : Char) : Outer → Prop
  | stay : Move a c a
  | key (k : String) : a.waiting = none → Move a c ⟨a.members, some k⟩
  | finish (k : String) (v : Json) : a.waiting = some k → (v.isObject → c = '}') →
      Move a c ⟨(k, v) :: a.members, none⟩

theorem ite_some {p : Prop} [Decidable p] {a b : Option Json} {v : Json}
    (ha : ∀ v, a = some v → isScalar v) (hb : ∀ v, b = some v → isScalar v)
    (h : (if p then a else b) = some v) : isScalar v := by
  by_cases hp : p
  · exact ha v (by rwa [if_pos hp] at h)
  · exact hb v (by rwa [if_neg hp] at h)

theorem value?_isScalar {t : NumberText} {v : Json} (h : t.value? = some v) : isScalar v := by
  have float : ∀ v, t.float?.map Json.float = some v → isScalar v := by
    intro v hv
    obtain ⟨x, -, rfl⟩ := Option.map_eq_some_iff.mp hv
    rfl
  refine ite_some (fun v => ite_some float (fun v => ite_some ?_ (fun v => ite_some ?_ ?_))) float h
  all_goals intro v hv; cases hv; rfl
theorem isObject_of_isScalar {v : Json} (h : isScalar v) : v.isObject = false := by
  cases v <;> first | rfl | cases h

theorem outer_done_obj (ms : List (String × Json)) :
    (State.done (.obj ms.reverse)).outer = ⟨ms, none⟩ :=
  congrArg (Outer.mk · none) ms.reverse_reverse

theorem outer_done_scalar {v : Json} (h : isScalar v) : (State.done v).outer = {} := by
  cases v <;> first | rfl | cases h

/-- A value that is finished below open containers. -/
theorem move_complete {v : Json} {o : List Frame} {c : Char} (ho : o ≠ [])
    (hv : v.isObject → c = '}') : (outerOf o).Move c (complete v o).outer := by
  match o with
  | [] => exact absurd rfl ho
  | [.array items] => exact .stay
  | [.object ms k] => exact .finish k v rfl hv
  | .array items :: g :: rest => exact .stay
  | .object ms k :: g :: rest => exact .stay

theorem sound_complete (v : Json) (o : List Frame) : (complete v o).Sound := by
  match o with
  | [] => trivial
  | .array _ :: _ => trivial
  | .object .. :: _ => trivial

/-- A scalar that is finished. -/
theorem move_scalar {v : Json} {o : List Frame} {c : Char} (hv : isScalar v) :
    (outerOf o).Move c (complete v o).outer := by
  cases o with
  | nil =>
    rw [show (complete v []).outer = {} from outer_done_scalar hv]
    exact .stay
  | cons f rest => exact move_complete (by simp) (by simp [isObject_of_isScalar hv])

theorem outer_pushed {b : Bool} {items : List Json} {o : List Frame} :
    (State.value b (.array items :: o)).outer = outerOf o := by
  cases o <;> rfl

theorem move_stepAfter {s s' : State} {c : Char} (h : stepAfter c s = some s') :
    s.outer.Move c s'.outer := by
  unfold stepAfter at h
  split at h
  case h_1 items o =>
    split at h
    · cases h; exact .stay
    split at h
    · cases h
      rw [outer_pushed]
      exact .stay
    split at h
    · cases h
      cases o with
      | nil => exact .stay
      | cons f rest => exact move_complete (by simp) (by simp [isObject, members?])
    · cases h
  case h_2 ms o =>
    split at h
    · cases h; exact .stay
    split at h
    · cases h
      cases o <;> exact .stay
    split at h
    case isTrue hc =>
      cases h
      cases o with
      | nil =>
        rw [show (complete (.obj ms.reverse) []).outer = ⟨ms, none⟩ from outer_done_obj ms]
        exact .stay
      | cons f rest => exact move_complete (by simp) (by simp_all)
    · cases h
  case h_3 v =>
    split at h
    · cases h; exact .stay
    · cases h
  case h_4 => cases h

theorem outer_behind_member {ms : List (String × Json)} {s : State} {c : Char}
    (h : stepAfter c (.afterMember ms []) = some s) : s.outer = ⟨ms, none⟩ := by
  simp only [stepAfter] at h
  repeat' split at h
  · cases h; rfl
  · cases h; rfl
  · cases h; exact outer_done_obj ms
  · cases h

/-- A number that ends at the character behind it. -/
theorem move_number {v : Json} {o : List Frame} {s : State} {c : Char} (hv : isScalar v)
    (h : stepAfter c (complete v o) = some s) : (outerOf o).Move c s.outer := by
  match o with
  | [] =>
    have hm := move_stepAfter h
    rwa [show (complete v []).outer = {} from outer_done_scalar hv] at hm
  | [.object ms k] =>
    rw [outer_behind_member h]
    exact .finish k v rfl (by simp [isObject_of_isScalar hv])
  | [.array items] => exact move_stepAfter h
  | .array items :: g :: rest => exact move_stepAfter (s := .afterItem _ (g :: rest)) h
  | .object ms k :: g :: rest => exact move_stepAfter (s := .afterMember _ (g :: rest)) h

/-- A character that neither opens nor closes anything and divides nothing. -/
def isQuiet (c : Char) : Bool :=
  !(c == '"' || c == '{' || c == '[' || c == '}' || c == ']' || c == ':' || c == ',')

theorem isQuiet_of_isSpace {c : Char} (h : isSpace c) : isQuiet c := by
  simp only [isSpace, Bool.or_eq_true, beq_iff_eq] at h
  rcases h with ((rfl | rfl) | rfl) | rfl <;> rfl

theorem isQuiet_of_isDigit {c : Char} (h : c.isDigit) : isQuiet c := by
  simp only [isQuiet, Bool.not_eq_true', Bool.or_eq_false_iff, beq_eq_false_iff_ne]
  refine ⟨⟨⟨⟨⟨⟨?_, ?_⟩, ?_⟩, ?_⟩, ?_⟩, ?_⟩, ?_⟩ <;> rintro rfl <;> cases h

theorem isQuiet_of_isLower {c : Char} (h : c.isLower) : isQuiet c := by
  simp only [isQuiet, Bool.not_eq_true', Bool.or_eq_false_iff, beq_eq_false_iff_ne]
  refine ⟨⟨⟨⟨⟨⟨?_, ?_⟩, ?_⟩, ?_⟩, ?_⟩, ?_⟩, ?_⟩ <;> rintro rfl <;> cases h

theorem isQuiet_of_stepNumber {phase phase' : NumberPhase} {t t' : NumberText} {c : Char}
    (h : stepNumber phase t c = some (phase', t')) : isQuiet c := by
  have hc : c.isDigit ∨ c = '.' ∨ c = 'e' ∨ c = 'E' ∨ c = '+' ∨ c = '-' := by
    have zero : c = '0' → c.isDigit := by rintro rfl; rfl
    cases phase <;> simp only [stepNumber, Bool.or_eq_true, beq_iff_eq] at h <;>
      repeat' split at h
    all_goals cases h <;> first | exact .inl ‹_› | grind
  rcases hc with h | rfl | rfl | rfl | rfl | rfl
  · exact isQuiet_of_isDigit h
  all_goals rfl

/-- What a character may begin where a value may begin. -/
inductive ValueMove (b : Bool) (o : List Frame) (c : Char) : State → Prop
  | space : isQuiet c → ValueMove b o c (.value b o)
  | text : c = '"' → ValueMove b o c (.text .value .plain [] o)
  | object : c = '{' → ValueMove b o c (.key true [] o)
  | array : c = '[' → ValueMove b o c (.value true (.array [] :: o))
  | close (items : List Json) (rest : List Frame) : c = ']' → o = .array items :: rest →
      ValueMove b o c (complete (.arr items.reverse) rest)
  | word (rest : List Char) (v : Json) : isQuiet c → (State.word rest v o).Sound →
      ValueMove b o c (.word rest v o)
  | number (phase : NumberPhase) (t : NumberText) : isQuiet c →
      ValueMove b o c (.number phase t o)

theorem stepValue_cases {b : Bool} {o : List Frame} {c : Char} {s : State}
    (h : stepValue b o c = some s) : ValueMove b o c s := by
  unfold stepValue at h
  by_cases h1 : isSpace c
  · rw [if_pos h1] at h
    cases h
    exact .space (isQuiet_of_isSpace h1)
  rw [if_neg h1] at h
  by_cases h2 : c == '"'
  · rw [if_pos h2] at h
    cases h
    exact .text (beq_iff_eq.mp h2)
  rw [if_neg h2] at h
  by_cases h3 : c == '{'
  · rw [if_pos h3] at h
    split at h
    · cases h
      exact .object (beq_iff_eq.mp h3)
    · cases h
  rw [if_neg h3] at h
  by_cases h4 : c == '['
  · rw [if_pos h4] at h
    split at h
    · cases h
      exact .array (beq_iff_eq.mp h4)
    · cases h
  rw [if_neg h4] at h
  by_cases h5 : c == ']'
  · rw [if_pos h5] at h
    split at h
    · cases h
      exact .close _ _ (beq_iff_eq.mp h5) rfl
    · cases h
  rw [if_neg h5] at h
  by_cases h6 : c == 't'
  · rw [if_pos h6] at h
    cases h
    exact .word _ _ (by rw [beq_iff_eq.mp h6]; rfl) ⟨rfl, List.all_eq_true.mp rfl⟩
  rw [if_neg h6] at h
  by_cases h7 : c == 'f'
  · rw [if_pos h7] at h
    cases h
    exact .word _ _ (by rw [beq_iff_eq.mp h7]; rfl) ⟨rfl, List.all_eq_true.mp rfl⟩
  rw [if_neg h7] at h
  by_cases h8 : c == 'n'
  · rw [if_pos h8] at h
    cases h
    exact .word _ _ (by rw [beq_iff_eq.mp h8]; rfl) ⟨rfl, List.all_eq_true.mp rfl⟩
  rw [if_neg h8] at h
  by_cases h9 : c == '-'
  · rw [if_pos h9] at h
    cases h
    exact .number _ _ (by rw [beq_iff_eq.mp h9]; rfl)
  rw [if_neg h9] at h
  obtain ⟨⟨phase, t⟩, hn, rfl⟩ := Option.map_eq_some_iff.mp h
  exact .number _ _ (isQuiet_of_stepNumber hn)

theorem move_stepValue {b : Bool} {o : List Frame} {c : Char} {s : State}
    (h : stepValue b o c = some s) : (outerOf o).Move c s.outer := by
  cases stepValue_cases h with
  | space | text | word | number => exact .stay
  | object => cases o <;> exact .stay
  | array =>
    rw [outer_pushed]
    exact .stay
  | close items rest _ ho =>
    subst ho
    cases rest with
    | nil => exact .stay
    | cons f rest =>
      rw [outerOf_cons (List.cons_ne_nil f rest)]
      exact move_complete (List.cons_ne_nil f rest) (by simp [isObject, members?])

/-- A character of a string closes it, or leaves the reader in the string. -/
theorem stepText_cases {role : Role} {phase : TextPhase} {sofar : List Char} {o : List Frame}
    {c : Char} {s : State} (h : stepText role phase sofar o c = some s) :
    (phase = .plain ∧ c = '"' ∧ s = closeText role sofar o) ∨
      (phase = .plain → c ≠ '"') ∧ ∃ phase' sofar', s = .text role phase' sofar' o := by
  cases phase with
  | plain =>
    simp only [stepText, beq_iff_eq] at h
    split at h
    case isTrue hc => cases h; exact .inl ⟨rfl, hc, rfl⟩
    case isFalse hc =>
      refine .inr ⟨fun _ => hc, ?_⟩
      repeat' split at h
      all_goals cases h <;> exact ⟨_, _, rfl⟩
  | escape =>
    refine .inr ⟨nofun, ?_⟩
    simp only [stepText] at h
    split at h
    · cases h; exact ⟨_, _, rfl⟩
    · obtain ⟨d, -, rfl⟩ := Option.map_eq_some_iff.mp h
      exact ⟨_, _, rfl⟩
  | code n value high =>
    refine .inr ⟨nofun, ?_⟩
    simp only [stepText, Option.bind_eq_some_iff] at h
    obtain ⟨v, -, h⟩ := h
    repeat' split at h
    all_goals cases h <;> exact ⟨_, _, rfl⟩
  | pairMark high | pairLetter high =>
    refine .inr ⟨nofun, ?_⟩
    simp only [stepText] at h
    split at h <;> cases h
    exact ⟨_, _, rfl⟩

theorem move_stepText {role : Role} {phase : TextPhase} {sofar : List Char} {o : List Frame}
    {c : Char} {s : State} (h : stepText role phase sofar o c = some s) :
    (State.text role phase sofar o).outer.Move c s.outer := by
  rcases stepText_cases h with ⟨-, -, rfl⟩ | ⟨-, phase', sofar', rfl⟩
  · cases role with
    | value =>
      cases o with
      | nil => exact .stay
      | cons f rest =>
        exact move_complete (List.cons_ne_nil f rest) (by simp [isObject, members?])
    | key ms =>
      cases o with
      | nil => exact .key _ rfl
      | cons f rest => exact .stay
  · cases role <;> cases o <;> exact .stay

/-- A number goes on, or what has been read of it is complete and the character stands behind it. -/
theorem stepNumber_cases {phase : NumberPhase} {t : NumberText} {o : List Frame} {s : State}
    {c : Char} (h : step (.number phase t o) c = some s) :
    (∃ phase' t', isQuiet c ∧ s = .number phase' t' o) ∨
      ∃ v, isScalar v ∧ stepAfter c (complete v o) = some s := by
  simp only [step] at h
  split at h
  case h_1 phase' t' hn =>
    cases h
    exact .inl ⟨phase', t', isQuiet_of_stepNumber hn, rfl⟩
  case h_2 =>
    obtain ⟨u, hn, ha⟩ := Option.bind_eq_some_iff.mp h
    unfold closeNumber at hn
    split at hn
    · obtain ⟨v, hv, rfl⟩ := Option.map_eq_some_iff.mp hn
      exact .inr ⟨v, value?_isScalar hv, ha⟩
    · cases hn

theorem move_step {s s' : State} {c : Char} (hs : s.Sound) (h : step s c = some s') :
    s.outer.Move c s'.outer := by
  cases s with
  | value b o => exact move_stepValue h
  | key b ms o =>
    simp only [step] at h
    split at h
    · cases h; exact .stay
    split at h
    · cases h
      cases o <;> exact .stay
    split at h
    case isTrue hc =>
      cases h
      simp only [Bool.and_eq_true, beq_iff_eq] at hc
      cases o with
      | nil =>
        rw [show (complete (.obj ms.reverse) []).outer = ⟨ms, none⟩ from outer_done_obj ms]
        exact .stay
      | cons f rest => exact move_complete (List.cons_ne_nil f rest) fun _ => hc.1
    · cases h
  | colon ms k o =>
    simp only [step] at h
    split at h
    · cases h; exact .stay
    split at h
    · cases h
      cases o <;> exact .stay
    · cases h
  | text role phase sofar o => exact move_stepText h
  | word rest v o =>
    simp only [step] at h
    repeat' split at h
    all_goals cases h
    · exact move_scalar hs.1
    · exact .stay
  | number phase t o =>
    rcases stepNumber_cases h with ⟨phase', t', -, rfl⟩ | ⟨v, hv, ha⟩
    · exact .stay
    · exact move_number hv ha
  | afterItem items o => exact move_stepAfter h
  | afterMember ms o => exact move_stepAfter h
  | done v => exact move_stepAfter h

theorem sound_stepAfter {s s' : State} {c : Char} (h : stepAfter c s = some s') : s'.Sound := by
  unfold stepAfter at h
  repeat' split at h
  all_goals cases h <;> first | trivial | exact sound_complete _ _

theorem sound_step {s s' : State} {c : Char} (hs : s.Sound) (h : step s c = some s') :
    s'.Sound := by
  cases s with
  | value b o =>
    cases stepValue_cases h with
    | space | text | object | array | number => trivial
    | close => exact sound_complete _ _
    | word _ _ _ hw => exact hw
  | key b ms o | colon ms k o =>
    simp only [step] at h
    repeat' split at h
    all_goals cases h <;> first | trivial | exact sound_complete _ _
  | text role phase sofar o =>
    rcases stepText_cases h with ⟨-, -, rfl⟩ | ⟨-, phase', sofar', rfl⟩
    · cases role with
      | value => exact sound_complete _ _
      | key ms => trivial
    · trivial
  | word rest v o =>
    simp only [step] at h
    repeat' split at h
    all_goals cases h
    · exact sound_complete _ _
    · exact ⟨hs.1, fun d hd => hs.2 d (List.mem_cons_of_mem _ hd)⟩
  | number phase t o =>
    rcases stepNumber_cases h with ⟨phase', t', -, rfl⟩ | ⟨v, -, ha⟩
    · trivial
    · exact sound_stepAfter ha
  | afterItem items o => exact sound_stepAfter (s := .afterItem items o) h
  | afterMember ms o => exact sound_stepAfter (s := .afterMember ms o) h
  | done v => exact sound_stepAfter (s := .done v) h

theorem sound_run {s s' : State} {cs : List Char} (hs : s.Sound) (h : run s cs = some s') :
    s'.Sound := by
  induction cs generalizing s with
  | nil => cases h; exact hs
  | cons c cs ih =>
    obtain ⟨t, ht, h⟩ := Option.bind_eq_some_iff.mp h
    exact ih (sound_step hs ht) h

theorem run_append (s : State) (xs ys : List Char) :
    run s (xs ++ ys) = (run s xs).bind (run · ys) := by
  induction xs generalizing s with
  | nil => rfl
  | cons c xs ih =>
    simp only [List.cons_append, run]
    cases step s c with
    | none => rfl
    | some t => exact ih t

/-- The keys that were read of an object, the latest first. -/
def Outer.keys (a : Outer) : List String := a.waiting.toList ++ a.members.map Prod.fst

theorem Outer.Move.members_suffix {a b : Outer} {c : Char} (h : a.Move c b) :
    a.members <:+ b.members := by
  cases h with
  | stay | key => exact List.suffix_rfl
  | finish => exact List.suffix_cons ..

theorem Outer.Move.keys_suffix {a b : Outer} {c : Char} (h : a.Move c b) : a.keys <:+ b.keys := by
  cases h with
  | stay => exact List.suffix_rfl
  | key k hw => simp [keys, hw]
  | finish k v hw => simp [keys, hw]

theorem outer_run {s s' : State} {cs : List Char} (hs : s.Sound) (h : run s cs = some s') :
    s.outer.members <:+ s'.outer.members ∧ s.outer.keys <:+ s'.outer.keys := by
  induction cs generalizing s with
  | nil => cases h; exact ⟨List.suffix_rfl, List.suffix_rfl⟩
  | cons c cs ih =>
    obtain ⟨t, ht, h⟩ := Option.bind_eq_some_iff.mp h
    have hm := move_step hs ht
    have hr := ih (sound_step hs ht) h
    exact ⟨hm.members_suffix.trans hr.1, hm.keys_suffix.trans hr.2⟩

end Utterance.Json
