import Utterance.Proofs.Envelope.Writing
import Utterance.Proofs.Stream.Response

/-! What prose in front of an envelope does to the gate. -/

namespace Utterance.Stream.Gate

/-! Inside a string and outside of strings. -/

/-- A gate between the strings of a text that is not over. -/
structure Outside (g : Gate) : Prop where
  ended : g.ended = false
  string : g.string = none

/-- A character that means nothing to the gate outside of strings. -/
def isWord (c : Char) : Bool :=
  !List.contains ['"', '{', '[', '}', ']', ':', ','] c

theorem Outside.run_words {g : Gate} (h : Outside g) {words : List Char} (hw : words.all isWord) :
    g.run words = g := by
  induction words with
  | nil => rfl
  | cons c words ih =>
    rw [List.all_cons, Bool.and_eq_true] at hw
    have hstep : g.step c = g := by
      have hc := hw.1
      simp only [isWord, List.contains_cons, Bool.not_eq_true', Bool.or_eq_false_iff] at hc
      simp [step_of_outside h.ended h.string, stepOutside, hc]
    rw [run_cons, hstep, ih hw.2]

/-- Where a string stands behind one more character that does not end it. -/
def next (e : Escape) (c : Char) : Escape :=
  match e with
  | .none => if c == '\\' then .backslash else .none
  | .backslash => if c == 'u' then .number [] else .none
  | .number digits =>
    if (String.ofList (digits ++ [c])).utf8ByteSize = 4 then .none else .number (digits ++ [c])

/-- What the strings of a text leave as it is. -/
structure Framed (g h : Gate) : Prop where
  depth : h.depth = g.depth
  ended : h.ended = g.ended
  controlOpen : h.controlOpen = g.controlOpen
  controlDone : h.controlDone = g.controlDone

theorem Framed.trans {a b c : Gate} (h : Framed a b) (k : Framed b c) : Framed a c :=
  ⟨k.depth.trans h.depth, k.ended.trans h.ended, k.controlOpen.trans h.controlOpen,
    k.controlDone.trans h.controlDone⟩

theorem framed_take (g : Gate) (r : StringRole) (c : Char) : Framed g (g.take r c) := by
  cases r <;> exact ⟨rfl, rfl, rfl, rfl⟩

theorem string_take (g : Gate) (r : StringRole) (c : Char) : (g.take r c).string = g.string := by
  cases r <;> rfl

theorem framed_takeNumber (g : Gate) (r : StringRole) (n : Nat) : Framed g (g.takeNumber r n) := by
  have hg : Framed g { g with highHalf := none } := ⟨rfl, rfl, rfl, rfl⟩
  unfold takeNumber
  split
  · exact ⟨rfl, rfl, rfl, rfl⟩
  · dsimp only
    split
    · exact hg
    · exact hg.trans (framed_take ..)

theorem string_takeNumber (g : Gate) (r : StringRole) (n : Nat) : (g.takeNumber r n).string = g.string := by
  unfold takeNumber
  split
  · rfl
  · dsimp only
    split
    · rfl
    · rw [string_take]

theorem framed_stepString (g : Gate) (r : StringRole) (e : Escape) (c : Char) :
    Framed g (g.stepString r e c) := by
  have hs (s : Option (StringRole × Escape)) : Framed g { g with string := s } := ⟨rfl, rfl, rfl, rfl⟩
  cases e with
  | none =>
    simp only [stepString]
    split
    · exact hs _
    split
    · cases r <;> exact ⟨rfl, rfl, rfl, rfl⟩
    · exact framed_take g r c
  | backslash =>
    simp only [stepString]
    split
    · exact hs _
    · exact (hs _).trans (framed_take ..)
  | number ds =>
    simp only [stepString]
    split
    · cases number? (ds ++ [c]) with
      | none => exact hs _
      | some n => exact (hs _).trans (framed_takeNumber ..)
    · exact hs _

theorem string_stepString {g : Gate} {r : StringRole} {e : Escape} (hs : g.string = some (r, e)) {c : Char}
    (hc : e = .none → c ≠ '"') : (g.stepString r e c).string = some (r, next e c) := by
  cases e with
  | none =>
    simp only [stepString, next, beq_eq_false_iff_ne.mpr (hc rfl)]
    split
    · rfl
    · rw [if_neg Bool.false_ne_true, string_take, hs]
  | backslash =>
    simp only [stepString, next]
    split
    · rfl
    · rw [string_take]
  | number ds =>
    simp only [stepString, next]
    split
    · split
      · rw [string_takeNumber]
      · rfl
    · rfl

/-- A gate that has seen no control packet, inside a string. -/
structure Inside (g : Gate) (e : Escape) : Prop where
  ended : g.ended = false
  string : ∃ r, g.string = some (r, e)
  controlOpen : g.controlOpen = false
  controlDone : g.controlDone = false

theorem Inside.step {g : Gate} {e : Escape} (h : Inside g e) {c : Char} (hc : e = .none → c ≠ '"') :
    Inside (g.step c) (next e c) := by
  obtain ⟨r, hr⟩ := h.string
  have hf := framed_stepString g r e c
  rw [step_of_string h.ended hr]
  exact ⟨hf.ended.trans h.ended, ⟨r, string_stepString hr hc⟩, hf.controlOpen.trans h.controlOpen,
    hf.controlDone.trans h.controlDone⟩

theorem Inside.run {g : Gate} {e : Escape} (h : Inside g e) (words : List Char) (hq : '"' ∉ words) :
    Inside (g.run words) (words.foldl next e) := by
  induction words generalizing g e with
  | nil => exact h
  | cons c words ih =>
    rw [List.mem_cons, not_or] at hq
    exact ih (h.step fun _ => Ne.symm hq.1) hq.2

/-- A character number that has too many digits to be closed. -/
def Endless (e : Escape) : Prop :=
  ∃ digits, e = .number digits ∧ 4 ≤ (String.ofList digits).utf8ByteSize

theorem utf8ByteSize_concat (cs : List Char) (c : Char) :
    (String.ofList (cs ++ [c])).utf8ByteSize = (String.ofList cs).utf8ByteSize + c.utf8Size := by
  simp

theorem Endless.next {e : Escape} (h : Endless e) (c : Char) : Endless (next e c) := by
  obtain ⟨digits, rfl, hd⟩ := h
  have hsize := utf8ByteSize_concat digits c
  have hc := c.utf8Size_pos
  exact ⟨digits ++ [c], if_neg (by omega), by omega⟩

theorem Endless.run {g : Gate} {e : Escape} (he : Endless e) (h : Inside g e) (cs : List Char) :
    ∃ e', Inside (g.run cs) e' := by
  induction cs generalizing g e with
  | nil => exact ⟨e, h⟩
  | cons c cs ih =>
    refine ih (he.next c) (h.step ?_)
    rintro rfl
    obtain ⟨digits, hn, -⟩ := he
    cases hn

theorem foldl_next_none {cs : List Char} (hs : '\\' ∉ cs) : cs.foldl next .none = .none := by
  induction cs with
  | nil => rfl
  | cons c cs ih =>
    rw [List.mem_cons, not_or] at hs
    rw [List.foldl_cons, next, if_neg (by simpa using Ne.symm hs.1), ih hs.2]

theorem foldl_next_number (cs : List Char) (hs : '\\' ∉ cs) (h1 : ∀ c ∈ cs, c.utf8Size = 1)
    (digits : List Char) : cs.foldl next (.number digits) = .none ∨
      ∃ more, cs.foldl next (.number digits) = .number more ∧
        (String.ofList more).utf8ByteSize = (String.ofList digits).utf8ByteSize + cs.length := by
  induction cs generalizing digits with
  | nil => exact .inr ⟨digits, rfl, rfl⟩
  | cons c cs ih =>
    rw [List.mem_cons, not_or] at hs
    obtain ⟨hc, h1⟩ := List.forall_mem_cons.mp h1
    rw [List.foldl_cons, next]
    split
    · exact .inl (foldl_next_none hs.2)
    · rcases ih hs.2 h1 (digits ++ [c]) with hn | ⟨more, hm, hsize⟩
      · exact .inl hn
      · refine .inr ⟨more, hm, ?_⟩
        rw [hsize, utf8ByteSize_concat, hc, List.length_cons]
        omega

/-- A brace and three blanks close every escape that can be closed. -/
theorem next_blanks (e : Escape) :
    ['{', ' ', ' ', ' '].foldl next e = .none ∨ Endless (['{', ' ', ' ', ' '].foldl next e) := by
  cases e with
  | none => exact .inl rfl
  | backslash => exact .inl rfl
  | number digits =>
    have hsingle : ∀ c ∈ ['{', ' ', ' ', ' '], c.utf8Size = 1 := by
      simp only [List.forall_mem_cons]
      exact ⟨rfl, rfl, rfl, rfl, nofun⟩
    rcases foldl_next_number ['{', ' ', ' ', ' '] (by decide) hsingle digits with
      hn | ⟨more, hm, hsize⟩
    · exact .inl hn
    · exact .inr ⟨more, hm, by simp only [List.length_cons] at hsize; omega⟩

/-- A gate that has seen no control packet, between strings. -/
structure Between (g : Gate) : Prop extends Outside g where
  controlOpen : g.controlOpen = false
  controlDone : g.controlDone = false

theorem Inside.close {g : Gate} (h : Inside g .none) : Between (g.step '"') := by
  obtain ⟨r, hr⟩ := h.string
  have hf := framed_stepString g r .none '"'
  rw [step_of_string h.ended hr]
  refine ⟨⟨hf.ended.trans h.ended, ?_⟩, hf.controlOpen.trans h.controlOpen,
    hf.controlDone.trans h.controlDone⟩
  cases r <;> rfl

theorem Between.opening {g : Gate} (h : Between g) : Inside (g.step '"') .none := by
  rw [step_of_outside h.ended h.string]
  show Inside g.openString .none
  unfold openString
  split
  · exact ⟨h.ended, ⟨_, rfl⟩, h.controlOpen, h.controlDone⟩
  split
  · exact ⟨h.ended, ⟨_, rfl⟩, h.controlOpen, h.controlDone⟩
  · exact ⟨h.ended, ⟨_, rfl⟩, h.controlOpen, h.controlDone⟩

/-- Where quotes are the wrong way round, words stand between strings and what stands between strings is
inside of them. -/
theorem Inside.swapped {g : Gate} (h : Inside g .none) (words between : List Char)
    (hw : words.all isWord) (hq : '"' ∉ between) (hs : '\\' ∉ between) :
    Inside (g.run ('"' :: words ++ '"' :: between)) .none := by
  have hrun := h.close.opening.run between hq
  rw [foldl_next_none hs] at hrun
  rw [List.cons_append, run_cons, run_append, h.close.run_words hw]
  exact hrun

/-! Telling texts. -/

/-- An envelope that shows one character behind nothing. Its blanks are there for the digits of a character number
that a prose left open. -/
def tale (x : Char) : List Char :=
  ['{', ' ', ' ', ' '] ++ (('"' :: controlKey ++ '"' :: [':', '{', '}', ',']) ++
    (('"' :: surfaceKey ++ '"' :: [':']) ++ ('"' :: [x] ++ '"' :: ['}'])))

theorem shown_tale_inside {g : Gate} {e : Escape} (h : Inside g e) {x : Char} (hx : isWord x) :
    (g.run (tale x)).shown = [] := by
  suffices hdone : (g.run (tale x)).controlDone = false by rw [shown, hdone]; rfl
  have hstart := h.run ['{', ' ', ' ', ' '] (by decide)
  rw [tale, run_append]
  rcases next_blanks e with hnone | hendless
  · -- Every quote closes what it should open, so the braces of the control packet stand inside strings.
    rw [hnone] at hstart
    rw [run_append, run_append]
    have hfirst := hstart.swapped controlKey [':', '{', '}', ','] (by decide) (by decide) (by decide)
    have hsecond := hfirst.swapped surfaceKey [':'] (by decide) (by decide) (by decide)
    have hthird := hsecond.swapped [x] ['}'] (by simpa using hx) (by decide) (by decide)
    exact hthird.controlDone
  · obtain ⟨e', hend⟩ := hendless.run hstart _
    exact hend.controlDone

/-- A string that stands deeper than the members of the envelope is passed over. -/
theorem Outside.run_quoted {g : Gate} (h : Outside g) (hd : g.depth ≠ 1) {words : List Char}
    (hq : '"' ∉ words) (hs : '\\' ∉ words) : g.run ('"' :: words ++ ['"']) = g := by
  have hopen : g.step '"' = { g with string := some (.other, .none) } := by
    rw [step_of_outside h.ended h.string]
    simp [stepOutside, openString, hd]
  have hin : run { g with string := some (.other, .none) } words =
      { g with string := some (.other, .none) } := by
    induction words with
    | nil => rfl
    | cons c words ih =>
      rw [List.mem_cons, not_or] at hq hs
      have hstep : step { g with string := some (.other, .none) } c =
          { g with string := some (.other, .none) } := by
        simp [step, stepString, take, h.ended, Ne.symm hq.1, Ne.symm hs.1]
      rw [run_cons, hstep]
      exact ih hq.2 hs.2
  have hclose : step { g with string := some (.other, .none) } '"' = { g with string := none } := by
    simp [step, stepString, h.ended]
  rw [List.cons_append, run_cons, hopen, run_append, hin, run_cons, hclose, ← h.string]
  rfl

theorem Outside.step_mark {g : Gate} (h : Outside g) (hd : g.depth ≠ 1) {c : Char}
    (hc : c = ':' ∨ c = ',') : g.step c = g := by
  rw [step_of_outside h.ended h.string]
  rcases hc with rfl | rfl <;> simp [stepOutside, hd]

theorem Outside.openContainer {g : Gate} (h : Outside g) (isObject : Bool) :
    Outside (g.openContainer isObject) :=
  ⟨h.ended, h.string⟩

theorem Outside.closeContainer {g : Gate} (h : Outside g) (hd : g.depth ≠ 1) : Outside g.closeContainer := by
  unfold Gate.closeContainer
  split
  · exact h
  · exact ⟨by simp [h.ended, hd], h.string⟩

theorem surface_closeContainer (g : Gate) : g.closeContainer.surface = g.surface := by
  unfold closeContainer
  split <;> rfl

/-- Below an open array no response is told from other strings. -/
theorem surface_tale_deep {g : Gate} (h : Outside g) (hd : g.depth ≠ 0) {x : Char} (hq : '"' ≠ x)
    (hs : '\\' ≠ x) : (g.run (tale x)).surface = g.surface := by
  have hparts : tale x = '{' :: ([' ', ' ', ' '] ++ (('"' :: controlKey ++ ['"']) ++ ':' :: '{' :: '}' :: ',' ::
      (('"' :: surfaceKey ++ ['"']) ++ ':' :: (('"' :: [x] ++ ['"']) ++ ['}'])))) := rfl
  have hopen (b : Gate) (hb : Outside b) : b.step '{' = b.openContainer true :=
    step_of_outside hb.ended hb.string '{'
  have hclose (b : Gate) (hb : Outside b) : b.step '}' = b.closeContainer :=
    step_of_outside hb.ended hb.string '}'
  -- The gate inside the envelope, and behind its control packet; a name keeps them from being unfolded.
  obtain ⟨a, ha⟩ : ∃ a, a = g.openContainer true := ⟨_, rfl⟩
  have houta : Outside a := ha ▸ h.openContainer true
  have hda : a.depth ≠ 1 := by
    rw [ha]
    show g.depth + 1 ≠ 1
    omega
  obtain ⟨b, hb⟩ : ∃ b, b = (a.openContainer true).closeContainer := ⟨_, rfl⟩
  have houtb : Outside b := by
    rw [hb]
    refine (houta.openContainer true).closeContainer ?_
    rw [ha]
    show g.depth + 1 + 1 ≠ 1
    omega
  have hdb : b.depth ≠ 1 := by
    rw [hb]
    exact hda
  rw [hparts, run_cons, hopen g h, ← ha, run_append, houta.run_words (by decide), run_append,
    houta.run_quoted hda (by decide) (by decide), run_cons, houta.step_mark hda (.inl rfl), run_cons,
    hopen a houta, run_cons, hclose _ (houta.openContainer true), ← hb, run_cons,
    houtb.step_mark hdb (.inr rfl), run_append, houtb.run_quoted hdb (by decide) (by decide), run_cons,
    houtb.step_mark hdb (.inl rfl), run_append,
    houtb.run_quoted hdb (by simpa using hq) (by simpa using hs), run_cons, hclose b houtb,
    run_nil, surface_closeContainer, hb, surface_closeContainer, ha]
  rfl

/-- The gate with another first half of a character number. -/
def waiting (g : Gate) (half : Option Nat) : Gate := { g with highHalf := half }

/-- A gate that is behind no backslash. -/
def Unescaped (g : Gate) : Prop :=
  ∀ r e, g.string = some (r, e) → e = .none

theorem stepOutside_waiting (g : Gate) (half : Option Nat) (c : Char) :
    (g.waiting half).stepOutside c = (g.stepOutside c).waiting half := by
  simp only [stepOutside, openString, closeContainer, apply_ite (fun g : Gate => g.waiting half)]
  rfl

theorem stepString_waiting (g : Gate) (half : Option Nat) (r : StringRole) {c : Char} (hc : c ≠ '\\') :
    (g.waiting half).stepString r .none c = (g.stepString r .none c).waiting half := by
  simp only [stepString, beq_eq_false_iff_ne.mpr hc, apply_ite (fun g : Gate => g.waiting half)]
  cases r <;> rfl

theorem step_waiting {g : Gate} (h : Unescaped g) (half : Option Nat) {c : Char} (hc : c ≠ '\\') :
    (g.waiting half).step c = (g.step c).waiting half := by
  cases he : g.ended with
  | true => rw [step_of_ended he, step_of_ended (g := g.waiting half) he]
  | false =>
    cases hs : g.string with
    | none => rw [step_of_outside he hs, step_of_outside (g := g.waiting half) he hs, stepOutside_waiting]
    | some s =>
      obtain ⟨r, e⟩ := s
      cases h r e hs
      rw [step_of_string he hs, step_of_string (g := g.waiting half) he hs, stepString_waiting g half r hc]

theorem unescaped_step {g : Gate} (h : Unescaped g) {c : Char} (hc : c ≠ '\\') : Unescaped (g.step c) := by
  cases he : g.ended with
  | true =>
    rw [step_of_ended he]
    exact h
  | false =>
    cases hs : g.string with
    | none =>
      rw [step_of_outside he hs]
      unfold stepOutside openString closeContainer
      intro r e hr
      repeat' split at hr
      all_goals first | (cases hr; rfl) | cases hs.symm.trans hr
    | some s =>
      obtain ⟨r, e⟩ := s
      cases h r e hs
      rw [step_of_string he hs]
      intro r' e' hr
      by_cases hq : c = '"'
      · subst hq
        cases r <;> cases hr
      · rw [string_stepString hs fun _ => hq, next, if_neg (by simpa using hc)] at hr
        cases hr
        rfl

theorem run_waiting {g : Gate} (h : Unescaped g) (half : Option Nat) {cs : List Char} (hs : '\\' ∉ cs) :
    (g.waiting half).run cs = (g.run cs).waiting half := by
  induction cs generalizing g with
  | nil => rfl
  | cons c cs ih =>
    rw [List.mem_cons, not_or] at hs
    rw [run_cons, step_waiting h half (Ne.symm hs.1), ih (unescaped_step h (Ne.symm hs.1)) hs.2, run_cons]

/-- The front of an envelope up to its response. -/
def front : List Char :=
  '{' :: '"' :: controlKey ++ '"' :: ':' :: '{' :: '}' :: ',' :: '"' :: surfaceKey ++ ['"', ':', '"']

/-- The second half of a character number, and the end of the envelope. -/
def secondHalf : List Char :=
  ['\\', 'u', 'd', 'e', '0', '0', '"', '}']

/-- The gate behind that front. -/
def atResponse : Gate where
  depth := 1
  string := some (.surface, .none)
  key := surfaceKey.reverse
  member := some surfaceKey
  controlDone := true

theorem run_front : run {} front = atResponse := by
  rfl

theorem unescaped_empty : Unescaped {} := by
  rintro r e ⟨⟩

theorem takeNumber_secondHalf {g : Gate} {h : Nat} (hh : g.highHalf = some h) :
    g.takeNumber .surface 0xde00 =
      ({ g with highHalf := none } : Gate).take .surface (Char.ofNat (scalar (some h) 0xde00)) := by
  have hk : scalar (some h) 0xde00 = 0x10000 + (h - 0xd800) * 1024 + 0x200 := rfl
  have hlarge : ¬(0xd800 ≤ scalar (some h) 0xde00 && scalar (some h) 0xde00 < 0xe000) = true := by
    rw [hk]
    simp
    omega
  unfold takeNumber
  rw [if_neg (by decide), hh]
  dsimp only
  rw [if_neg hlarge]

/-- Where the first half of a character number waits, the second half of one shows a character. -/
theorem exists_shown_secondHalf (h : Nat) :
    ∃ c, (run (waiting {} (some h)) (front ++ secondHalf)).shown = [c] := by
  obtain ⟨g, hg⟩ : ∃ g, g = atResponse.waiting (some h) := ⟨_, rfl⟩
  have hcode : run g ['\\', 'u', 'd', 'e', '0'] =
      { g with string := some (.surface, .number ['d', 'e', '0']) } := by
    rw [hg]
    rfl
  have hdigit : step { g with string := some (.surface, .number ['d', 'e', '0']) } '0' =
      ({ g with string := some (.surface, .none) } : Gate).takeNumber .surface 0xde00 := by
    have hsize : (String.ofList (['d', 'e', '0'] ++ ['0'])).utf8ByteSize = 4 := by decide
    have hnumber : number? (['d', 'e', '0'] ++ ['0']) = some 0xde00 := by decide
    rw [step_of_string (by rw [hg]; rfl) rfl]
    simp only [stepString, if_pos hsize, hnumber]
  have hend (c : Char) : (run (({ g with string := some (.surface, .none), highHalf := none } : Gate).take
      .surface c) ['"', '}']).shown = [c] := by
    simp [hg, atResponse, waiting, take, step, stepString, stepOutside, closeContainer, shown]
  have hparts : secondHalf = ['\\', 'u', 'd', 'e', '0'] ++ '0' :: ['"', '}'] := rfl
  refine ⟨Char.ofNat (scalar (some h) 0xde00), ?_⟩
  rw [run_append, run_waiting unescaped_empty (some h) (by decide), run_front, ← hg, hparts, run_append,
    hcode, run_cons, hdigit, takeNumber_secondHalf (by rw [hg]; rfl), hend]

/-! Prose without a brace. -/

/-- A gate that has seen no brace: it knows of no control packet, and of nothing but a string and the first
half of a character number where no array is open or over. -/
structure Braceless (g : Gate) : Prop where
  controlOpen : g.controlOpen = false
  controlDone : g.controlDone = false
  flat : g.depth = 0 → g.ended = false →
    ∃ (e : Option Escape) (h : Option Nat), g = { string := e.map (.other, ·), highHalf := h }

theorem stepString_other (e : Escape) (h : Option Nat) (c : Char) :
    ∃ (e' : Option Escape) (h' : Option Nat),
      stepString { string := some (.other, e), highHalf := h } .other e c =
        { string := e'.map (.other, ·), highHalf := h' } := by
  have htake (h : Option Nat) (n : Nat) :
      ∃ h', takeNumber { string := some (.other, .none), highHalf := h } .other n =
        { string := some (.other, .none), highHalf := h' } := by
    unfold takeNumber
    split
    · exact ⟨_, rfl⟩
    · dsimp only
      split <;> exact ⟨_, rfl⟩
  cases e with
  | none =>
    simp only [stepString]
    split
    · exact ⟨some .backslash, h, rfl⟩
    split
    · exact ⟨none, h, rfl⟩
    · exact ⟨some .none, h, rfl⟩
  | backslash =>
    simp only [stepString]
    split
    · exact ⟨some (.number []), h, rfl⟩
    · exact ⟨some .none, h, rfl⟩
  | number digits =>
    simp only [stepString]
    split
    · split
      · obtain ⟨h', hh⟩ := htake h _
        exact ⟨some .none, h', hh⟩
      · exact ⟨some .none, h, rfl⟩
    · exact ⟨some (.number (digits ++ [c])), h, rfl⟩

theorem braceless_of_depth {g : Gate} (hd : g.depth ≠ 0) (ho : g.controlOpen = false)
    (hdone : g.controlDone = false) : Braceless g :=
  ⟨ho, hdone, fun h0 => absurd h0 hd⟩

theorem depth_ne_zero {g : Gate} {b : Bool} (h : (decide (g.depth = 1) && b) = true) : g.depth ≠ 0 := by
  have hd : g.depth = 1 := of_decide_eq_true (Bool.and_eq_true_iff.mp h).1
  omega

theorem Braceless.openString {g : Gate} (h : Braceless g) (he : g.ended = false) :
    Braceless g.openString := by
  unfold Gate.openString
  split
  case isTrue hd => exact braceless_of_depth (depth_ne_zero hd) h.controlOpen h.controlDone
  split
  case isTrue hd => exact braceless_of_depth (depth_ne_zero hd) h.controlOpen h.controlDone
  case isFalse =>
    refine ⟨h.controlOpen, h.controlDone, fun h0 _ => ?_⟩
    obtain ⟨e, half, rfl⟩ := h.flat h0 he
    exact ⟨some .none, half, rfl⟩

theorem Braceless.closeContainer {g : Gate} (h : Braceless g) : Braceless g.closeContainer := by
  unfold Gate.closeContainer
  split
  case isTrue => exact h
  case isFalse hd =>
    refine ⟨by simp [h.controlOpen], by simp [h.controlOpen, h.controlDone], fun h0 he => ?_⟩
    have h0 : g.depth - 1 = 0 := h0
    have he : (g.ended || decide (g.depth = 1)) = false := he
    simp at he
    omega

theorem Braceless.stepOutside {g : Gate} (h : Braceless g) (he : g.ended = false) {c : Char}
    (hc : c ≠ '{') : Braceless (g.stepOutside c) := by
  unfold Gate.stepOutside
  split
  · exact h.openString he
  split
  · have hbrace : (c == '{') = false := beq_eq_false_iff_ne.mpr hc
    rw [hbrace]
    exact braceless_of_depth (Nat.succ_ne_zero _) (by simp [openContainer, h.controlOpen]) h.controlDone
  split
  · exact h.closeContainer
  split
  case isTrue hd =>
    exact braceless_of_depth (depth_ne_zero (Bool.and_comm _ _ ▸ hd)) h.controlOpen h.controlDone
  split
  case isTrue hd =>
    exact braceless_of_depth (depth_ne_zero (Bool.and_comm _ _ ▸ hd)) h.controlOpen h.controlDone
  case isFalse => exact h

theorem Braceless.step {g : Gate} (h : Braceless g) {c : Char} (hc : c ≠ '{') : Braceless (g.step c) := by
  cases he : g.ended with
  | true =>
    rw [step_of_ended he]
    exact h
  | false =>
    cases hs : g.string with
    | none =>
      rw [step_of_outside he hs]
      exact h.stepOutside he hc
    | some s =>
      obtain ⟨r, e⟩ := s
      have hf := framed_stepString g r e c
      rw [step_of_string he hs]
      refine ⟨hf.controlOpen.trans h.controlOpen, hf.controlDone.trans h.controlDone, fun hdepth _ => ?_⟩
      obtain ⟨e', half, rfl⟩ := h.flat (hf.depth.symm.trans hdepth) he
      obtain ⟨e', rfl, hother⟩ := Option.map_eq_some_iff.mp hs
      cases hother
      exact stepString_other e half c

theorem braceless_empty : Braceless {} :=
  ⟨rfl, rfl, fun _ _ => ⟨none, none, rfl⟩⟩

theorem Braceless.run {g : Gate} (h : Braceless g) {prose : List Char} (hb : '{' ∉ prose) :
    Braceless (g.run prose) := by
  induction prose generalizing g with
  | nil => exact h
  | cons c prose ih =>
    rw [List.mem_cons, not_or] at hb
    exact ih (h.step (Ne.symm hb.1)) hb.2

/-- A text that shows something else behind a gate that has seen no brace than behind nothing, unless the gate
is as before. -/
theorem Braceless.exists_telling {g : Gate} (h : Braceless g) (hg : g ≠ {}) :
    ∃ text : List Char, text.head? = some '{' ∧ (g.run text).shown ≠ (Gate.run {} text).shown := by
  have hempty : (Gate.run {} (tale 'a')).shown = ['a'] := by decide +kernel
  cases he : g.ended with
  | true =>
    have hnothing : (g.run (tale 'a')).shown = [] := by
      rw [run_of_ended he, shown, h.controlDone]
      rfl
    exact ⟨tale 'a', rfl, by rw [hnothing, hempty]; decide⟩
  | false =>
    cases hs : g.string with
    | some s =>
      have hinside : Inside g s.2 := ⟨he, ⟨s.1, hs⟩, h.controlOpen, h.controlDone⟩
      exact ⟨tale 'a', rfl, by rw [shown_tale_inside hinside rfl, hempty]; decide⟩
    | none =>
      by_cases hd : g.depth = 0
      · obtain ⟨e, half, rfl⟩ := h.flat hd he
        obtain rfl : e = none := Option.map_eq_none_iff.mp hs
        cases half with
        | none => exact absurd rfl hg
        | some half =>
          obtain ⟨c, hc⟩ := exists_shown_secondHalf half
          have hnothing : (Gate.run {} (front ++ secondHalf)).shown = [] := by decide +kernel
          refine ⟨front ++ secondHalf, rfl, ?_⟩
          rw [hnothing]
          exact fun hn => List.cons_ne_nil c [] (hc.symm.trans hn)
      · -- What is shown is of the array, whichever character the envelope shows.
        have hdeep (x : Char) (hx : '"' ≠ x) (hx' : '\\' ≠ x) :
            (g.run (tale x)).shown = [] ∨ (g.run (tale x)).shown = g.surface.reverse := by
          unfold shown
          split
          · exact .inr (congrArg List.reverse (surface_tale_deep ⟨he, hs⟩ hd hx hx'))
          · exact .inl rfl
        have hother : (Gate.run {} (tale 'b')).shown = ['b'] := by decide +kernel
        by_cases ha : g.surface.reverse = ['a']
        · refine ⟨tale 'b', rfl, fun hb => ?_⟩
          rcases hdeep 'b' (by decide) (by decide) with hn | hn
          · cases hn.symm.trans (hb.trans hother)
          · cases (ha.symm.trans hn.symm).trans (hb.trans hother)
        · refine ⟨tale 'a', rfl, fun hb => ?_⟩
          rcases hdeep 'a' (by decide) (by decide) with hn | hn
          · cases hn.symm.trans (hb.trans hempty)
          · exact ha (hn.symm.trans (hb.trans hempty))

/-! Replies behind prose. -/

/-- A prose behind which the gate is as it was in front of it. -/
def Settled (prose : List Char) : Prop :=
  run {} prose = {}

theorem settled_of_plain {prose : List Char} (hbrace : '{' ∉ prose) (hquote : '"' ∉ prose)
    (hbracket : '[' ∉ prose) : Settled prose := by
  induction prose with
  | nil => rfl
  | cons c prose ih =>
    rw [List.mem_cons, not_or] at hbrace hquote hbracket
    have hstep : step {} c = {} := by
      simp [step, stepOutside, closeContainer, Ne.symm hbrace.1, Ne.symm hquote.1, Ne.symm hbracket.1]
    rw [Settled, run_cons, hstep]
    exact ih hbrace.2 hquote.2 hbracket.2

/-- However a text is cut, behind the prose or not, the same of it is shown. -/
def Harmless (prose : String) : Prop :=
  ∀ text pieces alone, text.toList.head? = some '{' → String.join pieces = prose ++ text →
    String.join alone = text → String.join (outputs {} pieces) = String.join (outputs {} alone)

theorem toList_join_outputs (pieces : List String) :
    (String.join (outputs {} pieces)).toList = (run {} (String.join pieces).toList).shown :=
  join_outputs tidy_empty pieces

theorem harmless_iff {prose : String} (hb : '{' ∉ prose.toList) :
    Harmless prose ↔ Settled prose.toList := by
  constructor
  · intro h
    refine Classical.byContradiction fun hs => ?_
    obtain ⟨text, htext, hne⟩ := (braceless_empty.run hb).exists_telling hs
    have hsame := h (String.ofList text) [prose, String.ofList text] [String.ofList text]
      (by rw [String.toList_ofList, htext]) (by simp [String.join]) (by simp [String.join])
    rw [← String.toList_inj, toList_join_outputs, toList_join_outputs] at hsame
    refine hne ?_
    simpa [String.join, run_append] using hsame
  · intro h text pieces alone _ hpieces halone
    rw [← String.toList_inj, toList_join_outputs, toList_join_outputs, hpieces, halone, String.toList_append,
      run_append, h]

/-- A reply behind prose is read as its envelope, whatever the prose is. Its response is shown if the prose
leaves the gate as it was: with no string open, no bracket open or closed outside of strings, and no half of a
character waiting for the other. Behind any other prose something else is shown of some text. -/
theorem shown_behind_prose {prose : String} (hb : '{' ∉ prose.toList) :
    (Harmless prose ↔ Settled prose.toList) ∧
      ('"' ∉ prose.toList → '[' ∉ prose.toList → Settled prose.toList) ∧
      ∀ doc suffix ms e, Json.IsObjectText doc ms →
        (Json.ofText? doc).map Envelope.ofJson = some (.ok e) →
        Envelope.parse (prose ++ doc ++ suffix) = .ok e ∧
          (Settled prose.toList → ∀ pieces, String.join pieces = prose ++ doc ++ suffix →
            String.join (outputs {} pieces) = e.surface) := by
  refine ⟨harmless_iff hb, settled_of_plain hb, fun doc suffix ms e hdoc he => ⟨?_, ?_⟩⟩
  · have hread : Json.ofText? doc = some (Json.merged (.obj ms)) := by
      rw [Json.ofText?, Json.decode?, hdoc.written]
      rfl
    rw [hread, Option.map_some, Option.some.injEq] at he
    exact Envelope.parse_of_ofText? hb hread rfl he suffix
  · intro hs pieces hp
    have hrest : String.join [doc, suffix] = doc ++ suffix := by simp [String.join]
    rw [← join_outputs_envelope hdoc he hrest, ← String.toList_inj, toList_join_outputs,
      toList_join_outputs, hp, hrest, String.append_assoc, String.toList_append, run_append, hs]

/-- A prose that quotes a bracket. -/
def quotingProse : String := "As \"[1]\" says:\n```json\n"

theorem settled_quotingProse : Settled quotingProse.toList := by
  rfl

theorem shown_behind_quotingProse :
    Harmless quotingProse ∧
      String.join (outputs {} ["As \"[1]\" sa", "ys:\n```json\n\x7b\"Surface\\u005fresponse\":",
        "\"\\ud83d\\ude00\",\"control_packet\":\x7b\"intent_classification\":\x7b\x7d\x7d\x7d\n```"]) =
        "😀" := by
  have hbrace : '{' ∉ quotingProse.toList := by decide +kernel
  have h := shown_behind_prose hbrace
  exact ⟨h.1.mpr settled_quotingProse, (h.2.2 escapedReply "\n```" _ _ isObjectText_escapedReply
    envelope_escapedReply).2 settled_quotingProse _ (by decide +kernel)⟩

/-- A prose with a footnote. -/
def footnote : String := "See [1]: "

/-- Nothing is shown of a reply behind a bracket that closes in the prose. -/
theorem not_harmless_footnote :
    ¬ ∀ prose : String, '{' ∉ prose.toList → Harmless prose := by
  intro h
  have hsame := h footnote (by decide +kernel) escapedReply [footnote, escapedReply] [escapedReply]
    (by decide +kernel) (by decide +kernel) (by decide +kernel)
  revert hsame
  decide +kernel

end Utterance.Stream.Gate
