import Mathlib.Data.List.Induction
import Utterance.Proofs.Stream.Prose

/-! A response that comes before the control packet is held until the end, and let through there if
the control packet is complete. Whether the envelope is one in all other ways is not asked. -/

namespace Utterance

namespace Json

/-- Behind a string for a member of the outermost object the member is there. -/
theorem run_memberText {phase : TextPhase} {sofar cs : List Char} {ms : List (String × Json)} {k : String}
    {s : State} (h : run (.text .value phase sofar [.object ms k]) cs = some s) :
    (∃ phase' sofar', s = .text .value phase' sofar' [.object ms k]) ∨
      ∃ t, (k, .str t) :: ms <:+ s.outer.members := by
  induction cs generalizing phase sofar with
  | nil => cases h; exact .inl ⟨phase, sofar, rfl⟩
  | cons c cs ih =>
    obtain ⟨u, hu, h⟩ := Option.bind_eq_some_iff.mp h
    rcases stepText_cases hu with ⟨-, -, rfl⟩ | ⟨-, phase', sofar', rfl⟩
    · have h : run (complete (.str (String.ofList sofar.reverse)) [.object ms k]) cs = some s := h
      exact .inr ⟨_, (outer_run (sound_complete _ _) h).1⟩
    · exact ih h

/-- Whether the response of a document opens right behind a front of it, where no control packet is complete. -/
def OpensFirst (doc front : List Char) : Prop :=
  front ++ ['"'] <+: doc ∧ ∃ b before k, run start front = some (.value b [.object before k]) ∧
    Text.lowered k = "surface_response" ∧ ∀ m ∈ before, ¬IsControl m

theorem stepAfter_quote (s : State) : stepAfter '"' s = none := by
  cases s <;> rfl

end Json

namespace Stream.Gate

open Json (IsObjectText EndsControl State)

/-! Where a response begins, and where a control packet ends. -/

/-- A gate at which a quote opens a response: right inside the envelope, behind the key of the
response. -/
structure AwaitsResponse (g : Gate) : Prop where
  ended : g.ended = false
  string : g.string = none
  depth : g.depth = 1
  expectsKey : g.expectsKey = false
  member : g.member = some surfaceKey

/-- A gate at which a closing bracket ends the control packet. -/
structure InsideControl (g : Gate) : Prop where
  ended : g.ended = false
  string : g.string = none
  depth : g.depth = 2
  controlOpen : g.controlOpen = true

/-- Whether a response opens in a text right behind a front of it, as its quotes and brackets tell. -/
def OpensResponse (text front : List Char) : Prop :=
  front ++ ['"'] <+: text ∧ AwaitsResponse (run {} front)

/-- Whether the control packet closes in a text, as its quotes and brackets tell. -/
def ClosesControl (text : List Char) : Prop :=
  ∃ front c, front ++ [c] <+: text ∧ (c = '}' ∨ c = ']') ∧ InsideControl (run {} front)

/-- A text whose only response opens before the control packet closes. -/
structure ResponseFirst (text : List Char) : Prop where
  opens : ∃ front, OpensResponse text front ∧ ¬ClosesControl front
  once : ∀ a b, OpensResponse text a → OpensResponse text b → a = b

theorem ClosesControl.mono {a b : List Char} (h : ClosesControl a) (hab : a <+: b) : ClosesControl b := by
  obtain ⟨front, c, hf, hc⟩ := h
  exact ⟨front, c, hf.trans hab, hc⟩

/-! What one character changes. -/

theorem controlDone_step (g : Gate) (c : Char) :
    (g.step c).controlDone = true ↔
      g.controlDone = true ∨ (c = '}' ∨ c = ']') ∧ InsideControl g := by
  cases he : g.ended with
  | true =>
    rw [step_of_ended he]
    exact ⟨.inl, fun h => h.elim id fun h => absurd (he.symm.trans h.2.ended) (by decide)⟩
  | false =>
    cases hs : g.string with
    | some s =>
      rw [step_of_string he hs, (framed_stepString g s.1 s.2 c).controlDone]
      exact ⟨.inl, fun h => h.elim id fun h => absurd (hs.symm.trans h.2.string) (by simp)⟩
    | none =>
      have hi : InsideControl g ↔ g.controlOpen = true ∧ g.depth = 2 :=
        ⟨fun h => ⟨h.controlOpen, h.depth⟩, fun h => ⟨he, hs, h.2, h.1⟩⟩
      rw [step_of_outside he hs, hi]
      unfold stepOutside openString openContainer closeContainer
      grind

theorem held_take (g : Gate) (r : StringRole) (c : Char) : (g.take r c).held = g.held := by
  cases r <;> rfl

theorem held_takeNumber (g : Gate) (r : StringRole) (n : Nat) : (g.takeNumber r n).held = g.held := by
  unfold takeNumber
  split
  · rfl
  · dsimp only
    split
    · rfl
    · exact held_take ..

theorem held_stepString (g : Gate) (r : StringRole) (e : Escape) (c : Char) :
    (g.stepString r e c).held = g.held := by
  cases e with
  | none =>
    simp only [stepString]
    split
    · rfl
    split
    · cases r <;> rfl
    · exact held_take ..
  | backslash =>
    simp only [stepString]
    split
    · rfl
    · exact held_take ..
  | number ds =>
    simp only [stepString]
    split
    · cases number? (ds ++ [c]) with
      | none => rfl
      | some n => exact held_takeNumber ..
    · rfl

/-- Only the opening of a response decides whether it is held. -/
theorem held_step {g : Gate} {c : Char} (h : c = '"' → ¬AwaitsResponse g) : (g.step c).held = g.held := by
  cases he : g.ended with
  | true => rw [step_of_ended he]
  | false =>
    cases hs : g.string with
    | some s => rw [step_of_string he hs, held_stepString]
    | none =>
      have hi : AwaitsResponse g ↔ g.depth = 1 ∧ g.expectsKey = false ∧ g.member = some surfaceKey :=
        ⟨fun h => ⟨h.depth, h.expectsKey, h.member⟩, fun h => ⟨he, hs, h.1, h.2.1, h.2.2⟩⟩
      rw [hi] at h
      rw [step_of_outside he hs]
      unfold stepOutside openString openContainer closeContainer
      grind

theorem AwaitsResponse.step {g : Gate} (h : AwaitsResponse g) :
    g.step '"' = { g with string := some (.surface, .none), held := !g.controlDone } := by
  rw [step_of_outside h.ended h.string]
  simp [stepOutside, openString, h.depth, h.expectsKey, h.member]

/-! What a run changes. -/

/-- The gate knows a control packet to be complete from where it closes. -/
theorem controlDone_iff_closesControl (text : List Char) :
    (run {} text).controlDone = true ↔ ClosesControl text := by
  induction text using List.reverseRecOn with
  | nil =>
    refine ⟨nofun, fun ⟨front, c, hf, _⟩ => ?_⟩
    simp at hf
  | append_singleton text c ih =>
    rw [run_append, run_cons, run_nil, controlDone_step, ih]
    constructor
    · rintro (h | ⟨hc, hi⟩)
      · exact h.mono (List.prefix_append ..)
      · exact ⟨text, c, List.prefix_rfl, hc, hi⟩
    · rintro ⟨front, d, hf, hd, hi⟩
      rcases List.prefix_concat_iff.mp hf with heq | hf
      · obtain ⟨rfl, hcd⟩ := List.append_inj' heq rfl
        cases hcd
        exact .inr ⟨hd, hi⟩
      · exact .inl ⟨front, d, hf, hd, hi⟩

theorem held_run {g : Gate} {cs : List Char} (h : ∀ a, a ++ ['"'] <+: cs → ¬AwaitsResponse (g.run a)) :
    (g.run cs).held = g.held := by
  induction cs generalizing g with
  | nil => rfl
  | cons c cs ih =>
    have hc : c = '"' → ¬AwaitsResponse g := by
      rintro rfl
      exact h [] (by simp)
    rw [run_cons, ih fun a ha => h (c :: a) (by simpa using ha), held_step hc]

/-- A gate that holds back the response of a text as soon as it could let it through. -/
def Silent (g : Gate) (text : List Char) : Prop :=
  ∀ front, front <+: text → (g.run front).controlDone = true → (g.run front).held = true

theorem ResponseFirst.silent {text : List Char} (h : ResponseFirst text) : Silent {} text := by
  intro front hf hc
  obtain ⟨start, ho, hn⟩ := h.opens
  rw [controlDone_iff_closesControl] at hc
  -- The response opened before, so the front goes on behind its quote.
  have hquote : start ++ ['"'] <+: front := by
    rcases List.prefix_or_prefix_of_prefix hf ho.1 with hle | hle
    · rcases List.prefix_concat_iff.mp hle with rfl | hle
      · exact List.prefix_rfl
      · exact absurd (hc.mono hle) hn
    · exact hle
  obtain ⟨rest, rfl⟩ := hquote
  rw [run_append, held_run, run_append, run_cons, run_nil, ho.2.step]
  · simpa [controlDone_iff_closesControl] using Bool.eq_false_iff.mpr
      ((controlDone_iff_closesControl start).not.mpr hn)
  · intro a ha hw
    rw [← run_append] at hw
    have hagain : OpensResponse text (start ++ ['"'] ++ a) :=
      ⟨(by rw [List.append_assoc]; exact (List.prefix_append_right_inj _).mpr ha : _ <+: _).trans hf, hw⟩
    simpa using h.once _ _ ho hagain

/-! Silent gates. -/

/-- The gate behind pieces of a text. -/
def feed (g : Gate) (pieces : List String) : Gate := pieces.foldl (fun g p => (g.push p).1) g

theorem Silent.mono {g : Gate} {a b : List Char} (h : Silent g b) (hab : a <+: b) : Silent g a :=
  fun front hf => h front (hf.trans hab)

theorem Silent.behind {g : Gate} {a b : List Char} (h : Silent g (a ++ b)) : Silent (g.run a) b := by
  intro front hf
  rw [← run_append]
  exact h _ ((List.prefix_append_right_inj a).mpr hf)

theorem Silent.push {g : Gate} {p : String} (h : Silent g p.toList) : g.push p = (g.run p.toList, none) := by
  rw [push_eq, if_neg]
  intro hall
  simp only [Bool.and_eq_true, Bool.not_eq_true'] at hall
  exact absurd (hall.1.2.symm.trans (h _ List.prefix_rfl hall.1.1)) (by decide)

theorem Silent.feed {g : Gate} {pieces : List String} (h : Silent g (String.join pieces).toList) :
    g.feed pieces = g.run (String.join pieces).toList := by
  induction pieces generalizing g with
  | nil => rfl
  | cons p pieces ih =>
    rw [String.join_cons, String.toList_append] at h ⊢
    have hp : (g.push p).1 = g.run p.toList := by rw [(h.mono (List.prefix_append ..)).push]
    rw [run_append, ← ih h.behind, ← hp]
    rfl

theorem Silent.push_feed {g : Gate} {pieces : List String} (h : Silent g (String.join pieces).toList)
    {ps : List String} {p : String} (hp : ps ++ [p] <+: pieces) : ((g.feed ps).push p).2 = none := by
  obtain ⟨rest, rfl⟩ := hp
  rw [String.join_append, String.join_append, String.toList_append, String.toList_append] at h
  have hsofar := h.mono (List.prefix_append ..)
  have hlast : Silent (g.run (String.join ps).toList) p.toList := by
    simpa [String.join] using hsofar.behind
  rw [(hsofar.mono (List.prefix_append ..)).feed, hlast.push]

theorem finish_run (text : List Char) :
    (run {} text).finish.2.getD "" =
      if (run {} text).controlDone then (run {} text).surfaceText else "" := by
  have hr : (run {} text).released = 0 := (run_grown {} text).released
  unfold finish release surfaceText
  rw [hr]
  split
  · split
    case isTrue hl =>
      have hnil : (run {} text).surface = [] := List.eq_nil_of_length_eq_zero (Nat.le_zero.mp hl)
      rw [hnil]
      rfl
    case isFalse => rfl
  · rfl

/-! Documents in replies. -/

theorem controlDone_of_read {doc : String} {ms : List (String × Json)} {front : List Char} {s : State}
    (h : IsObjectText doc ms) (hf : front <+: doc.toList) (hs : Json.run Json.start front = some s) :
    (run {} front).controlDone = s.outer.members.any isControl := by
  obtain ⟨_, s', -, hb⟩ := exists_behindFront h hf
  cases hs.symm.trans hb.read
  exact hb.follows.control

/-- Where a quote opens a response, the reader of the document expects the value of its key. -/
theorem value_of_awaits {s t : State} {g : Gate} (hf : Follows s g) (hsound : s.Sound) (hroot : s.rooted)
    (hstep : Json.step s '"' = some t) (hg : AwaitsResponse g) :
    ∃ b ms k, s = .value b [.object ms k] ∧ isKey surfaceKey k := by
  cases s with
  | value b o =>
    have hf : Standing o g := hf
    match o with
    | [] => exact absurd (hg.depth.symm.trans hf.depth) (by decide)
    | [.array items] => cases hroot
    | [.object ms k] =>
      have hm := hg.member.symm.trans hf.member
      exact ⟨b, ms, k, rfl, beq_iff_eq.mpr (Option.some.inj hm).symm⟩
    | _ :: _ :: _ => exact absurd (hg.depth.symm.trans hf.depth) (by simp)
  | key b ms o =>
    cases o with
    | nil => exact absurd (hf.1.symm.trans hg.expectsKey) (by decide)
    | cons f o =>
      have hf : Standing (.object [] "" :: f :: o) g := hf
      exact absurd (hg.depth.symm.trans hf.depth) (by simp)
  | text role phase sofar o =>
    obtain ⟨r, e, hs, -, -⟩ := hf
    exact absurd (hg.string.symm.trans hs) (by simp)
  | colon ms k o => cases hstep
  | word rest v o =>
    have hquote : '"' ∉ rest := fun hmem => absurd (hsound.2 _ hmem) (by decide)
    simp only [Json.step] at hstep
    grind
  | number phase t o =>
    rcases Json.stepNumber_cases hstep with ⟨_, _, hq, -⟩ | ⟨v, -, ha⟩
    · cases hq
    · rw [Json.stepAfter_quote] at ha
      cases ha
  | afterItem items o | afterMember ms o | done v =>
    rw [Json.step, Json.stepAfter_quote] at hstep
    cases hstep

theorem awaits_of_value {b : Bool} {ms : List (String × Json)} {k : String} {g : Gate}
    (hf : Follows (.value b [.object ms k]) g) (hk : isKey surfaceKey k) : AwaitsResponse g := by
  have hf : Standing [.object ms k] g := hf
  exact ⟨hf.ended, hf.string, hf.depth, hf.expects, hf.member.trans (congrArg some (beq_iff_eq.mp hk))⟩

/-- In a document a response opens where the reader expects the value of its key and finds a quote. -/
theorem awaits_iff {doc : String} {ms : List (String × Json)} {front : List Char} (h : IsObjectText doc ms)
    (hf : front ++ ['"'] <+: doc.toList) :
    AwaitsResponse (run {} front) ↔
      ∃ b before k, Json.run Json.start front = some (.value b [.object before k]) ∧
        Text.lowered k = "surface_response" := by
  obtain ⟨rest, s, hdoc, hs⟩ := exists_behindFront h ((List.prefix_append ..).trans hf)
  have hquote : ['"'] <+: rest := by rwa [← hdoc, List.prefix_append_right_inj] at hf
  obtain ⟨rest, rfl⟩ := hquote
  obtain ⟨t, ht, -⟩ := Option.bind_eq_some_iff.mp hs.done
  constructor
  · intro hg
    obtain ⟨b, before, k, rfl, hk⟩ := value_of_awaits hs.follows hs.sound hs.rooted ht hg
    exact ⟨b, before, k, hs.read, isKey_iff.mp hk⟩
  · rintro ⟨b, before, k, hread, hk⟩
    cases hs.read.symm.trans hread
    exact awaits_of_value hs.follows (isKey_iff.mpr hk)

/-- Behind the quote that opens a response the reader is in its text, or knows it as a member. -/
theorem read_behind_quote {doc : String} {ms : List (String × Json)} {front : List Char}
    (h : IsObjectText doc ms) (hf : front ++ ['"'] <+: doc.toList) (hg : AwaitsResponse (run {} front)) :
    ∃ before k, isKey surfaceKey k ∧ (run {} front).controlDone = before.any isControl ∧
      ∀ rest s, Json.run Json.start (front ++ '"' :: rest) = some s →
        (∃ phase sofar, s = .text .value phase sofar [.object before k]) ∨
          ∃ t, (k, .str t) :: before <:+ s.outer.members := by
  obtain ⟨b, before, k, hs, hk⟩ := (awaits_iff h hf).mp hg
  have hc := controlDone_of_read h ((List.prefix_append ..).trans hf) hs
  refine ⟨before, k, isKey_iff.mpr hk, hc, fun rest t ht => ?_⟩
  rw [Json.run_append, hs] at ht
  exact Json.run_memberText ht

/-- A document has no second response behind the first. -/
theorem not_awaits_behind {doc : String} {ms : List (String × Json)} {a b : List Char}
    (h : IsObjectText doc ms) (hab : a ++ ['"'] <+: b) (hb : b ++ ['"'] <+: doc.toList)
    (ha : AwaitsResponse (run {} a)) : ¬AwaitsResponse (run {} b) := by
  intro hg
  have hbdoc := (List.prefix_append b ['"']).trans hb
  obtain ⟨before, k, hk, -, hread⟩ := read_behind_quote h (hab.trans hbdoc) ha
  obtain ⟨rest, rfl⟩ := hab
  rw [List.append_assoc a, List.singleton_append] at hbdoc hb hg
  obtain ⟨_, s, -, hs⟩ := exists_behindFront h hbdoc
  obtain ⟨c, now, k', hs', hk'⟩ := (awaits_iff h hb).mp hg
  cases hs.read.symm.trans hs'
  rcases hread rest _ hs.read with ⟨_, _, htext⟩ | ⟨t, ht⟩
  · cases htext
  · -- Both keys stand in the object, and they are equal in lower case.
    have hmem : (k, Json.str t) ∈ now := ht.subset List.mem_cons_self
    have hn : ((k' :: now.map Prod.fst).map fun k => Text.lower k.toList).Nodup := hs.distinct
    rw [List.map_cons, List.nodup_cons] at hn
    refine hn.1 ?_
    rw [List.mem_map]
    exact ⟨k, List.mem_map_of_mem hmem, (beq_iff_eq.mp hk).trans (beq_iff_eq.mp (isKey_iff.mpr hk')).symm⟩

theorem awaits_unique {doc : String} {ms : List (String × Json)} {a b : List Char}
    (h : IsObjectText doc ms) (ha : a ++ ['"'] <+: doc.toList) (hb : b ++ ['"'] <+: doc.toList)
    (hga : AwaitsResponse (run {} a)) (hgb : AwaitsResponse (run {} b)) : a = b := by
  rcases List.prefix_or_prefix_of_prefix ha hb with hab | hba
  · rcases List.prefix_concat_iff.mp hab with heq | hab
    · exact List.append_cancel_right heq
    · exact absurd hgb (not_awaits_behind h hab hb hga)
  · rcases List.prefix_concat_iff.mp hba with heq | hba
    · exact (List.append_cancel_right heq).symm
    · exact absurd hga (not_awaits_behind h hba ha hgb)

/-- What the gate has of the response where the reader is in none. -/
theorem Follows.surface {s : State} {g : Gate} (h : Follows s g)
    (hw : ∀ k, s.outer.waiting = some k → isKey surfaceKey k = false) :
    g.surface = surfaceOf s.outer.members := by
  have inner {f : Json.Frame} {o : List Json.Frame} {g : Gate} (ho : o ≠ []) (h : Standing (f :: o) g) :
      g.surface = surfaceOf (Json.outerOf o).members := by
    rw [← Json.outerOf_cons (f := f) ho]
    exact h.surface
  cases s with
  | value b o => exact Standing.surface h
  | word rest v o => exact Standing.surface h
  | number phase t o => exact Standing.surface h
  | done v => exact h.2.2
  | key b ms o =>
    cases o with
    | nil => exact Resting.surface h.2
    | cons f o => exact inner (List.cons_ne_nil f o) h
  | colon ms k o =>
    cases o with
    | nil => exact Resting.surface h.2
    | cons f o => exact inner (List.cons_ne_nil f o) h
  | afterMember ms o =>
    cases o with
    | nil => exact Resting.surface h
    | cons f o => exact inner (List.cons_ne_nil f o) h
  | afterItem items o =>
    cases o with
    | nil => exact Standing.surface (o := [.array []]) h
    | cons f o => exact inner (List.cons_ne_nil f o) h
  | text role phase sofar o =>
    obtain ⟨r, e, -, -, h⟩ := h
    match role, o with
    | .key ms, [] => exact h.2.2.surface
    | .key _, f :: o => exact inner (g := g.outside) (List.cons_ne_nil f o) h.2
    | .value, o =>
      obtain ⟨rfl, h⟩ := h
      split at h
      case isTrue hr =>
        unfold roleAt at hr
        split at hr
        case h_1 ms k =>
          rw [hw k rfl] at hr
          cases hr
        case h_2 => cases hr
      case isFalse => exact h.surface

/-! Documents behind prose. -/

theorem prefix_append_cases {p a b : List Char} (h : p <+: a ++ b) :
    p <+: a ∨ ∃ q, q <+: b ∧ p = a ++ q := by
  rcases List.prefix_or_prefix_of_prefix h (List.prefix_append a b) with hp | ⟨q, rfl⟩
  · exact .inl hp
  · exact .inr ⟨q, (List.prefix_append_right_inj a).mp h, rfl⟩

/-- A gate that has come to a bracket. -/
def Entered (g : Gate) : Prop := g.depth ≠ 0 ∨ g.ended = true

theorem entered_step {g : Gate} (h : Entered g) (c : Char) : Entered (g.step c) := by
  cases he : g.ended with
  | true => rw [step_of_ended he]; exact h
  | false =>
    have hd : g.depth ≠ 0 := h.resolve_right (by simp [he])
    cases hs : g.string with
    | some s =>
      rw [step_of_string he hs]
      exact .inl (by rw [(framed_stepString g s.1 s.2 c).depth]; exact hd)
    | none =>
      rw [step_of_outside he hs]
      unfold stepOutside openString openContainer closeContainer Entered
      grind

theorem entered_run {g : Gate} (h : Entered g) (cs : List Char) : Entered (g.run cs) := by
  induction cs generalizing g with
  | nil => exact h
  | cons c cs ih => exact ih (entered_step h c)

theorem Settled.not_awaits {prose front : List Char} (h : Settled prose) (hf : front <+: prose) :
    ¬AwaitsResponse (run {} front) := by
  intro hg
  obtain ⟨rest, rfl⟩ := hf
  have hentered : Entered (run {} front) := .inl (by rw [hg.depth]; decide)
  have hend := entered_run hentered rest
  rw [← run_append, h] at hend
  exact hend.elim (absurd rfl) (by decide)

theorem Settled.not_closesControl {prose text : List Char} (h : Settled prose) (ht : text <+: prose) :
    ¬ClosesControl text := by
  intro hc
  have hdone := (controlDone_iff_closesControl prose).mpr (hc.mono ht)
  rw [h] at hdone
  cases hdone

variable {doc : String} {ms : List (String × Json)} {prose suffix text : List Char}

theorem OpensResponse.in_document {front : List Char} (ho : OpensResponse text front) (hs : Settled prose)
    (h : IsObjectText doc ms) (ht : text <+: prose ++ (doc.toList ++ suffix)) :
    ∃ inner, front = prose ++ inner ∧ inner ++ ['"'] <+: doc.toList ∧ AwaitsResponse (run {} inner) := by
  have hall := ho.1.trans ht
  rcases prefix_append_cases ((List.prefix_append front ['"']).trans hall) with hp | ⟨inner, -, rfl⟩
  · exact absurd ho.2 (hs.not_awaits hp)
  have hg : AwaitsResponse (run {} inner) := by
    have hg := ho.2
    rwa [run_append, hs] at hg
  rw [List.append_assoc, List.prefix_append_right_inj] at hall
  refine ⟨inner, rfl, ?_, hg⟩
  rcases prefix_append_cases hall with hd | ⟨q, -, hq⟩
  · exact hd
  · rcases List.eq_nil_or_concat q with rfl | ⟨q, c, rfl⟩
    · have hwhole : inner ++ ['"'] = doc.toList := hq.trans (List.append_nil _)
      exact hwhole ▸ List.prefix_rfl
    · -- Behind the document nothing is awaited any more.
      rw [List.concat_eq_append, ← List.append_assoc] at hq
      obtain ⟨rfl, -⟩ := List.append_inj' hq rfl
      have hended : (run {} doc.toList).ended = true := (follows_whole h).1
      rw [run_append, run_of_ended hended] at hg
      exact absurd (hended.symm.trans hg.ended) (by decide)

/-- Of a text that reaches into a document, the response opens first where the reader of the document finds it
before a control packet. -/
theorem responseFirst_iff (hs : Settled prose) (h : IsObjectText doc ms)
    (ht : text <+: prose ++ (doc.toList ++ suffix)) :
    ResponseFirst text ↔
      ∃ front, prose ++ (front ++ ['"']) <+: text ∧ Json.OpensFirst doc.toList front := by
  constructor
  · rintro ⟨⟨_, ho, hn⟩, -⟩
    obtain ⟨front, rfl, hf, hg⟩ := ho.in_document hs h ht
    obtain ⟨b, before, k, hread, hk⟩ := (awaits_iff h hf).mp hg
    have hc := controlDone_of_read h ((List.prefix_append ..).trans hf) hread
    refine ⟨front, by simpa using ho.1, hf, b, before, k, hread, hk, fun m hm hmc => hn ?_⟩
    rw [← controlDone_iff_closesControl, run_append, hs, hc]
    exact List.any_eq_true.mpr ⟨m, hm, isControl_iff.mpr hmc⟩
  · rintro ⟨front, hq, hf, b, before, k, hread, hk, hnone⟩
    have hc := controlDone_of_read h ((List.prefix_append ..).trans hf) hread
    have hg := (awaits_iff h hf).mpr ⟨b, before, k, hread, hk⟩
    refine ⟨⟨prose ++ front, ⟨by simpa using hq, by rwa [run_append, hs]⟩, fun hclosed => ?_⟩,
      fun a b ha hb => ?_⟩
    · rw [← controlDone_iff_closesControl, run_append, hs, hc] at hclosed
      obtain ⟨m, hm, hmc⟩ := List.any_eq_true.mp hclosed
      exact hnone m hm (isControl_iff.mp hmc)
    · obtain ⟨a, rfl, ha, hga⟩ := ha.in_document hs h ht
      obtain ⟨b, rfl, hb, hgb⟩ := hb.in_document hs h ht
      rw [awaits_unique h ha hb hga hgb]

/-- A text that reaches into a document leaves the gate as the front of the document does. -/
theorem exists_front (hs : Settled prose) (h : IsObjectText doc ms)
    (ht : text <+: prose ++ (doc.toList ++ suffix)) :
    text <+: prose ∨ ∃ front, front <+: doc.toList ∧ run {} text = run {} front ∧
      ∀ closed, closed <+: doc.toList → (prose ++ closed <+: text ↔ closed <+: front) := by
  rcases prefix_append_cases ht with hp | ⟨x, hx, rfl⟩
  · exact .inl hp
  have hrun : run {} (prose ++ x) = run {} x := by rw [run_append, hs]
  rcases prefix_append_cases hx with hd | ⟨rest, -, rfl⟩
  · exact .inr ⟨x, hd, hrun, fun closed _ => List.prefix_append_right_inj prose⟩
  · refine .inr ⟨doc.toList, List.prefix_rfl, ?_, fun closed hc => ?_⟩
    · rw [hrun, run_append, run_of_ended (follows_whole h).1]
    · rw [List.prefix_append_right_inj]
      exact ⟨fun _ => hc, fun h => h.trans (List.prefix_append ..)⟩

/-- In a document the control packet closes where the reader finishes it. -/
theorem closesControl_iff (hs : Settled prose) (h : IsObjectText doc ms)
    (ht : text <+: prose ++ (doc.toList ++ suffix)) :
    ClosesControl text ↔
      ∃ closed, closed <+: doc.toList ∧ EndsControl closed ∧ prose ++ closed <+: text := by
  rcases exists_front hs h ht with hp | ⟨front, hf, hrun, hreach⟩
  · refine ⟨fun hc => absurd hc (hs.not_closesControl hp), fun ⟨closed, _, he, hc⟩ => ?_⟩
    have hlen := (hc.trans hp).length_le
    rw [List.length_append] at hlen
    obtain rfl : closed = [] := List.eq_nil_of_length_eq_zero (by omega)
    cases he.1
  · obtain ⟨_, s, -, hs⟩ := exists_behindFront h hf
    rw [← controlDone_iff_closesControl, hrun, hs.follows.control, List.any_eq_true]
    constructor
    · rintro ⟨m, hm, hk⟩
      obtain ⟨closed, hclosed, he⟩ := Json.exists_endsControl hs.read hm (isControl_iff.mp hk)
      exact ⟨closed, hclosed.trans hf, he, (hreach closed (hclosed.trans hf)).mpr hclosed⟩
    · rintro ⟨closed, hdoc, he, hc⟩
      obtain ⟨m, hm, hk⟩ := he.exists_mem ((hreach closed hdoc).mp hc) hs.read
      exact ⟨m, hm, isControl_iff.mpr hk⟩

/-- The response that opens first is a member of the document, and the members before it are no control
packets. -/
theorem ResponseFirst.exists_member (hfirst : ResponseFirst text) (hs : Settled prose)
    (h : IsObjectText doc ms) (ht : text <+: prose ++ (doc.toList ++ suffix)) :
    ∃ before k t, isKey surfaceKey k ∧ before.any isControl = false ∧ (k, .str t) :: before <:+ ms.reverse := by
  obtain ⟨start, ho, hn⟩ := hfirst.opens
  obtain ⟨inner, rfl, hinner, hg⟩ := ho.in_document hs h ht
  obtain ⟨before, k, hk, hcontrol, hread⟩ := read_behind_quote h hinner hg
  rw [← controlDone_iff_closesControl, run_append, hs, hcontrol, Bool.not_eq_true] at hn
  obtain ⟨rest, hrest⟩ := hinner
  have hdone := Json.run_start_done h.written
  rw [← hrest, List.append_assoc, List.singleton_append] at hdone
  rcases hread rest _ hdone with ⟨_, _, htext⟩ | ⟨t, hmember⟩
  · cases htext
  · exact ⟨before, k, t, hk, hn, hmember⟩

/-- Members that reach a control packet have reached the response before it. -/
theorem mem_of_isControl {all members before : List (String × Json)} {k t : String} (hm : members <:+ all)
    (hb : (k, .str t) :: before <:+ all) (hc : members.any isControl = true)
    (hn : before.any isControl = false) : (k, .str t) ∈ members := by
  rcases List.suffix_or_suffix_of_suffix hm hb with hle | hle
  · obtain ⟨m, hmem, hmc⟩ := List.any_eq_true.mp hc
    rcases List.mem_cons.mp (hle.subset hmem) with rfl | hmb
    · simp [isControl, Json.isObject, Json.members?] at hmc
    · exact absurd (List.any_eq_true.mpr ⟨m, hmb, hmc⟩) (by simp [hn])
  · exact hle.subset List.mem_cons_self

/-- A response that opened first is whole where the control packet closes. -/
theorem surfaceText_of_closesControl (hs : Settled prose) (h : IsObjectText doc ms)
    (ht : text <+: prose ++ (doc.toList ++ suffix)) (hfirst : ResponseFirst text) (hc : ClosesControl text)
    {k t : String} (hm : (k, .str t) ∈ ms) (hk : Text.lowered k = "surface_response") :
    (run {} text).surfaceText = t := by
  rcases exists_front hs h ht with hp | ⟨front, hf, hrun, -⟩
  · exact absurd hc (hs.not_closesControl hp)
  obtain ⟨before, k', t', hk', hnone, hmember⟩ := hfirst.exists_member hs h ht
  obtain ⟨_, s, -, hb⟩ := exists_behindFront h hf
  have hdone : s.outer.members.any isControl = true := by
    rw [← hb.follows.control, ← hrun]
    exact (controlDone_iff_closesControl text).mpr hc
  have hmem : (k', Json.str t') ∈ s.outer.members := mem_of_isControl hb.members hmember hdone hnone
  have hn : (s.outer.members.map fun m => Text.lower m.1.toList).Nodup :=
    h.distinct_reverse.sublist (hb.members.sublist.map _)
  have hwaiting : ∀ k, s.outer.waiting = some k → isKey surfaceKey k = false := by
    intro k hw
    refine @not_isKey_of_nodup (k, .null) (k', .str t') _ _ ?_ hmem hk'
    simpa [Json.Outer.Distinct, Json.Outer.keys, hw, Function.comp_def] using hb.distinct
  have hsame : t' = t := by
    have hresponse := surfaceOf_of_mem h.distinct_reverse (List.mem_reverse.mpr hm) (isKey_iff.mpr hk)
    have hopened := surfaceOf_of_mem h.distinct_reverse (hb.members.subset hmem) hk'
    exact String.toList_inj.mp (List.reverse_inj.mp (hopened.symm.trans hresponse))
  rw [surfaceText, hrun, hb.follows.surface hwaiting, surfaceOf_of_mem hn hmem hk', List.reverse_reverse,
    String.ofList_toList, hsame]

theorem closesControl_of_envelope (hs : Settled prose) (h : IsObjectText doc ms) {m : String × Json}
    (hm : m ∈ ms) (hc : Json.IsControl m) : ClosesControl (prose ++ (doc.toList ++ suffix)) := by
  obtain ⟨-, hcontrol, -⟩ := follows_whole h
  have hdone : (run {} doc.toList).controlDone = true := by
    rw [hcontrol]
    exact List.any_eq_true.mpr ⟨m, List.mem_reverse.mpr hm, isControl_iff.mpr hc⟩
  rw [← controlDone_iff_closesControl, run_append, hs, run_append]
  exact (run_grown _ suffix).control hdone

/-- A response that opens before the control packet closes is held: no piece lets anything through, and the end
lets through all of it if the control packet has closed, and nothing else. Where the text is a document behind
harmless prose, or comes from a front of one, the control packet closes where the document says so, and what
comes through is the response of the document, whatever else is in it; if it is an envelope, this is the
response that is read from the whole text. -/
theorem held_until_finish {text : String} {pieces : List String} (hfirst : ResponseFirst text.toList)
    (hp : String.join pieces = text) :
    (∀ ps p, ps ++ [p] <+: pieces → ((feed {} ps).push p).2 = none) ∧
      (¬ClosesControl text.toList → (feed {} pieces).finish.2 = none) ∧
      (ClosesControl text.toList →
        (feed {} pieces).finish.2.getD "" = (run {} text.toList).surfaceText) ∧
      ∀ prose doc suffix ms, Settled prose.toList → IsObjectText doc ms →
        text.toList <+: (prose ++ doc ++ suffix).toList →
        (ClosesControl text.toList ↔ ∃ closed, closed <+: doc.toList ∧ EndsControl closed ∧
          prose.toList ++ closed <+: text.toList) ∧
        (∀ k t, (k, .str t) ∈ ms → Text.lowered k = "surface_response" → ClosesControl text.toList →
          (feed {} pieces).finish.2.getD "" = t) ∧
        ∀ e, (Json.ofText? doc).map Envelope.ofJson = some (.ok e) → '{' ∉ prose.toList →
          text = prose ++ doc ++ suffix →
          Envelope.parse text = .ok e ∧ (feed {} pieces).finish.2.getD "" = e.surface := by
  have hsilent : Silent {} (String.join pieces).toList := hp ▸ hfirst.silent
  have hfeed : feed {} pieces = run {} text.toList := hp ▸ hsilent.feed
  have hopen (hc : ¬ClosesControl text.toList) : (feed {} pieces).finish.2 = none := by
    rw [← controlDone_iff_closesControl] at hc
    rw [hfeed, finish, if_neg hc]
  have hclosed (hc : ClosesControl text.toList) :
      (feed {} pieces).finish.2.getD "" = (run {} text.toList).surfaceText := by
    rw [hfeed, finish_run, if_pos ((controlDone_iff_closesControl _).mpr hc)]
  refine ⟨fun ps p => hsilent.push_feed, hopen, hclosed, fun prose doc suffix ms hs h ht => ?_⟩
  rw [String.toList_append, String.toList_append, List.append_assoc] at ht
  refine ⟨closesControl_iff hs h ht, fun k t hm hk hc => ?_, fun e he hb hwhole => ?_⟩
  · rw [hclosed hc, surfaceText_of_closesControl hs h ht hfirst hc hm hk]
  · have hread : Json.ofText? doc = some (Json.merged (.obj ms)) := by
      rw [Json.ofText?, Json.decode?, h.written]
      rfl
    rw [hread, Option.map_some, Option.some.injEq] at he
    obtain ⟨⟨k, hm, hk⟩, m, hmc, hc⟩ := Envelope.members_of_ofJson h.distinct he
    have hcl : ClosesControl text.toList := by
      rw [hwhole, String.toList_append, String.toList_append, List.append_assoc]
      exact closesControl_of_envelope hs h hmc hc
    refine ⟨?_, by rw [hclosed hcl, surfaceText_of_closesControl hs h ht hfirst hcl hm hk]⟩
    rw [hwhole]
    exact Envelope.parse_of_ofText? hb hread rfl he suffix

/-- A reply that gives its response first, in a fence behind a prose that quotes a bracket. -/
def fencedReply : String := quotingProse ++ escapedReply ++ "\n```"

/-- That reply in pieces. -/
def fencedPieces : List String :=
  ["As \"[1]\" sa", "ys:\n```json\n\x7b\"Surface\\u005fresponse\":\"\\ud83d", "\\ude00\"," ++
    "\"control_packet\":\x7b\"intent_classification\":\x7b\x7d\x7d\x7d\n```"]

theorem opensFirst_escapedReply : Json.OpensFirst escapedReply.toList (escapedReply.toList.take 25) :=
  ⟨by decide +kernel, false, [], "Surface_response", rfl, by decide +kernel, by simp⟩

theorem responseFirst_fencedReply : ResponseFirst fencedReply.toList := by
  rw [fencedReply, String.toList_append, String.toList_append, List.append_assoc]
  have hquote := opensFirst_escapedReply.1.trans (List.prefix_append _ "\n```".toList)
  exact (responseFirst_iff settled_quotingProse isObjectText_escapedReply List.prefix_rfl).mpr
    ⟨_, (List.prefix_append_right_inj _).mpr hquote, opensFirst_escapedReply⟩

theorem held_until_finish_fencedReply :
    ((feed {} (fencedPieces.take 2)).push (fencedPieces.getD 2 "")).2 = none ∧
      (Envelope.parse fencedReply).toOption.map Envelope.surface = some "😀" ∧
      (feed {} fencedPieces).finish.2.getD "" = "😀" := by
  have hpieces : String.join fencedPieces = fencedReply := by decide +kernel
  obtain ⟨hnone, -, -, hdoc⟩ := held_until_finish responseFirst_fencedReply hpieces
  have hbrace : '{' ∉ quotingProse.toList := by decide +kernel
  obtain ⟨hparse, hfinish⟩ := (hdoc quotingProse escapedReply "\n```" _ settled_quotingProse
    isObjectText_escapedReply List.prefix_rfl).2.2 _ envelope_escapedReply hbrace rfl
  exact ⟨hnone _ _ List.prefix_rfl, by rw [hparse]; rfl, hfinish⟩

/-- A reply that gives its response first and classifies nothing. -/
def unclassifiedReply : String :=
  "\x7b\"surface_response\":\"Deleted.\",\"control_packet\":\x7b\"a\":1\x7d\x7d"

theorem isObjectText_unclassifiedReply :
    IsObjectText unclassifiedReply [("surface_response", .str "Deleted."),
      ("control_packet", .obj [("a", .int 1)])] :=
  ⟨rfl, by decide +kernel⟩

theorem responseFirst_unclassifiedReply : ResponseFirst unclassifiedReply.toList := by
  have hreply : unclassifiedReply.toList <+: [] ++ (unclassifiedReply.toList ++ []) := by simp
  have hopens : Json.OpensFirst unclassifiedReply.toList (unclassifiedReply.toList.take 20) :=
    ⟨by decide +kernel, false, [], "surface_response", rfl, by decide +kernel, by simp⟩
  have hempty : Settled [] := rfl
  exact (responseFirst_iff hempty isObjectText_unclassifiedReply hreply).mpr ⟨_, hopens.1, hopens⟩

/-- The end lets a held response through although the reply is no envelope. -/
theorem not_only_envelopes_released :
    ¬ ∀ text pieces, ResponseFirst text.toList → String.join pieces = text → outputs {} pieces ≠ [] →
      ∃ e, Envelope.parse text = .ok e ∧ String.join (outputs {} pieces) = e.surface := by
  intro h
  have hjoin : String.join [unclassifiedReply] = unclassifiedReply := by simp [String.join]
  obtain ⟨e, he, -⟩ := h unclassifiedReply [unclassifiedReply] responseFirst_unclassifiedReply hjoin
    (by decide +kernel)
  have hnone : (Envelope.parse unclassifiedReply).toOption.isNone = true := by decide +kernel
  rw [he] at hnone
  cases hnone

end Stream.Gate

end Utterance
