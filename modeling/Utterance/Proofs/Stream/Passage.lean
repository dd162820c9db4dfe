import Utterance.Stream.Gate

/-! What comes through the gate of an envelope that is pushed in pieces depends on the envelope
alone. -/

namespace Utterance.Stream.Gate

/-- The gate with another count of characters let through. -/
def counting (g : Gate) (n : Nat) : Gate := { g with released := n }

theorem take_counting (g : Gate) (n : Nat) (r : StringRole) (c : Char) :
    (g.counting n).take r c = (g.take r c).counting n := by
  cases r <;> rfl

theorem takeNumber_counting (g : Gate) (n : Nat) (r : StringRole) (k : Nat) :
    (g.counting n).takeNumber r k = (g.takeNumber r k).counting n := by
  simp only [takeNumber, apply_ite (fun g : Gate => g.counting n), ← take_counting]
  rfl

theorem stepString_counting (g : Gate) (n : Nat) (r : StringRole) (e : Escape) (c : Char) :
    (g.counting n).stepString r e c = (g.stepString r e c).counting n := by
  cases e with
  | none =>
    simp only [stepString, apply_ite (fun g : Gate => g.counting n), ← take_counting]
    cases r <;> rfl
  | backslash =>
    simp only [stepString, apply_ite (fun g : Gate => g.counting n), ← take_counting]
    rfl
  | number ds =>
    simp only [stepString, apply_ite (fun g : Gate => g.counting n)]
    cases number? (ds ++ [c]) with
    | none => rfl
    | some k =>
      simp only [← takeNumber_counting]
      rfl

theorem stepOutside_counting (g : Gate) (n : Nat) (c : Char) :
    (g.counting n).stepOutside c = (g.stepOutside c).counting n := by
  simp only [stepOutside, openString, closeContainer, apply_ite (fun g : Gate => g.counting n)]
  rfl

theorem step_of_ended {g : Gate} (h : g.ended = true) (c : Char) : g.step c = g := by
  simp [step, h]

theorem step_of_string {g : Gate} {r : StringRole} {e : Escape} (h : g.ended = false)
    (hs : g.string = some (r, e)) (c : Char) : g.step c = g.stepString r e c := by
  simp [step, h, hs]

theorem step_of_outside {g : Gate} (h : g.ended = false) (hs : g.string = none) (c : Char) :
    g.step c = g.stepOutside c := by
  simp [step, h, hs]

theorem step_counting (g : Gate) (n : Nat) (c : Char) :
    (g.counting n).step c = (g.step c).counting n := by
  cases h : g.ended with
  | true => rw [step_of_ended h, step_of_ended (g := g.counting n) h]
  | false =>
    cases hs : g.string with
    | none =>
      rw [step_of_outside h hs, step_of_outside (g := g.counting n) h hs, stepOutside_counting]
    | some s =>
      rw [step_of_string h hs, step_of_string (g := g.counting n) h hs, stepString_counting]

/-- The gate behind some characters. -/
def run (g : Gate) (cs : List Char) : Gate := cs.foldl step g

@[simp] theorem run_nil (g : Gate) : g.run [] = g := rfl

@[simp] theorem run_cons (g : Gate) (c : Char) (cs : List Char) :
    g.run (c :: cs) = (g.step c).run cs := rfl

theorem run_append (g : Gate) (xs ys : List Char) : g.run (xs ++ ys) = (g.run xs).run ys :=
  List.foldl_append

theorem run_counting (g : Gate) (n : Nat) (cs : List Char) :
    (g.counting n).run cs = (g.run cs).counting n := by
  induction cs generalizing g with
  | nil => rfl
  | cons c cs ih => rw [run_cons, step_counting, ih, run_cons]

/-! What the gate has read is never taken back. -/

/-- A gate that has read on. -/
structure Grown (g h : Gate) : Prop where
  surface : g.surface <:+ h.surface
  control : g.controlDone = true → h.controlDone = true
  released : h.released = g.released

theorem Grown.refl (g : Gate) : Grown g g := ⟨List.suffix_rfl, id, rfl⟩

theorem Grown.trans {a b c : Gate} (h : Grown a b) (k : Grown b c) : Grown a c :=
  ⟨h.surface.trans k.surface, k.control ∘ h.control, k.released.trans h.released⟩

theorem take_grown (g : Gate) (r : StringRole) (c : Char) : Grown g (g.take r c) := by
  cases r with
  | surface => exact ⟨List.suffix_cons .., id, rfl⟩
  | key => exact ⟨List.suffix_rfl, id, rfl⟩
  | other => exact .refl g

theorem takeNumber_grown (g : Gate) (r : StringRole) (n : Nat) : Grown g (g.takeNumber r n) := by
  unfold takeNumber
  have hg : Grown g { g with highHalf := none } := ⟨List.suffix_rfl, id, rfl⟩
  split
  · exact ⟨List.suffix_rfl, id, rfl⟩
  · dsimp only
    split
    · exact hg
    · exact hg.trans (take_grown ..)

theorem stepString_grown (g : Gate) (r : StringRole) (e : Escape) (c : Char) :
    Grown g (g.stepString r e c) := by
  have hs (s : Option (StringRole × Escape)) : Grown g { g with string := s } :=
    ⟨List.suffix_rfl, id, rfl⟩
  cases e with
  | none =>
    simp only [stepString]
    split
    · exact hs _
    · split
      · cases r <;> exact ⟨List.suffix_rfl, id, rfl⟩
      · exact take_grown g r c
  | backslash =>
    simp only [stepString]
    split
    · exact hs _
    · exact (hs _).trans (take_grown ..)
  | number ds =>
    simp only [stepString]
    split
    · cases number? (ds ++ [c]) with
      | none => exact hs _
      | some n => exact (hs _).trans (takeNumber_grown ..)
    · exact hs _

theorem closeContainer_grown (g : Gate) : Grown g g.closeContainer := by
  unfold closeContainer
  split
  · exact .refl g
  · exact ⟨List.suffix_rfl, fun h => by simp [h], rfl⟩

theorem openString_grown (g : Gate) : Grown g g.openString := by
  unfold openString
  split
  · exact ⟨List.suffix_rfl, id, rfl⟩
  · split <;> exact ⟨List.suffix_rfl, id, rfl⟩

theorem stepOutside_grown (g : Gate) (c : Char) : Grown g (g.stepOutside c) := by
  unfold stepOutside
  split
  · exact openString_grown g
  split
  · exact ⟨List.suffix_rfl, id, rfl⟩
  split
  · exact closeContainer_grown g
  split
  · exact ⟨List.suffix_rfl, id, rfl⟩
  split
  · exact ⟨List.suffix_rfl, id, rfl⟩
  · exact .refl g

theorem step_grown (g : Gate) (c : Char) : Grown g (g.step c) := by
  cases h : g.ended with
  | true => rw [step_of_ended h]; exact .refl g
  | false =>
    cases hs : g.string with
    | none => rw [step_of_outside h hs]; exact stepOutside_grown g c
    | some s => rw [step_of_string h hs]; exact stepString_grown g s.1 s.2 c

theorem run_grown (g : Gate) (cs : List Char) : Grown g (g.run cs) := by
  induction cs generalizing g with
  | nil => exact .refl g
  | cons c cs ih => exact (step_grown g c).trans (ih _)

theorem run_of_ended {g : Gate} (h : g.ended = true) (cs : List Char) : g.run cs = g := by
  induction cs with
  | nil => rfl
  | cons c cs ih => rw [run_cons, step_of_ended h, ih]

/-! What the gate lets through. -/

/-- What a gate lets through of the pieces of a text, and at its end. -/
def outputs (g : Gate) : List String → List String
  | [] => g.finish.2.toList
  | p :: ps => (g.push p).2.toList ++ outputs (g.push p).1 ps

/-- A gate that has let through a front of the response, and nothing without the control packet. -/
structure Tidy (g : Gate) : Prop where
  le : g.released ≤ g.surface.length
  zero : g.controlDone = false → g.released = 0

/-- What a gate has let through. -/
def passed (g : Gate) : List Char := g.surface.reverse.take g.released

/-- What a gate may let through in all. -/
def shown (g : Gate) : List Char := if g.controlDone then g.surface.reverse else []

theorem tidy_empty : Tidy {} := ⟨Nat.le_refl 0, fun _ => rfl⟩

theorem Tidy.run {g : Gate} (h : Tidy g) (cs : List Char) : Tidy (g.run cs) := by
  have hg := run_grown g cs
  constructor
  · rw [hg.released]
    exact Nat.le_trans h.le hg.surface.length_le
  · intro hc
    rw [hg.released]
    apply h.zero
    cases hd : g.controlDone with
    | false => rfl
    | true => exact absurd (hg.control hd) (by simp [hc])

theorem passed_run {g : Gate} (h : Tidy g) (cs : List Char) : (g.run cs).passed = g.passed := by
  have hg := run_grown g cs
  obtain ⟨more, hm⟩ := hg.surface
  unfold passed
  rw [hg.released, ← hm, List.reverse_append]
  exact List.take_append_of_le_length (by simpa using h.le)

theorem release_fst {g : Gate} (h : Tidy g) : g.release.1 = g.counting g.surface.length := by
  unfold release
  split
  · have he : g.released = g.surface.length := Nat.le_antisymm h.le ‹_›
    exact congrArg g.counting he
  · rfl

theorem join_release {g : Gate} (h : Tidy g) :
    g.passed ++ (String.join g.release.2.toList).toList = g.surface.reverse := by
  unfold release passed
  split
  · have he : g.released = g.surface.length := Nat.le_antisymm h.le ‹_›
    have hn : g.surface.reverse.length ≤ g.surface.length := Nat.le_of_eq List.length_reverse
    simp [he, List.take_of_length_le hn]
  · simp

theorem passed_release {g : Gate} (h : Tidy g) : g.release.1.passed = g.surface.reverse := by
  rw [release_fst h]
  exact List.take_of_length_le (by simp [counting])

theorem tidy_release {g : Gate} (hc : g.controlDone = true) (h : Tidy g) : Tidy g.release.1 := by
  rw [release_fst h]
  exact ⟨Nat.le_refl _, fun hf => by simp [counting, hc] at hf⟩

theorem push_eq (g : Gate) (p : String) :
    g.push p =
      if (g.run p.toList).controlDone && !(g.run p.toList).held &&
          (g.run p.toList).surfaceBegun then
        (g.run p.toList).release
      else (g.run p.toList, none) := rfl

/-- A piece changes the gate as its characters do, but for what was let through. -/
theorem push_fst {g : Gate} (h : Tidy g) (p : String) :
    ∃ n, (g.push p).1 = (g.run p.toList).counting n := by
  rw [push_eq]
  split
  · exact ⟨_, release_fst (h.run _)⟩
  · exact ⟨_, rfl⟩

theorem tidy_push {g : Gate} (h : Tidy g) (p : String) : Tidy (g.push p).1 := by
  rw [push_eq]
  split
  case isTrue hc =>
    simp only [Bool.and_eq_true] at hc
    exact tidy_release hc.1.1 (h.run p.toList)
  case isFalse => exact h.run p.toList

theorem passed_push {g : Gate} (h : Tidy g) (p : String) :
    (g.push p).1.passed = g.passed ++ (String.join (g.push p).2.toList).toList := by
  rw [← passed_run h p.toList]
  rw [push_eq]
  split
  · exact (passed_release (h.run _)).trans (join_release (h.run _)).symm
  · simp

theorem join_finish {g : Gate} (h : Tidy g) :
    g.passed ++ (String.join g.finish.2.toList).toList = g.shown := by
  unfold finish shown
  cases hc : g.controlDone with
  | true => exact join_release h
  | false => simp [passed, h.zero hc]

/-- However a text is cut, the same is let through in all. -/
theorem join_outputs {g : Gate} (h : Tidy g) (ps : List String) :
    g.passed ++ (String.join (g.outputs ps)).toList = (g.run (String.join ps).toList).shown := by
  induction ps generalizing g with
  | nil => exact join_finish h
  | cons p ps ih =>
    obtain ⟨n, hn⟩ := push_fst h p
    have hrun : (g.run (String.join (p :: ps)).toList).shown =
        ((g.push p).1.run (String.join ps).toList).shown := by
      rw [String.join_cons, String.toList_append, run_append, hn, run_counting]
      rfl
    rw [hrun, ← ih (tidy_push h p), passed_push h p, outputs, String.join_append,
      String.toList_append, List.append_assoc]

/-- What is let through at all is never empty. -/
theorem ne_empty_of_mem_release {g : Gate} {s : String} (h : s ∈ g.release.2.toList) : s ≠ "" := by
  unfold release at h
  split at h
  · simp at h
  · simp only [Option.toList_some, List.mem_singleton] at h
    subst h
    simpa [← String.toList_inj] using Nat.lt_of_not_le ‹_›

theorem ne_empty_of_mem_outputs {g : Gate} {ps : List String} {s : String}
    (h : s ∈ g.outputs ps) : s ≠ "" := by
  induction ps generalizing g with
  | nil =>
    unfold outputs finish at h
    split at h
    · exact ne_empty_of_mem_release h
    · simp at h
  | cons p ps ih =>
    rcases List.mem_append.mp h with h | h
    · rw [push_eq] at h
      split at h
      · exact ne_empty_of_mem_release h
      · simp at h
    · exact ih h

theorem outputs_eq_nil {g : Gate} {ps : List String} (h : String.join (g.outputs ps) = "") :
    g.outputs ps = [] := by
  cases ho : g.outputs ps with
  | nil => rfl
  | cons s ss =>
    rw [ho, String.join_cons, String.append_eq_empty_iff] at h
    exact absurd h.1 (ne_empty_of_mem_outputs (ho ▸ List.mem_cons_self))

end Utterance.Stream.Gate
