import Utterance.Text.Blank

/-! Trimming a text, and small letters, change nothing when they are done once more. -/

namespace Utterance.Text

/-- A text with no white space at either end. -/
def Bare (cs : List Char) : Prop :=
  (∀ c ∈ cs.head?, isBlank c = false) ∧ ∀ c ∈ cs.getLast?, isBlank c = false

theorem head?_dropWhile {p : Char → Bool} {cs : List Char} :
    ∀ c ∈ (cs.dropWhile p).head?, p c = false := by
  intro c hc
  have h := List.head?_dropWhile_not p cs
  rw [Option.mem_def.mp hc] at h
  exact h

theorem dropWhile_eq_self {p : Char → Bool} {cs : List Char} (h : ∀ c ∈ cs.head?, p c = false) :
    cs.dropWhile p = cs := by
  cases cs with
  | nil => rfl
  | cons c cs => exact List.dropWhile_cons_of_neg (by simp [h c rfl])

theorem trim_bare (cs : List Char) : Bare (trim cs) := by
  constructor
  · intro c hc
    obtain ⟨rest, hr⟩ : trim cs <+: cs.dropWhile isBlank := by
      have h := List.reverse_prefix.mpr
        (List.dropWhile_suffix (l := (cs.dropWhile isBlank).reverse) isBlank)
      rwa [List.reverse_reverse] at h
    have hd : c ∈ (cs.dropWhile isBlank).head? := by
      rw [← hr, List.head?_append, Option.mem_def.mp hc]
      rfl
    exact head?_dropWhile c hd
  · intro c hc
    rw [trim, trimEnd, List.getLast?_reverse] at hc
    exact head?_dropWhile c hc

theorem trim_eq_self {cs : List Char} (h : Bare cs) : trim cs = cs := by
  have hr : ∀ c ∈ cs.reverse.head?, isBlank c = false := by
    rw [List.head?_reverse]
    exact h.2
  rw [trim, trimStart, dropWhile_eq_self h.1, trimEnd, dropWhile_eq_self hr, List.reverse_reverse]

theorem trimmed_trimmed (s : String) : trimmed (trimmed s) = trimmed s := by
  rw [trimmed, trimmed, String.toList_ofList, trim_eq_self (trim_bare _)]

/-- A text is its trimmed middle between white space. -/
theorem exists_trim (cs : List Char) :
    ∃ front back, front.all isBlank ∧ back.all isBlank ∧ cs = front ++ (trim cs ++ back) := by
  have hfront := List.takeWhile_append_dropWhile (p := isBlank) (l := cs)
  have hback := List.takeWhile_append_dropWhile (p := isBlank) (l := (cs.dropWhile isBlank).reverse)
  refine ⟨cs.takeWhile isBlank, ((cs.dropWhile isBlank).reverse.takeWhile isBlank).reverse,
    List.all_takeWhile, ?_, ?_⟩
  · rw [List.all_reverse]
    exact List.all_takeWhile
  · rw [trim, trimStart, trimEnd, ← List.reverse_append, hback, List.reverse_reverse, hfront]

/-- A letter that has a small form is a capital from A to Z. -/
theorem toLower_cases (c : Char) :
    c.toLower = c ∨ 65 ≤ c.toNat ∧ c.toNat ≤ 90 ∧ c.toLower.toNat = c.toNat + 32 := by
  by_cases h : 'A'.val ≤ c.val ∧ c.val ≤ 'Z'.val
  · have h1 : 65 ≤ c.toNat := UInt32.le_iff_toNat_le.mp h.1
    have h2 : c.toNat ≤ 90 := UInt32.le_iff_toNat_le.mp h.2
    have hl : c.toLower.val = c.val + ('a'.val - 'A'.val) := congrArg Char.val (dif_pos h)
    refine .inr ⟨h1, h2, ?_⟩
    rw [Char.toNat, hl]
    show (c.val.toNat + 32) % 2 ^ 32 = c.toNat + 32
    exact Nat.mod_eq_of_lt (by rw [Char.toNat_val]; omega)
  · exact .inl (dif_neg h)

theorem isBlank_visible {c : Char} (h : 33 ≤ c.toNat) (h' : c.toNat < 133) : isBlank c = false := by
  have h9 : ¬c.toNat < 9 := by omega
  have h13 : ¬c.toNat ≤ 13 := by omega
  have h32 : ¬c.toNat ≤ 32 := by omega
  simp [isBlank, blank, CharSet.contains, CharSet.inRanges, h9, h13, h32, h']

theorem isBlank_toLower (c : Char) : isBlank c.toLower = isBlank c := by
  obtain h | ⟨h1, h2, h⟩ := toLower_cases c
  · rw [h]
  · have hl : isBlank c.toLower = false := isBlank_visible (by omega) (by omega)
    have hc : isBlank c = false := isBlank_visible (by omega) (by omega)
    rw [hl, hc]

theorem toLower_toLower (c : Char) : c.toLower.toLower = c.toLower := by
  obtain h | ⟨h1, h2, h⟩ := toLower_cases c
  · rw [h, h]
  · obtain h' | ⟨-, h3, -⟩ := toLower_cases c.toLower
    · exact h'
    · omega

theorem Bare.map_toLower {cs : List Char} (h : Bare cs) : Bare (cs.map Char.toLower) := by
  constructor
  · intro c hc
    rw [List.head?_map] at hc
    obtain ⟨d, hd, rfl⟩ := Option.map_eq_some_iff.mp hc
    rw [isBlank_toLower]
    exact h.1 d hd
  · intro c hc
    rw [List.getLast?_map] at hc
    obtain ⟨d, hd, rfl⟩ := Option.map_eq_some_iff.mp hc
    rw [isBlank_toLower]
    exact h.2 d hd

end Utterance.Text
