import Mathlib.Data.List.Sort
import Utterance.Ranking

/-! Putting things in order loses none of them and keeps what held of entries of one key in the order they had,
and of the entries with some property the first one behind the ordering is the first of the greatest in front
of it. -/

namespace Utterance.Ranking

variable {α : Type} (key : α → Int)

theorem insert_eq_orderedInsert (x : α) (ys : List α) :
    insert key x ys = ys.orderedInsert (fun a b => key b ≤ key a) x := by
  induction ys with
  | nil => rfl
  | cons y ys ih =>
    by_cases h : key y ≤ key x
    · simp [insert, h]
    · simp [insert, h, ih]

theorem descending_eq_insertionSort (xs : List α) :
    descending key xs = xs.insertionSort fun a b => key b ≤ key a := by
  induction xs with
  | nil => rfl
  | cons x xs ih => rw [descending, insert_eq_orderedInsert, ih, List.insertionSort_cons]

theorem perm_descending (xs : List α) : (descending key xs).Perm xs := by
  rw [descending_eq_insertionSort]
  exact List.perm_insertionSort _ xs

theorem length_descending (xs : List α) : (descending key xs).length = xs.length :=
  (perm_descending key xs).length_eq

theorem pairwise_descending (xs : List α) : (descending key xs).Pairwise fun a b => key b ≤ key a := by
  have htotal : Std.Total fun a b => key b ≤ key a := ⟨fun a b => Int.le_total (key b) (key a)⟩
  have htrans : IsTrans α fun a b => key b ≤ key a := ⟨fun _ _ _ h h' => Int.le_trans h' h⟩
  rw [descending_eq_insertionSort]
  exact List.pairwise_insertionSort _ xs

theorem mem_insert {x w : α} {ys : List α} : w ∈ insert key x ys ↔ w = x ∨ w ∈ ys := by
  rw [insert_eq_orderedInsert]
  exact List.mem_orderedInsert _

theorem insert_map {β : Type} (f : β → α) (x : β) (ys : List β) :
    insert key (f x) (ys.map f) = (insert (fun y => key (f y)) x ys).map f := by
  induction ys with
  | nil => rfl
  | cons y ys ih =>
    unfold insert
    rw [List.map_cons]
    dsimp only
    split
    · rfl
    · rw [ih, List.map_cons]

theorem descending_map {β : Type} (f : β → α) (xs : List β) :
    descending key (xs.map f) = (descending (fun y => key (f y)) xs).map f := by
  induction xs with
  | nil => rfl
  | cons x xs ih => rw [List.map_cons, descending, descending, ih, insert_map]

/-! Entries of one key. -/

section

variable {R : α → α → Prop}

/-- Whether `a` may stand before `b`: its key is greater, or it is the same and `R` holds. -/
def Before (R : α → α → Prop) (a b : α) : Prop :=
  key b < key a ∨ key a = key b ∧ R a b

theorem pairwise_insert_before {x : α} {ys : List α} (hx : ∀ y ∈ ys, R x y)
    (hs : ys.Pairwise (Before key R)) : (insert key x ys).Pairwise (Before key R) := by
  induction ys with
  | nil => exact List.pairwise_singleton _ x
  | cons y ys ih =>
    obtain ⟨hy, hs'⟩ := List.pairwise_cons.mp hs
    unfold insert
    split
    case isTrue hle =>
      refine List.pairwise_cons.mpr ⟨fun w hw => ?_, hs⟩
      have hwy : key w ≤ key y := by
        rcases List.mem_cons.mp hw with rfl | hw
        · exact Int.le_refl _
        · rcases hy w hw with hlt | ⟨heq, -⟩ <;> omega
      rcases Int.lt_or_eq_of_le (Int.le_trans hwy hle) with hlt | heq
      · exact .inl hlt
      · exact .inr ⟨heq.symm, hx w hw⟩
    case isFalse hlt =>
      refine List.pairwise_cons.mpr ⟨fun w hw => ?_, ih (fun w hw => hx w (List.mem_cons_of_mem _ hw)) hs'⟩
      rcases (mem_insert key).mp hw with rfl | hw
      · exact .inl (Int.not_le.mp hlt)
      · exact hy w hw

/-- Entries of one key stay in their order: what held of any two of them still holds. -/
theorem pairwise_descending_before {xs : List α} (h : xs.Pairwise R) :
    (descending key xs).Pairwise (Before key R) := by
  induction xs with
  | nil => exact .nil
  | cons x xs ih =>
    obtain ⟨hx, h⟩ := List.pairwise_cons.mp h
    exact pairwise_insert_before key (fun y hy => hx y ((perm_descending key xs).mem_iff.mp hy)) (ih h)

end

/-! Places. -/

section

variable (xs : List α)

/-- The places of entries, those of greater keys first and those of one key as they stand. -/
def places : List (Fin xs.length) :=
  descending (fun i => key xs[i]) (List.finRange xs.length)

theorem map_places : (places key xs).map (fun i => xs[i]) = descending key xs := by
  rw [places, ← descending_map]
  exact congrArg (descending key) (List.map_get_finRange xs)

theorem pairwise_places : (places key xs).Pairwise (Before (fun i => key xs[i]) (· < ·)) :=
  pairwise_descending_before _ (List.pairwise_lt_finRange _)

theorem mem_places (i : Fin xs.length) : i ∈ places key xs :=
  (perm_descending _ _).mem_iff.mpr (List.mem_finRange i)

theorem nodup_places : (places key xs).Nodup :=
  (perm_descending _ _).nodup_iff.mpr (List.nodup_finRange _)

theorem length_places : (places key xs).length = xs.length := by
  rw [places, length_descending, List.length_finRange]

/-- A place among the first ones stands before every place that is not. -/
theorem before_of_mem_take {k : Nat} {i j : Fin xs.length} (hi : i ∈ (places key xs).take k)
    (hj : j ∉ (places key xs).take k) : Before (fun i => key xs[i]) (· < ·) i j := by
  have hsplit : (places key xs).take k ++ (places key xs).drop k = places key xs := List.take_append_drop k _
  have hpairwise := pairwise_places key xs
  have hmem := mem_places key xs j
  rw [← hsplit] at hpairwise hmem
  obtain ⟨-, -, hcut⟩ := List.pairwise_append.mp hpairwise
  exact hcut i hi j ((List.mem_append.mp hmem).resolve_left hj)

end

variable {key} {p : α → Bool} {x z : α}

/-- What is found behind an insertion is the new entry, which is then no less than the others, or was
found before, and is then greater than the new one. -/
theorem find?_insert {ys : List α} (hs : ys.Pairwise fun a b => key b ≤ key a)
    (h : (insert key x ys).find? p = some z) :
    (z = x ∧ ∀ y ∈ ys, p y → key y ≤ key x) ∨ (ys.find? p = some z ∧ (p x → key x < key z)) := by
  induction ys with
  | nil =>
    left
    rw [insert, List.find?_singleton] at h
    split at h
    · exact ⟨(Option.some.inj h).symm, by simp⟩
    · cases h
  | cons y ys ih =>
    obtain ⟨hy, hs⟩ := List.pairwise_cons.mp hs
    unfold insert at h
    split at h
    case isTrue hle =>
      by_cases hx : p x
      · rw [List.find?_cons_of_pos hx] at h
        refine .inl ⟨(Option.some.inj h).symm, fun w hw _ => ?_⟩
        rcases List.mem_cons.mp hw with rfl | hw
        · exact hle
        · exact Int.le_trans (hy w hw) hle
      · rw [List.find?_cons_of_neg hx] at h
        exact .inr ⟨h, fun hp => absurd hp hx⟩
    case isFalse hlt =>
      by_cases hp : p y
      · rw [List.find?_cons_of_pos hp] at h ⊢
        cases h
        exact .inr ⟨rfl, fun _ => by omega⟩
      · rw [List.find?_cons_of_neg hp] at h ⊢
        rcases ih hs h with ⟨rfl, hbest⟩ | hfound
        · refine .inl ⟨rfl, fun w hw hpw => ?_⟩
          rcases List.mem_cons.mp hw with rfl | hw
          · exact absurd hpw hp
          · exact hbest w hw hpw
        · exact .inr hfound

/-- The entry that is found first in the order is, in front of the ordering, greater than those before it
and no less than those behind it, as far as these have the property too. -/
theorem split_of_find?_descending {xs : List α} (h : (descending key xs).find? p = some z) :
    ∃ front back, xs = front ++ z :: back ∧ (∀ y ∈ front, p y → key y < key z) ∧
      ∀ y ∈ back, p y → key y ≤ key z := by
  induction xs with
  | nil => cases h
  | cons x xs ih =>
    rcases find?_insert (pairwise_descending key xs) h with ⟨rfl, hbest⟩ | ⟨hfound, hless⟩
    · refine ⟨[], xs, rfl, by simp, fun y hy => hbest y ?_⟩
      exact (perm_descending key xs).mem_iff.mpr hy
    · obtain ⟨front, back, rfl, hfront, hback⟩ := ih hfound
      refine ⟨x :: front, back, rfl, fun y hy hp => ?_, hback⟩
      rcases List.mem_cons.mp hy with rfl | hy
      · exact hless hp
      · exact hfront y hy hp

end Utterance.Ranking
