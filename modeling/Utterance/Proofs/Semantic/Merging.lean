import Mathlib.Data.Finset.Card
import Utterance.Proofs.Decimal.Order
import Utterance.Proofs.Ranking
import Utterance.Semantic.Match

/-! Two lists of matches are merged into one that holds the best match of each phrase, the most similar
ones first, and leaves out none but for those that are less similar than all in it.

The cap is an exact count that the list has to meet behind a new match. No list meets the count of zero,
so for zero there is no cap. -/

namespace Utterance.Semantic.Match

/-! Ranks. -/

/-- A match without its rank. -/
def unranked (m : Match) : Match :=
  { m with rank := 0 }

theorem map_ranked {β : Type} {f : Match → β} (hf : ∀ m n, f { m with rank := n } = f m)
    (ms : List Match) : (ranked ms).map f = ms.map f := by
  apply List.ext_getElem
  · simp [ranked]
  · intro i _ _
    simp [ranked, hf]

theorem map_rank_ranked (ms : List Match) : (ranked ms).map rank = List.range' 1 ms.length := by
  apply List.ext_getElem
  · simp [ranked]
  · intro i _ _
    simp [ranked, Nat.add_comm]

/-! Phrases. -/

/-- What a match is about. -/
def phrase (m : Match) : String × String :=
  (m.verb, m.text)

theorem same_eq_beq (a b : Match) : same a b = (a.phrase == b.phrase) := rfl

def heads : List Match → List Match
  | [] => []
  | m :: ms => m :: (heads ms).filter (!same m ·)

theorem heads_sublist (ms : List Match) : (heads ms).Sublist ms := by
  induction ms with
  | nil => exact List.Sublist.slnil
  | cons m ms ih => exact (List.filter_sublist.trans ih).cons_cons m

theorem nodup_heads (ms : List Match) : ((heads ms).map phrase).Nodup := by
  induction ms with
  | nil => exact List.nodup_nil
  | cons m ms ih =>
    rw [heads, List.map_cons, List.nodup_cons]
    refine ⟨?_, ih.sublist (List.filter_sublist.map phrase)⟩
    intro hin
    obtain ⟨x, hx, he⟩ := List.mem_map.mp hin
    have hother : (!same m x) = true := (List.mem_filter.mp hx).2
    simp [same_eq_beq, he] at hother

/-- The first match of a phrase stays. -/
theorem find?_heads (p : String × String) (ms : List Match) :
    (heads ms).find? (·.phrase == p) = ms.find? (·.phrase == p) := by
  induction ms with
  | nil => rfl
  | cons m ms ih =>
    rw [heads]
    by_cases h : m.phrase = p
    · rw [List.find?_cons_of_pos (by simpa using h), List.find?_cons_of_pos (by simpa using h)]
    · rw [List.find?_cons_of_neg (by simpa using h), List.find?_cons_of_neg (by simpa using h), ← ih,
        List.find?_filter]
      congr 1
      funext x
      by_cases hx : x.phrase = p
      · simp [same_eq_beq, hx, h]
      · simp [hx]

/-! The first matches, up to a cap. -/

/-- Matches whose phrases are not among those of the kept ones. -/
def others (kept ms : List Match) : List Match :=
  ms.filter fun x => !kept.any (same x)

theorem others_heads_cons (kept : List Match) (m : Match) (ms : List Match) :
    others kept (heads (m :: ms)) =
      if kept.any (same m) then others kept (heads ms) else m :: others (m :: kept) (heads ms) := by
  have hheads : heads (m :: ms) = m :: (heads ms).filter (!same m ·) := rfl
  rw [others, hheads, List.filter_cons, List.filter_filter]
  by_cases h : kept.any (same m) = true
  · rw [if_pos h, if_neg (by simpa using h)]
    refine List.filter_congr fun x _ => ?_
    obtain ⟨y, hy, hm⟩ := List.any_eq_true.mp h
    by_cases hx : m.phrase = x.phrase
    · have hkept : kept.any (same x) = true := List.any_eq_true.mpr ⟨y, hy, by simpa [same_eq_beq, hx] using hm⟩
      simp [hkept]
    · simp [same_eq_beq, hx]
  · rw [if_neg h, if_pos (by simpa using h)]
    refine congrArg (m :: ·) (List.filter_congr fun x _ => ?_)
    have hsym : (m.phrase == x.phrase) = (x.phrase == m.phrase) := BEq.comm
    simp [same_eq_beq, hsym, Bool.and_comm]

/-- With the cap of zero there is none. -/
theorem firsts_zero (kept ms : List Match) : firsts 0 kept ms = kept.reverse ++ others kept (heads ms) := by
  induction ms generalizing kept with
  | nil => simp [firsts, heads, others]
  | cons m ms ih =>
    rw [firsts, others_heads_cons]
    split
    · exact ih kept
    · rw [if_neg (Nat.succ_ne_zero _), ih (m :: kept)]
      simp

theorem firsts_of_lt {cap : Nat} {kept : List Match} (h : kept.length < cap) (ms : List Match) :
    firsts cap kept ms = kept.reverse ++ (others kept (heads ms)).take (cap - kept.length) := by
  induction ms generalizing kept with
  | nil => simp [firsts, heads, others]
  | cons m ms ih =>
    rw [firsts, others_heads_cons]
    split
    · exact ih h
    · split
      case isTrue hcap =>
        have hone : cap - kept.length = 1 := by omega
        simp [hone]
      case isFalse hcap =>
        have hlt : (m :: kept).length < cap := by
          rw [List.length_cons]
          omega
        have hmore : cap - kept.length = cap - (m :: kept).length + 1 := by
          rw [List.length_cons] at hlt ⊢
          omega
        rw [ih hlt, hmore]
        simp

/-! The best matches. -/

/-- The best match of each phrase, the most similar first. -/
def best (pool : List Match) : List Match :=
  heads (Ranking.descending key pool)

/-- Among the matches of its phrase this one is the first of the most similar. -/
def IsBest (pool : List Match) (m : Match) : Prop :=
  ∃ front back, pool = front ++ m :: back ∧ (∀ x ∈ front, x.phrase = m.phrase → x.key < m.key) ∧
    ∀ x ∈ back, x.phrase = m.phrase → x.key ≤ m.key

theorem merge_eq (embedded learned : List Match) (boost : Float) (k : Nat) :
    merge embedded learned boost k =
      ranked (if k = 0 then best (embedded ++ learned.map (boosted boost))
        else (best (embedded ++ learned.map (boosted boost))).take (2 * k)) := by
  have hnone (ms : List Match) : others [] ms = ms := by simp [others]
  rw [merge]
  split
  case isTrue h => rw [h, Nat.mul_zero, firsts_zero, hnone, List.reverse_nil, List.nil_append, best]
  case isFalse h =>
    have hlt : ([] : List Match).length < 2 * k := by
      rw [List.length_nil]
      omega
    rw [firsts_of_lt hlt, hnone, List.reverse_nil, List.nil_append, List.length_nil, Nat.sub_zero, best]

variable {pool : List Match} {m : Match}

theorem pairwise_best (pool : List Match) : (best pool).Pairwise fun a b => b.key ≤ a.key :=
  (Ranking.pairwise_descending key pool).sublist (heads_sublist _)

theorem nodup_best (pool : List Match) : ((best pool).map phrase).Nodup :=
  nodup_heads _

theorem isBest_of_find? {p : String × String} (h : (best pool).find? (·.phrase == p) = some m) :
    IsBest pool m := by
  have hp : m.phrase = p := by simpa using List.find?_some h
  rw [best, find?_heads] at h
  obtain ⟨front, back, hpool, hfront, hback⟩ := Ranking.split_of_find?_descending h
  exact ⟨front, back, hpool, fun x hx hsame => hfront x hx (by simp [hsame, hp]),
    fun x hx hsame => hback x hx (by simp [hsame, hp])⟩

theorem isBest_of_mem (h : m ∈ best pool) : IsBest pool m := by
  refine isBest_of_find? (p := m.phrase) ?_
  cases hf : (best pool).find? (·.phrase == m.phrase) with
  | none => exact absurd (List.find?_eq_none.mp hf m h) (by simp)
  | some x =>
    have hx : x.phrase = m.phrase := by simpa using List.find?_some hf
    rw [List.inj_on_of_nodup_map (nodup_best pool) (List.mem_of_find?_eq_some hf) h hx]

theorem IsBest.key_le (h : IsBest pool m) {x : Match} (hx : x ∈ pool) (hp : x.phrase = m.phrase) :
    x.key ≤ m.key := by
  obtain ⟨front, back, rfl, hfront, hback⟩ := h
  rcases List.mem_append.mp hx with hx | hx
  · exact Int.le_of_lt (hfront x hx hp)
  · rcases List.mem_cons.mp hx with rfl | hx
    · exact Int.le_refl _
    · exact hback x hx hp

/-- Each phrase has a best match. -/
theorem exists_best (h : m ∈ pool) : ∃ b ∈ best pool, b.phrase = m.phrase ∧ m.key ≤ b.key := by
  have hm : m ∈ Ranking.descending key pool := (Ranking.perm_descending key pool).mem_iff.mpr h
  cases hf : (best pool).find? (·.phrase == m.phrase) with
  | none =>
    rw [best, find?_heads] at hf
    exact absurd (List.find?_eq_none.mp hf m hm) (by simp)
  | some b =>
    have hb : b.phrase = m.phrase := by simpa using List.find?_some hf
    exact ⟨b, List.mem_of_find?_eq_some hf, hb, (isBest_of_find? hf).key_le h hb.symm⟩

theorem IsBest.mem (h : IsBest pool m) : m ∈ pool := by
  obtain ⟨front, back, rfl, -⟩ := h
  exact List.mem_append_right _ List.mem_cons_self

/-- There are as many best matches as phrases. -/
theorem length_best (pool : List Match) : (best pool).length = (pool.map phrase).toFinset.card := by
  have hcard : ((best pool).map phrase).toFinset = (pool.map phrase).toFinset := by
    ext p
    simp only [List.mem_toFinset, List.mem_map]
    constructor
    · rintro ⟨b, hb, rfl⟩
      exact ⟨b, (isBest_of_mem hb).mem, rfl⟩
    · rintro ⟨m, hm, rfl⟩
      obtain ⟨b, hb, hp, -⟩ := exists_best hm
      exact ⟨b, hb, hp⟩
  rw [← hcard, List.toFinset_card_of_nodup (nodup_best pool), List.length_map]

theorem length_best_le (pool : List Match) : (best pool).length ≤ pool.length := by
  rw [← Ranking.length_descending key pool]
  exact (heads_sublist _).length_le

/-- What the cap leaves out is no more similar than the last one that it leaves. -/
theorem last_of_cut {n : Nat} (hn : 0 < n) (hm : m ∈ best pool) (hcut : m ∉ (best pool).take n) :
    ((best pool).take n).length = n ∧ ∃ last, ((best pool).take n).getLast? = some last ∧ m.key ≤ last.key := by
  have hdrop : m ∈ (best pool).drop n := by
    rw [← List.take_append_drop n (best pool), List.mem_append] at hm
    exact hm.resolve_left hcut
  have hlength : ((best pool).take n).length = n := by
    have hpos : 0 < ((best pool).drop n).length := List.length_pos_of_mem hdrop
    rw [List.length_drop] at hpos
    rw [List.length_take]
    omega
  refine ⟨hlength, ?_⟩
  have hne : (best pool).take n ≠ [] := by
    rw [← List.length_pos_iff, hlength]
    exact hn
  refine ⟨_, List.getLast?_eq_some_getLast hne, ?_⟩
  have hs := pairwise_best pool
  rw [← List.take_append_drop n (best pool), List.pairwise_append] at hs
  exact hs.2.2 _ (List.getLast_mem hne) m hdrop

/-! What is merged. -/

theorem length_ranked (ms : List Match) : (ranked ms).length = ms.length :=
  List.length_mapIdx

theorem phrase_boosted (boost : Float) (m : Match) : (boosted boost m).phrase = m.phrase := rfl

theorem unranked_mem_of_mem_ranked {ms : List Match} {r : Match} (h : r ∈ ranked ms) :
    ∃ m ∈ ms, r.unranked = m.unranked := by
  have hr : r.unranked ∈ (ranked ms).map unranked := List.mem_map_of_mem h
  rw [map_ranked fun _ _ => rfl] at hr
  obtain ⟨m, hm, he⟩ := List.mem_map.mp hr
  exact ⟨m, hm, he.symm⟩

theorem exists_last_ranked {ms : List Match} {m : Match} (h : ms.getLast? = some m) :
    ∃ r, (ranked ms).getLast? = some r ∧ r.key = m.key := by
  have hkeys : (ranked ms).getLast?.map key = some m.key := by
    rw [← List.getLast?_map, map_ranked fun _ _ => rfl, List.getLast?_map, h, Option.map_some]
  exact Option.map_eq_some_iff.mp hkeys

/-- At least so similar as a number: neither is a NaN, and the zeros are as great as one another. -/
def IsAtLeast (least : Float) (m : Match) : Prop :=
  let x := Decimal.Double.ofFloat least
  x.isNaN = false ∧ m.similarity.isNaN = false ∧ (x.key ≤ m.key ∨ (x.isZero ∧ m.similarity.isZero))

instance (least : Float) (m : Match) : Decidable (IsAtLeast least m) :=
  inferInstanceAs (Decidable (_ ∧ _))

theorem le_similarity_iff (least : Float) (m : Match) :
    least ≤ m.similarity.toFloat ↔ IsAtLeast least m := by
  rw [Decimal.Double.le_toFloat_iff, Decimal.Double.le_iff_key]
  rfl

/-- For any two lists and any positive count whose double is a word of the machine, the merged matches stand
with the most similar first, each phrase once and ranked from one on. Each is the first of the most similar
of its phrase, and if a phrase is missing, the list is full and its last match is no less similar than any
of that phrase. Dropping what is not similar enough keeps the others as they stand, ranked anew. -/
theorem merge_keeps_best (embedded learned : List Match) (boost : Float) {k : Fin (2 ^ 63)}
    (hk : 1 ≤ k.val) (ms : List Match) (least : Float) :
    let pool := embedded ++ learned.map (boosted boost)
    let merged := merge embedded learned boost k.val
    let kept := atLeast least ms
    (merged.Pairwise fun a b => b.key ≤ a.key) ∧
    (merged.map phrase).Nodup ∧
    merged.map rank = List.range' 1 merged.length ∧
    (∀ r ∈ merged, ∃ m, IsBest pool m ∧ r.unranked = m.unranked) ∧
    (∀ m ∈ pool, m.phrase ∉ merged.map phrase →
      merged.length = 2 * k.val ∧ ∃ last, merged.getLast? = some last ∧ m.key ≤ last.key) ∧
    kept.map unranked = (ms.filter (IsAtLeast least ·)).map unranked ∧
    kept.map rank = List.range' 1 kept.length := by
  intro pool merged kept
  have hcut : ((best pool).take (2 * k.val)).Sublist (best pool) := List.take_sublist _ _
  have hmerged : merged = ranked ((best pool).take (2 * k.val)) := by
    rw [show merged = merge embedded learned boost k.val from rfl, merge_eq, if_neg (by omega)]
  have hphrases : merged.map phrase = ((best pool).take (2 * k.val)).map phrase := by
    rw [hmerged, map_ranked fun _ _ => rfl]
  refine ⟨?_, ?_, ?_, ?_, ?_, ?_, ?_⟩
  · have hkeys : (merged.map key).Pairwise fun a b => b ≤ a := by
      rw [hmerged, map_ranked fun _ _ => rfl, List.pairwise_map]
      exact (pairwise_best pool).sublist hcut
    exact List.pairwise_map.mp hkeys
  · rw [hphrases]
    exact (nodup_best pool).sublist (hcut.map phrase)
  · rw [hmerged, map_rank_ranked, length_ranked]
  · intro r hr
    rw [hmerged] at hr
    obtain ⟨m, hm, he⟩ := unranked_mem_of_mem_ranked hr
    exact ⟨m, isBest_of_mem (hcut.subset hm), he⟩
  · intro m hm hmissing
    obtain ⟨b, hb, hp, hkey⟩ := exists_best hm
    have hcutb : b ∉ (best pool).take (2 * k.val) := by
      intro hin
      rw [hphrases, ← hp] at hmissing
      exact hmissing (List.mem_map_of_mem hin)
    obtain ⟨hlength, last, hlast, hle⟩ := last_of_cut (by omega) hb hcutb
    obtain ⟨r, hr, hrkey⟩ := exists_last_ranked hlast
    rw [hmerged, length_ranked]
    exact ⟨hlength, r, hr, by omega⟩
  · rw [show kept = atLeast least ms from rfl, atLeast, map_ranked fun _ _ => rfl]
    simp only [le_similarity_iff]
  · exact (map_rank_ranked _).trans (by rw [← length_ranked]; rfl)

/-- Of three phrases the one that is least similar is left out, and of two matches of one phrase the
earlier one stays. -/
theorem merge_keeps_best_crowded :
    let close : Match := ⟨"open it", "/open", "none", "", ⟨0x3fe8000000000000⟩, 0, .embedded⟩
    let near : Match := ⟨"open it", "/open", "none", "", ⟨0x3fe0000000000000⟩, 0, .learned⟩
    let far : Match := ⟨"close it", "/close", "none", "", ⟨0x3fd0000000000000⟩, 0, .embedded⟩
    let next : Match := ⟨"shut it", "/close", "none", "", ⟨0x3fd8000000000000⟩, 0, .learned⟩
    let merged := merge [far, close] [near, next] 0.25 1
    merged.map (fun m => (m.rank, m.text, m.origin)) = [(1, "open it", .embedded), (2, "shut it", .learned)] ∧
      merged.length = 2 * 1 ∧ ∃ last, merged.getLast? = some last ∧ far.key ≤ last.key := by
  intro close near far next merged
  have hmerged := merge_keeps_best [far, close] [near, next] 0.25 (k := 1) (Nat.le_refl 1) [] 0
  exact ⟨by decide +kernel, hmerged.2.2.2.2.1 far (by simp) (by decide +kernel)⟩

/-- The order of the words is not what decides whether a match is similar enough: it has the negative
zero below the positive one. -/
theorem not_kept_by_order :
    let m : Match := ⟨"open it", "/open", "none", "", ⟨0x8000000000000000⟩, 0, .embedded⟩
    (atLeast 0 [m]).map text = ["open it"] ∧ m.key < (Decimal.Double.ofFloat 0).key := by
  decide +kernel

/-- Without a cap every phrase stays, and with one that is a word of the machine there are at most so many.
So the list is within twice the count unless the count is zero. -/
theorem length_merge (embedded learned : List Match) (boost : Float) (k : Nat) :
    let phrases := ((embedded ++ learned).map phrase).toFinset.card
    (k < 2 ^ 63 →
      (merge embedded learned boost k).length = if k = 0 then phrases else min (2 * k) phrases) ∧
    ((merge embedded learned boost k).length ≤ 2 * k ↔ k ≠ 0 ∨ embedded ++ learned = []) := by
  intro phrases
  have hphrases : ((embedded ++ learned.map (boosted boost)).map phrase).toFinset.card = phrases := by
    simp [phrases, Function.comp_def, phrase_boosted]
  have hlength : (merge embedded learned boost k).length =
      if k = 0 then phrases else min (2 * k) phrases := by
    rw [merge_eq, length_ranked, ← hphrases, ← length_best]
    split
    · rfl
    · rw [List.length_take]
  refine ⟨fun _ => hlength, ?_⟩
  rw [hlength]
  by_cases hk : k = 0
  · have hnone : phrases = 0 ↔ embedded ++ learned = [] := by
      rw [Finset.card_eq_zero, List.toFinset_eq_empty_iff, List.map_eq_nil_iff]
    simp [hk, ← hnone]
  · rw [if_neg hk]
    exact iff_of_true (Nat.min_le_left _ _) (.inl hk)

/-- A single match is one too many for a count of zero. -/
theorem not_capped_at_zero :
    let m : Match := ⟨"open it", "/open", "none", "", ⟨0x3fe0000000000000⟩, 0, .embedded⟩
    ¬(merge [m] [] 0.25 0).length ≤ 2 * 0 := by
  decide +kernel

end Utterance.Semantic.Match
