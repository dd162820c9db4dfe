import Utterance.Proofs.Ranking
import Utterance.Semantic.Index

/-! A search finds the entries that are most similar to a query, and of those that are equally similar the ones
that came first. -/

namespace Utterance.Semantic.Index

variable (index : Index) (query : Embedding)

/-- How similar an entry is to a query. -/
def similarity (i : Fin index.length) : Decimal.Double :=
  Embedding.cosine query index[i].embedding

/-- Whether the entry at `i` is more similar than the one at `j`, or equally similar and came earlier. -/
def Beats (i j : Fin index.length) : Prop :=
  (similarity index query j).key < (similarity index query i).key ∨
    (similarity index query i).key = (similarity index query j).key ∧ i < j

/-- By what entries are put in order. -/
def closeness (e : Entry) : Int :=
  (Embedding.cosine query e.embedding).key

theorem search_eq (k : Nat) (origin : Origin) : index.search query k origin =
    Match.ranked (((Ranking.places (closeness query) index).take k).map fun i =>
      index[i].toMatch origin (similarity index query i)) := by
  have hscored : (index.map fun e => (e, Embedding.cosine query e.embedding)) =
      (List.finRange index.length).map fun i => (index[i], similarity index query i) := by
    conv_lhs => rw [← List.map_get_finRange index]
    rw [List.map_map]
    rfl
  rw [search, hscored]
  dsimp only
  rw [Ranking.descending_map, ← List.map_take, List.map_map]
  rfl

/-- A search returns the best entries of an index: no more than were asked for and no fewer than there are, each
from a place of its own, ranked from one on, the most similar first, and among equals the earliest. Every entry
that is returned beats every one that is not. -/
theorem search_eq_best (k : Nat) (origin : Origin) : ∃ places : List (Fin index.length),
    places.length = min k index.length ∧ places.Nodup ∧
    index.search query k origin = places.mapIdx (fun r i =>
      ⟨index[i].phrase.text, index[i].phrase.verb, index[i].phrase.target, index[i].phrase.constraint,
        clampSimilarity (similarity index query i), r + 1, origin⟩) ∧
    places.Pairwise (Beats index query) ∧
    ∀ i ∈ places, ∀ j, j ∉ places → Beats index query i j := by
  have hbeats : (Ranking.places (closeness query) index).Pairwise (Beats index query) :=
    Ranking.pairwise_places (closeness query) index
  have hfirst : ((Ranking.places (closeness query) index).take k).Sublist _ := List.take_sublist _ _
  refine ⟨(Ranking.places (closeness query) index).take k, ?_, hfirst.nodup (Ranking.nodup_places _ _), ?_,
    hbeats.sublist hfirst, fun i hi j hj => Ranking.before_of_mem_take (closeness query) index hi hj⟩
  · rw [List.length_take, Ranking.length_places]
  · rw [search_eq]
    apply List.ext_getElem
    · simp [Match.ranked]
    · intro r _ _
      simp [Match.ranked, Entry.toMatch]

end Utterance.Semantic.Index
