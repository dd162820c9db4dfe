import Utterance.Envelope

/-! Objects whose keys differ even in lower case lose no member when keys are merged, and an
envelope in such an object is told by its members. -/

namespace Utterance.Json

theorem setMember_of_not_mem {k : String} {v : Json} {ms : List (String × Json)}
    (h : k ∉ ms.map Prod.fst) : setMember k v ms = ms ++ [(k, v)] := by
  induction ms with
  | nil => rfl
  | cons m ms ih =>
    simp only [List.map_cons, List.mem_cons, not_or] at h
    simp [setMember, Ne.symm h.1, ih h.2]

theorem foldl_setMember {acc ms : List (String × Json)}
    (h : ((acc ++ ms).map Prod.fst).Nodup) :
    ms.foldl (fun acc m => setMember m.1 m.2 acc) acc = acc ++ ms := by
  induction ms generalizing acc with
  | nil => simp
  | cons m ms ih =>
    have hm : m.1 ∉ acc.map Prod.fst := by
      simp only [List.map_append, List.map_cons] at h
      intro hmem
      exact (List.nodup_append.mp h).2.2 _ hmem _ List.mem_cons_self rfl
    rw [List.foldl_cons, setMember_of_not_mem hm, ih (by simpa using h)]
    simp

/-- Members of different keys are merged to themselves. -/
theorem mergeMembers_of_nodup {ms : List (String × Json)} (h : (ms.map Prod.fst).Nodup) :
    mergeMembers ms = ms :=
  @foldl_setMember [] ms h

theorem mergedMembers_eq (ms : List (String × Json)) :
    mergedMembers ms = ms.map fun m => (m.1, m.2.merged) := by
  induction ms with
  | nil => simp [mergedMembers]
  | cons m ms ih => simp [mergedMembers, ih]

theorem lowerMembers_eq (ms : List (String × Json)) :
    lowerMembers ms = ms.map fun m => (Text.lowered m.1, m.2.lowerKeys) := by
  induction ms with
  | nil => simp [lowerMembers]
  | cons m ms ih => simp [lowerMembers, ih]

/-- The members of an object whose keys differ in lower case, as an envelope reads them. -/
theorem lowerKeys_merged_obj {ms : List (String × Json)}
    (h : (ms.map fun m => Text.lowered m.1).Nodup) :
    (merged (.obj ms)).lowerKeys =
      .obj (ms.map fun m => (Text.lowered m.1, m.2.merged.lowerKeys)) := by
  have hk : (ms.map Prod.fst).Nodup := by
    rw [show (ms.map fun m => Text.lowered m.1) = (ms.map Prod.fst).map Text.lowered by simp] at h
    exact List.Pairwise.of_map _ (fun a b hne he => hne (congrArg _ he)) h
  rw [merged, mergedMembers_eq, mergeMembers_of_nodup (by simpa [Function.comp_def] using hk)]
  rw [lowerKeys, lowerMembers_eq, List.map_map, mergeMembers_of_nodup]
  · rfl
  · simpa [Function.comp_def] using h

theorem eq_str_of_lowerKeys {v : Json} {t : String} (h : v.merged.lowerKeys = .str t) :
    v = .str t := by
  cases v <;> simp [merged, lowerKeys] at h ⊢
  exact h

theorem isObject_lowerKeys (v : Json) : v.merged.lowerKeys.isObject = v.isObject := by
  cases v <;> simp [merged, lowerKeys, isObject, members?]

theorem mem_of_lookup {ms : List (String × Json)} {k : String} {v : Json}
    (h : ms.lookup k = some v) : (k, v) ∈ ms := by
  induction ms with
  | nil => cases h
  | cons m ms ih =>
    rw [List.lookup_cons] at h
    split at h
    case h_1 heq =>
      cases h
      rw [beq_iff_eq.mp heq]
      exact List.mem_cons_self
    case h_2 => exact List.mem_cons_of_mem _ (ih h)

/-- A member that an envelope finds under a name in lower case. -/
theorem mem_of_get? {ms : List (String × Json)} {name : String} {v : Json}
    (h : (Json.obj (ms.map fun m => (Text.lowered m.1, m.2.merged.lowerKeys))).get? name = some v) :
    ∃ m ∈ ms, Text.lowered m.1 = name ∧ m.2.merged.lowerKeys = v := by
  have hm := mem_of_lookup (show _ = some v from h)
  obtain ⟨m, hm, he⟩ := List.mem_map.mp hm
  exact ⟨m, hm, congrArg Prod.fst he, congrArg Prod.snd he⟩

end Utterance.Json

namespace Utterance.Envelope

open Json

theorem isObject_of_controlPacket {j : Json} {p : ControlPacket} (h : controlPacket j = .ok p) :
    j.isObject := by
  cases ho : j.isObject with
  | true => rfl
  | false =>
    unfold controlPacket at h
    rw [ho] at h
    cases h

/-- What an envelope says of the members of its object. -/
theorem members_of_ofLower {j : Json} {e : Envelope} (h : ofLower j = .ok e) :
    j.get? "surface_response" = some (.str e.surface) ∧
      ∃ c, j.get? "control_packet" = some c ∧ c.isObject := by
  unfold ofLower at h
  cases ho : j.isObject with
  | false => rw [ho] at h; cases h
  | true =>
    rw [ho] at h
    simp only [Bool.not_true, Bool.false_eq_true, ↓reduceIte] at h
    cases hs : j.get? "surface_response" with
    | none => rw [hs] at h; cases h
    | some t =>
      rw [hs] at h
      cases t with
      | str t =>
        cases hc : j.get? "control_packet" with
        | none => rw [hc] at h; cases h
        | some c =>
          rw [hc] at h
          cases hp : controlPacket c with
          | error f => simp only [hp] at h; cases h
          | ok p =>
            simp only [hp] at h
            cases h
            exact ⟨rfl, c, rfl, isObject_of_controlPacket hp⟩
      | _ => cases h

/-- The two members of an object that make it an envelope, where keys differ in lower case. -/
theorem members_of_ofJson {ms : List (String × Json)} {e : Envelope}
    (hd : (ms.map fun m => Text.lowered m.1).Nodup) (h : ofJson (merged (.obj ms)) = .ok e) :
    (∃ k, (k, .str e.surface) ∈ ms ∧ Text.lowered k = "surface_response") ∧
      ∃ m ∈ ms, Text.lowered m.1 = "control_packet" ∧ m.2.isObject := by
  unfold ofJson at h
  rw [lowerKeys_merged_obj hd] at h
  obtain ⟨hs, c, hc, ho⟩ := members_of_ofLower h
  obtain ⟨m, hm, hk, hv⟩ := mem_of_get? hs
  obtain ⟨m', hm', hk', hv'⟩ := mem_of_get? hc
  refine ⟨⟨m.1, ?_, hk⟩, m', hm', hk', ?_⟩
  · rw [← eq_str_of_lowerKeys hv]
    exact hm
  · rw [← isObject_lowerKeys, hv']
    exact ho

end Utterance.Envelope
