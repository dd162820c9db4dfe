import Utterance.Proofs.Confidence
import Utterance.Proofs.Envelope.Objects
import Utterance.Proofs.Json.Writing

/-! An envelope that is written is read back from any reply that has it behind prose without a brace. -/

namespace Utterance

open Json

/-- A text without outer blanks. -/
def Text.IsTrim (s : String) : Prop :=
  trimmed s = s

/-- A classification as a reading leaves it. -/
structure Classification.IsCanonical (c : Classification) : Prop where
  category : Text.IsTrim c.category
  verb : Text.IsTrim c.verb
  target : Text.IsTrim c.target
  constraint : Text.IsTrim c.constraint
  confidence : Decimal.IsShare c.confidence

/-- A memory operation as a reading leaves it. -/
structure MemoryOperation.IsCanonical (m : MemoryOperation) : Prop where
  op : Text.IsTrim m.op
  key : Text.IsTrim m.key
  value : Text.IsTrim m.value
  named : m.op ≠ ""

/-- A control packet as a reading leaves it. -/
structure ControlPacket.IsCanonical (p : ControlPacket) : Prop where
  classification : p.classification.IsCanonical
  updates : ∀ u ∈ p.updates, Text.IsTrim u ∧ u ≠ ""
  memoryOperations : ∀ m ∈ p.memoryOperations, m.IsCanonical
  hypothesis : ∀ s ∈ p.selfCorrection, Text.IsTrim s.hypothesis
  isObject : ∀ u ∈ p.understanding, u.isObject
  isProper : ∀ u ∈ p.understanding, Everywhere IsProper u
  hasLowerKeys : ∀ u ∈ p.understanding, Everywhere HasLowerKeys u

/-- An envelope as a reading leaves it, and not too deep to be read. -/
structure Envelope.IsCanonical (e : Envelope) : Prop where
  control : e.control.IsCanonical
  depth : e.toJson.depth ≤ maxOpen

namespace Envelope

/-! What is written is read. -/

theorem normalizeConfidence_of_isShare {x : Float} (h : Decimal.IsShare x) : normalizeConfidence x = x := by
  have hle : ¬ 1 < x := fun hlt => ((Decimal.one_lt_iff x).mp hlt).2 ((Decimal.isShare_iff x).mp h).2
  rw [normalizeConfidence, decide_eq_false hle, clampConfidence_of_isShare h]
  rfl

theorem classification_toJson {c : Classification} (h : c.IsCanonical) : classification c.toJson = .ok c := by
  have hread : classification c.toJson = .ok ⟨Text.trimmed c.category, Text.trimmed c.verb,
      Text.trimmed c.target, Text.trimmed c.constraint, normalizeConfidence c.confidence⟩ := rfl
  rw [hread, h.category, h.verb, h.target, h.constraint, normalizeConfidence_of_isShare h.confidence]

theorem updates_ofTexts {us : List String} (h : ∀ u ∈ us, Text.IsTrim u ∧ u ≠ "") :
    updates (some (.ofTexts us)) = us := by
  have htexts : (us.map Json.str).filterMap text? = us := by
    rw [List.filterMap_map]
    exact List.filterMap_some
  have htrim : us.map Text.trimmed = us := (List.map_congr_left fun u hu => (h u hu).1).trans us.map_id
  rw [ofTexts, updates, htexts, htrim]
  refine List.filter_eq_self.mpr fun u hu => ?_
  simpa using (h u hu).2

theorem memoryOperations_toJson {ms : List MemoryOperation} (h : ∀ m ∈ ms, m.IsCanonical) :
    memoryOperations (some (.arr (ms.map MemoryOperation.toJson))) = ms := by
  have hobjects : (ms.map MemoryOperation.toJson).filter Json.isObject = ms.map MemoryOperation.toJson := by
    refine List.filter_eq_self.mpr fun j hj => ?_
    obtain ⟨m, -, rfl⟩ := List.mem_map.mp hj
    rfl
  have hread : memoryOperations (some (.arr (ms.map MemoryOperation.toJson))) =
      (ms.map fun m => ⟨Text.trimmed m.op, Text.trimmed m.key, Text.trimmed m.value⟩).filter
        (!·.op.isEmpty) := by
    rw [memoryOperations, hobjects, List.map_map]
    rfl
  have htrim : (ms.map fun m => (⟨Text.trimmed m.op, Text.trimmed m.key, Text.trimmed m.value⟩ :
      MemoryOperation)) = ms := by
    refine (List.map_congr_left fun m hm => ?_).trans ms.map_id
    rw [(h m hm).op, (h m hm).key, (h m hm).value]
    rfl
  rw [hread, htrim]
  refine List.filter_eq_self.mpr fun m hm => ?_
  simpa using (h m hm).named

/-- The self-correction that a control packet reads. -/
def correctionOf (j : Json) : Option SelfCorrection :=
  ((j.get? "self_correction").filter Json.isObject).map fun s =>
    ⟨((s.get? "triggered").bind Json.bool?).getD false, fieldText (s.get? "hypothesis")⟩

theorem controlPacket_of_classification {j x : Json} {c : Classification} (hj : j.isObject)
    (hx : j.get? "intent_classification" = some x) (hc : classification x = .ok c) :
    controlPacket j = .ok ⟨c, updates (j.get? "mangle_updates"),
      memoryOperations (j.get? "memory_operations"), correctionOf j,
      (j.get? "understanding").filter Json.isObject⟩ := by
  unfold controlPacket
  rw [hj, hx]
  dsimp only
  rw [hc]
  rfl

theorem correctionOf_toJson {p : ControlPacket} (h : ∀ s ∈ p.selfCorrection, Text.IsTrim s.hypothesis) :
    correctionOf p.toJson = p.selfCorrection := by
  obtain ⟨c, us, ms, correction, understanding⟩ := p
  cases correction with
  | none => cases understanding <;> rfl
  | some s =>
    have hread : correctionOf (ControlPacket.toJson ⟨c, us, ms, some s, understanding⟩) =
        some ⟨s.triggered, Text.trimmed s.hypothesis⟩ := rfl
    rw [hread, h s rfl]

theorem understanding_toJson {p : ControlPacket} (h : ∀ u ∈ p.understanding, u.isObject) :
    (p.toJson.get? "understanding").filter Json.isObject = p.understanding := by
  obtain ⟨c, us, ms, correction, understanding⟩ := p
  have hget : (ControlPacket.toJson ⟨c, us, ms, correction, understanding⟩).get? "understanding" =
      understanding := by
    cases correction <;> cases understanding <;> rfl
  rw [hget]
  cases understanding with
  | none => rfl
  | some u => rw [Option.filter_some, if_pos (h u rfl)]

theorem controlPacket_toJson {p : ControlPacket} (h : p.IsCanonical) : controlPacket p.toJson = .ok p := by
  have hread := controlPacket_of_classification (j := p.toJson) rfl rfl (classification_toJson h.classification)
  have hupdates : p.toJson.get? "mangle_updates" = some (.ofTexts p.updates) := rfl
  have hmemory : p.toJson.get? "memory_operations" =
      some (.arr (p.memoryOperations.map MemoryOperation.toJson)) := rfl
  rw [hread, hupdates, hmemory, updates_ofTexts h.updates, memoryOperations_toJson h.memoryOperations,
    correctionOf_toJson h.hypothesis, understanding_toJson h.isObject]

theorem ofLower_toJson {e : Envelope} (h : e.control.IsCanonical) : ofLower e.toJson = .ok e := by
  have hread : ofLower e.toJson = (controlPacket e.control.toJson).map (⟨·, e.surface⟩) := rfl
  rw [hread, controlPacket_toJson h]
  rfl

/-! What is written, part by part. -/

/-- The names of the fields of the objects that an envelope writes. -/
def fieldNames : List (List String) :=
  [["control_packet", "surface_response"],
    ["intent_classification", "mangle_updates", "memory_operations", "self_correction", "understanding"],
    ["category", "verb", "target", "constraint", "confidence"], ["op", "key", "value"],
    ["triggered", "hypothesis"]]

/-- What holds of everything that an envelope writes by itself: of all but its confidence and its
understanding. -/
structure Fits (P : Json → Prop) : Prop where
  str (s : String) : P (.str s)
  bool (b : Bool) : P (.bool b)
  arr (xs : List Json) : P (.arr xs)
  obj (ms : List (String × Json)) (keys : List String) (hk : keys ∈ fieldNames)
    (hs : (ms.map Prod.fst).Sublist keys) : P (.obj ms)

theorem fieldNames_tidy : ∀ keys ∈ fieldNames, keys.Nodup ∧ ∀ k ∈ keys, Text.lowered k = k := by
  decide

theorem fits_isProper : Fits IsProper where
  str _ := trivial
  bool _ := trivial
  arr _ := trivial
  obj _ keys hk hs := hs.nodup (fieldNames_tidy keys hk).1

theorem fits_hasLowerKeys : Fits HasLowerKeys where
  str _ := trivial
  bool _ := trivial
  arr _ := trivial
  obj _ keys hk hs := fun k hm => (fieldNames_tidy keys hk).2 k (hs.subset hm)

theorem fits_rereads : Fits Rereads where
  str _ := trivial
  bool _ := trivial
  arr _ := trivial
  obj _ _ _ _ := trivial

section Parts

variable {P : Json → Prop} (hP : Fits P)

include hP

theorem everywhere_str (s : String) : Everywhere P (.str s) :=
  everywhere_leaf rfl rfl (hP.str s)

theorem everywhere_texts (ss : List String) : Everywhere P (.ofTexts ss) := by
  refine everywhere_arr (hP.arr _) fun j hj => ?_
  obtain ⟨s, -, rfl⟩ := List.mem_map.mp hj
  exact everywhere_str hP s

theorem everywhere_classification {c : Classification} (hc : P (.float c.confidence)) :
    Everywhere P c.toJson := by
  refine everywhere_obj (hP.obj _ _ (by decide) (.refl ["category", "verb", "target", "constraint",
    "confidence"])) ?_
  simp only [List.forall_mem_cons]
  exact ⟨everywhere_str hP _, everywhere_str hP _, everywhere_str hP _, everywhere_str hP _,
    everywhere_leaf rfl rfl hc, nofun⟩

theorem everywhere_memory (ms : List MemoryOperation) :
    Everywhere P (.arr (ms.map MemoryOperation.toJson)) := by
  refine everywhere_arr (hP.arr _) fun j hj => ?_
  obtain ⟨m, -, rfl⟩ := List.mem_map.mp hj
  refine everywhere_obj (hP.obj _ _ (by decide) (.refl ["op", "key", "value"])) ?_
  simp only [List.forall_mem_cons]
  exact ⟨everywhere_str hP _, everywhere_str hP _, everywhere_str hP _, nofun⟩

theorem everywhere_correction (s : SelfCorrection) : Everywhere P s.toJson := by
  refine everywhere_obj (hP.obj _ _ (by decide) (.refl ["triggered", "hypothesis"])) ?_
  simp only [List.forall_mem_cons]
  exact ⟨everywhere_leaf rfl rfl (hP.bool _), everywhere_str hP _, nofun⟩

theorem everywhere_control {p : ControlPacket} (hc : P (.float p.classification.confidence))
    (hu : ∀ u ∈ p.understanding, Everywhere P u) : Everywhere P p.toJson := by
  have hkeys : P p.toJson := by
    refine hP.obj _ ["intent_classification", "mangle_updates", "memory_operations", "self_correction",
      "understanding"] (by decide) ?_
    cases p.selfCorrection <;> cases p.understanding <;> exact List.isSublist_iff_sublist.mp rfl
  refine everywhere_obj hkeys ?_
  simp only [List.forall_mem_append, List.forall_mem_cons]
  refine ⟨⟨⟨everywhere_classification hP hc, everywhere_texts hP _, everywhere_memory hP _, nofun⟩, ?_⟩,
    ?_⟩
  · intro m hm
    obtain ⟨s, -, rfl⟩ := Option.map_eq_some_iff.mp (Option.mem_toList.mp hm)
    exact everywhere_correction hP s
  · intro m hm
    obtain ⟨u, h, rfl⟩ := Option.map_eq_some_iff.mp (Option.mem_toList.mp hm)
    exact hu u h

/-- What fits the parts that an envelope writes by itself, and its confidence and its understanding, holds
of all that it writes. -/
theorem everywhere_toJson {e : Envelope} (hc : P (.float e.control.classification.confidence))
    (hu : ∀ u ∈ e.control.understanding, Everywhere P u) : Everywhere P e.toJson := by
  refine everywhere_obj (hP.obj _ _ (by decide) (.refl ["control_packet", "surface_response"])) ?_
  simp only [List.forall_mem_cons]
  exact ⟨everywhere_control hP hc hu, everywhere_str hP _, nofun⟩

end Parts

theorem ofJson_toJson {e : Envelope} (h : e.control.IsCanonical) : ofJson e.toJson = .ok e := by
  have hproper := everywhere_toJson fits_isProper (e := e) trivial h.isProper
  have hlower := everywhere_toJson fits_hasLowerKeys (e := e) trivial h.hasLowerKeys
  rw [ofJson, lowerKeys_eq_self hproper hlower, ofLower_toJson h]

/-! Replies. -/

/-- A reply whose first object is an envelope, whatever stands behind it. -/
theorem parse_of_ofText? {before text : String} (hb : '{' ∉ before.toList) {j : Json}
    (ht : Json.ofText? text = some j) (hj : j.isObject) {e : Envelope} (he : ofJson j = .ok e)
    (after : String) : parse (before ++ text ++ after) = .ok e := by
  obtain ⟨front, body, back, htext, hfront, -, hinside⟩ := exists_isInside ht hj
  have hlead : '{' ∉ before.toList ++ front := by
    rw [List.mem_append, not_or]
    exact ⟨hb, not_mem_of_spaces hfront⟩
  have hreply : (before ++ text ++ after).toList =
      (before.toList ++ front) ++ '{' :: (body ++ '}' :: (back ++ after.toList)) := by
    simp [htext]
  have hfirst := firstObject_text hreply hlead hinside
  unfold parse readings
  rw [hfirst]
  unfold choose
  dsimp only [List.cons_append]
  rw [he]

/-- An envelope as a reading leaves it is read back from what is written of it, behind any prose without a
brace and before any text, where its doubles are read back. -/
theorem parse_toJson {e : Envelope} (h : e.IsCanonical)
    (hc : Rereads (.float e.control.classification.confidence))
    (hu : ∀ u ∈ e.control.understanding, Everywhere Rereads u) {before : String}
    (hb : '{' ∉ before.toList) (after : String) : parse (before ++ e.toJson.compact ++ after) = .ok e := by
  have hproper := everywhere_toJson fits_isProper (e := e) trivial h.control.isProper
  have hrereads := everywhere_toJson fits_rereads hc hu
  exact parse_of_ofText? hb (ofText?_compact hproper hrereads h.depth) rfl (ofJson_toJson h.control) after

/-- An envelope with all of its parts, and with characters that have to be escaped. -/
def elaborate : Envelope where
  control := {
    classification := ⟨"/query", "/explain", "say \"hi\" \x7bnow\x7d", "in C:\\tmp", 0.25⟩
    updates := ["fact(/a).", "fact(\"two\nlines\")."]
    memoryOperations := [⟨"store", "key", ""⟩, ⟨"forget", "", "né"⟩]
    selfCorrection := some ⟨true, "was\tused"⟩
    understanding := some (.obj [("goals", .arr [.int (-3), .float 0.1]), ("größe", .null)]) }
  surface := " \x01 as it is \"quoted\" \x7d "

theorem isCanonical_elaborate : elaborate.IsCanonical where
  control := {
    classification := ⟨rfl, rfl, rfl, rfl, by decide, by decide⟩
    updates := by
      simp only [elaborate, List.forall_mem_cons]
      exact ⟨⟨rfl, by decide⟩, ⟨rfl, by decide⟩, nofun⟩
    memoryOperations := by
      simp only [elaborate, List.forall_mem_cons]
      exact ⟨⟨rfl, rfl, rfl, by decide⟩, ⟨rfl, rfl, rfl, by decide⟩, nofun⟩
    hypothesis := by
      rintro s ⟨⟩
      rfl
    isObject := by
      rintro u ⟨⟩
      rfl
    isProper := by
      rintro u ⟨⟩
      refine everywhere_obj (by unfold IsProper; decide) ?_
      simp only [List.forall_mem_cons]
      refine ⟨everywhere_arr trivial ?_, everywhere_leaf rfl rfl trivial, nofun⟩
      simp only [List.forall_mem_cons]
      exact ⟨everywhere_leaf rfl rfl ⟨by decide, by decide⟩, everywhere_leaf rfl rfl trivial, nofun⟩
    hasLowerKeys := by
      rintro u ⟨⟩
      refine everywhere_obj (by unfold HasLowerKeys; decide) ?_
      simp only [List.forall_mem_cons]
      refine ⟨everywhere_arr trivial ?_, everywhere_leaf rfl rfl trivial, nofun⟩
      simp only [List.forall_mem_cons]
      exact ⟨everywhere_leaf rfl rfl trivial, everywhere_leaf rfl rfl trivial, nofun⟩ }
  depth := by decide

theorem rereads_elaborate : ∀ u ∈ elaborate.control.understanding, Everywhere Rereads u := by
  rintro u ⟨⟩
  refine everywhere_obj trivial ?_
  simp only [List.forall_mem_cons]
  refine ⟨everywhere_arr trivial ?_, everywhere_leaf rfl rfl trivial, nofun⟩
  simp only [List.forall_mem_cons]
  exact ⟨everywhere_leaf rfl rfl trivial, everywhere_leaf rfl rfl rfl, nofun⟩

theorem parse_elaborate :
    parse ("As \"asked\" [1]:\n```json\n" ++ elaborate.toJson.compact ++ "\n``` \x7b\"more\": [") =
      .ok elaborate :=
  parse_toJson isCanonical_elaborate rfl rereads_elaborate (by decide) _

end Envelope
end Utterance
