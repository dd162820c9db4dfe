import Utterance.Proofs.Json.LowerKeys
import Utterance.Proofs.Stream.Following

/-! What is shown of a reply that arrives in pieces: of a whole envelope its response and nothing
else, and of any front of a document nothing before the control packet is complete. -/

namespace Utterance

/-- A text that is one object with the given members, no two keys of which are equal in lower case.
-/
structure Json.IsObjectText (text : String) (ms : List (String × Json)) : Prop where
  written : Json.written? text.toList = some (.obj ms)
  distinct : (ms.map fun m => Text.lowered m.1).Nodup

/-- Whether a member of an envelope is its control packet. -/
def Json.IsControl (m : String × Json) : Prop := Text.lowered m.1 = "control_packet" ∧ m.2.isObject

/-- A text at whose last character the reader finishes a member of the outermost object. -/
def Json.Finishes (text : List Char) (m : String × Json) : Prop :=
  ∃ front c s t, text = front ++ [c] ∧ run start front = some s ∧ step s c = some t ∧
    s.outer.waiting = some m.1 ∧ t.outer.members = m :: s.outer.members

/-- A text that ends with the closing brace of the control packet. -/
def Json.EndsControl (text : List Char) : Prop :=
  text.getLast? = some '}' ∧ ∃ m, Json.Finishes text m ∧ Json.IsControl m

/-- A front of a document that ends before the control packet is complete, if there is one. -/
def Json.BeforeControl (doc : String) (ms : List (String × Json)) (front : List Char) : Prop :=
  (∀ m ∈ ms, ¬Json.IsControl m) ∨
    ∀ text, text <+: doc.toList → Json.EndsControl text → front.length < text.length

namespace Json

theorem run_start_done {cs : List Char} {ms : List (String × Json)}
    (h : written? cs = some (.obj ms)) : run start cs = some (.done (.obj ms)) := by
  obtain ⟨s, hs, hr⟩ := Option.bind_eq_some_iff.mp h
  rw [hs]
  unfold State.result? at hr
  split at hr
  · cases hr; rfl
  · split at hr
    · have := value?_isScalar hr
      cases this
    · cases hr
  · cases hr

theorem sound_start : start.Sound := trivial

theorem IsObjectText.distinct_reverse {text : String} {ms : List (String × Json)}
    (h : IsObjectText text ms) : (ms.reverse.map fun m => Text.lower m.1.toList).Nodup := by
  have hd := h.distinct
  rw [show (ms.map fun m => Text.lowered m.1) =
    (ms.map fun m => Text.lower m.1.toList).map String.ofList by simp [Text.lowered]] at hd
  rw [List.map_reverse]
  refine (List.reverse_perm _).nodup_iff.mpr ?_
  exact List.Pairwise.of_map _ (fun a b hne he => hne (congrArg _ he)) hd

theorem IsObjectText.outerDistinct {text : String} {ms : List (String × Json)}
    (h : IsObjectText text ms) : (State.done (.obj ms)).outer.Distinct := by
  show ((ms.reverse.map Prod.fst).map fun k : String => Text.lower k.toList).Nodup
  rw [List.map_map]
  exact h.distinct_reverse

theorem Outer.Move.finish_of_mem {a b : Outer} {c : Char} {m : String × Json} (h : a.Move c b)
    (hm : m ∈ b.members) (hn : m ∉ a.members) :
    a.waiting = some m.1 ∧ b.members = m :: a.members ∧ (m.2.isObject → c = '}') := by
  cases h with
  | stay => exact absurd hm hn
  | key => exact absurd hm hn
  | finish k v hw hv =>
    rcases List.mem_cons.mp hm with rfl | hm
    · exact ⟨hw, rfl, hv⟩
    · exact absurd hm hn

/-- A member is finished at some character of the text behind which it stands. -/
theorem exists_finish {s t : State} {cs : List Char} {m : String × Json} (hs : s.Sound)
    (h : run s cs = some t) (hm : m ∈ t.outer.members) (hn : m ∉ s.outer.members) :
    ∃ xs c ys a b, cs = xs ++ c :: ys ∧ run s xs = some a ∧ step a c = some b ∧
      a.outer.waiting = some m.1 ∧ b.outer.members = m :: a.outer.members ∧
      (m.2.isObject → c = '}') := by
  induction cs generalizing s with
  | nil => cases h; exact absurd hm hn
  | cons c cs ih =>
    obtain ⟨u, hu, h⟩ := Option.bind_eq_some_iff.mp h
    by_cases hmu : m ∈ u.outer.members
    · exact ⟨[], c, cs, s, u, rfl, rfl, hu, (move_step hs hu).finish_of_mem hmu hn⟩
    · obtain ⟨xs, d, ys, a, b, rfl, ha, hb, hrest⟩ := ih (sound_step hs hu) h hmu
      exact ⟨c :: xs, d, ys, a, b, rfl, by simp [run, hu, ha], hb, hrest⟩

theorem exists_endsControl {s : State} {front : List Char} {m : String × Json}
    (h : run start front = some s) (hm : m ∈ s.outer.members) (hc : IsControl m) :
    ∃ text, text <+: front ∧ EndsControl text := by
  obtain ⟨xs, c, ys, a, b, rfl, ha, hb, hw, hms, hbr⟩ :=
    exists_finish sound_start h hm List.not_mem_nil
  refine ⟨xs ++ [c], ⟨ys, by simp⟩, ?_, m, ⟨xs, c, a, b, rfl, ha, hb, hw, hms⟩, hc⟩
  rw [List.getLast?_concat, hbr hc.2]

theorem EndsControl.exists_mem {s : State} {text front : List Char} (hc : EndsControl text)
    (ht : text <+: front) (h : run start front = some s) :
    ∃ m ∈ s.outer.members, IsControl m := by
  obtain ⟨-, m, ⟨xs, c, a, b, rfl, ha, hb, -, hms⟩, hm⟩ := hc
  obtain ⟨rest, rfl⟩ := ht
  have hr : run b rest = some s := by
    rw [List.append_assoc, run_append, ha] at h
    simpa [run, hb] using h
  have hsound := sound_step (sound_run sound_start ha) hb
  refine ⟨m, (outer_run hsound hr).1.subset ?_, hm⟩
  rw [hms]
  exact List.mem_cons_self

end Json

namespace Stream.Gate

open Json (IsObjectText EndsControl BeforeControl)

theorem isKey_iff {k name : String} : isKey name.toList k ↔ Text.lowered k = name := by
  rw [isKey, beq_iff_eq, ← String.toList_inj, Text.lowered, String.toList_ofList]

theorem isControl_iff {m : String × Json} : isControl m ↔ Json.IsControl m :=
  Bool.and_eq_true_iff.trans (and_congr isKey_iff Iff.rfl)

theorem Standing.control_inner {f : Json.Frame} {o : List Json.Frame} {g : Gate} (ho : o ≠ [])
    (h : Standing (f :: o) g) : g.controlDone = (Json.outerOf o).members.any isControl := by
  rw [← Json.outerOf_cons (f := f) ho]
  exact h.control

theorem Follows.control {s : Json.State} {g : Gate} (h : Follows s g) :
    g.controlDone = s.outer.members.any isControl := by
  cases s with
  | value b o => exact Standing.control h
  | word rest v o => exact Standing.control h
  | number phase t o => exact Standing.control h
  | done v => exact h.2.1
  | key b ms o =>
    cases o with
    | nil => exact Resting.control h.2
    | cons f o => exact Standing.control_inner (List.cons_ne_nil f o) h
  | colon ms k o =>
    cases o with
    | nil => exact Resting.control h.2
    | cons f o => exact Standing.control_inner (List.cons_ne_nil f o) h
  | afterMember ms o =>
    cases o with
    | nil => exact Resting.control h
    | cons f o => exact Standing.control_inner (List.cons_ne_nil f o) h
  | afterItem items o =>
    cases o with
    | nil => exact Standing.control (o := [.array []]) h
    | cons f o => exact Standing.control_inner (List.cons_ne_nil f o) h
  | text role phase sofar o =>
    obtain ⟨r, e, -, -, h⟩ := h
    match role, o with
    | .key ms, [] => exact h.2.2.control
    | .key _, f :: o => exact Standing.control_inner (g := g.outside) (List.cons_ne_nil f o) h.2
    | .value, o =>
      obtain ⟨-, h⟩ := h
      split at h
      · exact h.2.control
      · exact h.control

/-- The reader and the gate between a front of a document and its rest. -/
structure BehindFront (ms : List (String × Json)) (front rest : List Char) (s : Json.State) : Prop where
  read : Json.run Json.start front = some s
  sound : s.Sound
  rooted : s.rooted
  distinct : s.outer.Distinct
  members : s.outer.members <:+ ms.reverse
  done : Json.run s rest = some (.done (.obj ms))
  follows : Follows s (run {} front)

theorem exists_behindFront {text : String} {ms : List (String × Json)} {front : List Char}
    (h : IsObjectText text ms) (hf : front <+: text.toList) :
    ∃ rest s, front ++ rest = text.toList ∧ BehindFront ms front rest s := by
  obtain ⟨rest, hr⟩ := hf
  have hw := Json.run_start_done h.written
  rw [← hr, Json.run_append] at hw
  obtain ⟨s, hs, hrest⟩ := Option.bind_eq_some_iff.mp hw
  have hsound := Json.sound_run Json.sound_start hs
  have hgrown := Json.outer_run hsound hrest
  have hd := distinct_of_suffix hgrown.2 h.outerDistinct
  have hroot : s.rooted := rooted_run hrest rfl
  exact ⟨rest, s, hr, hs, hsound, hroot, hd, hgrown.1, hrest,
    follows_run Json.sound_start hd hroot hs follows_start⟩

/-- The gate behind a whole document. -/
theorem follows_whole {text : String} {ms : List (String × Json)} (h : IsObjectText text ms) :
    Follows (.done (.obj ms)) (run {} text.toList) :=
  follows_run Json.sound_start h.outerDistinct rfl (Json.run_start_done h.written) follows_start

/-- Nothing is let through in all as long as the control packet is open. -/
theorem outputs_eq_nil_of_control {ps : List String} {front : List Char}
    (hp : (String.join ps).toList = front) (hc : (run {} front).controlDone = false) :
    outputs {} ps = [] := by
  apply outputs_eq_nil
  have ho := join_outputs tidy_empty ps
  rw [hp, shown, hc] at ho
  exact String.toList_eq_nil_iff.mp ho

/-- What is let through is a front of what has come of the response in the end. -/
theorem outputs_prefix {ps : List String} {front : List Char} (rest : List Char)
    (hp : (String.join ps).toList = front) :
    (String.join (outputs {} ps)).toList <+: (run {} (front ++ rest)).surface.reverse := by
  have ho := join_outputs tidy_empty ps
  rw [hp] at ho
  rw [show (String.join (outputs {} ps)).toList = (run {} front).shown by
    simpa [passed] using ho, run_append]
  unfold shown
  split
  · exact List.reverse_prefix.mpr (run_grown _ _).surface
  · exact List.nil_prefix

theorem not_isKey_of_nodup {m m' : String × Json} {ms : List (String × Json)} {name : List Char}
    (hn : ((m :: ms).map fun m => Text.lower m.1.toList).Nodup) (hm : m' ∈ ms)
    (hk : isKey name m'.1) : isKey name m.1 = false := by
  rw [List.map_cons, List.nodup_cons] at hn
  refine Bool.eq_false_iff.mpr fun he => hn.1 ?_
  exact List.mem_map.mpr ⟨m', hm, (beq_iff_eq.mp hk).trans (beq_iff_eq.mp he).symm⟩

theorem surfaceOf_of_mem {ms : List (String × Json)} {k t : String}
    (hn : (ms.map fun m => Text.lower m.1.toList).Nodup) (hm : (k, .str t) ∈ ms)
    (hk : isKey surfaceKey k) : surfaceOf ms = t.toList.reverse := by
  induction ms with
  | nil => cases hm
  | cons m ms ih =>
    cases hm with
    | head => simp [surfaceOf, hk]
    | tail _ hm =>
      rw [List.map_cons, List.nodup_cons] at hn
      rw [← ih hn.2 hm, surfaceOf, List.find?_cons_of_neg]
      · rfl
      · simp [not_isKey_of_nodup (List.nodup_cons.mpr hn) hm hk]

theorem surfaceOf_eq_nil {ms : List (String × Json)}
    (h : ∀ k t, (k, .str t) ∈ ms → ¬isKey surfaceKey k) : surfaceOf ms = [] := by
  unfold surfaceOf
  split
  case h_1 k t he =>
    exact absurd (by simpa using List.find?_some he) (h k t (List.mem_of_find?_eq_some he))
  · rfl

/-- What the gate has of the response behind a whole document that has one. -/
theorem surface_whole {doc k t : String} {ms : List (String × Json)} (h : IsObjectText doc ms)
    (hm : (k, .str t) ∈ ms) (hk : Text.lowered k = "surface_response") :
    (run {} doc.toList).surface = t.toList.reverse := by
  rw [(follows_whole h).2.2]
  exact surfaceOf_of_mem h.distinct_reverse (List.mem_reverse.mpr hm) (isKey_iff.mpr hk)

/-- What the gate has of the response behind a whole document that has none. -/
theorem surface_whole_nil {doc : String} {ms : List (String × Json)} (h : IsObjectText doc ms)
    (hn : ∀ k t, (k, .str t) ∈ ms → Text.lowered k ≠ "surface_response") :
    (run {} doc.toList).surface = [] := by
  rw [(follows_whole h).2.2]
  exact surfaceOf_eq_nil fun k t hm hk => hn k t (List.mem_reverse.mp hm) (isKey_iff.mp hk)

/-- The gate knows the control packet to be complete from its closing brace on, and no earlier. -/
theorem controlDone_iff {doc : String} {ms : List (String × Json)} {front : List Char}
    (h : IsObjectText doc ms) (hf : front <+: doc.toList) :
    (run {} front).controlDone = false ↔ BeforeControl doc ms front := by
  obtain ⟨rest, s, -, hs⟩ := exists_behindFront h hf
  rw [hs.follows.control]
  constructor
  · intro ha
    refine .inr fun text ht he => Nat.lt_of_not_le fun hl => ?_
    obtain ⟨m, hm, hk⟩ := he.exists_mem (List.prefix_of_prefix_length_le ht hf hl) hs.read
    exact Bool.false_ne_true (ha.symm.trans (List.any_eq_true.mpr ⟨m, hm, isControl_iff.mpr hk⟩))
  · intro hb
    refine Bool.eq_false_iff.mpr fun ha => ?_
    obtain ⟨m, hm, hk⟩ := List.any_eq_true.mp ha
    rcases hb with hb | hb
    · exact hb m (List.mem_reverse.mp (hs.members.subset hm)) (isControl_iff.mp hk)
    · obtain ⟨text, ht, he⟩ := Json.exists_endsControl hs.read hm (isControl_iff.mp hk)
      exact Nat.not_lt.mpr ht.length_le (hb text (ht.trans hf) he)

/-- Whatever pieces a whole envelope comes in, and whatever follows it, its response is shown, all
of it and nothing else. -/
theorem join_outputs_envelope {doc suffix : String} {ms : List (String × Json)} {e : Envelope}
    {pieces : List String} (h : IsObjectText doc ms)
    (he : (Json.ofText? doc).map Envelope.ofJson = some (.ok e))
    (hp : String.join pieces = doc ++ suffix) :
    String.join (outputs {} pieces) = e.surface := by
  have hm : Json.ofText? doc = some (Json.merged (.obj ms)) := by
    rw [Json.ofText?, Json.decode?, h.written]
    rfl
  rw [hm, Option.map_some, Option.some.injEq] at he
  obtain ⟨⟨k, hk, hks⟩, m, hmem, hmc⟩ := Envelope.members_of_ofJson h.distinct he
  obtain ⟨hended, hcontrol, -⟩ := follows_whole h
  have ho := join_outputs tidy_empty pieces
  have hc : (run {} doc.toList).controlDone = true := by
    rw [hcontrol]
    exact List.any_eq_true.mpr ⟨m, List.mem_reverse.mpr hmem, isControl_iff.mpr hmc⟩
  rw [hp, String.toList_append, run_append, run_of_ended hended, shown, if_pos hc,
    surface_whole h hk hks, List.reverse_reverse] at ho
  exact String.toList_inj.mp ho

/-- A reply that gives its response first, with a key and a character in escapes. -/
def escapedReply : String :=
  "\x7b\"Surface\\u005fresponse\":\"\\ud83d\\ude00\"," ++
    "\"control_packet\":\x7b\"intent_classification\":\x7b\x7d\x7d\x7d"

theorem isObjectText_escapedReply :
    IsObjectText escapedReply [("Surface_response", .str "😀"),
      ("control_packet", .obj [("intent_classification", .obj [])])] :=
  ⟨rfl, by decide +kernel⟩

theorem envelope_escapedReply :
    (Json.ofText? escapedReply).map Envelope.ofJson = some (.ok
      ⟨⟨⟨"", "", "", "", Envelope.normalizeConfidence 0⟩, [], [], none, none⟩, "😀"⟩) := by
  have hs : Text.lowered "Surface_response" = "surface_response" := by decide +kernel
  have hc : Text.lowered "control_packet" = "control_packet" := by decide +kernel
  have hi : Text.lowered "intent_classification" = "intent_classification" := by decide +kernel
  have hl : (Json.obj [("Surface_response", .str "😀"),
      ("control_packet", .obj [("intent_classification", .obj [])])]).merged.lowerKeys =
      .obj [("surface_response", .str "😀"),
        ("control_packet", .obj [("intent_classification", .obj [])])] := by
    rw [Json.lowerKeys_merged_obj isObjectText_escapedReply.distinct]
    simp [Json.merged, Json.mergedMembers, Json.mergeMembers, Json.setMember, Json.lowerKeys,
      Json.lowerMembers, hs, hc, hi]
  rw [Json.ofText?, Json.decode?, isObjectText_escapedReply.written, Option.map_some,
    Option.map_some, Envelope.ofJson, hl]
  rfl

theorem join_outputs_escapedReply :
    String.join (outputs {} ["\x7b\"Surface\\u005fresponse\":\"\\ud8", "3d\\ude00\"," ++
      "\"control_packet\":\x7b\"intent_classification\":\x7b\x7d\x7d\x7d", "\x7d\""]) = "😀" := by
  have hp : String.join ["\x7b\"Surface\\u005fresponse\":\"\\ud8", "3d\\ude00\"," ++
      "\"control_packet\":\x7b\"intent_classification\":\x7b\x7d\x7d\x7d", "\x7d\""] =
      escapedReply ++ "\x7d\"" := by decide +kernel
  exact join_outputs_envelope isObjectText_escapedReply envelope_escapedReply hp

/-- What is shown of a front of a document: nothing before the control packet is complete, and from
there on a front of the response. -/
theorem outputs_front {doc : String} {ms : List (String × Json)} {front : List Char}
    {pieces : List String} (h : IsObjectText doc ms) (hf : front <+: doc.toList)
    (hp : (String.join pieces).toList = front) :
    (BeforeControl doc ms front → outputs {} pieces = []) ∧
      (¬BeforeControl doc ms front →
        (∀ k t, (k, .str t) ∈ ms → Text.lowered k = "surface_response" →
          (String.join (outputs {} pieces)).toList <+: t.toList) ∧
        ((∀ k t, (k, .str t) ∈ ms → Text.lowered k ≠ "surface_response") →
          outputs {} pieces = [])) := by
  obtain ⟨rest, hr⟩ := hf
  have hpre := outputs_prefix rest hp
  rw [hr] at hpre
  refine ⟨fun hb => outputs_eq_nil_of_control hp ((controlDone_iff h ⟨rest, hr⟩).mpr hb),
    fun _ => ⟨fun k t hm hk => ?_, fun hn => ?_⟩⟩
  · rwa [surface_whole h hm hk, List.reverse_reverse] at hpre
  · rw [surface_whole_nil h hn] at hpre
    exact outputs_eq_nil (String.toList_eq_nil_iff.mp (List.prefix_nil.mp hpre))

/-- A reply that gives its control packet first, and tells of another one in its response. -/
def orderlyReply : String :=
  "\x7b\"control_packet\":\x7b\x7d,\"surface_response\":\"\x7b\\\"control_packet\\\"\"\x7d"

/-- The members of that reply. -/
def orderlyMembers : List (String × Json) :=
  [("control_packet", .obj []), ("surface_response", .str "\x7b\"control_packet\"")]

theorem isObjectText_orderlyReply : IsObjectText orderlyReply orderlyMembers :=
  ⟨rfl, by decide +kernel⟩

theorem endsControl_orderlyReply : EndsControl (orderlyReply.toList.take 20) :=
  ⟨by decide +kernel, ("control_packet", .obj []), ⟨orderlyReply.toList.take 19, '}',
    .key true [] [.object [] "control_packet"], .afterMember [("control_packet", .obj [])] [],
    by decide +kernel, rfl, rfl, rfl, rfl⟩, by decide +kernel, rfl⟩

theorem outputs_front_orderlyReply :
    outputs {} ["\x7b\"control_", "packet\":\x7b"] = [] ∧
      (String.join (outputs {} ["\x7b\"control_packet\":\x7b",
        "\x7d,\"surface_response\":\"\x7b\\"])).toList <+: "\x7b\"control_packet\"".toList := by
  have hp : (String.join ["\x7b\"control_", "packet\":\x7b"]).toList =
      orderlyReply.toList.take 19 := by decide +kernel
  have hq : (String.join ["\x7b\"control_packet\":\x7b",
      "\x7d,\"surface_response\":\"\x7b\\"]).toList = orderlyReply.toList.take 43 := by
    decide +kernel
  have hb : BeforeControl orderlyReply orderlyMembers (orderlyReply.toList.take 19) := by
    refine .inr fun text ht hc => Nat.lt_of_not_le fun hl => ?_
    have hn : ∀ n < 20, (orderlyReply.toList.take n).getLast? ≠ some '}' := by decide +kernel
    have hl : text.length ≤ 19 := hl
    apply hn text.length (by omega)
    rw [← List.prefix_iff_eq_take.mp ht]
    exact hc.1
  have hnb : ¬BeforeControl orderlyReply orderlyMembers (orderlyReply.toList.take 43) := by
    rintro (hb | hb)
    · exact hb ("control_packet", .obj []) (List.mem_cons_self ..) ⟨by decide +kernel, rfl⟩
    · exact absurd (hb _ (List.take_prefix ..) endsControl_orderlyReply) (by decide +kernel)
  have hm : ("surface_response", Json.str "\x7b\"control_packet\"") ∈ orderlyMembers := by
    simp [orderlyMembers]
  exact ⟨(outputs_front isObjectText_orderlyReply (List.take_prefix ..) hp).1 hb,
    ((outputs_front isObjectText_orderlyReply (List.take_prefix ..) hq).2 hnb).1 _ _ hm
      (by decide +kernel)⟩

end Stream.Gate

end Utterance
