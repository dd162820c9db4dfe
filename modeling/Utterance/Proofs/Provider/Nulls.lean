import Utterance.Proofs.Provider.Limits
import Utterance.Proofs.Json.Writing

/-! A member `error` that is null: where it counts as an error, and where as none. -/

namespace Utterance

namespace Json

/-- An object without a member `error`, and one that has it as null besides, in any place. -/
structure GainsNull (j j' : Json) : Prop where
  isObject : j.isObject
  missing : j.get? "error" = none
  null : j'.get? "error" = some .null
  rest : ∀ key, key ≠ "error" → j'.get? key = j.get? key

theorem lookup_cons_eq (key name : String) (v : Json) (ms : List (String × Json)) :
    ((name, v) :: ms).lookup key = if key = name then some v else ms.lookup key := by
  rw [List.lookup_cons]
  by_cases h : key = name
  · rw [if_pos h, beq_iff_eq.mpr h]
  · rw [if_neg h, beq_eq_false_iff_ne.mpr h]

theorem lookup_setMember (name key : String) (v : Json) (ms : List (String × Json)) :
    (setMember name v ms).lookup key = if key = name then some v else ms.lookup key := by
  induction ms with
  | nil => rw [setMember, lookup_cons_eq]
  | cons m ms ih =>
    obtain ⟨first, w⟩ := m
    by_cases hf : first = name
    · rw [setMember, if_pos hf, hf, lookup_cons_eq, lookup_cons_eq]
      split <;> rfl
    · rw [setMember, if_neg hf, lookup_cons_eq, lookup_cons_eq, ih]
      by_cases hk : key = first
      · rw [if_pos hk, if_pos hk, if_neg (hk ▸ hf)]
      · rw [if_neg hk, if_neg hk]

theorem gainsNull_set {j : Json} (ho : j.isObject) (h : j.get? "error" = none) :
    GainsNull j (set "error" .null j) := by
  obtain ⟨ms, rfl⟩ : ∃ ms, j = .obj ms := by
    cases j with
    | obj ms => exact ⟨ms, rfl⟩
    | _ => cases ho
  have hset (key : String) : (set "error" .null (.obj ms)).get? key =
      if key = "error" then some .null else (Json.obj ms).get? key := lookup_setMember ..
  refine ⟨ho, h, ?_, ?_⟩
  · rw [hset, if_pos rfl]
  · intro key hk
    rw [hset, if_neg hk]

end Json

/-! Replies and frames without an error. -/

namespace RateLimit

theorem inPayload?_of_missing {j : Json} (h : j.get? "error" = none) : inPayload? j = none := by
  rw [inPayload?, errorText?, h]
  rfl

theorem inPayload?_of_null {j : Json} (h : j.get? "error" = some .null) : inPayload? j = none := by
  rw [inPayload?, errorText?, h]
  rfl

end RateLimit

namespace Wire

/-- A whole reply without an error is told by the message of its first choice. -/
theorem on_readReply_message (d : Chat.Dialect) {j : Json} (h : j.get? "error" = none) {body : String}
    (hb : Json.ofText? body = some j) (u : Usage) :
    (((Chat.wire d).readReply body).on u).1 =
      match j.path? ["choices", "0", "message"] with
      | none => .error (.ofBody d.name "no choices in response" body)
      | some m => reply d.name (Chat.content m) := by
  have hlimit (u : Usage) : (Act.ofOutcome (refuseLimit d.name j)).on u = (.ok (), u) := by
    rw [refuseLimit, RateLimit.inPayload?_of_missing h]
    rfl
  have husage : ∃ v, (recordUsage j "usage").on u = (.ok (), v) := by
    unfold recordUsage
    cases j.get? "usage" with
    | some block => exact ⟨_, rfl⟩
    | none => exact ⟨_, rfl⟩
  obtain ⟨v, hv⟩ := husage
  show ((Chat.readReply d.name body).on u).1 = _
  rw [Chat.readReply, Act.on_bind_ok (Reports.on_decodeBody hb d.name u), Act.on_bind_ok (hlimit u), h,
    Act.on_bind_ok hv]
  cases j.path? ["choices", "0", "message"] with
  | none => rfl
  | some m =>
    dsimp only
    cases reply d.name (Chat.content m) with
    | ok text => rfl
    | error e => rfl

theorem reply_ne_decode (provider text name why body : String) :
    reply provider text ≠ .error (.decode name why body) := by
  unfold reply
  dsimp only
  split
  · simp
  · simp

theorem exists_readFrame_chat {f : Stream.Frame} {j : Json} (hf : Json.ofText? f.data = some j)
    (h : j.get? "error" = none) : ∃ cs, Chat.readFrame f = .ok cs ∧ ∀ c ∈ cs, c.isError = false := by
  have hread : Chat.readFrame f = .ok
      ((["reasoning_content", "reasoning"].filterMap (Chat.delta? j)).map .thinking ++
        ((Chat.delta? j "content").map .text).toList ++
        (((j.get? "usage").filter fun u => !u.isNull).map .usage).toList ++
        if (j.path? ["choices", "0", "finish_reason"]).any fun r => !r.isNull then [.done] else []) := by
    rw [Chat.readFrame, decodeFrame_of_data hf]
    simp only [bind, Except.bind, h]
    rfl
  refine ⟨_, hread, fun c hc => ?_⟩
  simp only [List.mem_append, List.mem_map, Option.mem_toList, Option.map_eq_some_iff] at hc
  rcases hc with ((⟨_, -, rfl⟩ | ⟨_, -, rfl⟩) | ⟨_, -, rfl⟩) | hc
  · rfl
  · rfl
  · rfl
  · split at hc
    · rw [List.mem_singleton.mp hc]
      rfl
    · cases hc

theorem exists_readFrame_gemini {f : Stream.Frame} {j : Json} (hf : Json.ofText? f.data = some j)
    (h : j.get? "error" = none) : ∃ cs, Gemini.readFrame f = .ok cs ∧ ∀ c ∈ cs, c.isError = false := by
  have hread : Gemini.readFrame f = .ok
      (((Gemini.candidate? j).getD []).filterMap Gemini.ofPart ++ ((j.get? "usageMetadata").map .usage).toList ++
        if (j.path? ["candidates", "0", "finishReason"]).isSome then [.done] else []) := by
    rw [Gemini.readFrame, decodeFrame_of_data hf]
    simp only [bind, Except.bind, h]
    rfl
  refine ⟨_, hread, fun c hc => ?_⟩
  simp only [List.mem_append, List.mem_filterMap, Option.mem_toList, Option.map_eq_some_iff] at hc
  rcases hc with (⟨part, -, hpart⟩ | ⟨_, -, rfl⟩) | hc
  · obtain ⟨text, -, rfl⟩ := Option.map_eq_some_iff.mp hpart
    split <;> rfl
  · rfl
  · split at hc
    · rw [List.mem_singleton.mp hc]
      rfl
    · cases hc

/-- A frame of Gemini whose error is null says that there is an error. -/
theorem readFrame_gemini_of_null {f : Stream.Frame} {j : Json} (hf : Json.ofText? f.data = some j)
    (h : j.get? "error" = some .null) : Gemini.readFrame f = .ok [.error "stream error"] := by
  rw [Gemini.readFrame, decodeFrame_of_data hf]
  simp only [bind, Except.bind, h]
  rfl

end Wire

theorem Tool.ofValue_of_gainsNull {j j' : Json} (h : j.GainsNull j') (beside : String) :
    Tool.ofValue beside j' = Tool.ofValue beside j := by
  have hset (key : String) (hk : key ≠ "error") : Tool.isSet j' key = Tool.isSet j key := by
    rw [Tool.isSet, Tool.isSet, h.rest key hk]
  have hnone : ((j'.get? "error").filter fun e => !e.isNull) = none := by
    rw [h.null]
    rfl
  unfold Tool.ofValue
  rw [hset _ (by decide), hset _ (by decide), h.rest "result" (by decide), hnone, h.missing]
  rfl

/-- An error that is null counts as one in every whole reply of chat completions, and in every frame of these
and of Gemini; what they make of the same object without it never reports an error. To the first tool it counts
as none. -/
theorem null_error_counts {j j' : Json} (h : j.GainsNull j') :
    (∀ (d : Chat.Dialect) (body body' : String), Json.ofText? body = some j → Json.ofText? body' = some j' →
      ∀ u, ((Chat.wire d).readReply body').on u =
          (.error (.ofBody d.name "error payload: unknown error" body'), u) ∧
        ∀ seen, (((Chat.wire d).readReply body).on u).1 ≠
          .error (.decode d.name "error payload: unknown error" seen)) ∧
      (∀ f f' : Stream.Frame, Json.ofText? f.data = some j → Json.ofText? f'.data = some j' →
        Chat.readFrame f' = .ok [.error "null"] ∧ Gemini.readFrame f' = .ok [.error "stream error"] ∧
          (∃ cs, Chat.readFrame f = .ok cs ∧ ∀ c ∈ cs, c.isError = false) ∧
          ∃ cs, Gemini.readFrame f = .ok cs ∧ ∀ c ∈ cs, c.isError = false) ∧
      ∀ beside, Tool.ofValue beside j' = Tool.ofValue beside j := by
  refine ⟨?_, ?_, Tool.ofValue_of_gainsNull h⟩
  · intro d body body' hb hb' u
    constructor
    · rw [Wire.Reports.on_readReply_chat h.null hb', Wire.Reports.refusal, RateLimit.inPayload?_of_null h.null]
      rfl
    · intro seen
      rw [Wire.on_readReply_message d h.missing hb]
      split
      · simp [Fault.ofBody]
      · exact Wire.reply_ne_decode _ _ _ _ _
  · intro f f' hf hf'
    have hchat : Chat.readFrame f' = .ok [.error "null"] :=
      (Wire.Reports.chat Chat.openai h.null).readFrame hf'
    exact ⟨hchat, Wire.readFrame_gemini_of_null hf' h.null, Wire.exists_readFrame_chat hf h.missing,
      Wire.exists_readFrame_gemini hf h.missing⟩

/-- A reply in the shapes of a whole body and of a frame. -/
def plainReply : Json :=
  .obj [("choices", .arr [.obj
    [("message", .obj [("content", .str "hi")]), ("delta", .obj [("content", .str "hi")])]])]

/-- The same reply with an error that is null. -/
def nulledReply : Json :=
  Json.set "error" .null plainReply

theorem gainsNull_nulledReply : plainReply.GainsNull nulledReply := Json.gainsNull_set rfl rfl

section Reading

variable {P : Json → Prop} (hstr : ∀ s, P (.str s)) (harr : ∀ xs, P (.arr xs))
  (hobj : ∀ ms : List (String × Json), (ms.map Prod.fst).Nodup → P (.obj ms))

include hstr harr hobj

theorem everywhere_plainReply : Json.Everywhere P plainReply := by
  have hmessage : Json.Everywhere P (.obj [("content", .str "hi")]) :=
    Json.everywhere_obj (hobj _ (by decide)) (List.forall_mem_singleton.mpr (Json.everywhere_leaf rfl rfl (hstr _)))
  refine Json.everywhere_obj (hobj _ (by decide)) (List.forall_mem_singleton.mpr ?_)
  refine Json.everywhere_arr (harr _) (List.forall_mem_singleton.mpr ?_)
  refine Json.everywhere_obj (hobj _ (by decide)) ?_
  simp only [List.forall_mem_cons]
  exact ⟨hmessage, hmessage, List.forall_mem_nil _⟩

theorem everywhere_nulledReply (hnull : P .null) : Json.Everywhere P nulledReply := by
  have hchoices := (everywhere_plainReply hstr harr hobj).member (List.mem_singleton_self _)
  show Json.Everywhere P (.obj [_, ("error", .null)])
  refine Json.everywhere_obj (hobj _ (by decide)) ?_
  simp only [List.forall_mem_cons]
  exact ⟨hchoices, Json.everywhere_leaf rfl rfl hnull, List.forall_mem_nil _⟩

end Reading

theorem ofText?_plainReply : Json.ofText? plainReply.compact = some plainReply :=
  Json.ofText?_compact (everywhere_plainReply (fun _ => trivial) (fun _ => trivial) fun _ h => h)
    (everywhere_plainReply (fun _ => trivial) (fun _ => trivial) fun _ _ => trivial) (by decide)

theorem ofText?_nulledReply : Json.ofText? nulledReply.compact = some nulledReply :=
  Json.ofText?_compact (everywhere_nulledReply (fun _ => trivial) (fun _ => trivial) (fun _ h => h) trivial)
    (everywhere_nulledReply (fun _ => trivial) (fun _ => trivial) (fun _ _ => trivial) trivial) (by decide)

theorem null_error_counts_nulledReply :
    plainReply.GainsNull nulledReply ∧
      Json.ofText? plainReply.compact = some plainReply ∧ Json.ofText? nulledReply.compact = some nulledReply ∧
      ((Chat.wire Chat.openai).readReply nulledReply.compact).on {} =
        (.error (.ofBody "openai" "error payload: unknown error" nulledReply.compact), {}) ∧
      Chat.readFrame ⟨none, nulledReply.compact⟩ = .ok [.error "null"] := by
  obtain ⟨hreply, hframe, -⟩ := null_error_counts gainsNull_nulledReply
  exact ⟨gainsNull_nulledReply, ofText?_plainReply, ofText?_nulledReply,
    (hreply Chat.openai _ _ ofText?_plainReply ofText?_nulledReply {}).1,
    (hframe ⟨none, _⟩ ⟨none, _⟩ ofText?_plainReply ofText?_nulledReply).1⟩

/-- An error that is null keeps a reply from being read, whole or in frames. -/
theorem not_harmless_null :
    plainReply.GainsNull nulledReply ∧
      (((Chat.wire Chat.openai).readReply plainReply.compact).on {}).1 = .ok "hi" ∧
      (((Chat.wire Chat.openai).readReply nulledReply.compact).on {}).1 =
        .error (.ofBody "openai" "error payload: unknown error" nulledReply.compact) ∧
      (Chat.readFrame ⟨none, plainReply.compact⟩).toOption.map (·.map Stream.Chunk.isError) = some [false] ∧
      (Chat.readFrame ⟨none, nulledReply.compact⟩).toOption.map (·.map Stream.Chunk.isError) = some [true] ∧
      (Gemini.readFrame ⟨none, plainReply.compact⟩).toOption.map (·.map Stream.Chunk.isError) = some [] ∧
      (Gemini.readFrame ⟨none, nulledReply.compact⟩).toOption.map (·.map Stream.Chunk.isError) = some [true] := by
  have hplain : Wire.decodeFrame ⟨none, plainReply.compact⟩ = .ok plainReply :=
    Wire.decodeFrame_of_data ofText?_plainReply
  have hnulled : Wire.decodeFrame ⟨none, nulledReply.compact⟩ = .ok nulledReply :=
    Wire.decodeFrame_of_data ofText?_nulledReply
  refine ⟨gainsNull_nulledReply, ?_, ?_, ?_, ?_, ?_, ?_⟩
  · rw [Wire.on_readReply_message Chat.openai gainsNull_nulledReply.missing ofText?_plainReply]
    decide +kernel
  · rw [Wire.Reports.on_readReply_chat gainsNull_nulledReply.null ofText?_nulledReply, Wire.Reports.refusal,
      RateLimit.inPayload?_of_null gainsNull_nulledReply.null]
    rfl
  · rw [Chat.readFrame, hplain]
    decide +kernel
  · rw [Chat.readFrame, hnulled]
    decide +kernel
  · rw [Gemini.readFrame, hplain]
    decide +kernel
  · rw [Gemini.readFrame, hnulled]
    decide +kernel

end Utterance
