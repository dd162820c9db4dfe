import Utterance.Proofs.Verb.Corpus
import Utterance.Proofs.Verb.Decision

/-! What a phrase that is learned does to the candidates of a message: the verb that it is learned for may come
in, or match through a longer synonym, and no other candidate changes. -/

namespace Utterance

/-- How the match of a verb may change with one more synonym of `n` characters. -/
inductive Matched.Widens (n : Nat) : Option Matched → Option Matched → Prop
  | same (m : Option Matched) : Widens n m m
  | appears : Widens n none (some (.synonym n))
  | longer {m : Nat} : m < n → Widens n (some (.synonym m)) (some (.synonym n))

namespace Verb

/-! One verb. -/

/-- A verb as a candidate. -/
def candidate (v : Verb) (m : Matched) : Candidate :=
  ⟨v.name, v.category, v.priority, v.shard, m⟩

theorem candidate_of_core {v u : Verb} (h : v.core = u.core) : v.candidate = u.candidate :=
  have hcandidate (w : Verb) : w.core.candidate = w.candidate := rfl
  (hcandidate v).symm.trans ((congrArg candidate h).trans (hcandidate u))

/-- The lengths of the synonyms in a message. -/
def heard (v : Verb) (message : String) : List Nat :=
  (v.synonyms.filter (Text.contains message)).map String.length

theorem matched?_eq (v : Verb) (message : String) :
    v.matched? message = if v.patterns.any (·.program.matches message) then some .pattern
      else (v.heard message).max?.map .synonym := rfl

theorem patterns_addSynonym (v : Verb) (phrase : String) : (v.addSynonym phrase).patterns = v.patterns := by
  unfold addSynonym
  dsimp only
  split <;> rfl

theorem synonyms_addSynonym (v : Verb) (phrase : String) :
    (v.addSynonym phrase).synonyms = v.synonyms ∨
      (v.addSynonym phrase).synonyms = v.synonyms ++ [Text.lowered (Text.trimmed phrase)] := by
  unfold addSynonym
  dsimp only
  split
  · exact .inl rfl
  · exact .inr rfl

theorem mem_synonyms_addSynonym (v : Verb) {phrase : String} (h : Text.lowered (Text.trimmed phrase) ≠ "") :
    Text.lowered (Text.trimmed phrase) ∈ (v.addSynonym phrase).synonyms := by
  unfold addSynonym
  dsimp only
  split
  case isTrue hold =>
    rcases Bool.or_eq_true_iff.mp hold with hempty | hmem
    · exact absurd (String.isEmpty_iff.mp hempty) h
    · exact List.contains_iff_mem.mp hmem
  case isFalse => exact List.mem_append_right _ (List.mem_singleton_self _)

theorem heard_addSynonym (v : Verb) (phrase message : String) :
    (v.addSynonym phrase).heard message = v.heard message ∨
      (v.addSynonym phrase).heard message = v.heard message ++ [(Text.lowered (Text.trimmed phrase)).length] := by
  unfold heard
  rcases synonyms_addSynonym v phrase with h | h
  · exact .inl (by rw [h])
  · rw [h, List.filter_append, List.map_append, List.filter_cons]
    split
    · exact .inr rfl
    · exact .inl (List.append_nil _)

theorem max?_concat (ns : List Nat) (n : Nat) : (ns ++ [n]).max? = some (max (ns.max?.getD 0) n) := by
  cases ns with
  | nil => rw [List.nil_append, List.max?_singleton, List.max?_nil, Option.getD_none, Nat.zero_max]
  | cons m ns => rw [List.cons_append, List.max?_cons', List.max?_cons', List.foldl_append, Option.getD_some]
                 rfl

/-- A phrase more leaves the match of a verb as it is, or makes it one through that phrase. -/
theorem widens_addSynonym (v : Verb) (phrase message : String) :
    Matched.Widens (Text.lowered (Text.trimmed phrase)).length (v.matched? message)
      ((v.addSynonym phrase).matched? message) := by
  rw [matched?_eq, matched?_eq, patterns_addSynonym]
  split
  · exact .same _
  rcases heard_addSynonym v phrase message with h | h
  · rw [h]
    exact .same _
  rw [h, max?_concat]
  cases (v.heard message).max? with
  | none =>
    rw [Option.getD_none, Nat.zero_max]
    exact .appears
  | some m =>
    rcases Nat.lt_or_ge m (Text.lowered (Text.trimmed phrase)).length with hlt | hge
    · rw [Option.getD_some, Nat.max_eq_right (Nat.le_of_lt hlt)]
      exact .longer hlt
    · rw [Option.getD_some, Nat.max_eq_left hge]
      exact .same _

/-- A verb is known by every phrase that it was given, unless that is blank. -/
theorem matched?_addSynonym_ne_none (v : Verb) {phrase message : String}
    (hne : Text.lowered (Text.trimmed phrase) ≠ "")
    (hin : Text.contains message (Text.lowered (Text.trimmed phrase))) :
    (v.addSynonym phrase).matched? message ≠ none := by
  have hheard : (Text.lowered (Text.trimmed phrase)).length ∈ (v.addSynonym phrase).heard message :=
    List.mem_map_of_mem (List.mem_filter.mpr ⟨mem_synonyms_addSynonym v hne, hin⟩)
  rw [matched?_eq]
  split
  · exact Option.some_ne_none _
  · rw [Ne, Option.map_eq_none_iff, List.max?_eq_none_iff]
    exact List.ne_nil_of_mem hheard

end Verb

namespace Corpus

/-! The verbs of a corpus. -/

theorem candidates_eq (c : Corpus) (message : String) : c.candidates message =
    c.verbs.filterMap fun v => (v.matched? (Text.lowered (shortened message))).map v.candidate := rfl

theorem candidates_append (front : List Verb) (v : Verb) (back : List Verb) (message : String) :
    candidates ⟨front ++ v :: back⟩ message = candidates ⟨front⟩ message ++
      ((v.matched? (Text.lowered (shortened message))).map v.candidate).toList ++ candidates ⟨back⟩ message := by
  simp only [candidates_eq, List.filterMap_append, List.filterMap_cons, List.append_assoc]
  cases v.matched? (Text.lowered (shortened message)) <;> rfl

theorem verb_of_mem_candidates {vs : List Verb} {message : String} {x : Candidate}
    (hx : x ∈ candidates ⟨vs⟩ message) : x.verb ∈ vs.map Verb.name := by
  obtain ⟨u, hu, hparts⟩ := exists_of_mem_candidates hx
  exact hparts.name ▸ List.mem_map_of_mem hu

theorem change_eq_self {f : Verb → Verb} {name : String} {vs : List Verb} (h : name ∉ vs.map Verb.name) :
    change f name vs = vs := by
  rw [change]
  refine (List.map_congr_left fun v hv => if_neg fun he => h ?_).trans (List.map_id' vs)
  exact List.mem_map.mpr ⟨v, hv, beq_iff_eq.mp he⟩

theorem not_mem_of_nodup {front back : List Verb} {v : Verb}
    (hd : ((front ++ v :: back).map Verb.name).Nodup) :
    v.name ∉ front.map Verb.name ∧ v.name ∉ back.map Verb.name := by
  rw [List.map_append, List.map_cons, List.nodup_append, List.nodup_cons] at hd
  obtain ⟨-, ⟨hback, -⟩, hfront⟩ := hd
  exact ⟨fun hmem => hfront _ hmem _ List.mem_cons_self rfl, hback⟩

/-- Of verbs that differ, a change for one name is one of one verb. -/
theorem change_append {f : Verb → Verb} {front back : List Verb} {v : Verb}
    (hd : ((front ++ v :: back).map Verb.name).Nodup) :
    change f v.name (front ++ v :: back) = front ++ f v :: back := by
  obtain ⟨hfront, hback⟩ := not_mem_of_nodup hd
  have hsplit : change f v.name (front ++ v :: back) =
      change f v.name front ++ f v :: change f v.name back := by
    simp [change]
  rw [hsplit, change_eq_self hfront, change_eq_self hback]

theorem contains_iff (c : Corpus) (name : String) :
    c.contains name ↔ normalizeVerb name ∈ c.verbs.map Verb.name := by
  rw [contains, get?, List.find?_isSome, ← List.any_eq_true]
  exact holds_iff

/-- A corpus learns a phrase exactly for a verb that it knows. Of all candidates of a message, only that of this
verb may then change: it may come in, or match through the phrase where it did through a shorter one. It is there
if the message contains the phrase. -/
theorem candidates_learn? {c : Corpus} (hd : (c.verbs.map Verb.name).Nodup) (name phrase : String) :
    (normalizeVerb name ∉ c.verbs.map Verb.name →
      c.learn? name phrase = none ∧ (c.learn? name phrase).getD c = c) ∧
    ∀ v ∈ c.verbs, v.name = normalizeVerb name → ∃ c', c.learn? name phrase = some c' ∧
      ∀ message, ∃ before behind own own', (∀ x ∈ before ++ behind, x.verb ≠ v.name) ∧
        c.candidates message = before ++ (own.map v.candidate).toList ++ behind ∧
        c'.candidates message = before ++ (own'.map v.candidate).toList ++ behind ∧
        Matched.Widens (Text.lowered (Text.trimmed phrase)).length own own' ∧
        (Text.lowered (Text.trimmed phrase) ≠ "" →
          Text.contains (Text.lowered (shortened message)) (Text.lowered (Text.trimmed phrase)) →
          own' ≠ none) := by
  constructor
  · intro hname
    have hnone : c.learn? name phrase = none := if_neg (mt (contains_iff c name).mp hname)
    exact ⟨hnone, by rw [hnone]; rfl⟩
  · intro v hv hname
    have hlearn : c.learn? name phrase = some ⟨change (·.addSynonym phrase) (normalizeVerb name) c.verbs⟩ :=
      if_pos ((contains_iff c name).mpr (hname ▸ List.mem_map_of_mem hv))
    obtain ⟨front, back, hsplit⟩ := List.append_of_mem hv
    rw [hsplit] at hd
    refine ⟨_, hlearn, fun message => ⟨candidates ⟨front⟩ message, candidates ⟨back⟩ message,
      _, _, ?_, ?_, ?_, v.widens_addSynonym phrase _, v.matched?_addSynonym_ne_none⟩⟩
    · intro x hx he
      obtain ⟨hfront, hback⟩ := not_mem_of_nodup hd
      rcases List.mem_append.mp hx with hx | hx
      · exact hfront (he ▸ verb_of_mem_candidates hx)
      · exact hback (he ▸ verb_of_mem_candidates hx)
    · rw [← candidates_append, ← hsplit]
    · rw [← hname, hsplit, change_append hd, candidates_append,
        Verb.candidate_of_core (v.core_addSynonym phrase)]

/-- Two verbs that know the same phrase. -/
def menders : Corpus :=
  ⟨[(Verb.named "fix" .mutation 20 "").addSynonym "mend", (Verb.named "sew" .mutation 30 "").addSynonym "mend"]⟩

theorem candidates_learn?_menders :
    menders.learn? " Burn" "mend" = none ∧ ∃ c', menders.learn? "FIX" " Repair " = some c' ∧
      menders.candidates "REPAIR it" = [] ∧ c'.candidates "REPAIR it" ≠ [] := by
  have hd : (menders.verbs.map Verb.name).Nodup := by decide +kernel
  refine ⟨((candidates_learn? hd " Burn" "mend").1 (by decide +kernel)).1, ?_⟩
  obtain ⟨c', hlearn, h⟩ := (candidates_learn? hd "FIX" " Repair ").2
    ((Verb.named "fix" .mutation 20 "").addSynonym "mend") List.mem_cons_self (by decide +kernel)
  obtain ⟨before, behind, own, own', -, -, hnew, -, hin⟩ := h "REPAIR it"
  refine ⟨c', hlearn, List.eq_nil_of_length_eq_zero (by decide +kernel), ?_⟩
  obtain ⟨m, rfl⟩ := Option.ne_none_iff_exists'.mp (hin (by decide +kernel) (by decide +kernel))
  rw [hnew]
  simp

end Corpus

end Utterance
