import Mathlib.Data.List.Induction
import Utterance.Focus
import Utterance.Proofs.Decimal.Exact
import Utterance.Proofs.Interpreter.Closure

/-! What a reference is resolved to: one of the candidates or none, whatever a model replies. Where the model is of
no help, the words that the reference shares with the candidates decide. -/

namespace Utterance

namespace Focus

/-! By words. -/

/-- Of all candidates, `path` is the first one with the most words of the reference, and it has some. -/
structure IsFirstBest (reference : String) (candidates : List String) (path : String) : Prop where
  scores : 0 < score (terms reference) path
  split : ∃ front back, candidates = front ++ path :: back ∧
    (∀ c ∈ front, score (terms reference) c < score (terms reference) path) ∧
    ∀ c ∈ back, score (terms reference) c ≤ score (terms reference) path

variable {reference path : String} {candidates : List String}

theorem IsFirstBest.mem (h : IsFirstBest reference candidates path) : path ∈ candidates := by
  obtain ⟨front, back, rfl, -, -⟩ := h.split
  exact List.mem_append_right _ List.mem_cons_self

theorem IsFirstBest.score_le (h : IsFirstBest reference candidates path) {c : String} (hc : c ∈ candidates) :
    score (terms reference) c ≤ score (terms reference) path := by
  obtain ⟨front, back, rfl, hfront, hback⟩ := h.split
  rcases List.mem_append.mp hc with hc | hc
  · exact Nat.le_of_lt (hfront c hc)
  · rcases List.mem_cons.mp hc with rfl | hc
    · exact Nat.le_refl _
    · exact hback c hc

theorem IsFirstBest.concat (h : IsFirstBest reference candidates path) {x : String}
    (hx : score (terms reference) x ≤ score (terms reference) path) :
    IsFirstBest reference (candidates ++ [x]) path := by
  obtain ⟨front, back, rfl, hfront, hback⟩ := h.split
  refine ⟨h.scores, front, back ++ [x], by rw [List.append_assoc, List.cons_append], hfront, fun c hc => ?_⟩
  rcases List.mem_append.mp hc with hc | hc
  · exact hback c hc
  · rw [List.mem_singleton.mp hc]
    exact hx

theorem isFirstBest_concat {x : String} (hx : 0 < score (terms reference) x)
    (h : ∀ c ∈ candidates, score (terms reference) c < score (terms reference) x) :
    IsFirstBest reference (candidates ++ [x]) x :=
  ⟨hx, candidates, [], rfl, h, fun c hc => by cases hc⟩

theorem better_of_lt {ts : List String} {best : Option (String × Nat)} {x : String}
    (hbest : ∀ b ∈ best, b.2 < score ts x) (hx : 0 < score ts x) :
    better ts best x = some (x, score ts x) := by
  refine if_pos (Bool.and_eq_true_iff.mpr ⟨?_, decide_eq_true hx⟩)
  rw [Option.all_eq_true]
  exact fun b hb => decide_eq_true (hbest b hb)

theorem better_of_le {ts : List String} {b : String × Nat} {x : String} (h : score ts x ≤ b.2) :
    better ts (some b) x = some b :=
  if_neg fun hlt => absurd (of_decide_eq_true (Bool.and_eq_true_iff.mp hlt).1) (Nat.not_lt.mpr h)

theorem better_of_zero {ts : List String} {best : Option (String × Nat)} {x : String} (h : score ts x = 0) :
    better ts best x = best :=
  if_neg fun hlt => absurd (of_decide_eq_true (Bool.and_eq_true_iff.mp hlt).2) (Nat.not_lt.mpr (Nat.le_of_eq h))

/-- What is found is the first best candidate; nothing is found where no candidate has a word of the reference. -/
theorem best?_cases (reference : String) (candidates : List String) :
    (best? reference candidates = none ∧ ∀ c ∈ candidates, score (terms reference) c = 0) ∨
      ∃ path, best? reference candidates = some (path, score (terms reference) path) ∧
        IsFirstBest reference candidates path := by
  induction candidates using List.reverseRecOn with
  | nil => exact .inl ⟨rfl, fun c hc => by cases hc⟩
  | append_singleton front x ih =>
    have hstep : best? reference (front ++ [x]) = better (terms reference) (best? reference front) x :=
      List.foldl_concat _ _ _ _
    rw [hstep]
    rcases ih with ⟨hnone, hzero⟩ | ⟨path, hsome, hbest⟩
    · rw [hnone]
      rcases Nat.eq_zero_or_pos (score (terms reference) x) with hx | hx
      · refine .inl ⟨better_of_zero hx, fun c hc => ?_⟩
        rcases List.mem_append.mp hc with hc | hc
        · exact hzero c hc
        · rw [List.mem_singleton.mp hc, hx]
      · refine .inr ⟨x, better_of_lt (fun b hb => by cases hb) hx, isFirstBest_concat hx fun c hc => ?_⟩
        rw [hzero c hc]
        exact hx
    · rw [hsome]
      rcases Nat.lt_or_ge (score (terms reference) path) (score (terms reference) x) with hlt | hle
      · refine .inr ⟨x, better_of_lt (fun b hb => ?_) (Nat.zero_lt_of_lt hlt),
          isFirstBest_concat (Nat.zero_lt_of_lt hlt) fun c hc => Nat.lt_of_le_of_lt (hbest.score_le hc) hlt⟩
        cases hb
        exact hlt
      · exact .inr ⟨path, better_of_le hle, hbest.concat hle⟩

/-- The words of a reference settle for the first best candidate, with half the confidence at most. They settle
for none, without confidence, exactly if no candidate has one of them. -/
structure IsSettled (reference : String) (candidates : List String) (f : Focus) : Prop where
  capped : f.confidence ≤ lexicalCap
  none_iff : f.selected = none ∧ f.confidence = 0 ↔ ∀ c ∈ candidates, score (terms reference) c = 0
  best : (∃ c ∈ candidates, score (terms reference) c ≠ 0) →
    ∃ path, f.selected = some path ∧ IsFirstBest reference candidates path

theorem isSettled_lexical (reference : String) (candidates : List String) :
    IsSettled reference candidates (lexical reference candidates) := by
  unfold lexical
  rcases best?_cases reference candidates with ⟨hnone, hzero⟩ | ⟨path, hsome, hbest⟩
  · rw [hnone]
    exact ⟨Nat.zero_le _, iff_of_true ⟨rfl, rfl⟩ hzero, fun ⟨c, hc, hne⟩ => absurd (hzero c hc) hne⟩
  · rw [hsome]
    refine ⟨Nat.min_le_right _ _, iff_of_false (fun h => ?_) fun h => ?_, fun _ => ⟨path, rfl, hbest⟩⟩
    · cases h.1
    · exact absurd (h path hbest.mem) (Nat.ne_of_gt hbest.scores)

theorem mem_of_lexical (h : (lexical reference candidates).selected = some path) : path ∈ candidates := by
  unfold lexical at h
  rcases best?_cases reference candidates with ⟨hnone, -⟩ | ⟨best, hsome, hbest⟩
  · rw [hnone] at h
    cases h
  · rw [hsome] at h
    cases h
    exact hbest.mem

/-! By a reply. -/

/-- A member of a reply that is missing is as `default`, and any other one is what it reads as. -/
inductive Reads {α : Type} (read : Json → Option α) (default : α) : Option Json → α → Prop
  | missing : Reads read default none default
  | found {j : Json} {x : α} : read j = some x → Reads read default (some j) x

theorem elim_eq_some_iff {α : Type} {read : Json → Option α} {default x : α} {o : Option Json} :
    o.elim (some default) read = some x ↔ Reads read default o x := by
  cases o with
  | none => exact ⟨fun h => Option.some.inj h ▸ .missing, fun h => by cases h; rfl⟩
  | some j => exact ⟨.found, fun h => by cases h; assumption⟩

/-- The last object of a reply tells a path, a confidence and a reason. -/
def Answers (reply path : String) (x : Float) (why : String) : Prop :=
  ∃ j, Json.ofText? (Envelope.lastObject reply) = some j ∧
    Reads Json.text? "" (j.lowerKeys.get? "selected") path ∧
    Reads number? 0 (j.lowerKeys.get? "confidence") x ∧
    Reads Json.text? "" (j.lowerKeys.get? "reasoning") why

/-- A reply names a candidate if the path that it tells is one. -/
def Names (reply : String) (candidates : List String) : Prop :=
  ∃ path x why, Answers reply path x why ∧ Text.trimmed path ∈ candidates

theorem ofReply?_eq_some_iff {reply : String} {f : Focus} : ofReply? reference candidates reply = some f ↔
    ∃ path x why, Answers reply path x why ∧ Text.trimmed path ∈ candidates ∧
      f = ⟨reference, some (Text.trimmed path), percent x, why⟩ := by
  unfold ofReply?
  simp only [bind, Option.bind_eq_some_iff, elim_eq_some_iff]
  constructor
  · rintro ⟨j, hj, path, hpath, x, hx, why, hwhy, h⟩
    split at h
    case isTrue hmem =>
      exact ⟨path, x, why, ⟨j, hj, hpath, hx, hwhy⟩, List.contains_iff_mem.mp hmem, (Option.some.inj h).symm⟩
    case isFalse => cases h
  · rintro ⟨path, x, why, ⟨j, hj, hpath, hx, hwhy⟩, hmem, rfl⟩
    exact ⟨j, hj, path, hpath, x, hx, why, hwhy, if_pos (List.contains_iff_mem.mpr hmem)⟩

theorem ofReply?_eq_none_iff {reply : String} :
    ofReply? reference candidates reply = none ↔ ¬Names reply candidates := by
  rw [Option.eq_none_iff_forall_ne_some]
  constructor
  · rintro h ⟨path, x, why, hanswers, hmem⟩
    exact h _ (ofReply?_eq_some_iff.mpr ⟨path, x, why, hanswers, hmem, rfl⟩)
  · intro h f hf
    obtain ⟨path, x, why, hanswers, hmem, -⟩ := ofReply?_eq_some_iff.mp hf
    exact h ⟨path, x, why, hanswers, hmem⟩

/-- A confidence is a percentage, whatever number it is told as. -/
theorem percent_le (x : Float) : percent x ≤ 100 := by
  unfold percent
  dsimp only
  generalize (if 0 < x && x ≤ 1 then x * 100 else x) = y
  have hle : Decimal.nearestInt64 (if y < 0 then 0 else if 100 < y then 100 else y) ≤ 100 := by
    split
    · decide +kernel
    · split
      · decide +kernel
      · exact Decimal.nearestInt64_le_hundred (by assumption)
  omega

/-! A resolution. -/

/-- What is said of every resolution: the path is a candidate, and the confidence a percentage. -/
structure IsWithin (candidates : List String) (f : Focus) : Prop where
  mem : ∀ path, f.selected = some path → path ∈ candidates
  bounded : f.confidence ≤ 100

theorem isWithin_lexical (reference : String) (candidates : List String) :
    IsWithin candidates (lexical reference candidates) where
  mem _ := mem_of_lexical
  bounded := Nat.le_trans (isSettled_lexical reference candidates).capped (by decide)

theorem isWithin_of_forced {f : Focus} (h : forced? reference candidates = some f) :
    IsWithin candidates f ∧ candidates.length < 2 := by
  cases candidates with
  | nil =>
    cases h
    refine ⟨⟨fun path hp => ?_, Nat.zero_le _⟩, Nat.two_pos⟩
    cases hp
  | cons c rest =>
    cases rest with
    | nil =>
      cases h
      have hbounded : singleConfidence ≤ 100 := by decide
      refine ⟨⟨fun path hp => ?_, hbounded⟩, Nat.one_lt_two⟩
      cases hp
      exact List.mem_cons_self
    | cons d rest => cases h

theorem le_length_of_forced (h : forced? reference candidates = none) : 2 ≤ candidates.length := by
  cases candidates with
  | nil => cases h
  | cons c rest =>
    cases rest with
    | nil => cases h
    | cons d rest => exact Nat.le_add_left 2 _

theorem isWithin_of_reply {reply : String} {f : Focus} (h : ofReply? reference candidates reply = some f) :
    IsWithin candidates f := by
  obtain ⟨path, x, why, -, hmem, rfl⟩ := ofReply?_eq_some_iff.mp h
  exact ⟨fun _ hp => Option.some.inj hp ▸ hmem, percent_le x⟩

end Focus

namespace Interpreter

open Focus (forced? lexical ofReply?)

variable {W : Type}

/-- Asks a model what a reference means. -/
def askFocus (t : Interpreter W) (watch : Watch W) (reference : String) (candidates : List String) :
    Act W String :=
  t.completer.complete watch ⟨Prompt.focus, Focus.question reference candidates, false, false, false⟩

/-- Where a choice is left the reply of a model makes it, or the words do. -/
theorem on_resolve {t : Interpreter W} {watch : Watch W} {reference : String} {candidates : List String}
    {w v : W} {o : Outcome String} (hlive : watch.fault? w = none)
    (hasked : (t.askFocus watch reference candidates).on w = (o, v))
    (hpatient : ∀ e, o = .error e → e.isCancelled = false)
    (hforced : forced? reference candidates = none) :
    (t.resolve watch reference candidates).on w =
      (.ok ((o.toOption.bind (ofReply? reference candidates)).getD (lexical reference candidates)), v) := by
  have hcheck : watch.check.on w = (.ok (), w) := by
    rw [Act.on_check, hlive]
  have hreply : Act.on (Act.recover ((t.askFocus watch reference candidates).map some) fun _ => pure none) w =
      (.ok o.toOption, v) := by
    rw [Act.on_recover, Act.on_map, hasked]
    cases o with
    | ok reply => rfl
    | error e =>
      dsimp only [Except.map]
      rw [hpatient e rfl]
      rfl
  unfold resolve
  rw [Act.on_bind_ok hcheck, hforced]
  exact Act.on_bind_ok hreply _

theorem on_resolve_forced {t : Interpreter W} {watch : Watch W} {reference : String} {candidates : List String}
    {w : W} {f : Focus} (hlive : watch.fault? w = none) (hforced : forced? reference candidates = some f) :
    (t.resolve watch reference candidates).on w = (.ok f, w) := by
  have hcheck : watch.check.on w = (.ok (), w) := by
    rw [Act.on_check, hlive]
  unfold resolve
  rw [Act.on_bind_ok hcheck, hforced]
  rfl

/-- Whatever a model replies, and however it fails, a reference is resolved, to a candidate or to none. Where there
is a choice a reply that names a candidate makes it. Otherwise the words of the reference do. -/
theorem resolve_within (t : Interpreter W) (watch : Watch W) (reference : String) (candidates : List String)
    {w v : W} {o : Outcome String} (hlive : watch.fault? w = none)
    (hasked : (t.askFocus watch reference candidates).on w = (o, v))
    (hpatient : ∀ e, o = .error e → e.isCancelled = false) :
    (∃ f, (t.resolve watch reference candidates).on w = (.ok f, if candidates.length < 2 then w else v) ∧
      (∀ path, f.selected = some path → path ∈ candidates) ∧ f.confidence ≤ 100 ∧
      (2 ≤ candidates.length → (∀ reply, o = .ok reply → ¬Focus.Names reply candidates) →
        f = lexical reference candidates) ∧
      (2 ≤ candidates.length → ∀ reply path x why, o = .ok reply → Focus.Answers reply path x why →
        Text.trimmed path ∈ candidates → f = ⟨reference, some (Text.trimmed path), Focus.percent x, why⟩)) ∧
    Focus.IsSettled reference candidates (lexical reference candidates) := by
  refine ⟨?_, Focus.isSettled_lexical reference candidates⟩
  cases hforced : forced? reference candidates with
  | some f =>
    obtain ⟨hwithin, hlt⟩ := Focus.isWithin_of_forced hforced
    refine ⟨f, ?_, hwithin.mem, hwithin.bounded, fun hle => ?_, fun hle => ?_⟩
    · rw [on_resolve_forced hlive hforced, if_pos hlt]
    · exact absurd hlt (Nat.not_lt.mpr hle)
    · exact absurd hlt (Nat.not_lt.mpr hle)
  | none =>
    have hle := Focus.le_length_of_forced hforced
    have hwords := Focus.isWithin_lexical reference candidates
    rw [on_resolve hlive hasked hpatient hforced, if_neg (Nat.not_lt.mpr hle)]
    cases o with
    | error e =>
      refine ⟨_, rfl, hwords.mem, hwords.bounded, fun _ _ => rfl, fun _ reply path x why hreply => ?_⟩
      cases hreply
    | ok reply =>
      cases hfound : ofReply? reference candidates reply with
      | none =>
        have hnames := Focus.ofReply?_eq_none_iff.mp hfound
        refine ⟨_, rfl, ?_⟩
        rw [Except.toOption, Option.bind_some, hfound, Option.getD_none]
        refine ⟨hwords.mem, hwords.bounded, fun _ _ => rfl, fun _ reply' path x why hreply hanswers hmem => ?_⟩
        cases hreply
        exact absurd ⟨path, x, why, hanswers, hmem⟩ hnames
      | some f =>
        have hwithin := Focus.isWithin_of_reply hfound
        refine ⟨_, rfl, ?_⟩
        rw [Except.toOption, Option.bind_some, hfound, Option.getD_some]
        refine ⟨hwithin.mem, hwithin.bounded, fun _ hnames => ?_,
          fun _ reply' path x why hreply hanswers hmem => ?_⟩
        · rw [Focus.ofReply?_eq_none_iff.mpr (hnames reply rfl)] at hfound
          cases hfound
        · cases hreply
          rw [Focus.ofReply?_eq_some_iff.mpr ⟨path, x, why, hanswers, hmem, rfl⟩] at hfound
          exact (Option.some.inj hfound).symm

/-- The files of a project, of which two go by the same name. -/
def files : List String := ["docs/readme.md", "src/login.rs", "tests/login.rs"]

/-- A reply that names a file, though not by its path. -/
def hastyReply : String := "\x7b\"Selected\": \"login.rs\"\x7d"

theorem resolve_within_files :
    ∃ f, ((replying hastyReply).resolve patient "that Login thing" files).on () = (.ok f, ()) ∧
      f.selected = some "src/login.rs" ∧ f.confidence = 40 := by
  have hnone : ofReply? "" files hastyReply = none := Option.isNone_iff_eq_none.mp (by decide +kernel)
  obtain ⟨⟨f, hf, -, -, hwords, -⟩, -⟩ :=
    (replying hastyReply).resolve_within patient "that Login thing" files rfl rfl fun e he => by cases he
  refine ⟨f, hf, ?_⟩
  rw [hwords (by decide) fun reply hreply => by cases hreply; exact Focus.ofReply?_eq_none_iff.mp hnone]
  exact ⟨by decide +kernel, by decide +kernel⟩

end Interpreter

end Utterance
