import Utterance.Proofs.Act
import Utterance.Proofs.Text.Blank
import Utterance.Provider.Program

/-! What becomes of a tool's request for fewer requests, when it stands beside the output. -/

namespace Utterance

namespace Tool

/-- A fault that asks for fewer requests, and names the tool that does. -/
def IsLimit (t : Tool) (e : Fault) : Prop :=
  e.isRateLimited ∧ e.provider? = some t.name

theorem isLimit_limited (t : Tool) (text : String) : t.IsLimit (t.limited text) := ⟨rfl, rfl⟩

theorem isLimit_faultBeside (t : Tool) {beside : String} (h : RateLimit.isMarked beside) (e : Fault) :
    t.IsLimit (t.faultBeside beside e) := by
  rw [faultBeside, if_pos h]
  exact t.isLimit_limited beside

/-! The first tool. -/

theorem isLimit_of_ofValue {beside : String} (h : RateLimit.isMarked beside) {j : Json} {e : Fault}
    (he : ofValue beside j = .error e) : claude.IsLimit e := by
  unfold ofValue at he
  dsimp only at he
  simp only [h, Bool.or_true, ↓reduceIte] at he
  split at he
  case isTrue =>
    obtain rfl := Except.error.inj he
    exact isLimit_limited ..
  split at he
  case h_1 =>
    obtain rfl := Except.error.inj he
    exact isLimit_limited ..
  split at he
  case isTrue =>
    obtain rfl := Except.error.inj he
    exact isLimit_limited ..
  split at he
  case isTrue =>
    obtain rfl := Except.error.inj he
    exact isLimit_faultBeside _ h _
  case isFalse => cases he

theorem isLimit_of_readClaude {output beside : String} (h : RateLimit.isMarked beside) {e : Fault}
    (he : readClaude output beside = .error e) : claude.IsLimit e := by
  unfold readClaude at he
  dsimp only at he
  split at he
  case isTrue =>
    obtain rfl := Except.error.inj he
    exact isLimit_faultBeside _ h _
  split at he
  case h_1 => exact isLimit_of_ofValue h he
  case h_2 =>
    obtain rfl := Except.error.inj he
    exact isLimit_faultBeside _ h _

/-! The second tool. -/

/-- The answer that the second tool states, as a value or as a value on a line. -/
def answer? (output : String) : Option String :=
  (Json.ofText? (Text.trimmed output)).elim (lastAnswer? (Text.trimmed output)) pick?

/-- Whether a tool states an answer that is blank, where only blanks are no answer. -/
def StatesBlank : Tool → String → Prop
  | claude, _ => False
  | codex, output => Text.trimmed output ≠ "" ∧ ∃ answer ∈ answer? output, Text.trimmed answer = ""

/-- How the second tool is read. -/
theorem readCodex_eq (output beside : String) :
    readCodex output beside =
      if Text.trimmed output = "" then .error (codex.faultBeside beside (.emptyResponse codex.name))
      else if Text.trimmed ((answer? output).getD (Text.trimmed output)) = "" then
        .error (.emptyResponse codex.name)
      else .ok (Text.trimmed ((answer? output).getD (Text.trimmed output))) := by
  have hempty (s : String) (a b : Outcome String) :
      (if s = "" then a else b) = if s.isEmpty = true then a else b := by
    by_cases h : s = ""
    · rw [if_pos h, if_pos (String.isEmpty_iff.mpr h)]
    · rw [if_neg h, if_neg (mt String.isEmpty_iff.mp h)]
  rw [hempty, hempty]
  unfold readCodex answer?
  dsimp only
  cases Json.ofText? (Text.trimmed output) with
  | some j => rw [Option.elim_some]
  | none => rw [Option.elim_none]

theorem readCodex_cases {output beside : String} {e : Fault} (he : readCodex output beside = .error e) :
    (e = codex.faultBeside beside (.emptyResponse codex.name) ∧ ¬codex.StatesBlank output) ∨
      (e = .emptyResponse codex.name ∧ codex.StatesBlank output) := by
  rw [readCodex_eq] at he
  split at he
  case isTrue hempty =>
    obtain rfl := Except.error.inj he
    exact .inl ⟨rfl, fun hb => hb.1 hempty⟩
  case isFalse hne =>
    split at he
    case isTrue hblank =>
      obtain rfl := Except.error.inj he
      refine .inr ⟨rfl, hne, ?_⟩
      cases ha : answer? output with
      | some answer => exact ⟨answer, rfl, by simpa [ha] using hblank⟩
      | none =>
        rw [ha, Option.getD_none, Text.trimmed_trimmed] at hblank
        exact absurd hblank hne
    case isFalse => cases he

/-- A tool that asks for fewer requests beside its output and gives no answer fails with a limit, unless it states a
blank answer. -/
theorem isLimit_iff_of_marked {t : Tool} {output beside : String} (h : RateLimit.isMarked beside) {e : Fault}
    (he : t.read output beside = .error e) :
    (t.IsLimit e ↔ ¬t.StatesBlank output) ∧ (t.StatesBlank output → e = .emptyResponse t.name) := by
  cases t with
  | claude =>
    rw [read] at he
    exact ⟨iff_of_true (isLimit_of_readClaude h he) id, False.elim⟩
  | codex =>
    rw [read] at he
    rcases readCodex_cases he with ⟨he, hblank⟩ | ⟨he, hblank⟩
    · have hlimit : codex.IsLimit e := he ▸ isLimit_faultBeside codex h _
      exact ⟨iff_of_true hlimit hblank, fun hb => absurd hb hblank⟩
    · have hother : ¬codex.IsLimit e := by
        rintro ⟨hl, -⟩
        rw [he] at hl
        cases hl
      exact ⟨iff_of_false hother (not_not_intro hblank), fun _ => he⟩

end Tool

namespace ToolClient

theorem judge_of_limit {c : ToolClient} {output beside : String} {e : Fault}
    (he : c.tool.read output beside = .error e) (h : e.isRateLimited) (status : Nat) :
    c.judge status output beside = .error e := by
  rw [judge, he]
  simp [h]

theorem judge_of_other {c : ToolClient} {output beside : String} {e : Fault}
    (he : c.tool.read output beside = .error e) (h : e.isRateLimited = false) (status : Nat) :
    ∃ e', c.judge status output beside = .error e' ∧ e'.isRateLimited = false := by
  rw [judge, he]
  dsimp only
  split
  · exact ⟨_, rfl, rfl⟩
  · exact ⟨e, rfl, h⟩

/-- A tool that asks for fewer requests beside its output and gives no answer fails with a limit of that tool,
of which no exit status makes anything else. Only where the second tool states a blank answer, it counts as one
that gave none, and no exit status makes a limit of that. -/
theorem limited_iff_of_marked {c : ToolClient} {output beside : String} (h : RateLimit.isMarked beside) {e : Fault}
    (he : c.tool.read output beside = .error e) :
    ((c.tool.IsLimit e ∧ ∀ status, c.judge status output beside = .error e) ↔ ¬c.tool.StatesBlank output) ∧
      (c.tool.StatesBlank output → e = .emptyResponse c.tool.name ∧
        ∀ status, ∃ e', c.judge status output beside = .error e' ∧ e'.isRateLimited = false) := by
  obtain ⟨hiff, hempty⟩ := Tool.isLimit_iff_of_marked h he
  refine ⟨⟨fun hl => hiff.mp hl.1, fun hb => ?_⟩, fun hb => ?_⟩
  · have hlimit : c.tool.IsLimit e := hiff.mpr hb
    exact ⟨hlimit, judge_of_limit he hlimit.1⟩
  · have hother : e.isRateLimited = false := by
      rw [hempty hb]
      rfl
    exact ⟨hempty hb, judge_of_other he hother⟩

/-- A client of the first tool. -/
def firstClient : ToolClient := ⟨.claude, "claude", ⟨0⟩⟩

/-- A client of the second tool. -/
def secondClient : ToolClient := ⟨.codex, "codex", ⟨0⟩⟩

/-- An error whose own words do not speak of too many requests. -/
def unmarkedError : String :=
  "\x7b\"is_error\":true,\"result\":\"stopped\"\x7d"

theorem limited_unmarkedError :
    RateLimit.isMarked "HTTP 429" ∧ firstClient.tool.IsLimit (Tool.claude.limited "stopped") ∧
      ∀ status, firstClient.judge status unmarkedError "HTTP 429" = .error (Tool.claude.limited "stopped") := by
  have hmarked : RateLimit.isMarked "HTTP 429" := by decide +kernel
  have hread : firstClient.tool.read unmarkedError "HTTP 429" = .error (Tool.claude.limited "stopped") := by
    decide +kernel
  exact ⟨hmarked, (limited_iff_of_marked hmarked hread).1.mpr id⟩

/-- What the second tool prints when its answer is blank. -/
def blankAnswer : String :=
  "\x7b\"result\":\" \"\x7d"

/-- A request for fewer requests is lost beside a blank answer. -/
theorem not_limited_blankAnswer :
    RateLimit.isMarked "429 Too Many Requests" ∧
      Tool.codex.read blankAnswer "429 Too Many Requests" = .error (.emptyResponse "codex-cli") ∧
      secondClient.judge 1 blankAnswer "429 Too Many Requests" =
        .error (.transport "codex-cli" "codex exited with exit status: 1: 429 Too Many Requests") :=
  ⟨by decide +kernel, by decide +kernel, by decide +kernel⟩

end ToolClient

end Utterance
