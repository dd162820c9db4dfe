import Utterance.Json.Record
import Utterance.Understanding.Basic

/-!
Fields of an understanding that a model provides.

A field counts only if its whole value has the right form.
-/

namespace Utterance.Understanding

open Json (named? texts? fields? needed orElse)

def scope? (j : Json) : Option Scope := do
  match ← fields? ["level", "target", "file", "symbol"] j with
  | [level, target, file, symbol] =>
    pure ⟨← needed (named? ScopeLevel.names) level, ← needed Json.text? target,
      ← orElse "" Json.text? file, ← orElse "" Json.text? symbol⟩
  | _ => none

def signals? (j : Json) : Option Signals := do
  let names := ["is_question", "is_hypothetical", "is_multi_step", "is_negated",
    "requires_confirmation", "urgency"]
  match ← fields? names j with
  | [question, guess, steps, negated, confirm, urgency] =>
    pure ⟨← needed Json.bool? question, ← needed Json.bool? guess, ← needed Json.bool? steps,
      ← needed Json.bool? negated, ← needed Json.bool? confirm,
      ← needed (named? Urgency.names) urgency⟩
  | _ => none

def approach? (j : Json) : Option Approach := do
  let names := ["mode", "primary_shard", "supporting_shards", "tools_needed", "context_needed"]
  match ← fields? names j with
  | [mode, shard, shards, tools, context] =>
    pure ⟨← needed Json.text? mode, ← needed Json.text? shard, ← orElse [] texts? shards,
      ← orElse [] texts? tools, ← orElse [] texts? context⟩
  | _ => none

/-- An understanding with the fields that an object provides in the right form. -/
def override (u : Understanding) (j : Json) : Understanding :=
  let take {α : Type} (key : String) (read : Json → Option α) (current : α) : α :=
    ((j.get? key).bind read).getD current
  { u with
    semanticType := take "semantic_type" (named? SemanticType.names) u.semanticType
    actionType := take "action_type" (named? ActionType.names) u.actionType
    domain := take "domain" (named? Domain.names) u.domain
    scope := take "scope" scope? u.scope
    signals := take "signals" signals? u.signals
    userConstraints := take "user_constraints" texts? u.userConstraints
    implicitAssumptions := take "implicit_assumptions" texts? u.implicitAssumptions
    approach := take "suggested_approach" approach? u.approach }

end Utterance.Understanding
