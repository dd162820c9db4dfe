import Utterance.Schema
import Utterance.Verb.Corpus

/-!
The tasks that a model is given.
-/

namespace Utterance.Prompt

/-- The task of classifying a message in an envelope. -/
def classify : String :=
  "You are the perception layer of a coding agent. Classify the user's message and " ++
    "answer it.\n" ++
    "\n" ++
    "Reply with exactly one JSON object and nothing else. It has two fields, in this " ++
    "order:\n" ++
    "\n" ++
    "1. \"control_packet\" (write this FIRST):\n" ++
    "   - \"intent_classification\": \x7b\"category\", \"verb\", \"target\", \"constraint\", " ++
    "\"confidence\"\x7d\n" ++
    "     category is one of /query, /mutation, /instruction.\n" ++
    "     verb is one of the canonical verbs listed below.\n" ++
    "     target is the file, symbol, or \"codebase\" the request is about (\"none\" if " ++
    "there is none).\n" ++
    "     constraint is any restriction the user stated (\"\" if none).\n" ++
    "     confidence is a number between 0 and 1.\n" ++
    "   - \"mangle_updates\": rule-language facts or rules to record, each ending with a " ++
    "period. Use [] when there are none.\n" ++
    "   - \"memory_operations\": [\x7b\"op\", \"key\", \"value\"\x7d] for facts worth remembering. Use " ++
    "[] when there are none.\n" ++
    "   - \"self_correction\": \x7b\"triggered\", \"hypothesis\"\x7d when you are correcting an " ++
    "earlier misunderstanding.\n" ++
    "2. \"surface_response\": the reply shown to the user.\n" ++
    "\n" ++
    "Never describe an action as done in surface_response unless the control_packet " ++
    "records it.\n" ++
    "Never mention the control_packet to the user."

/-- The task of classifying a message in one line. -/
def classifyInLine : String :=
  "Classify the user's message. Reply with one line in the form " ++
    "category|verb|target|constraint|confidence where category is /query, /mutation or " ++
    "/instruction, verb is a canonical verb such as /explain or /fix, target is a file, " ++
    "symbol or \"none\", and confidence is between 0 and 1. After that line, write a short " ++
    "reply to the user."

/-- The task of finding what a vague reference means. -/
def focus : String :=
  "You resolve vague references to code locations.\n" ++
    "Given a reference and a list of candidate paths, pick the candidate the user most " ++
    "likely means.\n" ++
    "Reply with one JSON object: \x7b\"selected\": \"<one candidate, copied exactly>\", " ++
    "\"confidence\": <0-100>, \"reasoning\": \"<one sentence>\"\x7d.\n" ++
    "If no candidate fits, set \"selected\" to \"\" and \"confidence\" to 0."

/-- The task of finding a phrase that was misread. -/
def critic : String :=
  "You review a short conversation between a user and a coding agent.\n" ++
    "Look for a phrase the user used whose meaning the agent misread at first and the " ++
    "user then clarified.\n" ++
    "If you find one, reply with exactly one fact and nothing else:\n" ++
    "learned_exemplar(\"<user phrase>\", /<verb>, \"<target>\", \"<constraint>\", <confidence " ++
    "0.0-1.0>).\n" ++
    "If there is nothing to learn, reply with nothing."

/-- A task with the known verbs and the schema behind it. -/
def withVerbs (task : String) (c : Corpus) : String :=
  task ++ "\n\n" ++ c.catalog ++ "\n" ++ Schema.note

/-- The section of a prompt that reports refused rules. -/
def repair (attempt : Nat) (faults : List String) : String :=
  "## Previous attempt " ++ toString attempt ++ " was rejected\n" ++
    "These mangle_updates failed validation:\n" ++
    String.join (faults.map fun f => "- " ++ f ++ "\n") ++
    "Emit only syntactically valid, range-restricted rules ending with '.', " ++
    "or an empty list.\n\n"

end Utterance.Prompt
