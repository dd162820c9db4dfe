import Utterance.Rule.Term
import Utterance.Intent

/-!
The verbs that come with the library, as facts of the rule language.
-/

namespace Utterance.Bundled

/-- A verb with its synonyms, its pattern, and its example phrases with their targets. -/
structure Entry where
  verb : String
  category : Category
  shard : String
  priority : Int
  synonyms : List String
  pattern : String
  phrases : List (String × String)

def entries : List Entry := [
  ⟨"/greet", .query, "", 100,
    ["hello", "good morning", "greetings"],
    "^\\s*(hi|hello|hey|howdy|greetings|good (morning|afternoon|evening))\\b",
    [("hello", "none"), ("hi there", "none"), ("good morning", "none")]⟩,
  ⟨"/converse", .query, "", 40,
    ["thanks", "thank you", "how are you"],
    "\\b(thanks|thank you|how are you|cheers)\\b",
    [("thanks for the help", "none"), ("how are you doing", "none")]⟩,
  ⟨"/explain", .query, "", 60,
    ["explain", "what does", "how does", "describe", "walk me through"],
    "\\b(explain|describe|walk me through|what (does|is)|how (does|do))\\b",
    [("explain how this works", "none"), ("what does this function do", "function"),
     ("walk me through the code", "codebase")]⟩,
  ⟨"/review", .query, "reviewer", 85,
    ["review", "check", "look over", "audit"],
    "\\b(review|audit|look over|critique)\\b",
    [("review my code", "codebase"), ("can you look over this file", "file"),
     ("code review please", "codebase")]⟩,
  ⟨"/security", .query, "reviewer", 95,
    ["security", "vulnerability", "owasp"],
    "\\b(secur(e|ity)|vulnerab\\w*|exploit\\w*|injection|xss|csrf|cve)\\b",
    [("check for security issues", "codebase"), ("find vulnerabilities", "codebase"),
     ("is this safe from sql injection", "none")]⟩,
  ⟨"/analyze", .query, "reviewer", 70,
    ["analyze", "analyse", "complexity"],
    "\\banaly[sz]e\\b|\\bcomplexity\\b",
    [("analyze the complexity", "codebase"), ("analyse the dependencies", "codebase")]⟩,
  ⟨"/search", .query, "", 65,
    ["find", "search", "grep", "where is"],
    "\\b(find|search|grep|locate)\\b|\\bwhere is\\b",
    [("find where this is defined", "none"), ("search for usages", "none")]⟩,
  ⟨"/research", .query, "researcher", 55,
    ["research", "look up", "best practice"],
    "\\b(research|look up|best practices?)\\b",
    [("research best practices", "none"), ("look up the documentation", "none")]⟩,
  ⟨"/plan", .query, "", 50,
    ["plan", "roadmap", "architecture"],
    "\\b(plan|roadmap|architect\\w*)\\b",
    [("plan the implementation", "none"), ("design the architecture", "codebase")]⟩,
  ⟨"/fix", .mutation, "coder", 90,
    ["fix", "repair", "resolve", "patch"],
    "\\b(fix(es|ed|ing)?|repair|resolve|patch)\\b",
    [("fix the bug", "none"), ("fix this error", "none"),
     ("repair the broken build", "codebase")]⟩,
  ⟨"/debug", .mutation, "coder", 85,
    ["debug", "crash", "stack trace", "null pointer", "nil pointer"],
    "\\b(debug|crash(es|ing)?|panic(s|king)?|segfault|stack ?trace|null pointer|nil pointer)\\b",
    [("debug this crash", "none"), ("why does it panic", "none")]⟩,
  ⟨"/refactor", .mutation, "coder", 80,
    ["refactor", "clean up", "restructure", "simplify"],
    "\\b(refactor|restructure|clean ?up|simplify|rename)\\b",
    [("refactor this module", "none"), ("clean up the code", "codebase")]⟩,
  ⟨"/create", .mutation, "coder", 75,
    ["create", "implement", "generate", "scaffold"],
    "\\b(create|add|implement|write|build|generate|scaffold)\\b",
    [("create a new file", "none"), ("implement the feature", "none"),
     ("add a function", "none")]⟩,
  ⟨"/delete", .mutation, "coder", 80,
    ["delete", "remove", "get rid of"],
    "\\b(delet(e|ed|ing)|remov(e|ed|ing)|get rid of)\\b",
    [("delete this file", "file"), ("remove the unused code", "codebase")]⟩,
  ⟨"/test", .mutation, "tester", 80,
    ["unit test", "coverage"],
    "\\b(tests?|testing|coverage|tdd)\\b",
    [("write tests for this", "none"), ("run the test suite", "codebase")]⟩,
  ⟨"/optimize", .mutation, "coder", 75,
    ["optimize", "speed up", "performance"],
    "\\b(optimi[sz]e|speed up|faster|performance|too slow)\\b",
    [("make this faster", "none"), ("improve performance", "codebase")]⟩,
  ⟨"/document", .mutation, "coder", 60,
    ["document", "docstring", "readme"],
    "\\b(document|docstrings?|readme|doc comments?)\\b",
    [("document this function", "function"), ("update the readme", "README.md")]⟩,
  ⟨"/deploy", .mutation, "coder", 70,
    ["deploy", "release"],
    "\\b(deploy|release|ship it|publish)\\b",
    [("deploy to production", "none")]⟩,
  ⟨"/git", .mutation, "coder", 65,
    ["commit", "pull request", "rebase"],
    "\\b(commit|rebase|merge|pull request|git)\\b",
    [("commit these changes", "none"), ("open a pull request", "none")]⟩,
  ⟨"/configure", .instruction, "", 70,
    ["from now on", "by default"],
    "^\\s*(always|never|from now on|remember to|prefer)\\b",
    [("always use tabs", "none"), ("from now on write tests first", "none")]⟩]

def Entry.facts (e : Entry) : List Rule.Fact :=
  let verb := Rule.Term.named e.verb
  [⟨"verb_def", [verb, .named e.category.write, .str e.shard, .int e.priority]⟩] ++
    (e.synonyms.map fun s => ⟨"verb_synonym", [verb, .str s]⟩) ++
    [⟨"verb_pattern", [verb, .str e.pattern]⟩] ++
    (e.phrases.map fun (phrase, target) =>
    ⟨"intent_definition", [.str phrase, verb, .str target, .str ""]⟩)

def facts : List Rule.Fact :=
  entries.flatMap Entry.facts

def program : String :=
  String.join (facts.map fun f => f.source ++ "\n")

end Utterance.Bundled
