import Utterance.Pattern
import Utterance.Text.Split
import Utterance.Understanding.Basic

/-!
Deriving an understanding from an intent and the message it came from.
-/

namespace Utterance.Understanding

structure Profile where
  semanticType : SemanticType
  actionType : ActionType
  domain : Domain
  shard : String

def profile (verb : String) : Profile :=
  match verb with
  | "/greet" | "/converse" => ⟨.conversation, .converse, .general, ""⟩
  | "/explain" => ⟨.explanation, .read, .code, ""⟩
  | "/define" => ⟨.definition, .read, .code, ""⟩
  | "/review" => ⟨.evaluation, .review, .code, "reviewer"⟩
  | "/security" => ⟨.evaluation, .review, .security, "reviewer"⟩
  | "/analyze" => ⟨.evaluation, .analyze, .code, "reviewer"⟩
  | "/performance" | "/optimize" => ⟨.transformation, .modify, .performance, "coder"⟩
  | "/fix" => ⟨.transformation, .modify, .code, "coder"⟩
  | "/debug" => ⟨.diagnosis, .analyze, .code, "coder"⟩
  | "/refactor" => ⟨.transformation, .modify, .architecture, "coder"⟩
  | "/create" | "/implement" => ⟨.creation, .create, .code, "coder"⟩
  | "/delete" => ⟨.removal, .delete, .code, "coder"⟩
  | "/test" => ⟨.verification, .test, .testing, "tester"⟩
  | "/search" => ⟨.search, .read, .code, ""⟩
  | "/document" => ⟨.documentation, .document, .documentation, "coder"⟩
  | "/research" => ⟨.search, .research, .research, "researcher"⟩
  | "/plan" => ⟨.planning, .plan, .architecture, ""⟩
  | "/deploy" => ⟨.transformation, .execute, .infrastructure, "coder"⟩
  | "/migrate" => ⟨.transformation, .modify, .data, "coder"⟩
  | "/git" | "/commit" => ⟨.transformation, .execute, .git, "coder"⟩
  | "/dependencies" => ⟨.evaluation, .analyze, .dependencies, "researcher"⟩
  | _ => ⟨.explanation, .read, .general, ""⟩

def interrogative : Pattern.Program :=
  Pattern.fixed "(?i)^\\s*(what|why|how|where|when|who|which|is|are|can|could|does|do|did|should|would|will|has|have)\\b"

def hypothetical : Pattern.Program :=
  Pattern.fixed "(?i)\\b(what if|suppose|supposing|hypothetically|imagine if|what would happen|would it)\\b"

def multiStep : Pattern.Program :=
  Pattern.fixed "(?i)(\\bthen\\b|\\bafter that\\b|\\bfirst\\b.*\\bnext\\b|\\bstep \\d|\\band also\\b|(?m)^\\s*2[.)]\\s)"

def negation : Pattern.Program :=
  Pattern.fixed "(?i)\\b(don't|dont|do not|never|not|no longer|stop|shouldn't|mustn't)\\b"

def criticalWords : Pattern.Program :=
  Pattern.fixed "(?i)\\b(critical|outage|emergency|production (is )?down|p0|sev ?1)\\b"

def highWords : Pattern.Program :=
  Pattern.fixed "(?i)\\b(urgent|urgently|asap|immediately|right now|blocking|quickly)\\b"

def lowWords : Pattern.Program :=
  Pattern.fixed "(?i)\\b(no rush|when you have time|eventually|low priority|someday)\\b"

def destructiveWords : Pattern.Program :=
  Pattern.fixed "(?i)(--force|force push|rm -rf|\\bdrop table\\b|\\ball files\\b)"

def lineReference : Pattern.Program :=
  Pattern.fixed "(?i)\\bline\\s+\\d+"

def functionReference : Pattern.Program :=
  Pattern.fixed "(?i)\\b(function|func|method|fn)\\b|\\w+\\(\\)"

def typeReference : Pattern.Program :=
  Pattern.fixed "(?i)\\b(struct|class|type|interface|trait|enum)\\b"

def moduleReference : Pattern.Program :=
  Pattern.fixed "(?i)\\b(module|crate|package)\\b"

/-- The verbs that ask for a confirmation. -/
def destructiveVerbs : List String :=
  ["/delete", "/deploy", "/migrate", "/reset"]

def urgency (text : String) : Urgency :=
  if criticalWords.matches text then .critical
  else if highWords.matches text then .high
  else if lowWords.matches text then .low
  else .normal

def signalsOf (i : Intent) (input : String) : Signals :=
  let text := Text.trimmed input
  ⟨Text.endsWith text "?" || interrogative.matches text, hypothetical.matches text,
    multiStep.matches text, negation.matches text,
    destructiveVerbs.contains i.verb || destructiveWords.matches text, urgency text⟩

/-- Whether a target is the path of a file: its last part has a stem and a short ending. -/
def looksLikeFile (target : String) : Bool :=
  let last := (target.toList.reverse.takeWhile (· != '/'))
  let ending := last.takeWhile (· != '.')
  match last.drop ending.length with
  | _ :: stem =>
    !stem.isEmpty && !ending.isEmpty && ending.length ≤ 6 && ending.all Char.isAlphanum
  | [] => false

/-- The target without parentheses behind it; `cs` is reversed. -/
def dropCall : List Char → List Char
  | ')' :: '(' :: rest => dropCall rest
  | cs => cs

def symbolOf (target : String) : String :=
  String.ofList (dropCall target.toList.reverse).reverse

def scopeOf (i : Intent) (input : String) : Scope :=
  if !i.hasTarget || i.target.toList.map Char.toLower == "codebase".toList then
    { level := .codebase, target := "codebase" }
  else if looksLikeFile i.target then
    let level :=
      if lineReference.matches input then .line
      else if functionReference.matches input then .function
      else .file
    { level, target := i.target, file := i.target }
  else if i.target.toList.contains '/' then
    { level := if moduleReference.matches input then .module else .package, target := i.target }
  else
    let level :=
      if typeReference.matches input then .type
      else if functionReference.matches input || Text.endsWith i.target "()" then .function
      else if moduleReference.matches input then .module
      else .block
    { level, target := i.target, symbol := symbolOf i.target }

def mode (i : Intent) (s : Signals) : String :=
  if s.isHypothetical then "analyze"
  else
    match i.category with
    | .mutation => if s.isMultiStep then "plan" else "execute"
    | .instruction => "configure"
    | .query => if i.verb == "/greet" || i.verb == "/converse" then "converse" else "answer"

def tools : ActionType → List String
  | .modify | .create | .delete => ["edit"]
  | .test | .execute => ["exec"]
  | .research => ["web"]
  | .review | .analyze | .read => ["read"]
  | .converse | .plan | .document => []

def supporters (i : Intent) (p : Profile) : List String :=
  if p.domain = .security && p.shard != "reviewer" then ["reviewer"]
  else if p.domain = .testing && p.shard != "tester" then ["tester"]
  else if i.category = .mutation && p.shard == "coder" then ["tester"]
  else []

def ofIntent (i : Intent) (input : String) : Understanding :=
  let p := profile i.verb
  let s := signalsOf i input
  let reach := scopeOf i input
  let isMutation := i.category = .mutation
  { intent := i
    semanticType := p.semanticType
    actionType := p.actionType
    domain := p.domain
    scope := reach
    signals := s
    userConstraints :=
      if (Text.trim i.constraint.toList).isEmpty || i.constraint == noTarget then []
      else [i.constraint]
    implicitAssumptions :=
      (if reach.level = .codebase && isMutation then ["change applies across the codebase"]
       else []) ++
      (if isMutation && !s.isHypothetical then
        ["existing behaviour outside the target is preserved"]
       else [])
    approach :=
      ⟨mode i s, p.shard, supporters i p, tools p.actionType,
        if reach.file.isEmpty then [] else [reach.file]⟩ }

end Utterance.Understanding
