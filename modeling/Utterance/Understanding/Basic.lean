import Utterance.Envelope

/-!
An intent together with the signals that a planner uses: what is asked for and in which field, how
far it reaches, how it is phrased, and who should deal with it.
-/

namespace Utterance

/-- What sort of answer is asked for. -/
inductive SemanticType where
  | explanation
  | definition
  | diagnosis
  | transformation
  | creation
  | removal
  | verification
  | search
  | evaluation
  | conversation
  | planning
  | documentation
  deriving DecidableEq

inductive ActionType where
  | read
  | analyze
  | modify
  | create
  | delete
  | execute
  | research
  | converse
  | plan
  | document
  | review
  | test
  deriving DecidableEq

inductive Domain where
  | general
  | code
  | testing
  | security
  | performance
  | documentation
  | infrastructure
  | data
  | architecture
  | dependencies
  | git
  | research
  deriving DecidableEq

/-- How far a request reaches. -/
inductive ScopeLevel where
  | line
  | block
  | function
  | type
  | file
  | package
  | module
  | codebase
  deriving DecidableEq

inductive Urgency where
  | low
  | normal
  | high
  | critical
  deriving DecidableEq

namespace SemanticType

def names : List (String × SemanticType) :=
  [("explanation", explanation), ("definition", definition), ("diagnosis", diagnosis),
    ("transformation", transformation), ("creation", creation), ("removal", removal),
    ("verification", verification), ("search", search), ("evaluation", evaluation),
    ("conversation", conversation), ("planning", planning), ("documentation", documentation)]

end SemanticType

namespace ActionType

def names : List (String × ActionType) :=
  [("read", read), ("analyze", analyze), ("modify", modify), ("create", create),
    ("delete", delete), ("execute", execute), ("research", research), ("converse", converse),
    ("plan", plan), ("document", document), ("review", review), ("test", test)]

end ActionType

namespace Domain

def names : List (String × Domain) :=
  [("general", general), ("code", code), ("testing", testing), ("security", security),
    ("performance", performance), ("documentation", documentation),
    ("infrastructure", infrastructure), ("data", data), ("architecture", architecture),
    ("dependencies", dependencies), ("git", git), ("research", research)]

end Domain

namespace ScopeLevel

def names : List (String × ScopeLevel) :=
  [("line", line), ("block", block), ("function", function), ("type", type), ("file", file),
    ("package", package), ("module", module), ("codebase", codebase)]

end ScopeLevel

namespace Urgency

def names : List (String × Urgency) :=
  [("low", low), ("normal", normal), ("high", high), ("critical", critical)]

end Urgency

def nameIn {α : Type} [DecidableEq α] (names : List (String × α)) (a : α) : String :=
  ((names.find? fun p => p.2 = a).map Prod.fst).getD ""

structure Scope where
  level : ScopeLevel := .codebase
  target : String := ""
  file : String := ""
  symbol : String := ""

structure Signals where
  isQuestion : Bool
  isHypothetical : Bool
  isMultiStep : Bool
  isNegated : Bool
  requiresConfirmation : Bool
  urgency : Urgency

/-- Who should deal with a request, and with what. -/
structure Approach where
  mode : String
  primaryShard : String
  supportingShards : List String
  toolsNeeded : List String
  contextNeeded : List String

structure Understanding where
  intent : Intent
  semanticType : SemanticType
  actionType : ActionType
  domain : Domain
  scope : Scope
  signals : Signals
  userConstraints : List String
  implicitAssumptions : List String
  approach : Approach

def Intent.members (i : Intent) : List (String × Json) :=
  [("category", .str i.category.write), ("verb", .str i.verb), ("target", .str i.target),
    ("constraint", .str i.constraint), ("confidence", .float i.confidence),
    ("response", .str i.response), ("ambiguity", .ofTexts i.ambiguity),
    ("memory_operations", .arr (i.memoryOperations.map MemoryOperation.toJson))]

def Intent.toJson (i : Intent) : Json :=
  .obj i.members

def Scope.toJson (s : Scope) : Json :=
  .obj [("level", .str (nameIn ScopeLevel.names s.level)), ("target", .str s.target),
    ("file", .str s.file), ("symbol", .str s.symbol)]

def Signals.toJson (s : Signals) : Json :=
  .obj [("is_question", .bool s.isQuestion), ("is_hypothetical", .bool s.isHypothetical),
    ("is_multi_step", .bool s.isMultiStep), ("is_negated", .bool s.isNegated),
    ("requires_confirmation", .bool s.requiresConfirmation),
    ("urgency", .str (nameIn Urgency.names s.urgency))]

def Approach.toJson (a : Approach) : Json :=
  .obj [("mode", .str a.mode), ("primary_shard", .str a.primaryShard),
    ("supporting_shards", .ofTexts a.supportingShards), ("tools_needed", .ofTexts a.toolsNeeded),
    ("context_needed", .ofTexts a.contextNeeded)]

namespace Understanding

/-- An understanding as one object, the intent's members first. -/
def toJson (u : Understanding) : Json :=
  .obj (u.intent.members ++
    [("semantic_type", .str (nameIn SemanticType.names u.semanticType)),
      ("action_type", .str (nameIn ActionType.names u.actionType)),
      ("domain", .str (nameIn Domain.names u.domain)), ("scope", u.scope.toJson),
      ("signals", u.signals.toJson), ("user_constraints", .ofTexts u.userConstraints),
      ("implicit_assumptions", .ofTexts u.implicitAssumptions),
      ("suggested_approach", u.approach.toJson)])

/-- Whether acting on it must change nothing. -/
def isReadOnly (u : Understanding) : Bool :=
  u.intent.category == .query || u.signals.isHypothetical

/-- The understanding with another primary shard, unless that is empty. -/
def withShard (u : Understanding) (shard : String) : Understanding :=
  if shard.isEmpty then u else { u with approach := { u.approach with primaryShard := shard } }

end Understanding

end Utterance
