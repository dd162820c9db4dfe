import Utterance.Text.Split

/-!
The conversation so far, and how a prompt tells of it.
-/

namespace Utterance

inductive Role where
  | user
  | assistant
  deriving DecidableEq

structure Turn where
  role : Role
  content : String

namespace Conversation

def latest (n : Nat) (turns : List Turn) : List Turn :=
  turns.drop (turns.length - n)

/-- The most characters of an answer that a prompt repeats. -/
def maxAnswer : Nat := 400

/-- The front of an answer, marked when something was cut off. -/
def shortAnswer (s : String) : String :=
  if maxAnswer < s.length then String.ofList (s.toList.take maxAnswer) ++ "..." else s

def line (t : Turn) : String :=
  match t.role with
  | .user => "User: " ++ Text.trimmed t.content ++ "\n"
  | .assistant => "Assistant: " ++ shortAnswer (Text.trimmed t.content) ++ "\n"

/-- The section of a prompt with the last `n` messages; nothing if there are none. -/
def passage (n : Nat) (turns : List Turn) : String :=
  if turns.isEmpty || n = 0 then ""
  else "## Conversation so far\n" ++ String.join ((latest n turns).map line) ++ "\n"

/-- The last `n` messages as a plain record. -/
def transcript (n : Nat) (turns : List Turn) : String :=
  Text.join "\n" ((latest n turns).map fun t =>
    (match t.role with
      | .user => "User: "
      | .assistant => "Agent: ") ++ Text.trimmed t.content)

end Conversation

end Utterance
