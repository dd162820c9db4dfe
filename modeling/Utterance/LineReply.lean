import Utterance.Envelope

/-!
Replies that classify a message in one line, its fields divided by bars, and answer below it.
-/

namespace Utterance.LineReply

/-- The confidence of a reply that states none. -/
def defaultConfidence : Float := 0.6

/-- The fewest fields of a line that counts. -/
def leastFields : Nat := 4

/-- The fields of a line, without backticks around the line and blanks around each field. -/
def fields (line : List Char) : List (List Char) :=
  let tick (c : Char) := c == '`'
  let bare := Text.trimEnd tick (Text.trimStart tick (Text.trim line))
  (Text.splitWhere (· == '|') bare).map Text.trim

/-- The fields of the first line that has enough of them, and the lines behind it. -/
def find? : List (List Char) → Option (List (List Char) × List (List Char))
  | [] => none
  | line :: rest =>
    let fs := fields line
    if leastFields ≤ fs.length then some (fs, rest) else find? rest

/-- A stated confidence, which may end in percent signs. -/
def confidence (field : Option (List Char)) : Float :=
  match field.bind fun cs => Decimal.float? (String.ofList (Text.trimEnd (· == '%') cs)) with
  | some x => Envelope.normalizeConfidence x
  | none => defaultConfidence

def isNone (cs : List Char) : Bool :=
  cs.map Char.toLower == noTarget.toList

/-- The intent that a reply states, if a line has enough fields and names a category and a verb. -/
def read? (reply : String) : Option Intent := do
  match ← find? (Text.lines reply.toList) with
  | (category :: verb :: target :: constraint :: more, rest) =>
    let category ← Category.parse? (String.ofList category)
    let verb := normalizeVerb (String.ofList verb)
    if verb.isEmpty || verb == "/" then none
    else
      pure { Intent.fallback with
        category, verb
        target := if target.isEmpty then noTarget else String.ofList target
        constraint := if isNone constraint then "" else String.ofList constraint
        confidence := confidence more.head?
        response := Text.trimmed (Text.join "\n" (rest.map String.ofList)) }
  | _ => none

end Utterance.LineReply
