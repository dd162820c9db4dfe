import Utterance.Json.Printer

/-!
The shape of an envelope as a schema, and the forms in which providers are told of it.
-/

namespace Utterance.Schema

/-- How a provider holds a model to a schema. -/
inductive Tier where
  /-- The schema is enforced to the letter. -/
  | strict
  /-- Some object is enforced; its shape is asked for in words. -/
  | object
  /-- The schema stands by itself in the request. -/
  | raw
  deriving DecidableEq

def typed (name : String) : Json :=
  .obj [("type", .str name)]

/-- An object with these properties, of which some are required. -/
def object (properties : List (String × Json)) (required : List String) : Json :=
  .obj [("type", .str "object"), ("properties", .obj properties), ("required", .ofTexts required)]

def array (items : Json) : Json :=
  .obj [("type", .str "array"), ("items", items)]

def classification : Json :=
  object
    [("category",
        .obj [("type", .str "string"), ("enum", .ofTexts ["/query", "/mutation", "/instruction"])]),
      ("verb", typed "string"), ("target", typed "string"), ("constraint", typed "string"),
      ("confidence", typed "number")]
    ["category", "verb", "target", "constraint", "confidence"]

def memoryOperation : Json :=
  object [("op", typed "string"), ("key", typed "string"), ("value", typed "string")]
    ["op", "key", "value"]

def selfCorrection : Json :=
  object [("triggered", typed "boolean"), ("hypothesis", typed "string")]
    ["triggered", "hypothesis"]

def controlPacket : Json :=
  object
    [("intent_classification", classification), ("mangle_updates", array (typed "string")),
      ("memory_operations", array memoryOperation), ("self_correction", selfCorrection)]
    ["intent_classification", "mangle_updates", "memory_operations"]

/-- The envelope; the control packet comes first. -/
def envelope : Json :=
  object [("control_packet", controlPacket), ("surface_response", typed "string")]
    ["control_packet", "surface_response"]

mutual

/-- A schema in which every object admits and requires exactly its properties. -/
def close : Json → Json
  | .obj ms =>
    let isObject := ms.lookup "type" |>.bind Json.text? |>.any (· == "object")
    let inner := closeMembers ms
    if isObject then
      let required :=
        match (ms.lookup "properties").bind Json.members? with
        | some ps => Json.setMember "required" (.ofTexts (ps.map Prod.fst)) inner
        | none => inner
      .obj (Json.setMember "additionalProperties" (.bool false) required)
    else .obj inner
  | j => j

def closeMembers : List (String × Json) → List (String × Json)
  | [] => []
  | (k, v) :: ms =>
    (k, if k == "properties" then closeProperties v else if k == "items" then close v else v) ::
      closeMembers ms

def closeProperties : Json → Json
  | .obj ps => .obj (closeEach ps)
  | j => j

def closeEach : List (String × Json) → List (String × Json)
  | [] => []
  | (k, v) :: ps => (k, close v) :: closeEach ps

end

def name : String := "piggyback_envelope"

def descriptor : Tier → Json
  | .strict =>
    .obj [("type", .str "json_schema"),
      ("json_schema",
        .obj [("name", .str name), ("strict", .bool true), ("schema", close envelope)])]
  | .object => .obj [("type", .str "json_object")]
  | .raw => envelope

def note : String :=
  "\n\nRespond with a single JSON object matching this schema. " ++
    "Emit \"control_packet\" before \"surface_response\". " ++
    "Do not wrap the object in markdown.\n" ++ envelope.pretty

def propertyNames (schema : Json) : List String :=
  (((schema.get? "properties").bind Json.members?).getD []).map Prod.fst

end Utterance.Schema
