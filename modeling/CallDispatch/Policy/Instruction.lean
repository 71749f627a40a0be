import CallDispatch.Policy.Outcome
import CallDispatch.Sip.Status

/-!
# Instructions of the routing service

The routing service answers with a small JSON document, an action with its data:
`{"action":"route","data":{"tag":…,"uri":…}}` or `{"action":"reject","data":{"status":…}}`. Action
and data may come in either order, or as the two items of an array. Data that stand in front of
their action have to be kept until it is known, which bounds their depth.
-/

namespace CallDispatch

open Text

/-- Why the routing policy does not decide. -/
inductive ResolverError
  | unreachable (reason : String)
  /-- The service answered, but not with an instruction; the reason is known unless the answer was
  no JSON document of the right form. -/
  | invalidResponse (reason : Option String)
  | invalidUrl (reason : String)
deriving DecidableEq

/-- The wording of a resolver error. -/
def ResolverError.message : ResolverError → String
  | unreachable reason => "Routing service unreachable: " ++ reason
  | invalidResponse reason =>
    "Invalid routing instruction: " ++ reason.getD "the answer is not an instruction"
  | invalidUrl reason => "Invalid routing url: " ++ reason

/-- An instruction of the routing service. -/
inductive Instruction
  | route (tag uri : Option String)
  | reject (status : Nat) (reason : Option String)
deriving DecidableEq

namespace Instruction

/-- What an instruction tells the server to do. -/
inductive Verb
  | route
  | reject
deriving DecidableEq

/-- The verb with the given name. -/
def Verb.ofName? : String → Option Verb
  | "route" => some .route
  | "reject" => some .reject
  | _ => none

/-- The deepest nesting of data that are kept until their action is known. -/
def keptDepth : Nat := 126

/-- Reads the data of an instruction. -/
def ofData? (verb : Verb) (data : Json) : Option Instruction := do
  match verb with
  | .route =>
    let record ← Json.Record.ofJson? ["tag", "uri"] false data
    return .route (← record.optional "tag" Json.text?) (← record.optional "uri" Json.text?)
  | .reject =>
    let record ← Json.Record.ofJson? ["status", "reason"] false data
    return .reject (← record.required "status" (Json.natural? max16))
      (← record.optional "reason" Json.text?)

/-- Whether the data stand in front of the action. -/
def dataFirst (record : Json.Record) : Bool :=
  (record.fields.map Prod.fst).head? == some "data"

/-- Reads the name of an action: in an array it has to be a plain text. -/
def readAction (json action : Json) : Option String :=
  match json with
  | .array _ => action.text?
  | _ => action.alternative?

/-- Reads an instruction. -/
def ofJson? (json : Json) : Option Instruction := do
  let record ← Json.Record.ofJson? ["action", "data"] false json
  let verb ← record.required "action" fun action => (readAction json action).bind Verb.ofName?
  record.required "data" fun data =>
    if dataFirst record ∧ ¬ data.isKeepable keptDepth then none else ofData? verb data

/-- What an instruction decides: an address wins over a tag, and empty ones are none. -/
def outcome : Instruction → Except ResolverError Outcome
  | route tag uri =>
    match uri.filter (· ≠ ""), tag.filter (· ≠ "") with
    | some uri, _ => .ok (.routeByUri uri)
    | none, some tag => .ok (.routeByTag tag)
    | none, none =>
      .error (.invalidResponse (some "route instruction carries neither tag nor uri"))
  | reject status _ =>
    if Sip.isRefusal status then .ok (.reject status)
    else .error (.invalidResponse (some ("invalid reject status " ++ decimal status)))

/-- Reads what the routing service decided from the text of its answer. -/
def parse (body : String) : Except ResolverError Outcome :=
  match (Json.parse body).bind ofJson? with
  | none => .error (.invalidResponse none)
  | some instruction => instruction.outcome

end Instruction

end CallDispatch
