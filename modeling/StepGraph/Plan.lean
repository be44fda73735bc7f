import StepGraph.Payload

/-! Plans: how a step selects from the running history before it sees it. A plan
is a list of operations, each of which keeps, drops or reorders entries and never
alters one. -/
namespace StepGraph

/-- One operation of a plan. -/
inductive PlanOp
  /-- Keeps the first `count` entries. -/
  | first (count : UInt64)
  /-- Keeps the last `count` entries. -/
  | last (count : UInt64)
  /-- Keeps the entries of the listed kinds. -/
  | includeKinds (kinds : List String)
  /-- Drops the entries of the listed kinds. -/
  | excludeKinds (kinds : List String)
  /-- Of the entries with one id, keeps the last where it stands. -/
  | dedupe
  /-- Turns the order around. -/
  | reverse
  deriving DecidableEq

/-- Operations, applied from the first to the last. -/
abbrev Plan := List PlanOp

namespace PlanOp

/-- Of the entries with one id, keeps the first, and none with an id in `seen`. -/
def keepFirst (seen : List String) : Payload → Payload
  | [] => []
  | entry :: rest =>
    if seen.contains entry.id then keepFirst seen rest
    else entry :: keepFirst (entry.id :: seen) rest

/-- What an operation makes of a payload. -/
def apply : PlanOp → Payload → Payload
  | .first count, payload => payload.take count.toNat
  | .last count, payload => payload.drop (payload.length - count.toNat)
  | .includeKinds kinds, payload => payload.filter fun entry => kinds.contains entry.kind
  | .excludeKinds kinds, payload => payload.filter fun entry => !kinds.contains entry.kind
  | .dedupe, payload => (keepFirst [] payload.reverse).reverse
  | .reverse, payload => payload.reverse

/-- Reads an operation: its name under `op`, beside its field. -/
def ofData? (data : Data) : Option PlanOp := do
  let (name, body) ← data.tagged? "op"
  match name with
  | "first" => countField? body |>.map first
  | "last" => countField? body |>.map last
  | "include_kinds" => kindsField? body |>.map includeKinds
  | "exclude_kinds" => kindsField? body |>.map excludeKinds
  | "dedupe" => body.noFields?.map fun _ => dedupe
  | "reverse" => body.noFields?.map fun _ => reverse
  | _ => none
where
  countField? (body : Data) : Option UInt64 := do
    match ← body.fields? ["count"] with
    | [count] => count.required Data.limit?
    | _ => none
  kindsField? (body : Data) : Option (List String) := do
    match ← body.fields? ["kinds"] with
    | [kinds] => kinds.required (Data.list? Data.text?)
    | _ => none

/-- An operation as data. -/
def toData : PlanOp → Data
  | .first count => .record [("op", .text "first"), ("count", .natural count.toNat)]
  | .last count => .record [("op", .text "last"), ("count", .natural count.toNat)]
  | .includeKinds kinds =>
    .record [("op", .text "include_kinds"), ("kinds", .list (kinds.map .text))]
  | .excludeKinds kinds =>
    .record [("op", .text "exclude_kinds"), ("kinds", .list (kinds.map .text))]
  | .dedupe => .record [("op", .text "dedupe")]
  | .reverse => .record [("op", .text "reverse")]

end PlanOp

/-- What a plan makes of a payload; the plan without operations keeps it. -/
def Plan.apply (plan : Plan) (payload : Payload) : Payload :=
  plan.foldl (fun entries op => op.apply entries) payload

end StepGraph
