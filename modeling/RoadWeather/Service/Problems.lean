import RoadWeather.Service.Basic
import RoadWeather.Problems

/-! # Requests on problem lists -/

namespace RoadWeather.Service

def entriesValue (p : Problems) : Value :=
  .list (p.entries.map fun e => .list [e.message, .int e.more])

def problemsStep (p : Problems) : Except Fault Value := do
  let joined ← p.joined
  return .record [("len", .int p.size), ("errors", entriesValue p),
    ("with_context", .list (p.texts.map Value.text)), ("short_str", .text joined),
    ("repr", .text p.summary)]

def problemSteps : Problems → List Value → Except Fault (List Value)
  | _, [] => .ok []
  | p, a :: rest => do
    let (msg, notice) := match a with
      | .list [m] => (m, Notice.silent)
      | .list (m :: w :: _) => (m, Notice.ofWord w)
      | m => (m, Notice.silent)
    let (_, p', _) := (Problems.add msg notice).run p #[]
    let step ← problemsStep p'
    return step :: (← problemSteps p' rest)

def problemsAnswer (req : Value) : Value :=
  let ctx := (req.field "context").plain
  match problemSteps { context := ctx } (req.field "adds").items with
  | .ok steps => .record [("steps", .list steps)]
  | .error f => .record f.answer

end RoadWeather.Service
