import RoadWeather.Journal
import RoadWeather.Value
import RoadWeather.Text.Pieces

/-! # Database connections -/

namespace RoadWeather

/-- Column names and rows of an answer. -/
structure Answer where
  columns : List String := []
  rows : List (List Value) := []
  deriving Inhabited

/-- What a database answers. -/
structure LinkSpec where
  failOn : List String := []
  answer : Answer := {}
  responses : List (String × Answer) := []
  deriving Inhabited

/-- A connection: what its database answers, and what was done on it so far. -/
structure Link where
  spec : LinkSpec
  executed : Array String := #[]
  commits : Nat := 0
  rollbacks : Nat := 0
  deriving Inhabited

def LinkSpec.answerFor (spec : LinkSpec) (sql : String) : Answer :=
  match spec.responses.find? (fun r => Text.occursIn r.1 sql || r.1.isEmpty) with
  | some (_, a) => a
  | none => spec.answer

def LinkSpec.refuses (spec : LinkSpec) (sql : String) : Bool :=
  spec.failOn.any fun t => Text.occursIn t sql || t.isEmpty

namespace Link

def execute (sql : String) : Act Link Answer := do
  Act.change fun l => { l with executed := l.executed.push sql }
  let l ← Act.self
  if l.spec.refuses sql then
    Act.fail .runtime "simulated db failure"
  return l.spec.answerFor sql

def commit : Act Link Unit := Act.change fun l => { l with commits := l.commits + 1 }

def rollback : Act Link Unit := Act.change fun l => { l with rollbacks := l.rollbacks + 1 }

end Link

end RoadWeather
