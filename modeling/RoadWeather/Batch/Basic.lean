import RoadWeather.Collection.FromSheet
import RoadWeather.Collection.Database

/-! # Batches of collections

A batch is the analysis of a whole workbook: a collection of each of its sheets, with the checks
made on them all. -/

namespace RoadWeather

open RoadWeather.Time RoadWeather.Text

/-- The analysis of a workbook. -/
structure Batch where
  name : String
  source : String
  book : Workbook
  collections : List (String × Collection) := []
  problems : Problems := { context := "ANALYSIS / EXCEL FILE" }
  deriving Inhabited

/-- The problems of a block. -/
structure BlockProblems where
  name : String
  errors : List String
  deriving Inhabited

/-- The problems of a condition and of its blocks. -/
structure ConditionProblems where
  name : String
  errors : List String
  blocks : List BlockProblems
  deriving Inhabited

/-- The problems of a collection and of its conditions. -/
structure CollectionProblems where
  name : String
  errors : List String
  conditions : List ConditionProblems
  deriving Inhabited

/-- All problems of a batch, level by level. -/
structure ProblemTree where
  errors : List String
  collections : List CollectionProblems
  deriving Inhabited

namespace ProblemTree

def any (t : ProblemTree) : Bool :=
  !t.errors.isEmpty || t.collections.any fun c =>
    !c.errors.isEmpty || c.conditions.any fun d =>
      !d.errors.isEmpty || d.blocks.any fun b => !b.errors.isEmpty

end ProblemTree

namespace Batch

def text (b : Batch) : String :=
  "<AnalysisCollection " ++ b.name ++ "> from <" ++ b.source ++ "> with " ++
    toString b.collections.length ++ " collections>"

def report (msg : String) (notice : Notice) : Act Batch Unit :=
  Act.focus (·.problems) (fun b p => { b with problems := p }) (Problems.add (.text msg) notice)

def onCollection (i : Nat) (a : Act Collection α) : Act Batch α :=
  Act.focus (fun b => (b.collections.getD i default).2)
    (fun b c => { b with collections := b.collections.modify i fun (k, _) => (k, c) }) a

def setCollection (title : String) (c : Collection) : List (String × Collection) →
    List (String × Collection)
  | [] => [(title, c)]
  | (k, d) :: rest => if k = title then (k, c) :: rest else (k, d) :: setCollection title c rest

def addCollections (drop : List String) (createdAt : Instant) : Act Batch Unit := do
  let sheets := (← Act.self).book.sheets
  for s in sheets do
    if drop.contains (strip (lower s.title)) then continue
    let made ← Act.focus (fun _ => ()) (fun b _ => b)
      (Act.attempt (Collection.fromSheet s .stored createdAt))
    match made with
    | .ok c =>
      Act.change fun b => { b with collections := setCollection s.title c b.collections }
      Act.note .info .analysis ("Added CondCollection <" ++ s.title ++ ">")
    | .error _ => report ("Could not add CondCollection <" ++ s.title ++ ">: skipping") .error

def everyCollection (a : Act Collection Unit) : Act Batch Unit := do
  let n := (← Act.self).collections.length
  for i in List.range n do onCollection i a

def setSensorIds (pairs : Except Fault (List (Value × Value))) : Act Batch Unit :=
  everyCollection (Collection.setSensorIds pairs)

def validateStations (known : List Value) : Act Batch Unit :=
  everyCollection (Collection.everyCondition (Condition.everyBlock
    (Collection.checkStation known "static ids")))

def problemTree (b : Batch) : ProblemTree :=
  { errors := b.problems.texts
    collections := b.collections.map fun (_, c) =>
      { name := c.text
        errors := c.problems.texts
        conditions := c.conditions.map fun d =>
          { name := d.text
            errors := d.problems.texts
            blocks := d.blocks.map fun bl => { name := bl.text, errors := bl.problems.texts } } } }

def collectProblems : Act Batch ProblemTree := do
  Act.note .info .analysis "Building error message tree ..."
  return problemTree (← Act.self)

def dryValidate (sensors : List (Value × Value)) (stations : List Value) : Act Batch ProblemTree := do
  setSensorIds (.ok sensors)
  validateStations stations
  collectProblems

end Batch

end RoadWeather
