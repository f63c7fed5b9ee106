import RoadWeather.Condition.Sql

/-! # Results of a condition

The table of a condition is summarised into its period, its time lengths and their shares. -/

namespace RoadWeather.Condition

open RoadWeather.Table

def orZeroSpan (v : Value) : Value := if v.truthy then v else .span ⟨0⟩

def liftE (r : Except Fault α) : Act σ α :=
  match r with
  | .ok x => pure x
  | .error f => throw f

def lengthWhere (t : Table) (b : Bool) : Except Fault Value := do
  let sel ← t.whereEq "master" (.bool b)
  let col ← sel.column "vdiff"
  return orZeroSpan (← total col)

def isZeroSpan : Value → Bool
  | .span d => d.micros == 0
  | _ => false

def share (part : Float) (whole : Value) (secs : Float) : Except Fault Value :=
  if isZeroSpan whole then .error ⟨.zeroDivision, "float division by zero"⟩
  else .ok (.float (part / secs))

/-- Set the summary from a result table. -/
def summarise (t : Table) : Act Condition Unit := do
  Act.change fun c => { c with results := t }
  let from_ := extreme .lt (← liftE (t.column "vfrom"))
  Act.change fun c => { c with dataFrom := from_ }
  let until_ := extreme .gt (← liftE (t.column "vuntil"))
  Act.change fun c => { c with dataUntil := until_ }
  let whole ← liftE (until_.minus from_)
  Act.change fun c => { c with totalTime := whole }
  let valid ← liftE (lengthWhere t true)
  Act.change fun c => { c with validTime := valid }
  let notValid ← liftE (lengthWhere t false)
  Act.change fun c => { c with notValidTime := notValid }
  let noData ← liftE ((whole.minus valid).bind (·.minus notValid))
  Act.change fun c => { c with noDataTime := noData }
  let secs ← liftE whole.totalSeconds
  let v ← liftE (share (← liftE valid.totalSeconds) whole secs)
  Act.change fun c => { c with validShare := v }
  let nv ← liftE (share (← liftE notValid.totalSeconds) whole secs)
  Act.change fun c => { c with notValidShare := nv }
  let nd ← liftE (share (← liftE noData.totalSeconds) whole secs)
  Act.change fun c => { c with noDataShare := nd }

def resultsQuery (c : Condition) : String := "SELECT * FROM " ++ c.idString ++ ";"

def fetchResults : Act OnLink Unit := do
  if !(← onCondition check) then return
  match ← onLink (Act.attempt (Link.execute (← Act.self).1.resultsQuery)) with
  | .error _ =>
    onLink Link.rollback
    onCondition (report "Cannot not fetch results from db" .error)
  | .ok a => onCondition (summarise (Table.ofAnswer a))

end RoadWeather.Condition
