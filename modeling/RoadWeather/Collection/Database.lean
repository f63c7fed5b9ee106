import RoadWeather.Collection.Basic
import RoadWeather.Condition.Sql
import RoadWeather.Condition.Results
import RoadWeather.Sensors

/-! # Running a collection against its database

Stations are checked, the tables of the conditions are made and their results fetched. -/

namespace RoadWeather

open RoadWeather.Time

namespace Collection

abbrev OnLink := Collection × Link

def onSelf (a : Act Collection α) : Act OnLink α := Act.focus (·.1) (fun p c => (c, p.2)) a

def onLink (a : Act Link α) : Act OnLink α := Act.focus (·.2) (fun p l => (p.1, l)) a

def onConditionLink (i : Nat) (a : Act Condition.OnLink α) : Act OnLink α :=
  Act.focus (fun p => (p.1.conditions.getD i default, p.2))
    (fun p q => ({ p.1 with conditions := p.1.conditions.set i q.1 }, q.2)) a

def viewStatement (c : Collection) : String :=
  "CREATE OR REPLACE TEMP VIEW obs_main AS SELECT tfrom, statid, seid, seval FROM statobs " ++
  "INNER JOIN seobs ON statobs.id = seobs.obsid WHERE tfrom BETWEEN '" ++ c.timeFrom.sqlText ++
  "'::timestamptz AND '" ++ c.timeUntil.sqlText ++ "'::timestamptz;"

def setupView : Act OnLink Unit := do
  let sql := viewStatement (← Act.self).1
  Act.note .debug .collection sql
  match ← onLink (Act.attempt (do let _ ← Link.execute sql; Link.commit)) with
  | .ok () => onSelf (Act.change fun c => { c with hasMainView := true })
  | .error _ =>
    onLink Link.rollback
    onSelf (report "Cannot create obs_main db view" .error)

def stationQuery : String := "SELECT DISTINCT statid FROM obs_main ORDER BY statid;"

def firstValues : List (List Value) → Except Fault (List Value)
  | [] => .ok []
  | [] :: _ => .error ⟨.index, "tuple index out of range"⟩
  | (v :: _) :: rows => do
    if !v.isKey then throw ⟨.wrongKind, "unhashable type: '" ++ v.kindName ++ "'"⟩
    return v :: (← firstValues rows)

def checkStation (known : List Value) (source : String) : Act Block Unit := do
  let b ← Act.self
  if b.kind != some .primary then return
  match b.stationId with
  | none => Block.report ("stationid is None (tried to compare it to " ++ source ++ ")") .error
  | some n =>
    if !known.any (Value.same (.int n)) then
      Block.report ("stationid was not found in " ++ source) .error

/-- Check the stations of all blocks against the stations the database has seen in the
period. -/
def validateStations : Act OnLink Unit := do
  Act.note .info .collection "Fetching unique station ids from db view `obs_main` ..."
  let fetched ← onLink (Act.attempt (Link.execute stationQuery))
  match fetched.bind (fun a => firstValues a.rows) with
  | .error _ =>
    onSelf (report "Cannot fetch station ids for Block validation from db view obs_main" .error)
  | .ok seen =>
    let n := (← Act.self).1.conditions.length
    for i in List.range n do
      let nb := ((← Act.self).1.conditions.getD i default).blocks.length
      for j in List.range nb do
        let coll := (← Act.self).1
        let cond := coll.conditions.getD i default
        Act.note .info .collection ("Db stationid validation for " ++
          (cond.blocks.getD j default).text ++ " of " ++ cond.text ++ " of " ++ coll.text ++ " ...")
        onSelf (onCondition i (Condition.onBlock j (checkStation seen "ids from db view")))

def makePrimaryTable (i : Nat) : Act OnLink Unit := do
  if ((← Act.self).1.conditions.getD i default).secondary then return
  if !(← onSelf (onCondition i Condition.check)) then return
  onConditionLink i (Condition.makeTable true)

def makeSecondaryTable (i : Nat) : Act OnLink Unit := do
  if !(← onSelf (onCondition i Condition.check)) then return
  if ((← Act.self).1.conditions.getD i default).secondary then
    onConditionLink i (Condition.makeTable true)

def makeTables : Act OnLink Unit := do
  let n := (← Act.self).1.conditions.length
  for i in List.range n do makePrimaryTable i
  for i in List.range n do makeSecondaryTable i

def fetchAll : Act OnLink Unit := do
  let n := (← Act.self).1.conditions.length
  for i in List.range n do
    let cond := (← Act.self).1.conditions.getD i default
    Act.note .info .collection ("Fetching " ++ toString (i + 1) ++ "/" ++ toString n ++ ": " ++
      cond.text ++ " ...")
    match ← Act.attempt (onConditionLink i Condition.fetchResults) with
    | .ok () => pure ()
    | .error _ =>
      onSelf (onCondition i (Condition.report "Exception while fetching results, skipping" .error))

end Collection

end RoadWeather
