import RoadWeather.Service.Dump

/-! # Requests on blocks and conditions -/

namespace RoadWeather.Service

open RoadWeather.Time

def callAnswer (a : Act σ Value) (x : σ) : Value × σ :=
  let (r, x', log) := a.run x #[]
  (.record (outcomeFields r ++ [("log", logValue log)]), x')

def runCalls (step : Value → Act σ Value) : List Value → σ → List Value × σ
  | [], x => ([], x)
  | c :: cs, x =>
    let (ans, x') := callAnswer (step c) x
    let (rest, x'') := runCalls step cs x'
    (ans :: rest, x'')

def unknownCall (what : String) (name : Value) : Act σ Value :=
  Act.fail .badValue ("unknown " ++ what ++ " " ++ name.plain)

/-! ## Blocks -/

def blockCall (c : Value) : Act Block Value :=
  match (c.field "call").plain with
  | "set_sensor_id" => do Block.setSensorId (sensorPairs (c.field "pairs")); pure .nothing
  | "is_valid" => do return .bool (← Block.check)
  | "get_sql_def" => do return .text (← Block.sql)
  | "eq" => do
    let o := c.field "other"
    let _ ← Act.focus (fun _ => ()) (fun b _ => b)
      (Block.make (o.field "master_alias") (o.field "parent_site") (o.field "order_nr")
        (o.field "raw_logic"))
    -- Two blocks never share their problem lists, so they never compare equal.
    pure (.bool false)
  | _ => unknownCall "call" (c.field "call")

def blockAnswer (req : Value) : Value :=
  let made := (Block.make (req.field "master_alias") (req.field "parent_site")
    (req.field "order_nr") (req.field "raw_logic")).run () #[]
  match made with
  | (.error f, _, _) => .record f.answer
  | (.ok b, _, log) =>
    let (calls, b') := runCalls blockCall (req.field "calls").items b
    .record [("init_log", logValue log), ("calls", .list calls), ("block", blockRecord b')]

/-! ## Conditions -/

def withLink (db : Value) (a : Bool → Act Condition.OnLink Unit) : Act Condition Value :=
  Act.focus (fun c => (c, Link.mk (linkSpec db) #[] 0 0)) (fun _ p => p.1) (do
    let connected := !(db matches .nothing)
    a connected
    if connected then return .record (linkFields (← Act.self).2) else return .nothing)

/-- One call on a condition. -/
def conditionCall (c : Value) : Act Condition Value :=
  match (c.field "call").plain with
  | "set_sensor_ids" => do Condition.setSensorIds (sensorPairs (c.field "pairs")); pure .nothing
  | "is_valid" => do return .bool (← Condition.check)
  | "station_ids" => do
    return .list ((← Act.self).stationIds.map fun
      | some n => .int n
      | none => .nothing)
  | "getitem" => do
    let key := c.field "key"
    match (← Act.self).block? key.plain with
    | some b => if key matches .text _ then return blockRecord b else Act.fail .missingKey key.quoted
    | none => Act.fail .missingKey key.quoted
  | "temptable" => withLink (c.field "db") Condition.makeTable
  | "fetch_results" => withLink (c.field "db") fun _ => Condition.fetchResults
  | _ => unknownCall "call" (c.field "call")

def defaultFrom : Value := .time { year := 2018, month := 2, day := 1 }
def defaultUntil : Value := .time { year := 2018, month := 3, day := 31, hour := 23, minute := 59, second := 59 }

def conditionAnswer (req : Value) : Value :=
  let made := (Condition.make (req.field "site") (req.field "master_alias")
    (req.field "raw_condition") ((req.field? "time_from").getD defaultFrom)
    ((req.field? "time_until").getD defaultUntil) (req.field "excel_row")).run () #[]
  match made with
  | (.error f, _, _) => .record f.answer
  | (.ok cond, _, log) =>
    let (calls, cond') := runCalls conditionCall (req.field "calls").items cond
    .record [("init_log", logValue log), ("calls", .list calls),
      ("condition", conditionRecord cond')]

end RoadWeather.Service
