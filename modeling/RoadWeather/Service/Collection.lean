import RoadWeather.Service.Objects
import RoadWeather.Collection.Analysis
import RoadWeather.Collection.FromSheet

/-! # Requests on collections -/

namespace RoadWeather.Service

open RoadWeather.Time

def creationTime : Instant := { year := 2000, month := 1, day := 1, hour := 12 }

def collectionFields (c : Collection) : List (String × Value) :=
  [("title", c.title), ("time_from", .time c.timeFrom), ("time_until", .time c.timeUntil),
    ("has_main_db_view", .bool c.hasMainView), ("errors", problemsRecord c.problems),
    ("str", .text c.text)]

def collectionRecord (c : Collection) : Value :=
  .record (collectionFields c ++ [("conditions", .list (c.conditions.map fun cond =>
    .list [.text cond.idString, conditionRecord cond]))])

def collectionState (c : Collection) : Value :=
  .record (collectionFields c ++
    [("conditions", .list (c.conditions.map fun cond => .text cond.idString))])

def cellsValue (s : Sheet) : Value :=
  .list (s.filled.map fun (p, v) => .list [.text p.name, v])

def workbookValue (wb : Workbook) : Value :=
  .list (wb.sheets.map fun s => .list [.text s.title, cellsValue s])

def slideRecord (s : Slide) : Value :=
  .record [("0", .text s.title), ("11", .text s.plot), ("13", .text s.body),
    ("15", .text s.period), ("16", .text s.footer), ("17", .text s.header),
    ("19", .text s.problems),
    ("table", .list (s.table.map fun row => .list (row.map Value.text)))]

def folderExists (dir : String) : Bool := dir == "." || dir == "./"

def onDatabase (db : Value) (a : Act Collection.OnLink α) (extra : α → List (String × Value)) :
    Act Collection Value :=
  Act.focus (fun c => (c, Link.mk (linkSpec db) #[] 0 0)) (fun _ p => p.1) (do
    match ← Act.attempt a with
    | .ok x => return .record (linkFields (← Act.self).2 ++ extra x)
    | .error f => return .record [("raised", .record (f.answer ++ linkFields (← Act.self).2))])

/-- One step on a collection. -/
def collectionStep (s : Value) : Act Collection Value :=
  let db := s.field "db"
  match (s.field "step").plain with
  | "add" => do
    Collection.add (s.field "site") (s.field "master_alias") (s.field "raw_condition")
      (s.field "excel_row")
    pure .nothing
  | "set_sensor_ids" => do
    Collection.setSensorIds (sensorPairs (s.field "pairs"))
    pure .nothing
  | "setup_obs_view" => onDatabase db Collection.setupView fun _ => []
  | "validate_statids_with_db" => onDatabase db Collection.validateStations fun _ => []
  | "create_temptables" => onDatabase db Collection.makeTables fun _ => []
  | "fetch_all_results" => onDatabase db Collection.fetchAll fun _ => []
  | "run_analysis" =>
    let sheet := match s.field? "worksheet" with
      | some v => v.truthy
      | none => true
    onDatabase db
      (Collection.runAnalysis { workbook := if sheet then some {} else none } "<elapsed>")
      fun p => match p.workbook with
        | some wb => [("sheets", workbookValue wb)]
        | none => []
  | "to_worksheet" => do
    match Collection.toWorksheet (← Act.self) {} with
    | .ok wb =>
      let last := wb.sheets.getLastD default
      return .record [("sheetnames", .list (wb.titles.map Value.text)),
        ("title", .text last.title), ("cells", cellsValue last)]
    | .error f => throw f
  | "to_pptx" => do
    let pictures := (s.field? "png_dir").bind fun v =>
      match v with
      | .text d => some (d, folderExists d)
      | _ => none
    let ss ← Collection.slides pictures
    return .record [("slides", .list (ss.map slideRecord))]
  | "getitem" => do
    let key := s.field "key"
    match key with
    | .text k =>
      match (← Act.self).condition? k with
      | some c => return conditionRecord c
      | none => Act.fail .missingKey key.quoted
    | _ => Act.fail .missingKey key.quoted
  | "dump" => do return collectionRecord (← Act.self)
  | _ => unknownCall "step" (s.field "step")

/-- Answer a request on a collection. -/
def collectionAnswer (req : Value) : Value :=
  match Collection.make (req.field "time_from") (req.field "time_until") (req.field "title")
      creationTime with
  | .error f => .record f.answer
  | .ok c =>
    let (steps, c') := runSteps (req.field "steps").items c
    .record [("steps", .list steps), ("collection", collectionRecord c')]
where
  runSteps : List Value → Collection → List Value × Collection
    | [], c => ([], c)
    | s :: rest, c =>
      let (r, c', log) := (collectionStep s).run c #[]
      let ans := Value.record (outcomeFields r ++ [("log", logValue log), ("state", collectionState c')])
      let (more, c'') := runSteps rest c'
      (ans :: more, c'')

/-! ## Collections from worksheets -/

def writeRows (s : Sheet) : List (Value × Nat) → Except Fault Sheet
  | [] => .ok s
  | (row, i) :: rest => do
    let s ← row.items.zipIdx.foldlM (fun s (v, j) =>
      if v matches .nothing then pure s else s.write ⟨i + 1, j + 1⟩ v) s
    writeRows s rest

def sheetOf (req : Value) : Except Fault Sheet := do
  let wb ← Workbook.withTitle (req.field "title")
  let s ← writeRows (wb.sheets.getLastD default) (req.field "rows").items.zipIdx
  let cells := match req.field "cells" with
    | .record es => es
    | _ => []
  cells.foldlM (fun s (k, v) =>
    match Position.ofName? k with
    | some p => s.write p v
    | none => .error ⟨.badValue, "Invalid cell coordinates (" ++ k ++ ")"⟩) s

def sheetAnswer (req : Value) : Value :=
  match sheetOf req with
  | .error f => .record f.answer
  | .ok s =>
    let reading := if (req.field "read_only").truthy then Reading.stored else .direct
    let s := if reading = .stored then s.stored else s
    match (Collection.fromSheet s reading creationTime).run () #[] with
    | (.ok c, _, log) => .record [("log", logValue log), ("collection", collectionRecord c)]
    | (.error f, _, _) => .record f.answer

end RoadWeather.Service
