import RoadWeather.Service.Collection
import RoadWeather.Batch.Run
import RoadWeather.Samples
import RoadWeather.Settings

/-! # Requests on whole workbooks -/

namespace RoadWeather.Service

def serviceSettings : Settings := Settings.ofEnv [("PG_HOST", "127.0.0.1"), ("PG_PORT", "1")]

def treeValue (t : ProblemTree) : Value :=
  let texts := fun (es : List String) => Value.list (es.map Value.text)
  .record [("haserrs", .bool t.any), ("errors", texts t.errors),
    ("collections", .list (t.collections.map fun c =>
      .record [("name", .text c.name), ("errors", texts c.errors),
        ("conditions", .list (c.conditions.map fun d =>
          .record [("name", .text d.name), ("errors", texts d.errors),
            ("blocks", .list (d.blocks.map fun b =>
              .record [("name", .text b.name), ("errors", texts b.errors)]))]))]))]

def bookOf (specs : List Value) (keepFirst : Bool) : Except Fault Workbook :=
  specs.foldlM (fun wb spec => do
    let wb ← wb.addTitled (spec.field "title")
    let s ← writeRows (wb.sheets.getLastD default) (spec.field "rows").items.zipIdx
    let cells := match spec.field "cells" with
      | .record es => es
      | _ => []
    let s ← cells.foldlM (fun s (k, v) =>
      match Position.ofName? k with
      | some p => s.write p v
      | none => .error ⟨.badValue, "Invalid cell coordinates (" ++ k ++ ")"⟩) s
    return wb.changeLast fun _ => s)
    (if keepFirst then {} else { sheets := [] })

def clockValue (kind : String) : Value := .record [("$type", .text kind)]

def reportValue (wb : Workbook) : Value :=
  .list (wb.stored.sheets.map fun s =>
    let cells := s.filled.map fun (p, v) =>
      let v := if s.title = "INFO" then
          (if p = ⟨1, 1⟩ || p = ⟨2, 1⟩ then clockValue "str" else v)
        else if p = ⟨2, 4⟩ then clockValue "datetime" else v
      Value.list [.text p.name, v]
    .list [.text s.title, .list cells])

def undatedSlide (s : Slide) : Value :=
  let h := s.header
  slideRecord { s with header := String.ofList (h.toList.take (h.length - 10)) ++ "<date>" }

def filesValue (files : List (String × Output)) : Value :=
  let shown := files.filterMap fun (n, o) =>
    match o with
    | .workbook wb => some (n, Value.record [("sheets", reportValue wb)])
    | .slides ss => some (n, .record [("slides", .list (ss.map undatedSlide))])
    | .folder names => some (n, .record [("dir", .list (names.map Value.text))])
    | _ => none
  .list ((shown.mergeSort fun a b => decide (a.1 ≤ b.1)).map fun (n, v) => .list [.text n, v])

def namesValue (files : List (String × Output)) : Value :=
  .list (((files.map (·.1)).mergeSort fun a b => decide (a ≤ b)).map Value.text)

def connectionsValue (r : Run) : Value :=
  .record [("connects", .list (r.connects.map Value.record)),
    ("connections", .list (r.links.map fun l => .record (linkFields l)))]

/-- Analyse a workbook as a request asks: make its collections, check them, run them when
asked, and gather the problems. -/
def batchSteps (req : Value) (server : Server) : Act Run ProblemTree := do
  let drop := match req.field? "drop" with
    | some v => v.items.filterMap Value.text?
    | none => ["info"]
  Run.onBatch (Batch.addCollections drop creationTime)
  match req.field? "sensors" with
  | some .nothing => pure ()
  | some v => Run.onBatch (Batch.setSensorIds (sensorPairs v))
  | none => Run.onBatch (Batch.setSensorIds (sensorPairs (.text "local")))
  match req.field? "statids" with
  | some .nothing => pure ()
  | some (.text "local") | none => Run.onBatch (Batch.validateStations localStationValues)
  | some v => Run.onBatch (Batch.validateStations v.items)
  if (req.field "run_analyses").truthy then
    Run.runAnalyses server (req.field "template").truthy "started" "ended"
  Run.onBatch Batch.collectProblems

/-- Answer a request to analyse a workbook given by sheets, or the sample `file`. -/
def batchAnswer (req : Value) (file : Option String) : Value :=
  let made : Except Fault (Workbook × String) := match file with
    | some f =>
      match sample? f with
      | some wb => .ok (wb, f)
      | none => .error ⟨.general, "[Errno 2] No such file or directory: " ++ quoteText f⟩
    | none => (bookOf (req.field "sheets").items (req.field "keep_default").truthy).map
        fun wb => (wb.stored, "input.xlsx")
  match made with
  | .error f => .record f.answer
  | .ok (book, source) =>
    let name := match req.field "name" with
      | .text n => n
      | _ => "test"
    let server : Server := {
      answers := (req.field? "db").map linkSpec
      settings := serviceSettings.pairs }
    let start : Run := { batch := { name := name, source := source, book := book } }
    match (batchSteps req server).run start #[] with
    | (.error f, _, _) => .record f.answer
    | (.ok tree, r, log) =>
      let b := r.batch
      let base := [("collection_keys", Value.list (b.collections.map fun (k, _) => .text k)),
        ("tree", treeValue tree), ("log", logValue log)]
      let full := if (req.field "full").truthy then
          [("collections", Value.list (b.collections.map fun (k, c) =>
            .list [.text k, collectionRecord c]))]
        else []
      let ran := if (req.field "run_analyses").truthy then
          [("run_analyses", Value.record [("results", namesValue r.files), ("str", .text b.text),
            ("report", reportValue r.report)])]
        else []
      let db := if (req.field? "db").isSome then
          [("db", connectionsValue r), ("files", filesValue r.files)]
        else []
      .record (base ++ full ++ ran ++ db)

end RoadWeather.Service
