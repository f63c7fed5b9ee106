import RoadWeather.Batch.Basic
import RoadWeather.Collection.Analysis

/-! # Running a batch

Each collection is analysed over a connection of its own, and the reports are written to the results
folder. -/

namespace RoadWeather

/-- What the results folder holds. -/
inductive Output where
  | workbook (wb : Workbook)
  | slides (ss : List Slide)
  | folder (names : List String)
  | problems (t : ProblemTree)
  | log
  deriving Inhabited

/-- How a batch reaches its database. -/
structure Server where
  answers : Option LinkSpec
  settings : List (String × Value)
  deriving Inhabited

/-- A batch being run: the batch, the files of its results folder, the connections made
(with the settings each was asked with) and the report workbook so far. -/
structure Run where
  batch : Batch
  files : List (String × Output) := []
  connects : List (List (String × Value)) := []
  links : List Link := []
  report : Workbook := {}
  deriving Inhabited

namespace Run

def onBatch (a : Act Batch α) : Act Run α := Act.focus (·.batch) (fun r b => { r with batch := b }) a

def save (name : String) (out : Output) : Act Run Unit :=
  Act.change fun r => { r with files := (r.files.filter (·.1 != name)) ++ [(name, out)] }

def connect (server : Server) (extra : List (String × Value)) : Act Run Nat := do
  match server.answers with
  | none => Act.fail .connection "could not connect to server: Connection refused"
  | some spec =>
    let kw := (server.settings ++ extra).mergeSort fun a b => decide (a.1 ≤ b.1)
    let r ← Act.self
    Act.put { r with connects := r.connects ++ [kw], links := r.links ++ [{ spec }] }
    return r.links.length

def onLink (i : Nat) (a : Act Link α) : Act Run α :=
  Act.focus (fun r => r.links.getD i default) (fun r l => { r with links := r.links.set i l }) a

def onCollectionLink (c i : Nat) (a : Act Collection.OnLink α) : Act Run α :=
  Act.focus (fun r => ((r.batch.collections.getD c default).2, r.links.getD i default))
    (fun r p => { r with
      batch := { r.batch with collections := r.batch.collections.modify c fun (k, _) => (k, p.1) }
      links := r.links.set i p.2 }) a

def infoSheet (started : String) : Sheet :=
  { title := "INFO", cells := [(⟨1, 1⟩, .text started), (⟨1, 2⟩, .text "analysis started")] }

def analyseOne (c i : Nat) (template : Bool) (reportPath picturesPath : String) : Act Run Unit := do
  let name := (← Act.self).batch.name
  let title := ((← Act.self).batch.collections.getD c default).1
  onCollectionLink c i (Collection.analyse "<elapsed>")
  let wb ← onCollectionLink c i (Collection.reportSheet (← Act.self).report (some reportPath))
  Act.change fun r => { r with report := wb }
  save (name ++ "_report.xlsx") (.workbook wb)
  let slidesPath := "results/" ++ name ++ "_" ++ title ++ ".pptx"
  let ss ← onCollectionLink c i
    (Collection.reportSlides slidesPath template (some (picturesPath, true)))
  save (name ++ "_" ++ title ++ ".pptx") (.slides ss)

/-- Run the analyses of all collections and write the reports. `template` tells whether the
slide template is there; `started` and `ended` are the texts of the times the run started
and ended. -/
def runAnalyses (server : Server) (template : Bool) (started ended : String) : Act Run Unit := do
  let b := (← Act.self).batch
  Act.note .info .analysis ("Initializing Excel workbook for " ++ b.text)
  Act.change fun r => { r with report := { sheets := [infoSheet started] } }
  let reportPath := "results/" ++ b.name ++ "_report.xlsx"
  Act.note .info .analysis ("Excel workbook will be saved as " ++ reportPath)
  let picturesPath := "results/" ++ b.name ++ "_images"
  save (b.name ++ "_images") (.folder [])
  Act.note .info .analysis ("Png images will be saved to " ++ picturesPath)
  for c in List.range b.collections.length do
    let coll := ((← Act.self).batch.collections.getD c default).2
    match ← Act.attempt (connect server []) with
    | .error _ => onBatch (Batch.report ("Skipping " ++ coll.text ++ " due to fatal error") .error)
    | .ok i =>
      match ← Act.attempt (analyseOne c i template reportPath picturesPath) with
      | .ok () =>
        Act.note .debug .analysis (((← Act.self).batch.collections.getD c default).2.text ++
          " is analyzed")
        onLink i Link.commit
      | .error _ =>
        onLink i Link.rollback
        let coll := ((← Act.self).batch.collections.getD c default).2
        onBatch (Batch.report ("Skipping " ++ coll.text ++ " due to fatal error") .error)
  Act.change fun r => { r with report := r.report.changeFirst fun s =>
    (s.put ⟨2, 1⟩ (.text ended)).put ⟨2, 2⟩ (.text "analysis ended") }
  save (b.name ++ "_report.xlsx") (.workbook (← Act.self).report)
  Act.note .info .analysis ("Excel workbook saved as " ++ reportPath)
  Act.note .info .analysis ((← Act.self).batch.text ++ " analyzed")

end Run

end RoadWeather
