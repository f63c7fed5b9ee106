import RoadWeather.Command.Options
import RoadWeather.Command.Folder
import RoadWeather.Command.LogFile
import RoadWeather.Batch.Run
import RoadWeather.Stations

/-! # A batch run from the command line

Read the command line and the input workbook, then validate without a database or run the analyses. -/

namespace RoadWeather.Command

open RoadWeather.Time

/-- What a run works with besides its command line. -/
structure Setting where
  find : String → String → Found (Except Fault Workbook)
  template : Bool
  server : Server
  createdAt : Instant
  deriving Inhabited

/-- How a run ends: by returning, by exiting with a code (`none` for a plain exit), or by
failing. -/
inductive Ending where
  | returned
  | exit (code : Option Nat)
  | raised (f : Fault)
  deriving Inhabited

/-- A finished run: how it ended, whether it made its results folder, what it left in the
run, and the records of its log file when it wrote one, as written and as read back. -/
structure Finished where
  ending : Ending
  folder : Bool
  run : Run
  records : List Record := []
  log : Option (List FileRecord)
  deriving Inhabited

def workingFolder (book : Workbook) (template : Bool) (name : String) :
    Node (Except Fault Workbook) :=
  .folder ([("input.xlsx", .file (.ok book)),
    ("results", .folder [(name ++ ".log", .file (.error notArchive))])] ++
    (if template then [("report_template.pptx", .file (.error notArchive))] else []))

def Setting.ofBook (book : Workbook) (template : Bool) (server : Server) (createdAt : Instant) :
    Setting :=
  { find := fun name path => lookup (workingFolder book template name) path
    template, server, createdAt }

def problemsName (name : String) : String := name ++ "_ERRORS.json"

def truthText (b : Bool) : String := if b then "True" else "False"

def databaseSensors (server : Server) : Act Run Unit := do
  let i ← Run.connect server [("connect_timeout", .int 5)]
  match ← Act.attempt (Run.onLink i Link.sensors) with
  | .error f =>
    Run.onLink i Link.rollback
    throw f
  | .ok pairs =>
    Run.onLink i Link.commit
    Run.onBatch (Batch.setSensorIds (.ok pairs))
    Act.note .info .batch "Sensor ids from database set successfully"

/-- A run with options `o`. -/
def batchRun (o : Options) (s : Setting) : Act Run Ending := do
  let logPath := "results/" ++ o.name ++ ".log"
  let problemsPath := "results/" ++ problemsName o.name
  Run.save (o.name ++ ".log") .log
  Act.note .info .batch ("START OF TSABATCH with input=" ++ o.input ++ " name=" ++ o.name ++
    " dryvalidate=" ++ truthText o.dryValidate ++ ", log=" ++ o.level ++
    ", logs are saved to " ++ logPath)
  let book ← match openFound o.input (s.find o.name o.input) with
    | .ok b => pure b
    | .error f => throw f
  Act.change fun r => { r with batch := { name := o.name, source := o.input, book := book } }
  Act.note .info .batch ("Created " ++ (← Act.self).batch.text)
  Run.onBatch (Batch.addCollections ["info"] s.createdAt)
  if o.dryValidate then
    Act.note .info .batch "Starting dry validation without database"
    let tree ← Run.onBatch (Batch.dryValidate localSensorTable localStationValues)
    if tree.any then
      Run.save (problemsName o.name) (.problems tree)
      Act.note .error .batch "Dry validation exited with errors"
      Act.fail .general ("Dry validation exited with errors. See " ++ logPath ++ " and " ++
        problemsPath ++ ".")
    else
      Act.note .info .batch "Dry validation was SUCCESSFUL"
      return .exit none
  match ← Act.attempt (databaseSensors s.server) with
  | .error f =>
    Act.note .error .batch "Could not set sensor ids from database for Blocks, quitting"
    throw f
  | .ok () => pure ()
  if !s.template then
    -- the failure is logged with no failure at hand, which the log shows as such
    Act.note .error .batch "report_template.pptx is not available, quitting\nNoneType: None"
    Act.fail .runtime "No active exception to reraise"
  Run.runAnalyses s.server true "started" "ended"
  let tree ← Run.onBatch Batch.collectProblems
  if tree.any then
    Run.save (problemsName o.name) (.problems tree)
    Act.note .error .batch ("There were errors in the analysis collection, see " ++ logPath ++
      " and " ++ problemsPath ++ ".")
  else
    Act.note .info .batch "No errors detected."
  Act.note .info .batch "END OF TSABATCH"
  return .returned

def main (args : List String) (s : Setting) : Finished :=
  match read args with
  | .usage _ => { ending := .exit (some 2), folder := false, run := default, log := none }
  | .help => { ending := .exit (some 0), folder := false, run := default, log := none }
  | .run o =>
    let start : Run := { batch := { name := o.name, source := o.input, book := {} } }
    let (result, r, log) := (batchRun o s).run start #[]
    let ending := match result with
      | .ok e => e
      | .error f => .raised f
    let threshold := Level.ofWord o.level
    let records := log.toList.filter fun r => threshold.rank ≤ r.level.rank
    { ending, folder := true, run := r, records, log := some (fileRecords threshold log.toList) }

end RoadWeather.Command
