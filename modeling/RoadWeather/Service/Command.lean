import RoadWeather.Service.Batch
import RoadWeather.Command.Run

/-! # Requests for command-line runs -/

namespace RoadWeather.Service

open RoadWeather.Command

def commandLine (req : Value) : List String :=
  match req.field? "argv" with
  | some v => v.items.map Value.plain
  | none =>
    let name := match req.field "name" with
      | .text n => n
      | _ => "test"
    let dry := match req.field? "dryvalidate" with
      | some v => v.truthy
      | none => true
    let level := match req.field "log" with
      | .text l => ["--log", l]
      | _ => []
    ["-i", "input.xlsx", "-n", name] ++ (if dry then ["--dryvalidate"] else []) ++ level

def inputBook (req : Value) : Except Fault Workbook :=
  match req.field? "example" with
  | some f =>
    match sample? f.plain with
    | some wb => .ok wb
    | none => .error ⟨.missingFile, "[Errno 2] No such file or directory: " ++ quoteText f.plain⟩
  | none => (bookOf (req.field "sheets").items (req.field "keep_default").truthy).map (·.stored)

def endingFields : Ending → List (String × Value)
  | .returned => [("outcome", .text "returned")]
  | .exit code => [("outcome", .text "exit"),
      ("code", match code with
        | some c => .int (Int.ofNat c)
        | none => .nothing)]
  | .raised f =>
    [("outcome", .text "raised"), ("error", .text f.kind.label)] ++
      (if f.kind = .connection then [] else [("message", .text f.message)])

def fileLogValue (log : List FileRecord) : Value :=
  .list (log.map fun r => .list [.text r.level.label, .text r.module, .text r.message])

/-- Answer a request for a command-line run. -/
def commandAnswer (req : Value) : Value :=
  match inputBook req with
  | .error f => .record f.answer
  | .ok book =>
    let server : Server := {
      answers := (req.field? "db").map linkSpec
      settings := serviceSettings.pairs }
    let setting := Setting.ofBook book (req.field "template").truthy server creationTime
    let fin := Command.main (commandLine req) setting
    let files := if fin.folder then fin.run.files else []
    let problems := files.filterMap fun (_, o) =>
      match o with
      | .problems t => some ("errors_json", treeValue t)
      | _ => none
    let log := match fin.log with
      | some records => [("log", fileLogValue records)]
      | none => []
    let db := if (req.field? "db").isSome then [("db", connectionsValue fin.run)] else []
    let reports := match filesValue files with
      | .list [] => []
      | v => [("files", v)]
    .record (endingFields fin.ending ++ [("results", namesValue files)] ++ problems.take 1 ++
      log ++ db ++ reports)

end RoadWeather.Service
