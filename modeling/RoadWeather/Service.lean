import RoadWeather.Service.Naming
import RoadWeather.Service.Problems
import RoadWeather.Service.Objects
import RoadWeather.Service.Collection
import RoadWeather.Service.Batch
import RoadWeather.Service.Command
import RoadWeather.Service.Workload
import RoadWeather.Wire.Json
import RoadWeather.Sensors

/-! # The request service -/

namespace RoadWeather.Service

def databaseSensorsAnswer (req : Value) : Value :=
  match Act.run Link.sensors { spec := linkSpec (req.field "db") } #[] with
  | (.ok es, link, _) =>
    let pairs := es.map fun (k, v) => Value.list [k, v]
    let key := fun (v : Value) => Wire.asciiOnly (Wire.write v)
    let sorted := pairs.mergeSort fun a b => decide (key a ≤ key b)
    .record (linkFields link ++ [("value", .list sorted)])
  | (.error f, _, _) => .record f.answer

/-- The answer to one request. -/
def answer (req : Value) : Value :=
  let op := (req.field "op").plain
  match namingAnswer op req with
  | some v => v
  | none =>
    match op with
    | "error_collection" => problemsAnswer req
    | "block" => blockAnswer req
    | "condition" => conditionAnswer req
    | "list_db_sensors" => databaseSensorsAnswer req
    | "collection" => collectionAnswer req
    | "sheet" => sheetAnswer req
    | "analysis" => batchAnswer req none
    | "example" => batchAnswer req (some (req.field "file").plain)
    | "tsabatch" => commandAnswer req
    | "microbench" => workloadAnswer req
    | _ => badRequest ("unknown op " ++ quoteText op)

def answerLine (line : String) : String :=
  match Wire.read line with
  | some req => Wire.write (answer req)
  | none => Wire.write (badRequest "request is not JSON")

end RoadWeather.Service
