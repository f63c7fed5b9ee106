import RoadWeather.Command.Run
import RoadWeather.Wire.Json

/-! # What a batch run shows and writes -/

namespace RoadWeather.Command

open RoadWeather.Time

def programName : String := "tsabatch"

def usageText : String :=
  "usage: " ++ programName ++ " [-h] -i INPUT_XLSX_PATH -n OUTPUT_BASENAME [--dryvalidate]\n" ++
  "                [--log [\x7berror,warning,info,debug\x7d]]\n"

def helpText : String :=
  usageText ++ "\nRun TSA analyses as batch job.\n\noptions:\n" ++
  "  -h, --help            show this help message and exit\n" ++
  "  -i INPUT_XLSX_PATH, --input INPUT_XLSX_PATH\n" ++
  "                        Input Excel path relative to script directory\n" ++
  "  -n OUTPUT_BASENAME, --name OUTPUT_BASENAME\n" ++
  "                        Base name for output files saved under results/\n" ++
  "  --dryvalidate         Only validate input Excel with hard-coded ids and\n" ++
  "                        names\n" ++
  "  --log [\x7berror,warning,info,debug\x7d]\n" ++
  "                        Logging level (default: `info`). `debug` will log e.g.\n" ++
  "                        SQL CREATE statements.\n"

def usageError (message : String) : String :=
  usageText ++ programName ++ ": error: " ++ message ++ "\n"

def padRight (w : Nat) (s : String) : String :=
  s ++ String.ofList (List.replicate (w - s.length) ' ')

def fileLine (time : Instant) (r : Record) : String :=
  time.sqlText ++ "; " ++ padRight 8 r.level.label ++ "; " ++ padRight 20 r.origin.module ++ "; " ++
    r.message

def consoleLine (r : Record) : String := padRight 8 r.level.label ++ "; " ++ r.message

def logFile (time : Instant) (records : List Record) : String :=
  String.join (records.map fun r => fileLine time r ++ "\n")

def setKey (es : List (String × Value)) (k : String) (v : Value) : List (String × Value) :=
  if es.any (·.1 == k) then es.map fun (k', v') => (k', if k' == k then v else v')
  else es ++ [(k, v)]

def problemsValue (stamp : String) (t : ProblemTree) : Value :=
  let texts := fun (es : List String) => Value.list (es.map fun e => .text (stamp ++ "; " ++ e))
  let keyed := fun {α : Type} (xs : List α) (key : α → String) (val : α → Value) =>
    Value.record (xs.foldl (fun acc x => setKey acc (key x) (val x)) [])
  .record [("errors", texts t.errors),
    ("collections", keyed t.collections (·.name) fun c =>
      .record [("errors", texts c.errors),
        ("conditions", keyed c.conditions (·.name) fun d =>
          .record [("errors", texts d.errors),
            ("blocks", keyed d.blocks (·.name) fun b => .record [("errors", texts b.errors)])])])]

def problemsFile (time : Instant) (t : ProblemTree) : String :=
  Wire.writeIndented 0 (problemsValue time.text t)

def failureLine (f : Fault) : String :=
  if f.message.isEmpty then f.kind.label else f.kind.label ++ ": " ++ f.message

def exitCode : Ending → Nat
  | .returned => 0
  | .exit code => code.getD 0
  | .raised _ => 1

end RoadWeather.Command
