import RoadWeather.Command.Files
import RoadWeather.Workbook.File
import Std.Time.Zoned

/-! # The batch run program -/

open RoadWeather RoadWeather.Command

def localNow : IO Time.Instant := do
  let t ← Std.Time.PlainDateTime.now
  pure { year := t.date.year.toInt.toNat, month := t.date.month.val.toNat,
         day := t.date.day.val.toNat, hour := t.time.hour.val.toNat,
         minute := t.time.minute.val.toNat, second := t.time.second.val.toNat,
         micro := (t.time.nanosecond.val / 1000).toNat }

def findOnDisk (path : String) : IO (Found (Except Fault Workbook)) := do
  try
    let bytes ← IO.FS.readBinFile path
    pure (.node (.file (Workbook.ofBytes bytes)))
  catch e =>
    pure (match e with
      | .noFileOrDirectory .. => .missing
      | .inappropriateType _ 21 _ => .node (.folder [])
      | .inappropriateType .. => .notFolder
      | e => .node (.file (.error ⟨.system, toString e⟩)))

def existsOnDisk (path : String) : IO Bool := do
  try
    let _ ← IO.FS.Handle.mk path .read
    pure true
  catch _ => pure false

def main (args : List String) : IO UInt32 := do
  match read args with
  | .help =>
    IO.print helpText
    pure 0
  | .usage message =>
    IO.eprint (usageError message)
    pure 2
  | .run o =>
    IO.FS.createDirAll "results"
    let now ← localNow
    let found ← findOnDisk o.input
    let template ← existsOnDisk "report_template.pptx"
    let setting : Setting :=
      { find := fun _ path => if path = o.input then found else .missing
        template, server := { answers := none, settings := [] }, createdAt := now }
    let fin := Command.main args setting
    IO.FS.writeFile ("results/" ++ o.name ++ ".log") (logFile now fin.records)
    for r in fin.records do
      IO.eprintln (consoleLine r)
    for (name, out) in fin.run.files do
      match out with
      | .problems t => IO.FS.writeFile ("results/" ++ name) (problemsFile now t)
      | _ => pure ()
    match fin.ending with
    | .raised f => IO.eprintln (failureLine f)
    | _ => pure ()
    pure (exitCode fin.ending).toUInt32
