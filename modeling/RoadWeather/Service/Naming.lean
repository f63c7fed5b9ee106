import RoadWeather.Service.Basic
import RoadWeather.Identifier
import RoadWeather.Stations
import RoadWeather.Settings
import RoadWeather.Time.Format

/-! # Requests on names and catalogues -/

namespace RoadWeather.Service

def noAttribute (v : Value) (name : String) : Fault :=
  ⟨.noAttribute, "'" ++ v.kindName ++ "' object has no attribute '" ++ name ++ "'"⟩

def plainVowelsOf (s : Value) : Except Fault Value :=
  match s with
  | .text t => .ok (.text (eliminateUmlauts t))
  | v => .error (noAttribute v "replace")

/-- Shorten a value to `n` (80 when not given). A value whose length is at most `n - 4` is
kept as it is; a longer one keeps its first `n - 5` items and ends in ` ...`, which only a text
can do, and only with a whole `n`. -/
def shortenOf (s : Value) (n : Value) : Except Fault Value := do
  let n : Value := match n with | .nothing => .int 80 | v => v
  let size ← match s with
    | .text t => pure t.length
    | .list xs => pure xs.length
    | .record es => pure es.length
    | v => throw ⟨.wrongKind, "object of type '" ++ v.kindName ++ "' has no len()"⟩
  let fits ← match n.integer?, n.number? with
    | some k, _ => pure (decide ((size : Int) ≤ k - 4))
    | none, some x => pure (Float.ofNat size ≤ x - 4)
    | none, none =>
      throw ⟨.wrongKind, "unsupported operand type(s) for -: '" ++ n.kindName ++ "' and 'int'"⟩
  if fits then return s
  match s, n.integer? with
  | .record _, _ => throw ⟨.wrongKind, "unhashable type: 'slice'"⟩
  | _, none =>
    throw ⟨.wrongKind, "slice indices must be integers or None or have an __index__ method"⟩
  | .text t, some k => pure (.text (shorten t k))
  | _, some _ => throw ⟨.wrongKind, "can only concatenate list (not \"str\") to list"⟩

def durationText (days seconds micros fmt : Value) : Except Fault Value := do
  let whole := fun (v : Value) => match v.integer? with
    | some n => Except.ok n
    | none => Except.error (Fault.mk .wrongKind
        ("unsupported type for timedelta days component: " ++ v.kindName))
  let d ← Time.Span.ofPartsChecked (← whole days) (← whole seconds) (← whole micros)
  match fmt with
  | .text t => return .text (← d.fillIn t)
  | v => throw (noAttribute v "format")

def sensorsByName : List (String × Nat) :=
  localSensors.mergeSort fun a b => decide (a.1 ≤ b.1)

/-- Answer a request on names or catalogues, if it is one. -/
def namingAnswer (op : String) (req : Value) : Option Value :=
  let out := fun (r : Except Fault Value) => some (.record (outcomeFields r))
  match op with
  | "eliminate_umlauts" => out (plainVowelsOf (req.field "s"))
  | "with_errpointer" => out (withPointer (req.field "s") (req.field "pos"))
  | "to_pg_identifier" => out ((identifier (req.field "x")).map Value.text)
  | "strfdelta" =>
    out (durationText (req.field "days") (req.field "seconds") (req.field "microseconds") (req.field "fmt"))
  | "trunc_str" => out (shortenOf (req.field "s") (req.field "n"))
  | "local_statids" => out (.ok (.list (localStations.map fun (n : Nat) => Value.int (Int.ofNat n))))
  | "local_sensors" =>
    out (.ok (.list (sensorsByName.map fun (p : String × Nat) => Value.list [.text p.1, .int (Int.ofNat p.2)])))
  | "db_params" =>
    let env := match req.field "env" with
      | .record es => es.filterMap fun (k, v) => v.text?.map (k, ·)
      | _ => []
    let s := Settings.ofEnv env
    some (.record [("keys", .list (Settings.keys.map Value.text)),
      ("values", .list (s.pairs.map (·.2))), ("str", .text s.text)])
  | _ => none

end RoadWeather.Service
