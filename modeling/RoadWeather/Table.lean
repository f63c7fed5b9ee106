import RoadWeather.Value.Arith
import RoadWeather.Link

/-! # Result tables

Named columns and rows, each column holding one kind of entry. -/

namespace RoadWeather

/-- What a column holds. -/
inductive ColumnKind where
  | times | spans | truths | integers | doubles | mixed
  deriving DecidableEq, Repr

/-- A table of results. -/
structure Table where
  columns : List String := []
  rows : List (List Value) := []
  deriving Inhabited

namespace Table

def kindOf (vs : List Value) : ColumnKind :=
  let present := vs.filter fun v => !(v matches .nothing)
  let missing := present.length < vs.length
  if vs.isEmpty then .mixed
  else if !present.isEmpty && present.all (· matches .time _) then .times
  else if !present.isEmpty && present.all (· matches .span _) then .spans
  else if !present.isEmpty && !missing && present.all (· matches .bool _) then .truths
  else if !present.isEmpty && !missing && present.all (· matches .int _) then .integers
  else if !present.isEmpty && present.all (fun v => v matches .int _ || v matches .float _) then
    .doubles
  else .mixed

def normalise (k : ColumnKind) (v : Value) : Value :=
  match k, v with
  | .times, .nothing => .missingTime
  | .spans, .nothing => .missingTime
  | .doubles, .nothing => .float (0.0 / 0.0)
  | .doubles, .int n => .float (Float.ofInt n)
  | _, v => v

def ofAnswer (a : Answer) : Table :=
  let width := a.columns.length
  let cols := (List.range width).map fun j => a.rows.map fun r => r.getD j .nothing
  let kinds := cols.map kindOf
  { columns := a.columns,
    rows := a.rows.map fun r => (List.range width).map fun j =>
      normalise (kinds.getD j .mixed) (r.getD j .nothing) }

def numRows (t : Table) : Nat := t.rows.length

def column (t : Table) (name : String) : Except Fault (List Value) :=
  match t.columns.idxOf? name with
  | some j => .ok (t.rows.map fun r => r.getD j .nothing)
  | none => .error ⟨.missingKey, "'" ++ name ++ "'"⟩

def isMissing : Value → Bool
  | .nothing => true
  | .missingTime => true
  | .float x => x.isNaN
  | _ => false

def extreme (want : Ordering) (vs : List Value) : Value :=
  let kind := kindOf vs
  let present := vs.filter fun v => !isMissing v
  match present with
  | [] => if kind = .times ∨ kind = .spans then .missingTime else .float (0.0 / 0.0)
  | v :: rest => rest.foldl (fun best x => if Value.order? x best = some want then x else best) v

def total (vs : List Value) : Except Fault Value :=
  let kind := kindOf vs
  let present := vs.filter fun v => !isMissing v
  let zero : Value := if kind = .spans then .span ⟨0⟩ else .int 0
  present.foldlM Value.plus zero

def whereEq (t : Table) (key : String) (v : Value) : Except Fault Table := do
  let col ← t.column key
  return { t with rows := (t.rows.zip col).filterMap fun (r, x) => if x.same v then some r else none }

end Table

end RoadWeather
