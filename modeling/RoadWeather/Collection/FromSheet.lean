import RoadWeather.Collection.Basic
import RoadWeather.Workbook
import RoadWeather.Time.DayText

/-! # Collections from worksheets

The period comes from the second row, the conditions from row 4 on. -/

namespace RoadWeather

open RoadWeather.Time

/-- How a worksheet is read. -/
inductive Reading where
  | direct
  | stored
  deriving DecidableEq, Repr, Inhabited

namespace Collection

def dayIn (v : Value) (emptyMsg parseMsg : String) : Except Fault Instant :=
  match v with
  | .nothing => .error ⟨.general, emptyMsg⟩
  | .time t => .ok t
  | .text s =>
    match readDay s with
    | some t => .ok t
    | none => .error ⟨.general, parseMsg⟩
  | _ => .error ⟨.general, parseMsg⟩

/-- Read the condition rows from row `r` on, adding each full row. -/
def readRows (s : Sheet) (reading : Reading) : Nat → Nat → Act Collection Unit
  | 0, _ => pure ()
  | fuel + 1, r => do
    if r > s.lastRow then return
    let cells := [1, 2, 3].map fun c => ((⟨r, c⟩ : Position), s.get ⟨r, c⟩)
    let mut full := true
    for (p, v) in cells do
      if v matches .nothing then
        if reading = .stored && !s.has p then
          Act.fail .noAttribute "'EmptyCell' object has no attribute 'coordinate'"
        report ("Cell " ++ p.name ++ " is empty: condition row ignored") .silent
        full := false
    if full then
      add (cells.getD 0 default).2 (cells.getD 1 default).2 (cells.getD 2 default).2 (.int r)
    readRows s reading fuel (r + 1)

def fromSheet (s : Sheet) (reading : Reading) (createdAt : Instant) : Act Unit Collection := do
  let lift := fun {α : Type} (r : Except Fault α) => (match r with
    | .ok x => pure x
    | .error f => throw f : Act Unit α)
  let a ← lift (dayIn (s.get ⟨2, 1⟩) "Start date in cell A2 is empty"
    "Cannot parse start date in cell A2")
  let b ← lift (dayIn (s.get ⟨2, 2⟩) "End date in cell B2 is empty"
    "Cannot parse end date in cell B2")
  if b < a then
    Act.fail .general "Start date in cell A2 must not be greater than end date in cell B2"
  let c ← lift (make (.time a) (.time b) (.text s.title) createdAt)
  Act.focus (fun _ => c) (fun u _ => u) (do
    readRows s reading (s.lastRow + 1) 4
    Act.self)

end Collection

end RoadWeather
