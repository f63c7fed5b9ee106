import RoadWeather.Value
import RoadWeather.Fault
import RoadWeather.Text.Lower
import RoadWeather.Time.Serial
import RoadWeather.Number.Significant
import RoadWeather.Value.Text

/-! # Workbooks -/

namespace RoadWeather

/-- A cell position: row and column, both from 1. -/
structure Position where
  row : Nat
  col : Nat
  deriving DecidableEq, Repr, Inhabited

def columnLetters : Nat → Nat → List Char → List Char
  | 0, _, acc => acc
  | fuel + 1, n, acc =>
    if n = 0 then acc
    else columnLetters fuel ((n - 1) / 26) (Char.ofNat (65 + (n - 1) % 26) :: acc)

namespace Position

def name (p : Position) : String :=
  String.ofList (columnLetters (p.col + 1) p.col []) ++ toString p.row

def ofName? (s : String) : Option Position :=
  let cs := s.toList
  let letters := cs.takeWhile Char.isAlpha
  let digits := cs.dropWhile Char.isAlpha
  if letters.isEmpty || letters.length > 3 || digits.isEmpty || !digits.all Char.isDigit then none
  else
    let col := letters.foldl (fun n c => 26 * n + (c.toUpper.toNat - 64)) 0
    let row := digits.foldl (fun n c => 10 * n + (c.toNat - 48)) 0
    some ⟨row, col⟩

def before (p q : Position) : Bool := p.row < q.row || (p.row = q.row && p.col ≤ q.col)

end Position

/-- A sheet: a title and the values written to it, each position once. A cell may be there
and hold nothing. A sheet read from a file also knows how many rows its file says it has,
which may be more than its cells show. -/
structure Sheet where
  title : String
  cells : List (Position × Value) := []
  extent : Nat := 0
  deriving Inhabited

namespace Sheet

def put (s : Sheet) (p : Position) (v : Value) : Sheet :=
  { s with cells := s.cells.filter (·.1 != p) ++ [(p, v)] }

def illegalChar (c : Char) : Bool :=
  c.toNat < 32 && c.toNat != 9 && c.toNat != 10 && c.toNat != 13

def cellValue (v : Value) : Except Fault Value :=
  match v with
  | .text t =>
    let t := String.ofList (t.toList.take 32767)
    if t.toList.any illegalChar then .error ⟨.illegalCharacter, t ++ " cannot be used in worksheets."⟩
    else .ok (.text t)
  | .list _ | .record _ => .error ⟨.badValue, "Cannot convert " ++ v.quoted ++ " to Excel"⟩
  | v => .ok v

def write (s : Sheet) (p : Position) (v : Value) : Except Fault Sheet :=
  (cellValue v).map (s.put p)

def storedNumber (x : Float) : Value :=
  let t := Number.writeSignificant x 16
  match Number.classify x, Number.readDecimal t with
  | .finite _, some (neg, d, e) =>
    if t.toList.any (fun c => c = '.' || c = 'e' || c = 'E') then .float (Number.ofDecimal neg d e)
    else .int (if neg then -(d : Int) else d)
  | _, _ => .nothing

def storedInstant (t : Time.Instant) : Time.Instant :=
  let x := Number.writeSignificant t.toSerial 16
  match Number.readDecimal x with
  | some (neg, d, e) => Time.Instant.ofSerial (Number.ofDecimal neg d e)
  | none => t

def storedValue : Value → Value
  | .time t => .time (storedInstant t)
  | .int n => storedNumber (Number.ofDecimal (n < 0) n.natAbs 0)
  | .float x => storedNumber x
  | v => v

def lastRow (s : Sheet) : Nat := s.cells.foldl (fun m (p, _) => max m p.row) s.extent

def stored (s : Sheet) : Sheet :=
  { s with
    cells := (s.cells.filter fun (_, v) => !(v matches .nothing)).map fun (p, v) => (p, storedValue v)
    extent := s.lastRow }

def has (s : Sheet) (p : Position) : Bool := s.cells.any (·.1 == p)

def get (s : Sheet) (p : Position) : Value :=
  match s.cells.find? (·.1 == p) with
  | some (_, v) => v
  | none => .nothing

def filled (s : Sheet) : List (Position × Value) :=
  (s.cells.filter fun (_, v) => !(v matches .nothing)).mergeSort fun a b => a.1.before b.1

theorem get_put (s : Sheet) (p : Position) (v : Value) : (s.put p v).get p = v := by
  have : (s.cells.filter (·.1 != p)).find? (·.1 == p) = none := by
    rw [List.find?_eq_none]
    intro x hx
    have := (List.mem_filter.mp hx).2
    simp_all
  simp [put, get, List.find?_append, this]

end Sheet

/-- A workbook: its sheets in order. A new workbook has one empty sheet, `Sheet`. -/
structure Workbook where
  sheets : List Sheet := [{ title := "Sheet" }]
  deriving Inhabited

def startsWithFolded (s pre : List Char) : Bool :=
  pre.length ≤ s.length && (s.take pre.length).map Text.lowerOne == pre.map Text.lowerOne

def countsAfter (value : List Char) : Nat → List Char → List (List Char)
  | 0, _ => []
  | _ + 1, [] => []
  | fuel + 1, c :: cs =>
    if value.length > 0 && startsWithFolded (c :: cs) value then
      let rest := (c :: cs).drop value.length
      let ds := rest.takeWhile Char.isDigit
      let after := rest.drop ds.length
      let after := match after with
        | ',' :: r => r
        | r => r
      ds :: countsAfter value fuel after
    else countsAfter value fuel cs

def freeTitle (names : List String) (value : String) : String :=
  if names.any (fun n => Text.lower n == Text.lower value) then
    let joined := (",".intercalate names).toList
    let counts := (countsAfter value.toList (joined.length + 1) joined).filterMap fun ds =>
      if ds.isEmpty then none else some (ds.foldl (fun a c => 10 * a + (c.toNat - 48)) 0)
    value ++ toString (counts.foldl max 0 + 1)
  else value

def titleForbidden : List Char := ['\\', '*', '?', ':', '/', '[', ']']

namespace Workbook

def titles (wb : Workbook) : List String := wb.sheets.map (·.title)

def checkTitle (title : Value) : Except Fault String := do
  let t ← match title with
    | .text t => pure t
    | .nothing => throw (Fault.mk .badValue "Title must have at least one character")
    | v => throw (Fault.mk .wrongKind
        ("expected string or bytes-like object, got '" ++ v.kindName ++ "'"))
  if t.isEmpty then throw (Fault.mk .badValue "Title must have at least one character")
  match t.toList.find? (· ∈ titleForbidden) with
  | some c => throw (Fault.mk .badValue ("Invalid character " ++ c.toString ++ " found in sheet title"))
  | none => pure t

def retitle (names : List String) (current : String) (title : Value) : Except Fault String := do
  let t ← checkTitle title
  return if t = current then t else freeTitle names t

def addSheet (wb : Workbook) (title : Value) : Except Fault Workbook := do
  let first := freeTitle wb.titles "Sheet"
  let t ← retitle (wb.titles ++ [first]) first title
  return { sheets := wb.sheets ++ [{ title := t }] }

def addTitled (wb : Workbook) (title : Value) : Except Fault Workbook := do
  let t ← checkTitle title
  return { sheets := wb.sheets ++ [{ title := freeTitle wb.titles t }] }

def stored (wb : Workbook) : Workbook := { sheets := wb.sheets.map Sheet.stored }

def withTitle (title : Value) : Except Fault Workbook := do
  let t ← retitle ["Sheet"] "Sheet" title
  return { sheets := [{ title := t }] }

def changeFirst (wb : Workbook) (f : Sheet → Sheet) : Workbook :=
  match wb.sheets with
  | s :: rest => { sheets := f s :: rest }
  | [] => wb

def changeLast (wb : Workbook) (f : Sheet → Sheet) : Workbook :=
  match wb.sheets.getLast? with
  | some s => { sheets := wb.sheets.dropLast ++ [f s] }
  | none => wb

end Workbook

end RoadWeather
