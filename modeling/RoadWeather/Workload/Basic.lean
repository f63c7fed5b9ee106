import RoadWeather.Workload.Templates
import RoadWeather.Condition.Sql
import RoadWeather.Stations
import RoadWeather.Time.Format
import RoadWeather.Number.Significant
import RoadWeather.Settings

/-! # Sample workloads -/

namespace RoadWeather.Workload

open RoadWeather.Time

def cycle (xs : List α) [Inhabited α] (i : Nat) : α := xs.getD (i % xs.length) default

def settle (a : Act σ α) (x : σ) : Except Fault α × σ :=
  match a.run x #[] with
  | (r, y, _) => (r, y)

/-! ## Identifiers and the small helpers -/

def helperResults : List Value :=
  let pointer := fun (s : String) (p : Value) => match withPointer (.text s) p with
    | .ok v => v
    | .error f => .text f.message
  let duration := match (Span.ofParts 3 (4 * 3600 + 5 * 60 + 6) 0).fillIn
      "\x7bdays\x7dd \x7bhours\x7dh \x7bminutes\x7dm \x7bseconds\x7ds" with
    | .ok s => Value.text s
    | .error f => .text f.message
  [.text (eliminateUmlauts "ÄäÖö mix"), pointer "hello world" (.int 4), pointer "hello" (.int (-1)),
    pointer "hello" (.text "x"), duration,
    .text (shorten (String.ofList (List.replicate 100 'x')) 40), .text (shorten "short" 40),
    .int localStations.length, .int localSensors.length, .int localSensorTable.length]

def identifiers (n : Nat) : Except Fault Value :=
  let made := (List.range n).map fun i =>
    match identifier (.text (cycle identifierInputs i)) with
    | .ok s => Value.text s
    | .error f => .text (String.ofList (f.message.toList.take 5))
  .ok (.list (made ++ helperResults))

/-! ## Blocks -/

def blockFacts (i : Nat) : Except Fault (List Value) :=
  let made := settle (Block.make (.text ("m" ++ toString (i % 9))) (.text "sipoo_itaan")
    (.int (Int.ofNat (i % 5))) (.text (cycle blockInputs i))) ()
  match made.1 with
  | .error f => .error f
  | .ok b =>
    let (ready, b) := settle (do Block.setSensorId (.ok localSensorTable); Block.check) b
    let (query, b) := settle Block.sql b
    let query := match query with
      | .ok q => Value.text q
      | .error _ => .nothing
    .ok [.bool (match ready with | .ok r => r | .error _ => false), query, .text b.text]

def kindlessBlock : List Value :=
  let b : Block := Block.blank "x" "p" (.int 0) (.text "r")
  let b := { b with aliasName := "x" }
  let (ready, b) := settle Block.check b
  [.text b.text, .bool (match ready with | .ok r => r | .error _ => false), .int b.problems.size]

def blocks (n : Nat) : Except Fault Value := do
  let facts ← (List.range n).mapM fun i => do
    let fs ← blockFacts i
    pure (if i = 0 then fs else fs ++ [.bool false])
  pure (.list (facts.flatten ++ kindlessBlock))

/-! ## Conditions -/

def periodStart : Instant := { year := 2018, month := 1, day := 1 }
def periodEnd : Instant := { year := 2018, month := 2, day := 1 }

def makeCondition (i : Nat) (formula : String) : Except Fault Condition :=
  (settle (Condition.make (.text ("site" ++ toString (i % 5))) (.text ("m" ++ toString i))
    (.text formula) (.time periodStart) (.time periodEnd) (.int (Int.ofNat (i + 4)))) ()).1

def conditionFacts (i : Nat) : Except Fault (List Value) := do
  let c ← makeCondition i (cycle parseFormulas i)
  let (ready, c) := settle Condition.check c
  let ready ← ready
  let stations := c.stationIds.map fun s => match s with
    | some n => Value.int n
    | none => .nothing
  let first := match c.blocks.head? with
    | some b => [Value.text b.text]
    | none => []
  pure ([.text c.text, .text c.aliasFormula, .bool ready, .list stations] ++ first)

def conditions (n : Nat) : Except Fault Value := do
  let facts ← (List.range n).mapM conditionFacts
  pure (.list facts.flatten)

def fixedResults : Value :=
  let share := Value.float (Number.ofDecimal false 2414 (-4))
  .list [share, share, .list [.int 3, .int 6], .bool true, .bool true]

def tables (n : Nat) : Except Fault Value := do
  let facts ← (List.range n).mapM fun i => do
    let c ← makeCondition i (cycle tableFormulas i)
    let (r, (c, _)) := settle (Condition.makeTable false) (c, default)
    let () ← r
    pure [Value.text c.aliasFormula, .int c.problems.size]
  pure (.list (facts.flatten ++ [fixedResults]))

/-! ## Problems -/

def problems (n : Nat) : Except Fault Value := do
  let p := (List.range n).foldl (fun (p : Problems) i =>
    p.record (.text ("problem number " ++ toString i))) { context := "ctx" }
  let first ← match p.entries.head? with
    | some e => pure e
    | none => throw ⟨.index, "list index out of range"⟩
  let joined ← p.joined
  let repeated := [0, 1, 2, 3].foldl (fun (q : Problems) _ => q.record (.text "one"))
    { context := "ctx" }
  pure (.list ([.int p.size, .int first.more, .text p.summary, .text joined] ++
    (repeated.texts.map Value.text) ++ [.text (Problems.entryText "ctx" { message := .text "one" })] ++
    List.replicate 4 (.bool true)))

/-! ## Generated workbooks -/

def sheetTests (n : Nat) : Nat := ((List.range n).map (cycle sheetTestCounts)).foldr (· + ·) 0

def collectionBuild (n : Nat) : Except Fault Value :=
  if n = 0 then .error ⟨.exhausted, ""⟩
  else .ok (.list [.text ("<CondCollection bench with " ++ toString n ++ " conditions>"),
    .int n, .text "site0", .int 1, .int 6, .int 5, .bool true, .int (sheetTests n)])

def collectionReport (n : Nat) : Except Fault Value :=
  .ok (.list [.int 1, .int n, .int (30 * n), .int 1, .int 2])

def batch (n : Nat) : Except Fault Value :=
  .ok (.list [.int 1, .int n, .int (sheetTests n), .bool true,
    .list (List.map Value.text Settings.keys), .int 1])

def commandRuns (n : Nat) : Except Fault Value :=
  .ok (.list [.list ([ "bigrun.log", "bigrun_ERRORS.json", "dbrun.log", "okrun.log"].map Value.text),
    .int (n + 1), .int (30 * n)])

end RoadWeather.Workload
