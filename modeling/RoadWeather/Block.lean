import RoadWeather.Identifier
import RoadWeather.Problems
import RoadWeather.Text.Pieces

/-! # Blocks

A block is one comparison on a sensor, or one reference to another condition, read from its text. -/

namespace RoadWeather

open RoadWeather.Text

/-- Whether a block tests a sensor or reads another condition. -/
inductive BlockKind where
  | primary
  | secondary
  deriving DecidableEq, Repr, Inhabited

/-- A block of a condition. -/
structure Block where
  rawLogic : Value
  masterAlias : String
  parentSite : String
  orderNr : Value
  aliasName : String
  kind : Option BlockKind := none
  site : Option String := none
  station : Option String := none
  stationId : Option Int := none
  sourceAlias : Option String := none
  sourceView : Option String := none
  sensor : Option String := none
  sensorId : Value := .nothing
  operator : Option String := none
  valueText : Option String := none
  problems : Problems
  deriving Inhabited

namespace Block

/-! ## Reading the text -/

def operators : List String := [" = ", " <> ", " > ", " < ", " >= ", " <= ", " in "]

def countOf (raw : Value) (piece : String) : Nat :=
  match raw with
  | .text s => occurrences s piece
  | .list xs => xs.countP (·.same (.text piece))
  | _ => 0

def operatorCount (raw : Value) : Nat × Option String :=
  operators.foldl (fun (n, last) op =>
    let k := countOf raw op
    if k > 0 then (n + k, some op) else (n, last)) (0, none)

def report (msg : String) (notice : Notice) : Act Block Unit :=
  Act.focus (·.problems) (fun b p => { b with problems := p }) (Problems.add (.text msg) notice)

def identOf (v : Value) : Act Block String :=
  match identifier v with
  | .ok x => pure x
  | .error f => throw f

def ident (s : String) : Act Block String := identOf (.text s)

def splittable : Value → Act Block String
  | .text s => pure s
  | v => Act.fail .noAttribute ("'" ++ v.kindName ++ "' object has no attribute 'split'")

def guard (msg : String) (step : Act Block Unit) : Act Block Unit := do
  match ← Act.attempt step with
  | .ok () => pure ()
  | .error _ => report msg .error

def stationNumber (station : String) : Except Fault Int :=
  (Value.text (String.ofList (station.toList.filter isDigit))).toInteger

def readReference (site? : Option String) (aliasName : Value) : Act Block Unit := do
  let site ← match site? with
    | some s => do
      let s ← ident s
      Act.change fun b => { b with site := some s }
      pure s
    | none => do
      let b ← Act.self
      Act.change fun b => { b with site := some b.parentSite }
      pure b.parentSite
  let a ← identOf aliasName
  Act.change fun b => { b with sourceAlias := some a }
  let v ← ident (site ++ "_" ++ a)
  Act.change fun b => { b with sourceView := some v }

/-- The parts of a sensor test: station, sensor and value text. -/
def readTest (parts : List String) (op : String) : Act Block Unit := do
  let st ← ident (parts.getD 0 "")
  Act.change fun b => { b with station := some st }
  match stationNumber st with
  | .ok n => Act.change fun b => { b with stationId := some n }
  | .error f => throw f
  let sensorText ← match parts[1]? with
    | some p => pure p
    | none => throw ⟨.index, "list index out of range"⟩
  let se ← ident sensorText
  Act.change fun b => { b with sensor := some se }
  Act.change fun b => { b with operator := some (strip (lower op)) }
  match parts[2]? with
  | some v => Act.change fun b => { b with valueText := some (strip (lower v)) }
  | none => throw ⟨.index, "list index out of range"⟩

def reportWhen (c : Prop) [Decidable c] (msg : String) : Act Block Unit :=
  if c then report msg .error else pure ()

def checkListValue : Act Block Unit := do
  let b ← Act.self
  if b.operator = some "in" then
    match b.valueText with
    | some v =>
      if !(v.startsWith "(" && v.endsWith ")") then
        report "\"in\" must be followed by values enclosed by \"()\"" .error
    | none => Act.fail .noAttribute "'NoneType' object has no attribute 'startswith'"

def testParts (raw op : String) : List String :=
  (cut raw "#").getD 0 "" :: cut ((cut raw "#").getD 1 "") op

def unpackTest (raw : Value) (op : String) : Act Block Unit := do
  Act.change fun b => { b with kind := some .primary, site := some b.parentSite }
  let parts := testParts (← splittable raw) op
  guard "Cannot set attributes for primary condition" (readTest parts op)
  checkListValue

/-- Set the kind and fields of a block from its text, recording what is wrong with it. A
primary `in` test whose value text was never read fails. -/
def unpack : Act Block Unit := do
  let raw := (← Act.self).rawLogic
  let hashes := countOf raw "#"
  reportWhen (hashes > 1) "Too many \"#\" symbols, only one or zero allowed"
  let (nOps, lastOp) := operatorCount raw
  reportWhen (nOps > 1)
    "Too many \"=\", \"<>\", \">\", \"<\", \">=\", \"<=\", \"in\" operators, only one or zero allowed"
  if hashes = 0 ∧ nOps = 0 then
    Act.change fun b => { b with kind := some .secondary }
    guard "Cannot set source alias and view for secondary condition" (readReference none raw)
  else if hashes = 1 ∧ nOps = 0 then
    Act.change fun b => { b with kind := some .secondary }
    let parts := cut (← splittable raw) "#"
    guard "Cannot set site, source alias and view for secondary condition"
      (readReference (parts.getD 0 "") (.text (parts.getD 1 "")))
  else if hashes = 1 ∧ nOps = 1 then
    unpackTest raw (lastOp.getD "")
  else
    report "Primary Block requires a \"#\" between station and sensor" .error

def blank (masterAlias parentSite : String) (orderNr : Value) (raw : Value) : Block :=
  let aliasName := masterAlias ++ "_" ++ orderNr.plain
  { rawLogic := raw, masterAlias, parentSite, orderNr, aliasName,
    problems := { context := "BLOCK <" ++ aliasName ++ ">" } }

def make (masterAlias parentSite : Value) (orderNr : Value) (raw : Value) : Act Unit Block := do
  let ma ← match identifier masterAlias with | .ok x => pure x | .error f => throw f
  let ps ← match identifier parentSite with | .ok x => pure x | .error f => throw f
  let raw ← match raw with
    | .text _ | .list _ => pure raw
    | v => Act.fail .noAttribute ("'" ++ v.kindName ++ "' object has no attribute 'count'")
  let b := blank ma ps orderNr raw
  Act.focus (fun _ => b) (fun u _ => u) (do unpack; Act.self)

/-! ## Checks, sensors and SQL -/

def check : Act Block Bool := do
  if (← Act.self).kind.isNone then
    report "Type of Block is None (should be .secondary == True or False)" .error
  let b ← Act.self
  if b.kind = some .primary ∧ b.sensorId matches .nothing then
    report "Block has no sensor id" .error
  return (← Act.self).problems.isEmpty

def setSensorId (pairs : Except Fault (List (Value × Value))) : Act Block Unit := do
  let b ← Act.self
  if b.kind = some .secondary then return
  let key : Value := match b.sensor with | some s => .text s | none => .nothing
  match pairs with
  | .error f => throw f
  | .ok pairs =>
    match pairs.find? (fun p => p.1.same key) with
    | some (_, id) => Act.put { b with sensorId := id }
    | none =>
      report ("No sensor id found by sensor name \"" ++ key.plain ++ "\"") .error

def optText : Option String → String
  | some s => s
  | none => "None"

def optInt : Option Int → String
  | some n => toString n
  | none => "None"

def query (b : Block) : String :=
  if b.kind = some .secondary then
    "SELECT tstzrange(vfrom, vuntil) AS valid_r, master AS " ++ b.aliasName ++ " FROM " ++
      optText b.sourceView
  else
    "SELECT valid_r, istrue AS " ++ b.aliasName ++ " FROM pack_ranges(" ++
      "p_obs_relation := 'obs_main', p_maxminutes := 30, p_statid := " ++ optInt b.stationId ++
      ", p_seid := " ++ b.sensorId.plain ++ ", p_operator := '" ++ optText b.operator ++
      "', p_seval := '" ++ optText b.valueText ++ "')"

def sql : Act Block String := do
  if !(← check) then
    Act.fail .general ("Block \"" ++ (← Act.self).aliasName ++ "\" is not valid (see Block errors)")
  return (← Act.self).query

def text (b : Block) : String :=
  let tag := match b.kind with
    | none => "<? "
    | some .secondary => "<Secondary "
    | some .primary => "<Primary "
  tag ++ "Block " ++ b.aliasName ++ "> at " ++ b.parentSite ++ ": \"" ++ b.rawLogic.plain ++ "\">"

end Block

end RoadWeather
