import RoadWeather.Block
import RoadWeather.Table
import RoadWeather.Condition.Token
import RoadWeather.Condition.Order

/-! # Conditions

A condition is one row of an analysis: a site, a master alias and a formula read into blocks. -/

namespace RoadWeather

open RoadWeather.Text RoadWeather.Condition

/-- A part of a read formula: a connective or a reference to one of the blocks. -/
inductive Part where
  | openPar | closePar
  | andOr (word : String)
  | negation
  | block (index : Nat)
  deriving DecidableEq, Repr, Inhabited

/-- A condition of an analysis. -/
structure Condition where
  site : String
  masterAlias : String
  idString : String
  formula : String
  timeFrom : Value
  timeUntil : Value
  excelRow : Value
  problems : Problems
  blocks : List Block := []
  aliasFormula : String := ""
  secondary : Bool := false
  blocksMade : Bool := false
  dataFrom : Value := .nothing
  dataUntil : Value := .nothing
  results : Table := {}
  totalTime : Value := .nothing
  validTime : Value := .span ⟨0⟩
  notValidTime : Value := .span ⟨0⟩
  noDataTime : Value := .nothing
  validShare : Value := .int 0
  notValidShare : Value := .int 0
  noDataShare : Value := .int 1
  deriving Inhabited

namespace Condition

def text (c : Condition) : String :=
  (if c.secondary then "<Secondary " else "<Primary ") ++ "Condition " ++ c.idString ++
    " at Excel row " ++ c.excelRow.plain ++ ">"

def pendingText (idString : String) (excelRow : Value) : String :=
  "<? Condition " ++ idString ++ " at Excel row " ++ excelRow.plain ++ ">"

def report (msg : String) (notice : Notice) : Act Condition Unit :=
  Act.focus (·.problems) (fun c p => { c with problems := p }) (Problems.add (.text msg) notice)

def onBlock (i : Nat) (a : Act Block α) : Act Condition α :=
  Act.focus (fun c => c.blocks.getD i default) (fun c b => { c with blocks := c.blocks.set i b }) a

/-! ## Reading the formula -/

def Part.shown (blocks : List Block) : Part → Role × String
  | .openPar => (.openPar, "(")
  | .closePar => (.closePar, ")")
  | .andOr w => (.andOr, w)
  | .negation => (.negation, "not")
  | .block i => (.block, (blocks.getD i default).text)

def Part.aliasText (blocks : List Block) : Part → String
  | .openPar => "("
  | .closePar => ")"
  | .andOr w => " " ++ w ++ " "
  | .negation => "not "
  | .block i => (blocks.getD i default).aliasName

def Part.ofPiece? (p : String) : Option Part :=
  if p = "(" then some .openPar
  else if p = ")" then some .closePar
  else if p = "and" then some (.andOr "and")
  else if p = "or" then some (.andOr "or")
  else if p = "not" then some .negation
  else none

/-- Make the parts of the pieces in order; a piece whose block cannot be made is reported and
left out. Returns the parts and whether every block could be made. -/
def makeParts : List String → List Part → Bool → Act Condition (List Part × Bool)
  | [], acc, ok => pure (acc.reverse, ok)
  | p :: rest, acc, ok =>
    match Part.ofPiece? p with
    | some part => makeParts rest (part :: acc) ok
    | none => do
      let c ← Act.self
      let made ← Act.focus (fun _ => ()) (fun c _ => c) (Act.attempt
        (Block.make (.text c.masterAlias) (.text c.site) (.int c.blocks.length) (.text p)))
      match made with
      | .ok b =>
        match c.blocks.findIdx? (·.rawLogic.same b.rawLogic) with
        | some j => makeParts rest (.block j :: acc) ok
        | none => do
          Act.change fun c => { c with blocks := c.blocks ++ [b] }
          makeParts rest (.block c.blocks.length :: acc) ok
      | .error _ => do
        report ("Cannot create Block from \"" ++ p ++ "\"") .error
        makeParts rest acc false

def reportAll (msgs : List String) : Act Condition Unit := do
  for msg in msgs do report msg .error

def settle (parts : List Part) (ok : Bool) : Act Condition Unit := do
  Act.change fun c => { c with
    aliasFormula := String.join (parts.map (Part.aliasText c.blocks)),
    secondary := c.blocks.any (·.kind == some .secondary),
    blocksMade := ok }
  if ok then
    Act.note .debug .condition ((← Act.self).text ++ " parsed successfully")
  else
    report "There were errors with this condition and it will not be analyzed" .warning

def checkCounts : Act Condition Bool := do
  let c ← Act.self
  let nOpen := occurrences c.formula "("
  let nClose := occurrences c.formula ")"
  if nOpen ≠ nClose then
    report ("Unequal of \"(\" (" ++ toString nOpen ++ ") and \")\" (" ++ toString nClose ++
      ") in condition") .error
  return nOpen == nClose

def readTokens (ts : List String) : Act Condition Unit := do
  let balanced ← checkCounts
  let (parts, allMade) ← makeParts ts [] true
  let c ← Act.self
  -- The order is checked only while nothing else is wrong.
  let problems := if balanced && allMade then orderProblems (parts.map (Part.shown c.blocks)) else []
  reportAll problems
  let ok := balanced && allMade && problems.isEmpty && c.blocks.all (·.kind.isSome)
  let ok ← if c.blocks.isEmpty then do
      report "No Blocks were created" .warning
      pure false
    else pure ok
  settle parts ok

def makeBlocks : Act Condition Unit := do
  readTokens (tokens (← Act.self).formula)

/-- Make a condition of a site, a master alias and a formula text over the period from
`timeFrom` to `timeUntil`. The whole period counts as time without data. -/
def make (site masterAlias raw timeFrom timeUntil excelRow : Value) : Act Unit Condition := do
  let s ← match identifier site with | .ok x => pure x | .error f => throw f
  let m ← match identifier masterAlias with | .ok x => pure x | .error f => throw f
  let i ← match identifier (.text (s ++ "_" ++ m)) with | .ok x => pure x | .error f => throw f
  let fm ← match raw with
    | .text r => pure (lower (strip (eliminateUmlauts r)))
    | v => Act.fail .noAttribute ("'" ++ v.kindName ++ "' object has no attribute 'replace'")
  let c : Condition := {
    site := s
    masterAlias := m
    idString := i
    formula := fm
    timeFrom := timeFrom
    timeUntil := timeUntil
    excelRow := excelRow
    problems := { context := pendingText i excelRow } }
  let c ← Act.focus (fun _ => c) (fun u _ => u) (do makeBlocks; Act.self)
  match timeUntil.minus timeFrom with
  | .ok total => return { c with totalTime := total, noDataTime := total }
  | .error f => throw f

/-! ## Checks and station numbers -/

def check : Act Condition Bool := do
  let n := (← Act.self).blocks.length
  let rec go : Nat → Nat → Act Condition Bool
    | 0, _ => pure true
    | k + 1, i => do
      if ← onBlock i Block.check then go k (i + 1) else pure false
  let blocksOk ← go n 0
  return blocksOk && (← Act.self).blocksMade

def stationIds (c : Condition) : List (Option Int) :=
  let ids := (c.blocks.filter (·.kind != some .secondary)).map (·.stationId)
  let some' := (ids.filterMap id).eraseDups.mergeSort (· ≤ ·)
  (if ids.contains none then [none] else []) ++ some'.map some

def everyBlock (a : Act Block Unit) : Act Condition Unit := do
  let n := (← Act.self).blocks.length
  for i in List.range n do onBlock i a

def setSensorIds (pairs : Except Fault (List (Value × Value))) : Act Condition Unit :=
  everyBlock (Block.setSensorId pairs)

def block? (c : Condition) (key : String) : Option Block := c.blocks.find? (·.aliasName == key)

end Condition

end RoadWeather
