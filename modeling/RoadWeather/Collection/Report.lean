import RoadWeather.Collection.Basic
import RoadWeather.Workbook
import RoadWeather.Time.Format
import RoadWeather.Number.FloatText

/-! # Reports of a collection

A worksheet of the summaries and the texts of one slide per condition. -/

namespace RoadWeather

open RoadWeather.Time

/-- One slide of a report. -/
structure Slide where
  header : String
  footer : String
  title : String
  body : String
  period : String
  table : List (List String)
  problems : String
  plot : String := ""
  deriving Inhabited

namespace Collection

def sheetHeaders : List (Position × String) :=
  [(⟨1, 1⟩, "start"), (⟨1, 2⟩, "end"), (⟨1, 4⟩, "analyzed"), (⟨3, 1⟩, "site"),
    (⟨3, 2⟩, "master_alias"), (⟨3, 3⟩, "condition"), (⟨3, 4⟩, "data_from"),
    (⟨3, 5⟩, "data_until"), (⟨3, 6⟩, "valid"), (⟨3, 7⟩, "notvalid"), (⟨3, 8⟩, "nodata"),
    (⟨3, 9⟩, "rows")]

def conditionRow (r : Nat) (c : Condition) : List (Position × Value) :=
  [(⟨r, 1⟩, .text c.site), (⟨r, 2⟩, .text c.masterAlias), (⟨r, 3⟩, .text c.formula),
    (⟨r, 4⟩, c.dataFrom), (⟨r, 5⟩, c.dataUntil), (⟨r, 6⟩, c.validShare),
    (⟨r, 7⟩, c.notValidShare), (⟨r, 8⟩, c.noDataShare), (⟨r, 9⟩, .int c.results.numRows)]

def sheetCells (c : Collection) : List (Position × Value) :=
  sheetHeaders.map (fun (p, s) => (p, Value.text s)) ++
  [(⟨2, 1⟩, .time c.timeFrom), (⟨2, 2⟩, .time c.timeUntil), (⟨2, 4⟩, .time c.createdAt)] ++
  (c.conditions.zipIdx.map fun (cond, i) => conditionRow (i + 4) cond).flatten

def toWorksheet (c : Collection) (wb : Workbook) : Except Fault Workbook := do
  let wb ← wb.addSheet (if c.title.truthy then c.title else .text "conditions")
  return wb.changeLast fun s => (sheetCells c).foldl (fun s (p, v) => s.put p v) s

/-! ## Slides -/

def durationText (v : Value) : Except Fault String :=
  match v with
  | .span d => d.fillIn "\x7bdays\x7d pv \x7bhours\x7d h \x7bminutes\x7d min"
  | v => .error ⟨.noAttribute, "'" ++ v.kindName ++ "' object has no attribute 'days'"⟩

def percentText (v : Value) : Except Fault String :=
  match v with
  | .int n => .ok (toString (n * 100) ++ " %")
  | .bool b => .ok ((if b then "100" else "0") ++ " %")
  | .float x => .ok (Number.writeFloat (Number.roundPlaces (x * 100) 2) ++ " %")
  | v => .error ⟨.wrongKind, "type " ++ v.kindName ++ " doesn't define __round__ method"⟩

def stampText (v : Value) : Except Fault String :=
  match v with
  | .time t => .ok t.dayFirstClock
  | .missingTime => .error ⟨.badValue, "NaTType does not support strftime"⟩
  | v => .error ⟨.noAttribute, "'" ++ v.kindName ++ "' object has no attribute 'strftime'"⟩

/-- The slide of a condition, without its plot. -/
def slideOf (c : Collection) (cond : Condition) : Except Fault Slide := do
  let head ← match c.title with
    | .text t => pure t
    | .nothing => pure ""
    | v => throw (Fault.mk .wrongKind
        ("can only concatenate str (not \"" ++ v.kindName ++ "\") to str"))
  let period ← match cond.dataFrom, cond.dataUntil with
    | .nothing, _ | _, .nothing => pure "Ei dataa saatavilla"
    | a, b => pure ("Datan tarkasteluväli " ++ (← stampText a) ++ "-" ++ (← stampText b))
  let durations ← [cond.validTime, cond.notValidTime, cond.noDataTime].mapM durationText
  let shares ← [cond.validShare, cond.notValidShare, cond.noDataShare].mapM percentText
  return {
    header := "TSA report: " ++ head ++ " " ++ c.createdAt.dayFirst
    footer := "TSATool v0.1, copyright WSP Finland"
    title := cond.idString
    body := cond.formula
    period := period
    table := [["", "Voimassa", "Ei voimassa", "Tieto puuttuu"], "Yhteensä" :: durations,
      "Osuus tarkasteluajasta" :: shares]
    problems := ← cond.problems.joined }

/-- The slides of all conditions. `pictures` is the folder for plot pictures, if one was given,
with whether it exists. No plot can be drawn, which each condition records as a problem. -/
def slides (pictures : Option (String × Bool)) : Act Collection (List Slide) := do
  let n := (← Act.self).conditions.length
  let mut out := []
  for i in List.range n do
    let c ← Act.self
    let slide ← match slideOf c (c.conditions.getD i default) with
      | .ok s => pure s
      | .error f => throw f
    match pictures with
    | some (dir, false) =>
      report ("Directory \"" ++ dir ++ "\" for images does not exist, not saving png files") .warning
    | _ => pure ()
    onCondition i (Condition.report "Cannot save timeline plot" .error)
    out := out ++ [slide]
  return out

end Collection

end RoadWeather
