import RoadWeather.Service.Basic
import RoadWeather.Condition.Results
import RoadWeather.Stations

/-! # Objects as records -/

namespace RoadWeather.Service

def optTextValue : Option String → Value
  | some s => .text s
  | none => .nothing

def optIntValue : Option Int → Value
  | some n => .int n
  | none => .nothing

def problemsRecord (p : Problems) : Value :=
  .record [("context", .text p.context),
    ("errors", .list (p.entries.map fun e => .list [e.message, .int e.more])),
    ("short_str", .text ((p.joined).toOption.getD ""))]

def kindValue : Option BlockKind → Value
  | some .secondary => .bool true
  | some .primary => .bool false
  | none => .nothing

def blockRecord (b : Block) : Value :=
  .record [("raw_logic", b.rawLogic), ("master_alias", .text b.masterAlias),
    ("parent_site", .text b.parentSite), ("order_nr", b.orderNr), ("alias", .text b.aliasName),
    ("secondary", kindValue b.kind), ("site", optTextValue b.site),
    ("station", optTextValue b.station), ("station_id", optIntValue b.stationId),
    ("source_alias", optTextValue b.sourceAlias), ("source_view", optTextValue b.sourceView),
    ("sensor", optTextValue b.sensor), ("sensor_id", b.sensorId),
    ("operator", optTextValue b.operator), ("value_str", optTextValue b.valueText),
    ("errors", problemsRecord b.problems), ("str", .text b.text)]

def tableRecord (t : Table) : Value :=
  .record [("columns", .list (t.columns.map Value.text)),
    ("rows", .list (t.rows.map Value.list))]

def conditionRecord (c : Condition) : Value :=
  .record [("site", .text c.site), ("master_alias", .text c.masterAlias),
    ("id_string", .text c.idString), ("condition", .text c.formula),
    ("time_from", c.timeFrom), ("time_until", c.timeUntil), ("data_from", c.dataFrom),
    ("data_until", c.dataUntil), ("excel_row", c.excelRow),
    ("alias_condition", .text c.aliasFormula), ("secondary", .bool c.secondary),
    ("blocks_made", .bool c.blocksMade), ("tottime", c.totalTime),
    ("tottime_valid", c.validTime), ("tottime_notvalid", c.notValidTime),
    ("tottime_nodata", c.noDataTime), ("percentage_valid", c.validShare),
    ("percentage_notvalid", c.notValidShare), ("percentage_nodata", c.noDataShare),
    ("blocks", .list (c.blocks.map fun b => .list [.text b.aliasName, blockRecord b])),
    ("errors", problemsRecord c.problems), ("main_df", tableRecord c.results),
    ("str", .text c.text)]

def linkFields (l : Link) : List (String × Value) :=
  [("executed", .list (l.executed.toList.map Value.text)), ("commits", .int l.commits),
    ("rollbacks", .int l.rollbacks)]

def linkSpec (v : Value) : LinkSpec :=
  let answerOf (a : Value) : Answer :=
    { columns := (a.field "columns").items.map Value.plain,
      rows := (a.field "rows").items.map Value.items }
  { failOn := (v.field "fail_on").items.map Value.plain,
    answer := answerOf v,
    responses := (v.field "responses").items.filterMap fun r =>
      match r with
      | .list [k, a] => some (k.plain, answerOf a)
      | _ => none }

def sensorPairs (v : Value) : Except Fault (List (Value × Value)) :=
  match v with
  | .text "local" => .ok localSensorTable
  | .record es => .ok (es.map fun (k, x) => (Value.text k, x))
  | v => .error ⟨.wrongKind, "'" ++ v.kindName ++ "' object is not subscriptable"⟩

end RoadWeather.Service
