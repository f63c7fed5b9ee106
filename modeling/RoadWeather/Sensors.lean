import RoadWeather.Link

/-! # Sensors known to a database -/

namespace RoadWeather

def sensorQuery : String := "SELECT lower(replace(name, '\"', '')) AS name, id FROM sensors;"

def Value.isKey : Value → Bool
  | .list _ | .record _ => false
  | _ => true

def setEntry (k v : Value) : List (Value × Value) → List (Value × Value)
  | [] => [(k, v)]
  | (k', v') :: rest => if Value.same k' k then (k', v) :: rest else (k', v') :: setEntry k v rest

def entriesOfRows : List (List Value) → List (Value × Value) → Except Fault (List (Value × Value))
  | [], acc => .ok acc
  | [k, v] :: rest, acc =>
    if k.isKey then entriesOfRows rest (setEntry k v acc)
    else .error ⟨.wrongKind, "unhashable type: '" ++ k.kindName ++ "'"⟩
  | row :: _, _ =>
    if row.length < 2 then
      .error ⟨.badValue, "not enough values to unpack (expected 2, got " ++ toString row.length ++ ")"⟩
    else .error ⟨.badValue, "too many values to unpack (expected 2)"⟩

def Link.sensors : Act Link (List (Value × Value)) := do
  let a ← Link.execute sensorQuery
  match entriesOfRows a.rows [] with
  | .ok es => pure es
  | .error f => throw f

end RoadWeather
