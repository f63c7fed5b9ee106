import RoadWeather.Journal
import RoadWeather.Value.Text

/-! # Requests and answers -/

namespace RoadWeather

def Value.field? (v : Value) (k : String) : Option Value :=
  match v with
  | .record es => es.lookup k
  | _ => none

def Value.field (v : Value) (k : String) : Value := (v.field? k).getD .nothing

def Value.has (v : Value) (k : String) : Bool := (v.field? k).isSome

def Value.items : Value → List Value
  | .list xs => xs
  | _ => []

def Value.text? : Value → Option String
  | .text s => some s
  | _ => none

def Fault.answer (f : Fault) : List (String × Value) :=
  [("error", .text f.kind.label), ("message", .text f.message)]

def logValue (log : Array Record) : Value :=
  .list (log.toList.map fun r => .list [.text r.level.label, .text r.message])

def badRequest (message : String) : Value :=
  .record [("error", .text "BadRequest"), ("message", .text message)]

def outcomeFields (r : Except Fault Value) : List (String × Value) :=
  match r with
  | .ok v => [("value", v)]
  | .error f => f.answer

end RoadWeather
