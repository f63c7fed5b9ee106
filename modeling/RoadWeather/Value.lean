import RoadWeather.Time.Instant
import RoadWeather.Number.Dyadic

/-! # Values -/

namespace RoadWeather

open RoadWeather.Time

/-- A value of any of the kinds the program handles. -/
inductive Value where
  | nothing
  | bool (b : Bool)
  | int (n : Int)
  | float (x : Float)
  | text (s : String)
  | list (items : List Value)
  | record (entries : List (String × Value))
  | time (t : Instant)
  | span (d : Span)
  | missingTime
  deriving Inhabited

namespace Value

def kindName : Value → String
  | .nothing => "NoneType"
  | .bool _ => "bool"
  | .int _ => "int"
  | .float _ => "float"
  | .text _ => "str"
  | .list _ => "list"
  | .record _ => "dict"
  | .time _ => "datetime.datetime"
  | .span _ => "datetime.timedelta"
  | .missingTime => "NaTType"

def truthy : Value → Bool
  | .nothing => false
  | .bool b => b
  | .int n => n != 0
  | .float x => x != 0
  | .text s => !s.isEmpty
  | .list xs => !xs.isEmpty
  | .record es => !es.isEmpty
  | .time _ => true
  | .span d => d.micros != 0
  | .missingTime => true

def number? : Value → Option Float
  | .bool b => some (if b then 1 else 0)
  | .int n => some (Float.ofInt n)
  | .float x => some x
  | _ => none

def integer? : Value → Option Int
  | .bool b => some (if b then 1 else 0)
  | .int n => some n
  | _ => none

/-- Equality as comparisons and look-ups see it: numbers compare by value across truth
values, integers and doubles; other kinds compare within their kind. -/
def same : Value → Value → Bool
  | .nothing, .nothing => true
  | .text a, .text b => a == b
  | .time a, .time b => a == b
  | .span a, .span b => a == b
  | .list as, .list bs => sameList as bs
  | .record as, .record bs => sameEntries as bs
  | a, b =>
    match a.integer?, b.integer? with
    | some x, some y => x == y
    | _, _ =>
      match a, b with
      | .float x, .float y => x == y
      | .float x, v | v, .float x =>
        match v.integer?, Number.wholeValue? x with
        | some n, some m => n == m
        | _, _ => false
      | _, _ => false
where
  sameList : List Value → List Value → Bool
    | [], [] => true
    | a :: as, b :: bs => same a b && sameList as bs
    | _, _ => false
  sameEntries : List (String × Value) → List (String × Value) → Bool
    | [], [] => true
    | (k, a) :: as, (l, b) :: bs => k == l && same a b && sameEntries as bs
    | _, _ => false

end Value

end RoadWeather
