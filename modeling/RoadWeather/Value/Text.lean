import RoadWeather.Value
import RoadWeather.Number.FloatText
import RoadWeather.Text.Printable

/-! # Values as text -/

namespace RoadWeather

open RoadWeather.Time RoadWeather.Number RoadWeather.Text

def hexDigits (w : Nat) (n : Nat) : String :=
  let s := String.ofList (Nat.toDigits 16 n)
  String.ofList (List.replicate (w - s.length) '0') ++ s

def escapeChar (q : Char) (c : Char) : String :=
  if c = q ∨ c = '\\' then String.ofList ['\\', c]
  else if c = '\t' then "\\t"
  else if c = '\n' then "\\n"
  else if c = '\r' then "\\r"
  else if c.toNat < 32 ∨ c.toNat = 127 then "\\x" ++ hexDigits 2 c.toNat
  else if c.toNat < 127 then c.toString
  else if isPrintable c then c.toString
  else if c.toNat ≤ 0xff then "\\x" ++ hexDigits 2 c.toNat
  else if c.toNat ≤ 0xffff then "\\u" ++ hexDigits 4 c.toNat
  else "\\U" ++ hexDigits 8 c.toNat

def quoteText (s : String) : String :=
  let q := if s.contains '\'' && !s.contains '"' then '"' else '\''
  q.toString ++ String.join (s.toList.map (escapeChar q)) ++ q.toString

def instantCall (t : Instant) : String :=
  let fields := [t.year, t.month, t.day, t.hour, t.minute, t.second, t.micro]
  let fields := if fields.getLast? = some 0 then fields.dropLast else fields
  let fields := if fields.getLast? = some 0 then fields.dropLast else fields
  "datetime.datetime(" ++ ", ".intercalate (fields.map toString) ++ ")"

def spanCall (d : Span) : String :=
  let parts : List String :=
    (if d.days ≠ 0 then ["days=" ++ toString d.days] else []) ++
    (if d.seconds ≠ 0 then ["seconds=" ++ toString d.seconds] else []) ++
    (if d.microseconds ≠ 0 then ["microseconds=" ++ toString d.microseconds] else [])
  "datetime.timedelta(" ++ (if parts.isEmpty then "0" else ", ".intercalate parts) ++ ")"

namespace Value

mutual
def quoted : Value → String
  | .text s => quoteText s
  | .time t => instantCall t
  | .span d => spanCall d
  | .list xs => "[" ++ ", ".intercalate (quotedList xs) ++ "]"
  | .record es => "\x7b" ++ ", ".intercalate (quotedEntries es) ++ "\x7d"
  | .nothing => "None"
  | .bool b => if b then "True" else "False"
  | .int n => toString n
  | .float x => writeFloat x
  | .missingTime => "NaT"

def quotedList : List Value → List String
  | [] => []
  | v :: vs => quoted v :: quotedList vs

def quotedEntries : List (String × Value) → List String
  | [] => []
  | (k, v) :: es => (quoteText k ++ ": " ++ quoted v) :: quotedEntries es
end

def plain : Value → String
  | .text s => s
  | .time t => t.text
  | .span d => d.text
  | v => v.quoted

end Value


end RoadWeather
