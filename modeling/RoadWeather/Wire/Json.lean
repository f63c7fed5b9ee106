import RoadWeather.Value.Text

/-! # Values as JSON -/

namespace RoadWeather.Wire

open RoadWeather.Time RoadWeather.Number

/-! ## Reading -/

def isJsonBlank (c : Char) : Bool := c = ' ' || c = '\t' || c = '\n' || c = '\r'

def skipBlank (cs : List Char) : List Char := cs.dropWhile isJsonBlank

def hexValue (c : Char) : Option Nat :=
  if '0' ≤ c ∧ c ≤ '9' then some (c.toNat - 48)
  else if 'a' ≤ c ∧ c ≤ 'f' then some (c.toNat - 87)
  else if 'A' ≤ c ∧ c ≤ 'F' then some (c.toNat - 55)
  else none

def hex4 (a b c d : Char) : Option Nat := do
  pure ((← hexValue a) * 4096 + (← hexValue b) * 256 + (← hexValue c) * 16 + (← hexValue d))

/-- The rest of a string after its opening quote: its characters and what follows it. -/
def readString : List Char → List Char → Option (String × List Char)
  | [], _ => none
  | '"' :: rest, acc => some (String.ofList acc.reverse, rest)
  | '\\' :: e :: rest, acc =>
    match e with
    | '"' => readString rest ('"' :: acc)
    | '\\' => readString rest ('\\' :: acc)
    | '/' => readString rest ('/' :: acc)
    | 'b' => readString rest ('\x08' :: acc)
    | 'f' => readString rest ('\x0c' :: acc)
    | 'n' => readString rest ('\n' :: acc)
    | 'r' => readString rest ('\r' :: acc)
    | 't' => readString rest ('\t' :: acc)
    | 'u' =>
      match rest with
      | a :: b :: c :: d :: rest' =>
        match hex4 a b c d with
        | none => none
        | some hi =>
          if 0xD800 ≤ hi ∧ hi < 0xDC00 then
            match rest' with
            | '\\' :: 'u' :: a' :: b' :: c' :: d' :: rest'' =>
              match hex4 a' b' c' d' with
              | some lo =>
                if 0xDC00 ≤ lo ∧ lo < 0xE000 then
                  readString rest'' (Char.ofNat (0x10000 + (hi - 0xD800) * 1024 + (lo - 0xDC00)) :: acc)
                else none
              | none => none
            | _ => none
          else readString rest' (Char.ofNat hi :: acc)
      | _ => none
    | _ => none
  | c :: rest, acc => readString rest (c :: acc)

def spanDigits (cs : List Char) : List Char × List Char := (cs.takeWhile Char.isDigit, cs.dropWhile Char.isDigit)

def digitValue (ds : List Char) : Nat := ds.foldl (fun n c => 10 * n + (c.toNat - 48)) 0

/-- A number: an integer when it has neither fraction nor exponent, otherwise the nearest
double. -/
def readNumber (cs : List Char) : Option (Value × List Char) :=
  let (neg, cs) := match cs with
    | '-' :: r => (true, r)
    | r => (false, r)
  let (whole, cs) := spanDigits cs
  if whole.isEmpty then none else
  let (frac, cs, hasFrac) := match cs with
    | '.' :: r => let (f, r') := spanDigits r; (f, r', true)
    | r => ([], r, false)
  if hasFrac && frac.isEmpty then none else
  let (expo, cs, hasExp) : Int × List Char × Bool := match cs with
    | 'e' :: r | 'E' :: r =>
      let (sgn, r) := match r with
        | '-' :: r' => (-1, r')
        | '+' :: r' => (1, r')
        | r' => (1, r')
      let (ds, r) := spanDigits r
      (if ds.isEmpty then (0, [], false) else (sgn * digitValue ds, r, true))
    | r => (0, r, false)
  if !hasFrac && !hasExp then
    let n : Int := digitValue whole
    some (.int (if neg then -n else n), cs)
  else
    let m := digitValue (whole ++ frac)
    let e : Int := expo - frac.length
    let x := if e < 0 then Float.ofScientific m true (-e).toNat else Float.ofScientific m false e.toNat
    some (.float (if neg then -x else x), cs)

mutual
/-- A JSON value and what follows it; `fuel` bounds the nesting. -/
def readValue : Nat → List Char → Option (Value × List Char)
  | 0, _ => none
  | fuel + 1, cs =>
    match skipBlank cs with
    | 'n' :: 'u' :: 'l' :: 'l' :: r => some (.nothing, r)
    | 't' :: 'r' :: 'u' :: 'e' :: r => some (.bool true, r)
    | 'f' :: 'a' :: 'l' :: 's' :: 'e' :: r => some (.bool false, r)
    | 'N' :: 'a' :: 'N' :: r => some (.float (0.0 / 0.0), r)
    | 'I' :: 'n' :: 'f' :: 'i' :: 'n' :: 'i' :: 't' :: 'y' :: r => some (.float (1.0 / 0.0), r)
    | '-' :: 'I' :: 'n' :: 'f' :: 'i' :: 'n' :: 'i' :: 't' :: 'y' :: r => some (.float (-1.0 / 0.0), r)
    | '"' :: r => (readString r []).map fun (s, r') => (.text s, r')
    | '[' :: r =>
      match skipBlank r with
      | ']' :: r' => some (.list [], r')
      | r' => readItems fuel r' []
    | '{' :: r =>
      match skipBlank r with
      | '}' :: r' => some (.record [], r')
      | r' => readFields fuel r' []
    | cs' => readNumber cs'

def readItems : Nat → List Char → List Value → Option (Value × List Char)
  | 0, _, _ => none
  | fuel + 1, cs, acc =>
    match readValue fuel cs with
    | none => none
    | some (v, r) =>
      match skipBlank r with
      | ',' :: r' => readItems fuel r' (v :: acc)
      | ']' :: r' => some (.list (v :: acc).reverse, r')
      | _ => none

/-- The fields of a record after `{`, up to and past `}`. -/
def readFields : Nat → List Char → List (String × Value) → Option (Value × List Char)
  | 0, _, _ => none
  | fuel + 1, cs, acc =>
    match skipBlank cs with
    | '"' :: r =>
      match readString r [] with
      | none => none
      | some (k, r) =>
        match skipBlank r with
        | ':' :: r =>
          match readValue fuel r with
          | none => none
          | some (v, r) =>
            match skipBlank r with
            | ',' :: r' => readFields fuel r' ((k, v) :: acc)
            | '}' :: r' => some (.record ((k, v) :: acc).reverse, r')
            | _ => none
        | _ => none
    | _ => none
end

mutual
def untag : Value → Value
  | .record [("$dt", .text s)] =>
    match Instant.ofIso? s with
    | some t => .time t
    | none => .record [("$dt", .text s)]
  | .record [("$td", .int n)] => .span ⟨n * 1000000⟩
  | .record [("$td", .float x)] =>
    .span ⟨match wholeValue? (x * 1000000.0).round with | some n => n | none => 0⟩
  | .record [("$float", .text "nan")] => .float (0.0 / 0.0)
  | .record [("$float", .text "inf")] => .float (1.0 / 0.0)
  | .record [("$float", .text "-inf")] => .float (-1.0 / 0.0)
  | .list xs => .list (untagList xs)
  | .record es => .record (untagFields es)
  | v => v

def untagList : List Value → List Value
  | [] => []
  | v :: vs => untag v :: untagList vs

def untagFields : List (String × Value) → List (String × Value)
  | [] => []
  | (k, v) :: es => (k, untag v) :: untagFields es
end

def read (s : String) : Option Value :=
  let cs := s.toList
  match readValue (2 * cs.length + 2) cs with
  | some (v, rest) => if (skipBlank rest).isEmpty then some (untag v) else none
  | none => none

/-! ## Writing -/

def escapeJson (c : Char) : String :=
  if c = '"' then "\\\"" else if c = '\\' then "\\\\"
  else if c = '\n' then "\\n" else if c = '\r' then "\\r" else if c = '\t' then "\\t"
  else if c.toNat = 8 then "\\b" else if c.toNat = 12 then "\\f"
  else if c.toNat < 32 then "\\u" ++ hexDigits 4 c.toNat
  else c.toString

def writeString (s : String) : String := "\"" ++ String.join (s.toList.map escapeJson) ++ "\""

def writeDouble (x : Float) : String :=
  match classify x with
  | .finite _ => writeFloat x
  | .nan => "\x7b\"$float\": \"nan\"\x7d"
  | .infinite neg => if neg then "\x7b\"$float\": \"-inf\"\x7d" else "\x7b\"$float\": \"inf\"\x7d"

mutual
def write : Value → String
  | .nothing => "null"
  | .bool b => if b then "true" else "false"
  | .int n => toString n
  | .float x => writeDouble x
  | .text s => writeString s
  | .time t => "\x7b\"$dt\": " ++ writeString t.iso ++ "\x7d"
  | .span d => "\x7b\"$td\": [" ++ toString d.days ++ ", " ++ toString d.seconds ++ ", " ++
      toString d.microseconds ++ "]\x7d"
  | .missingTime => "\x7b\"$nat\": true\x7d"
  | .list xs => "[" ++ ", ".intercalate (writeList xs) ++ "]"
  | .record es => "\x7b" ++ ", ".intercalate (writeFields es) ++ "\x7d"

def writeList : List Value → List String
  | [] => []
  | v :: vs => write v :: writeList vs

def writeFields : List (String × Value) → List String
  | [] => []
  | (k, v) :: es => (writeString k ++ ": " ++ write v) :: writeFields es
end

def asciiOnly (s : String) : String :=
  String.join (s.toList.map fun c =>
    let n := c.toNat
    if n < 128 then c.toString
    else if n < 0x10000 then "\\u" ++ hexDigits 4 n
    else
      let m := n - 0x10000
      "\\u" ++ hexDigits 4 (0xD800 + m / 1024) ++ "\\u" ++ hexDigits 4 (0xDC00 + m % 1024))

/-! ## Writing in ASCII with indentation -/

def escapeAscii (c : Char) : String :=
  let n := c.toNat
  if n < 32 || c = '"' || c = '\\' then escapeJson c
  else if n < 127 then c.toString
  else if n < 0x10000 then "\\u" ++ hexDigits 4 n
  else
    let m := n - 0x10000
    "\\u" ++ hexDigits 4 (0xD800 + m / 1024) ++ "\\u" ++ hexDigits 4 (0xDC00 + m % 1024)

def asciiString (s : String) : String := "\"" ++ String.join (s.toList.map escapeAscii) ++ "\""

def indentOf (d : Nat) : String := String.ofList (List.replicate (4 * d) ' ')

mutual
def writeIndented (d : Nat) : Value → String
  | .text s => asciiString s
  | .list [] => "[]"
  | .list xs => "[\n" ++ ",\n".intercalate (indentedItems (d + 1) xs) ++ "\n" ++ indentOf d ++ "]"
  | .record [] => "\x7b\x7d"
  | .record es =>
    "\x7b\n" ++ ",\n".intercalate (indentedFields (d + 1) es) ++ "\n" ++ indentOf d ++ "\x7d"
  | v => write v

def indentedItems (d : Nat) : List Value → List String
  | [] => []
  | v :: vs => (indentOf d ++ writeIndented d v) :: indentedItems d vs

def indentedFields (d : Nat) : List (String × Value) → List String
  | [] => []
  | (k, v) :: es => (indentOf d ++ asciiString k ++ ": " ++ writeIndented d v) :: indentedFields d es
end

end RoadWeather.Wire
