import RoadWeather.Value.Integer
import RoadWeather.Text.Lower
import RoadWeather.Text.Alnum

/-! # Database identifiers

Site names and aliases become table and column names. -/

namespace RoadWeather

open RoadWeather.Text

/-! ## Umlauts -/

def plainVowel (c : Char) : Char :=
  if c = 'ä' then 'a' else if c = 'Ä' then 'A' else if c = 'ö' then 'o' else if c = 'Ö' then 'O'
  else c

def eliminateUmlauts (s : String) : String := String.ofList (s.toList.map plainVowel)

/-! ## Pointers into text -/

def pointerText (s : String) (pos : Nat) : String :=
  s ++ "\n" ++ String.ofList (List.replicate pos '~') ++ "^ HERE"

def pointerLimit : Int := Int.pow 2 63 - 1

def withPointer (s : Value) (pos : Value) : Except Fault Value :=
  match pos.toInteger with
  | .error ⟨.badValue, _⟩ => .ok s
  | .error f => .error f
  | .ok p =>
    if p < 0 then .ok (.text s.plain)
    else if p > pointerLimit then .error ⟨.overflow, "cannot fit 'int' into an index-sized integer"⟩
    else .ok (.text (pointerText s.plain p.toNat))

/-! ## Identifiers -/

def reservedNames : List String :=
  ["stations", "statobs", "sensors", "seobs", "laskennallinen_anturi", "tiesaa_asema"]

/-- Why a name cannot be an identifier. -/
inductive NameFault where
  | notText
  | empty
  | reserved (x : String)
  | leadingDigit (x : String)
  | tooLong (x : String)
  | badChar (x : String) (pos : Nat)
  deriving DecidableEq, Repr

def NameFault.toFault : NameFault → Fault
  | .notText => ⟨.assertion, ""⟩
  | .empty => ⟨.index, "string index out of range"⟩
  | .reserved x => ⟨.badValue, "\"" ++ x ++ "\" cannot be used as identifier since it is already reserved in database!"⟩
  | .leadingDigit x => ⟨.badValue, "String starts with digit:\n" ++ pointerText x 0⟩
  | .tooLong x => ⟨.badValue, "\"" ++ x ++ "\" is too long, maximum is 40 characters:\n" ++ pointerText x 62⟩
  | .badChar x i => ⟨.badValue, "\"" ++ x ++ "\" contains an invalid character:\n" ++ pointerText x i⟩

def normalName (s : String) : String :=
  String.ofList ((eliminateUmlauts (lower (strip s))).toList.map fun c => if c = ' ' then '_' else c)

def identChar (c : Char) : Bool := isAlnum c || c = '_'

def firstBadChar : List Char → Nat → Option Nat
  | [], _ => none
  | c :: cs, i => if identChar c then firstBadChar cs (i + 1) else some i

def checkName (x : String) : Except NameFault String :=
  if reservedNames.contains x then .error (.reserved x)
  else match x.toList with
    | [] => .error .empty
    | c :: _ =>
      if isDigit c then .error (.leadingDigit x)
      else if x.length > 63 then .error (.tooLong x)
      else match firstBadChar x.toList 0 with
        | some i => .error (.badChar x i)
        | none => .ok x

def identifier? : Value → Except NameFault String
  | .text s => checkName (normalName s)
  | _ => .error .notText

def identifier (v : Value) : Except Fault String :=
  (identifier? v).mapError NameFault.toFault

/-! ## Shortening text -/

def keepFront (s : String) (k : Int) : String :=
  let n : Int := s.length
  let stop := if k < 0 then max (n + k) 0 else min k n
  String.ofList (s.toList.take stop.toNat)

def shorten (s : String) (n : Int) : String :=
  if (s.length : Int) ≤ n - 4 then s else keepFront s (n - 5) ++ " ..."

end RoadWeather
