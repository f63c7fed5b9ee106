import RoadWeather.Text.Blank
import RoadWeather.Text.Digit

/-! # Reading integers from text -/

namespace RoadWeather.Text

def readDigits : List Char → Nat → Bool → Option Nat
  | [], acc, afterDigit => if afterDigit then some acc else none
  | c :: rest, acc, afterDigit =>
    if c = '_' then
      (if afterDigit && !rest.isEmpty then readDigits rest acc false else none)
    else
      match decimalValue? c with
      | some d => readDigits rest (10 * acc + d) true
      | none => none

def readInteger (s : String) : Option Int :=
  match stripChars s.toList with
  | '-' :: rest => (readDigits rest 0 false).map fun n => -(n : Int)
  | '+' :: rest => (readDigits rest 0 false).map fun n => (n : Int)
  | cs => (readDigits cs 0 false).map fun n => (n : Int)

example : readInteger " 4 " = some 4 ∧ readInteger "1_0" = some 10 ∧ readInteger "٣" = some 3 ∧
    readInteger "4.5" = none ∧ readInteger "-2" = some (-2) ∧ readInteger "1__0" = none := by decide

end RoadWeather.Text
