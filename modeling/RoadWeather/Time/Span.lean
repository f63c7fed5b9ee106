/-! # Durations -/

namespace RoadWeather.Time

/-- A signed duration in microseconds. -/
structure Span where
  micros : Int
  deriving DecidableEq, Repr, Inhabited

namespace Span

def microsPerSecond : Int := 1000000
def microsPerDay : Int := 86400 * 1000000

def zero : Span := ⟨0⟩

instance : Add Span := ⟨fun a b => ⟨a.micros + b.micros⟩⟩
instance : Sub Span := ⟨fun a b => ⟨a.micros - b.micros⟩⟩
instance : Neg Span := ⟨fun a => ⟨-a.micros⟩⟩
instance : LT Span := ⟨fun a b => a.micros < b.micros⟩
instance : LE Span := ⟨fun a b => a.micros ≤ b.micros⟩
instance (a b : Span) : Decidable (a < b) := inferInstanceAs (Decidable (a.micros < b.micros))
instance (a b : Span) : Decidable (a ≤ b) := inferInstanceAs (Decidable (a.micros ≤ b.micros))

def days (d : Span) : Int := d.micros / 86400000000

def seconds (d : Span) : Nat := (d.micros % 86400000000 / 1000000).toNat

def microseconds (d : Span) : Nat := (d.micros % 1000000).toNat

def ofParts (days seconds micros : Int) : Span :=
  ⟨days * microsPerDay + seconds * microsPerSecond + micros⟩

theorem ofParts_normal (d : Span) : ofParts d.days d.seconds d.microseconds = d := by
  unfold ofParts days seconds microseconds microsPerDay microsPerSecond
  congr 1
  omega

def pad2 (n : Nat) : String := if n < 10 then "0" ++ toString n else toString n

def pad6 (n : Nat) : String :=
  let s := toString n
  String.ofList (List.replicate (6 - s.length) '0') ++ s

def text (d : Span) : String :=
  let s := d.seconds
  let clock := toString (s / 3600) ++ ":" ++ pad2 (s / 60 % 60) ++ ":" ++ pad2 (s % 60)
  let dayPart :=
    if d.days = 0 then ""
    else toString d.days ++ " day" ++ (if d.days.natAbs = 1 then "" else "s") ++ ", "
  let frac := if d.microseconds = 0 then "" else "." ++ pad6 d.microseconds
  dayPart ++ clock ++ frac

example : (ofParts 0 0 (-1)).days = -1 ∧ (ofParts 0 0 (-1)).seconds = 86399 := by decide
example : (ofParts 58 86399 0).text = "58 days, 23:59:59" := by decide

end Span

end RoadWeather.Time
