import RoadWeather.Time.Span
import RoadWeather.Text.Template

/-! # Durations in templates -/

namespace RoadWeather.Time

namespace Span

def dayLimit : Int := 999999999

def fields (d : Span) : List (String × Int) :=
  let s := d.seconds
  [("days", d.days), ("hours", ((s / 3600 : Nat) : Int)), ("minutes", ((s % 3600 / 60 : Nat) : Int)),
    ("seconds", ((s % 60 : Nat) : Int))]

def ofPartsChecked (days seconds micros : Int) : Except Fault Span :=
  let d := ofParts days seconds micros
  if d.days.natAbs > dayLimit.toNat then
    .error ⟨.overflow, "days=" ++ toString d.days ++ "; must have magnitude <= 999999999"⟩
  else .ok d

def fillIn (d : Span) (template : String) : Except Fault String :=
  Text.Template.fill template d.fields

theorem fields_hours_lt (d : Span) : ∃ h, ("hours", h) ∈ d.fields ∧ h < 24 := by
  refine ⟨((d.seconds / 3600 : Nat) : Int), by simp [fields], ?_⟩
  have : d.seconds < 86400 := by
    unfold seconds
    omega
  omega

end Span

end RoadWeather.Time
