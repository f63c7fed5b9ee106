import RoadWeather.Condition.Basic

/-! # Collections of conditions

A collection is a titled set of conditions that share one analysis period. -/

namespace RoadWeather

open RoadWeather.Time

/-- A collection of conditions. -/
structure Collection where
  title : Value
  timeFrom : Instant
  timeUntil : Instant
  createdAt : Instant
  conditions : List Condition := []
  hasMainView : Bool := false
  problems : Problems
  deriving Inhabited

namespace Collection

def text (c : Collection) : String :=
  "<CondCollection " ++ c.title.plain ++ " with " ++ toString c.conditions.length ++ " conditions>"

def make (timeFrom timeUntil title : Value) (createdAt : Instant) : Except Fault Collection :=
  match timeFrom, timeUntil with
  | .time a, .time b =>
    if a ≤ b then
      .ok {
        title := title
        timeFrom := a.atClock 0 0 0
        timeUntil := b.atClock 23 59 59
        createdAt := createdAt
        problems := { context := "COLLECTION <" ++ title.plain ++ ">" } }
    else .error ⟨.assertion, ""⟩
  | _, _ => .error ⟨.assertion, ""⟩

def report (msg : String) (notice : Notice) : Act Collection Unit :=
  Act.focus (·.problems) (fun c p => { c with problems := p }) (Problems.add (.text msg) notice)

def onCondition (i : Nat) (a : Act Condition α) : Act Collection α :=
  Act.focus (fun c => c.conditions.getD i default)
    (fun c x => { c with conditions := c.conditions.set i x }) a

def add (site masterAlias raw excelRow : Value) : Act Collection Unit := do
  let c ← Act.self
  let made ← Act.focus (fun _ => ()) (fun c _ => c) (Act.attempt
    (Condition.make site masterAlias raw (.time c.timeFrom) (.time c.timeUntil) excelRow))
  match made with
  | .error _ =>
    report ("Could not build Condition, skipping (Excel row " ++ excelRow.plain ++ ")") .error
  | .ok cond =>
    if c.conditions.any (·.idString == cond.idString) then
      report ("Condition identifier \"" ++ cond.idString ++
        "\" is already reserved, skipping (Excel row " ++ excelRow.plain ++ ")") .warning
    else Act.change fun c => { c with conditions := c.conditions ++ [cond] }

def everyCondition (a : Act Condition Unit) : Act Collection Unit := do
  let n := (← Act.self).conditions.length
  for i in List.range n do onCondition i a

def setSensorIds (pairs : Except Fault (List (Value × Value))) : Act Collection Unit :=
  everyCondition (Condition.setSensorIds pairs)

def condition? (c : Collection) (key : String) : Option Condition :=
  c.conditions.find? (·.idString == key)

theorem make_ordered (timeFrom timeUntil title : Value) (createdAt : Instant) (c : Collection)
    (h : make timeFrom timeUntil title createdAt = .ok c) :
    ∃ a b, timeFrom = .time a ∧ timeUntil = .time b ∧ a ≤ b := by
  unfold make at h
  split at h
  · split at h
    · exact ⟨_, _, rfl, rfl, by assumption⟩
    · cases h
  · cases h

end Collection

end RoadWeather
