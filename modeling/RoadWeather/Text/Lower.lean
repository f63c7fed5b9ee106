import RoadWeather.Text.LowerTables

/-! # Lowercasing text

Full lowercasing as Unicode 14.0 defines it for text without a language. -/

namespace RoadWeather.Text

def findRun (runs : Array (Nat × Nat × Nat × Int)) (c : Nat) :
    Nat → Nat → Nat → Option (Nat × Nat × Nat × Int)
  | 0, _, _ => none
  | fuel + 1, lo, hi =>
    if lo < hi then
      match runs[(lo + hi) / 2]? with
      | none => none
      | some (a, b, step, shift) =>
        if c < a then findRun runs c fuel lo ((lo + hi) / 2)
        else if b < c then findRun runs c fuel ((lo + hi) / 2 + 1) hi
        else some (a, b, step, shift)
    else none

def lowerOne (c : Char) : Char :=
  if c.toNat < 128 then c.toLower
  else
    match findRun lowerRuns c.toNat 64 0 lowerRuns.size with
    | some (a, _, step, shift) =>
      if (c.toNat - a) % step = 0 then Char.ofNat ((c.toNat : Int) + shift).toNat else c
    | none => c

def isCaseIgnorable (c : Char) : Bool := caseIgnorableRanges.contains c.toNat

def isCased (c : Char) : Bool := casedRanges.contains c.toNat

def endsWord (before after : List Char) : Bool :=
  (match before.dropWhile isCaseIgnorable with
    | c :: _ => isCased c
    | [] => false) &&
  (match after.dropWhile isCaseIgnorable with
    | c :: _ => !isCased c
    | [] => true)

def lowerChars : List Char → List Char → List Char
  | _, [] => []
  | before, c :: rest =>
    let here :=
      if c = 'İ' then ['i', '̇']
      else if c = 'Σ' then [if endsWord before rest then 'ς' else 'σ']
      else [lowerOne c]
    here ++ lowerChars (c :: before) rest

def lower (s : String) : String := String.ofList (lowerChars [] s.toList)

end RoadWeather.Text
