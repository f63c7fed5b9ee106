/-! # Finding and cutting at a separator -/

namespace RoadWeather.Text

def startsWith : List Char → List Char → Bool
  | _, [] => true
  | [], _ :: _ => false
  | c :: cs, q :: ps => c == q && startsWith cs ps

def cutAux (sep : List Char) : Nat → List Char → List Char → List (List Char)
  | 0, cs, cur => [cur.reverse ++ cs]
  | _ + 1, [], cur => [cur.reverse]
  | fuel + 1, c :: cs, cur =>
    if startsWith (c :: cs) sep then cur.reverse :: cutAux sep fuel ((c :: cs).drop sep.length) []
    else cutAux sep fuel cs (c :: cur)

def cut (s sep : String) : List String :=
  if sep.isEmpty then [s]
  else (cutAux sep.toList (s.length + 1) s.toList []).map String.ofList

def occurrences (s sep : String) : Nat := (cut s sep).length - 1

def occursIn (sep s : String) : Bool := occurrences s sep > 0

def replaceAll (s sep r : String) : String := r.intercalate (cut s sep)

example : cut "a#b#c" "#" = ["a", "b", "c"] ∧ occurrences "a = = b" " = " = 1 := by decide

end RoadWeather.Text
