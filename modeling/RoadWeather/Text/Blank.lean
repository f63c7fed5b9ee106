/-! # Blank characters, stripping and splitting -/

namespace RoadWeather.Text

def isBlank (c : Char) : Bool :=
  let n := c.toNat
  (9 ≤ n && n ≤ 13) || (28 ≤ n && n ≤ 32) || n = 133 || n = 160 || n = 5760 ||
    (8192 ≤ n && n ≤ 8202) || n = 8232 || n = 8233 || n = 8239 || n = 8287 || n = 12288

def stripChars (cs : List Char) : List Char :=
  ((cs.dropWhile isBlank).reverse.dropWhile isBlank).reverse

def strip (s : String) : String := String.ofList (stripChars s.toList)

def wordsAux : List Char → List Char → List (List Char)
  | [], cur => if cur.isEmpty then [] else [cur.reverse]
  | c :: rest, cur =>
    if isBlank c then (if cur.isEmpty then wordsAux rest [] else cur.reverse :: wordsAux rest [])
    else wordsAux rest (c :: cur)

def words (s : String) : List String := (wordsAux s.toList []).map String.ofList

example : words "  a b\tc  " = ["a", "b", "c"] := by decide
example : strip "  x y \n" = "x y" := by decide

end RoadWeather.Text
