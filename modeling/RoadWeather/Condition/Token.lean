import RoadWeather.Text.Blank
import RoadWeather.Text.Pieces

/-! # Pieces of a condition

A formula is cut into pieces at parentheses and connectives before blocks are made of them. -/

namespace RoadWeather.Condition

open RoadWeather.Text

def blankBefore (prev : Option Char) : Bool :=
  match prev with
  | some c => isBlank c
  | none => false

def sepAt : Option Char → List Char → Option (List Char × List Char)
  | _, '(' :: rest => some (['('], rest)
  | _, ')' :: rest => some ([')'], rest)
  | prev, 'a' :: 'n' :: 'd' :: rest@(c :: _) =>
    if blankBefore prev && isBlank c then some (['a', 'n', 'd'], rest) else none
  | prev, 'o' :: 'r' :: rest@(c :: _) =>
    if blankBefore prev && isBlank c then some (['o', 'r'], rest) else none
  | prev, 'n' :: 'o' :: 't' :: rest@(c :: _) =>
    if (blankBefore prev || prev.isNone) && isBlank c then some (['n', 'o', 't'], rest) else none
  | _, _ => none

def cutFrom : Nat → Option Char → List Char → List Char → List (List Char)
  | _, _, [], cur => [cur.reverse]
  | skip + 1, _, c :: rest, cur => cutFrom skip (some c) rest cur
  | 0, prev, c :: rest, cur =>
    match sepAt prev (c :: rest) with
    | some (w, _) => cur.reverse :: w :: cutFrom (w.length - 1) (some c) rest []
    | none => cutFrom 0 (some c) rest (c :: cur)

def cutPieces (prev : Option Char) (x cur : List Char) : List (List Char) := cutFrom 0 prev x cur

def squeeze (s : String) : String := " ".intercalate (words s)

def pieces (s : String) : List String :=
  ((cutPieces none (squeeze s).toList []).map fun p => String.ofList (stripChars p)).filter
    (!·.isEmpty)

def mergeStep (acc : List String) (p : String) : List String :=
  match acc with
  | [] => [p]
  | last :: before =>
    if last.length > 3 && last.endsWith " in" then (last ++ " " ++ p) :: before
    else if occursIn " in " last && !last.endsWith ")" then (last ++ p) :: before
    else p :: last :: before

def mergeLists (ps : List String) : List String :=
  (ps.foldl mergeStep []).reverse

def tokens (f : String) : List String := mergeLists (pieces f)

end RoadWeather.Condition
