/-! # The order of parts in a condition

Which part may follow which in a formula, and the problems reported where the order is broken. -/

namespace RoadWeather.Condition

/-- What a part of a condition is. -/
inductive Role where
  | openPar | closePar | andOr | negation | block
  deriving DecidableEq, Repr, Inhabited

def Role.canStart : Role → Bool
  | .openPar | .negation | .block => true
  | _ => false

def Role.canEnd : Role → Bool
  | .closePar | .block => true
  | _ => false

def Role.canFollow : Role → Role → Bool
  | .openPar, .openPar | .openPar, .negation | .openPar, .block => true
  | .closePar, .closePar | .closePar, .andOr => true
  | .andOr, .openPar | .andOr, .negation | .andOr, .block => true
  | .negation, .openPar | .negation, .block => true
  | .block, .closePar | .block, .andOr => true
  | _, _ => false

/-- The problems of a sequence of parts, each given by its role and text. The first part is
checked as a start, the last as an end (a single part only as a start), and every part but
the last together with the one after it. -/
def orderProblems (parts : List (Role × String)) : List String :=
  let n := parts.length
  let rec go : Nat → List (Role × String) → List String
    | _, [] => []
    | i, (r, t) :: rest =>
      let edge :=
        if i = 0 then (if r.canStart then [] else ["\"" ++ t ++ "\" cannot be first element in condition"])
        else if i + 1 = n then (if r.canEnd then [] else ["\"" ++ t ++ "\" cannot be last element in condition"])
        else []
      let pair := match rest with
        | (r', t') :: _ =>
          if r.canFollow r' then []
          else ["Illegal combination in condition: \"" ++ t ++ "\" before \"" ++ t' ++ "\" "]
        | [] => []
      edge ++ pair ++ go (i + 1) rest
  go 0 parts

end RoadWeather.Condition
