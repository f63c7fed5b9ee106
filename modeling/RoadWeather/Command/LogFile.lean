import RoadWeather.Journal

/-! # The log file of a batch run -/

namespace RoadWeather

def Origin.module : Origin → String
  | .batch => "tsabatch"
  | .analysis => "analysis_collection"
  | .collection => "cond_collection"
  | .condition => "condition"
  | .block => "block"
  | .problems => "error"
  | .text => "utils"

def Level.rank : Level → Nat
  | .debug => 10
  | .info => 20
  | .warning => 30
  | .error => 40
  | .critical => 50

def Level.ofWord : String → Level
  | "error" => .error
  | "warning" => .warning
  | "debug" => .debug
  | _ => .info

def readNewlines : List Char → List Char
  | [] => []
  | '\r' :: '\n' :: rest => '\n' :: readNewlines rest
  | '\r' :: rest => '\n' :: readNewlines rest
  | c :: rest => c :: readNewlines rest

def readBack (m : String) : String :=
  String.ofList ((readNewlines m.toList).reverse.dropWhile (· = '\n')).reverse

/-- A record as read back from the log file. -/
structure FileRecord where
  level : Level
  module : String
  message : String
  deriving DecidableEq, Repr, Inhabited

def fileRecords (threshold : Level) (log : List Record) : List FileRecord :=
  (log.filter fun r => threshold.rank ≤ r.level.rank).map fun r =>
    ⟨r.level, r.origin.module, readBack r.message⟩

theorem readNewlines_no_return (cs : List Char) : '\r' ∉ readNewlines cs := by
  induction cs using readNewlines.induct <;> simp_all [readNewlines, eq_comm]

end RoadWeather
