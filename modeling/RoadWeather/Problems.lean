import RoadWeather.Journal
import RoadWeather.Value.Text

/-! # Problem lists

Objects keep the problems found in them instead of stopping; a list keeps its first problem and
counts the rest. -/

namespace RoadWeather

/-- How loudly an added problem is logged. -/
inductive Notice where
  | silent | warning | error | critical
  deriving DecidableEq, Repr, Inhabited

def Notice.ofWord : Value → Notice
  | .text "" => .silent
  | .text "warning" => .warning
  | .text "fatal" => .critical
  | _ => .error

/-- One kept problem and the number of problems added after it. -/
structure Entry where
  message : Value
  more : Nat := 0
  deriving Inhabited

/-- The problems of one object. -/
structure Problems where
  context : String
  entries : List Entry := []
  deriving Inhabited

namespace Problems

def entryText (context : String) (e : Entry) : String :=
  context ++ ": " ++ e.message.plain ++
    (if e.more > 0 then " (" ++ toString e.more ++ " more similar errors)" else "")

def texts (p : Problems) : List String := p.entries.map (entryText p.context)

def size (p : Problems) : Nat := p.entries.length

def isEmpty (p : Problems) : Bool := p.entries.isEmpty

def record (p : Problems) (msg : Value) : Problems :=
  match p.entries with
  | [] => { p with entries := [{ message := msg }] }
  | e :: rest => { p with entries := { e with more := e.more + 1 } :: rest }

def levelOf : Notice → Option Level
  | .silent => none
  | .warning => some .warning
  | .error => some .error
  | .critical => some .critical

def add (msg : Value) (notice : Notice) : Act Problems Unit := do
  let p ← Act.self
  match levelOf notice with
  | some level => Act.note level .problems (p.context ++ ": " ++ msg.plain)
  | none => pure ()
  Act.put (p.record msg)

def joined (p : Problems) : Except Fault String :=
  let rec go : List Entry → Nat → Except Fault (List String)
    | [], _ => .ok []
    | e :: es, i =>
      match e.message with
      | .text s => do return s :: (← go es (i + 1))
      | v => .error ⟨.wrongKind, "sequence item " ++ toString i ++ ": expected str instance, " ++
          v.kindName ++ " found"⟩
  (go p.entries 0).map ("; ".intercalate ·)

def summary (p : Problems) : String := "<TsaErrCollection> with " ++ toString p.size ++ " errors"

theorem size_record_le (p : Problems) (msg : Value) (h : p.size ≤ 1) : (p.record msg).size ≤ 1 := by
  unfold record size at *
  split <;> simp_all

end Problems

end RoadWeather
