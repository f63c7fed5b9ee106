import RoadWeather.Fault

/-! # Logs and actions

Operations write log records as they go and may fail part way. -/

namespace RoadWeather

/-- Severity of a log record. -/
inductive Level where
  | debug | info | warning | error | critical
  deriving DecidableEq, Repr, Inhabited

def Level.label : Level → String
  | .debug => "DEBUG"
  | .info => "INFO"
  | .warning => "WARNING"
  | .error => "ERROR"
  | .critical => "CRITICAL"

/-- The part of the program that wrote a record. -/
inductive Origin where
  | batch | analysis | collection | condition | block | problems | text
  deriving DecidableEq, Repr, Inhabited

/-- One log record. -/
structure Record where
  level : Level
  origin : Origin
  message : String
  deriving DecidableEq, Repr, Inhabited

/-- The log so far and the object an action works on. -/
structure Scene (σ : Type) where
  log : Array Record
  this : σ

abbrev Act (σ α : Type) := EStateM Fault (Scene σ) α

namespace Act

def note (level : Level) (origin : Origin) (message : String) : Act σ Unit :=
  modify fun s => { s with log := s.log.push ⟨level, origin, message⟩ }

def fail (kind : FaultKind) (message : String) : Act σ α :=
  throw ⟨kind, message⟩

def self : Act σ σ := do return (← get).this

def put (x : σ) : Act σ Unit := modify fun s => { s with this := x }

def change (f : σ → σ) : Act σ Unit := modify fun s => { s with this := f s.this }

def focus (get : σ → τ) (set : σ → τ → σ) (a : Act τ α) : Act σ α := fun s =>
  match a ⟨s.log, get s.this⟩ with
  | .ok x s' => .ok x ⟨s'.log, set s.this s'.this⟩
  | .error e s' => .error e ⟨s'.log, set s.this s'.this⟩

def attempt (a : Act σ α) : Act σ (Except Fault α) := fun s =>
  match a s with
  | .ok x s' => .ok (.ok x) s'
  | .error e s' => .ok (.error e) s'

def run (a : Act σ α) (x : σ) (log : Array Record) : Except Fault α × σ × Array Record :=
  match a ⟨log, x⟩ with
  | .ok r s => (.ok r, s.this, s.log)
  | .error e s => (.error e, s.this, s.log)

end Act

end RoadWeather
