import RoadWeather.Condition.Basic
import Mathlib

/-! # One step of an action -/

namespace RoadWeather

namespace Act

variable {σ τ α : Type}

@[simp] theorem run_self (s : Scene σ) : EStateM.run (Act.self : Act σ σ) s = .ok s.this s := rfl

@[simp] theorem run_change (f : σ → σ) (s : Scene σ) :
    EStateM.run (Act.change f) s = .ok () ⟨s.log, f s.this⟩ := rfl

@[simp] theorem run_put (x : σ) (s : Scene σ) :
    EStateM.run (Act.put x) s = .ok () ⟨s.log, x⟩ := rfl

@[simp] theorem run_note (l : Level) (o : Origin) (m : String) (s : Scene σ) :
    EStateM.run (Act.note l o m : Act σ Unit) s = .ok () ⟨s.log.push ⟨l, o, m⟩, s.this⟩ := rfl

@[simp] theorem run_fail (k : FaultKind) (m : String) (s : Scene σ) :
    EStateM.run (Act.fail k m : Act σ α) s = .error ⟨k, m⟩ s := rfl

@[simp] theorem run_pure (a : α) (s : Scene σ) : EStateM.run (pure a : Act σ α) s = .ok a s := rfl

@[simp] theorem run_throw (e : Fault) (s : Scene σ) :
    EStateM.run (throw e : Act σ α) s = .error e s := rfl

@[simp] theorem run_map {β : Type} (f : α → β) (a : Act σ α) (s : Scene σ) :
    EStateM.run (f <$> a) s = match EStateM.run a s with
      | .ok x s' => .ok (f x) s'
      | .error e s' => .error e s' := by
  simp only [EStateM.run, Functor.map, EStateM.map]
  cases a s <;> rfl

@[simp] theorem run_focus (get : σ → τ) (set : σ → τ → σ) (a : Act τ α) (s : Scene σ) :
    EStateM.run (Act.focus get set a) s = match EStateM.run a ⟨s.log, get s.this⟩ with
      | .ok x s' => .ok x ⟨s'.log, set s.this s'.this⟩
      | .error e s' => .error e ⟨s'.log, set s.this s'.this⟩ := rfl

@[simp] theorem run_attempt (a : Act σ α) (s : Scene σ) :
    EStateM.run (Act.attempt a) s = match EStateM.run a s with
      | .ok x s' => .ok (.ok x) s'
      | .error e s' => .ok (.error e) s' := rfl

/-! A run is also followed step by step, each step rewritten by what it finishes with, so that
no `match` on the result of a step is left for `simp` to reduce. Rewriting whole `do` blocks
with `simp` instead leaves proofs that take minutes to check. -/

theorem run_bind_ok {β : Type} {x : Act σ α} {f : α → Act σ β} {s s' : Scene σ} {a : α}
    (h : EStateM.run x s = .ok a s') : EStateM.run (x >>= f) s = EStateM.run (f a) s' := by
  rw [EStateM.run_bind, h]

theorem run_bind_error {β : Type} {x : Act σ α} {f : α → Act σ β} {s s' : Scene σ} {e : Fault}
    (h : EStateM.run x s = .error e s') : EStateM.run (x >>= f) s = .error e s' := by
  rw [EStateM.run_bind, h]

theorem run_attempt_ok {a : Act σ α} {s s' : Scene σ} {x : α}
    (h : EStateM.run a s = .ok x s') : EStateM.run (attempt a) s = .ok (.ok x) s' := by
  rw [run_attempt, h]

theorem run_attempt_error {a : Act σ α} {s s' : Scene σ} {e : Fault}
    (h : EStateM.run a s = .error e s') : EStateM.run (attempt a) s = .ok (.error e) s' := by
  rw [run_attempt, h]

/-- A run whose answer is computed to satisfy `p` answers with some value that does. -/
theorem exists_ok_of_run {a : Act σ α} {x : σ} {log : Array Record} {p : α → Prop} [DecidablePred p]
    (h : ((Act.run a x log).1.toOption.map fun y => decide (p y)) = some true) :
    ∃ y, (Act.run a x log).1 = .ok y ∧ p y := by
  cases hrun : (Act.run a x log).1 with
  | error f => simp [hrun, Except.toOption] at h
  | ok y => exact ⟨y, rfl, by simpa [hrun, Except.toOption] using h⟩

end Act

theorem Problems.run_add (msg : Value) (n : Notice) (s : Scene Problems) :
    ∃ log, EStateM.run (Problems.add msg n) s = .ok () ⟨log, s.this.record msg⟩ := by
  unfold Problems.add
  cases Problems.levelOf n <;> simp

theorem Act.run_focus_add {σ : Type} (get : σ → Problems) (set : σ → Problems → σ) (msg : Value)
    (n : Notice) (s : Scene σ) :
    ∃ log, EStateM.run (Act.focus get set (Problems.add msg n)) s =
      .ok () ⟨log, set s.this ((get s.this).record msg)⟩ := by
  obtain ⟨log, h⟩ := Problems.run_add msg n ⟨s.log, get s.this⟩
  exact ⟨log, by rw [Act.run_focus, h]⟩

theorem Condition.run_report (msg : String) (n : Notice) (s : Scene Condition) :
    ∃ log, EStateM.run (Condition.report msg n) s =
      .ok () ⟨log, { s.this with problems := s.this.problems.record (.text msg) }⟩ :=
  Act.run_focus_add _ _ _ _ _

theorem Block.run_report (msg : String) (n : Notice) (s : Scene Block) :
    ∃ log, EStateM.run (Block.report msg n) s =
      .ok () ⟨log, { s.this with problems := s.this.problems.record (.text msg) }⟩ :=
  Act.run_focus_add _ _ _ _ _

end RoadWeather
