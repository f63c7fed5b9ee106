import RoadWeather.Proofs.Keeps

/-! # The log is only written -/

namespace RoadWeather

namespace Act

variable {σ τ α β γ : Type}

def outcome : EStateM.Result Fault (Scene σ) α → Except Fault α × σ
  | .ok x s => (.ok x, s.this)
  | .error e s => (.error e, s.this)

/-- An action whose answer and object do not depend on the log it starts from. -/
def Blind (a : Act σ α) : Prop :=
  ∀ (log log' : Array Record) (x : σ),
    outcome (EStateM.run a ⟨log, x⟩) = outcome (EStateM.run a ⟨log', x⟩)

theorem Blind.run_ok {a : Act σ α} (ha : Blind a) {log : Array Record} {x : σ} {v : α}
    {s : Scene σ} (h : EStateM.run a ⟨log, x⟩ = .ok v s) (log' : Array Record) :
    ∃ l, EStateM.run a ⟨log', x⟩ = .ok v ⟨l, s.this⟩ := by
  have hsame := ha log log' x
  rw [h] at hsame
  cases h' : EStateM.run a ⟨log', x⟩ with
  | ok v' s' =>
    rw [h'] at hsame
    obtain ⟨hv, hs⟩ := Prod.mk.inj hsame
    cases hv
    exact ⟨s'.log, by rw [hs]⟩
  | error e s' =>
    rw [h'] at hsame
    cases (Prod.mk.inj hsame).1

theorem Blind.run_error {a : Act σ α} (ha : Blind a) {log : Array Record} {x : σ} {e : Fault}
    {s : Scene σ} (h : EStateM.run a ⟨log, x⟩ = .error e s) (log' : Array Record) :
    ∃ l, EStateM.run a ⟨log', x⟩ = .error e ⟨l, s.this⟩ := by
  have hsame := ha log log' x
  rw [h] at hsame
  cases h' : EStateM.run a ⟨log', x⟩ with
  | ok v' s' =>
    rw [h'] at hsame
    cases (Prod.mk.inj hsame).1
  | error e' s' =>
    rw [h'] at hsame
    obtain ⟨he, hs⟩ := Prod.mk.inj hsame
    cases he
    exact ⟨s'.log, by rw [hs]⟩

theorem Blind.run_attempt {a : Act σ α} (ha : Blind a) (log : Array Record) (x : σ) :
    ∃ l, EStateM.run (attempt a) ⟨log, x⟩ =
      .ok (outcome (EStateM.run a ⟨#[], x⟩)).1 ⟨l, (outcome (EStateM.run a ⟨#[], x⟩)).2⟩ := by
  cases h : EStateM.run a ⟨#[], x⟩ with
  | ok v s =>
    obtain ⟨l, h'⟩ := ha.run_ok h log
    exact ⟨l, run_attempt_ok h'⟩
  | error e s =>
    obtain ⟨l, h'⟩ := ha.run_error h log
    exact ⟨l, run_attempt_error h'⟩

theorem exists_ok_of_outcome {r : EStateM.Result Fault (Scene σ) α} (h : (outcome r).1.isOk = true) :
    ∃ x s, r = .ok x s := by
  cases r with
  | ok x s => exact ⟨x, s, rfl⟩
  | error e s => cases h

theorem exists_run_of_outcome {r : EStateM.Result Fault (Scene σ) α} {x : α}
    (h : (outcome r).1 = .ok x) : ∃ s, r = .ok x s := by
  cases r with
  | ok y s => cases h; exact ⟨s, rfl⟩
  | error e s => cases h

/-! ## Building blind actions -/

theorem blind_of_outcome {a : Act σ α} (F : σ → Except Fault α × σ)
    (h : ∀ s, outcome (EStateM.run a s) = F s.this) : Blind a :=
  fun log log' x => (h ⟨log, x⟩).trans (h ⟨log', x⟩).symm

theorem blind_pure (x : α) : Blind (pure x : Act σ α) :=
  blind_of_outcome (fun y => (.ok x, y)) fun _ => rfl

theorem blind_self : Blind (Act.self : Act σ σ) := blind_of_outcome (fun y => (.ok y, y)) fun _ => rfl

theorem blind_change (f : σ → σ) : Blind (Act.change f) :=
  blind_of_outcome (fun y => (.ok (), f y)) fun _ => rfl

theorem blind_note (l : Level) (o : Origin) (m : String) : Blind (Act.note l o m : Act σ Unit) :=
  blind_of_outcome (fun y => (.ok (), y)) fun _ => rfl

theorem blind_throw (e : Fault) : Blind (throw e : Act σ α) :=
  blind_of_outcome (fun y => (.error e, y)) fun _ => rfl

theorem blind_fail (k : FaultKind) (m : String) : Blind (Act.fail k m : Act σ α) := blind_throw _

theorem blind_bind {a : Act σ α} {f : α → Act σ β} (ha : Blind a) (hf : ∀ x, Blind (f x)) :
    Blind (a >>= f) := fun log log' x => by
  cases h : EStateM.run a ⟨log, x⟩ with
  | ok v s =>
    obtain ⟨l, h'⟩ := ha.run_ok h log'
    rw [run_bind_ok h, run_bind_ok h']
    exact hf v s.log l s.this
  | error e s =>
    obtain ⟨l, h'⟩ := ha.run_error h log'
    rw [run_bind_error h, run_bind_error h']
    rfl

theorem blind_attempt {a : Act σ α} (ha : Blind a) : Blind (Act.attempt a) := fun log log' x => by
  cases h : EStateM.run a ⟨log, x⟩ with
  | ok v s =>
    obtain ⟨l, h'⟩ := ha.run_ok h log'
    rw [run_attempt_ok h, run_attempt_ok h']
    rfl
  | error e s =>
    obtain ⟨l, h'⟩ := ha.run_error h log'
    rw [run_attempt_error h, run_attempt_error h']
    rfl

theorem blind_focus {get : σ → τ} {set : σ → τ → σ} {a : Act τ α} (ha : Blind a) :
    Blind (Act.focus get set a) := fun log log' x => by
  rw [run_focus, run_focus]
  cases h : EStateM.run a ⟨log, get x⟩ with
  | ok v s =>
    obtain ⟨l, h'⟩ := ha.run_ok h log'
    rw [h']
    rfl
  | error e s =>
    obtain ⟨l, h'⟩ := ha.run_error h log'
    rw [h']
    rfl

theorem blind_ite {c : Prop} [Decidable c] {a b : Act σ α} (ha : Blind a) (hb : Blind b) :
    Blind (if c then a else b) := by
  split
  · exact ha
  · exact hb

theorem blind_forIn (l : List β) (init : γ) {f : β → γ → Act σ (ForInStep γ)}
    (hf : ∀ x b, Blind (f x b)) : Blind (forIn l init f) := by
  induction l generalizing init with
  | nil => exact blind_pure _
  | cons x rest ih =>
    rw [List.forIn_cons]
    refine blind_bind (hf x init) fun step => ?_
    cases step with
    | done b => exact blind_pure _
    | yield b => exact ih b

theorem blind_focus_add (get : σ → Problems) (set : σ → Problems → σ) (msg : Value) (n : Notice) :
    Blind (Act.focus get set (Problems.add msg n)) :=
  blind_of_outcome (fun y => (.ok (), set y ((get y).record msg))) fun s => by
    obtain ⟨log, h⟩ := run_focus_add get set msg n s
    rw [h]
    rfl

end Act

open RoadWeather.Act

/-! ## Making a block -/

namespace Block

theorem blind_report (msg : String) (n : Notice) : Blind (report msg n) := blind_focus_add _ _ _ _

theorem blind_identOf (v : Value) : Blind (identOf v) := by
  unfold identOf
  split
  · exact blind_pure _
  · exact blind_throw _

theorem blind_splittable (v : Value) : Blind (splittable v) := by
  cases v
  case text => exact blind_pure _
  all_goals exact blind_fail _ _

theorem blind_guard {msg : String} {step : Act Block Unit} (h : Blind step) :
    Blind (guard msg step) := by
  unfold guard
  refine blind_bind (blind_attempt h) fun r => ?_
  split
  · exact blind_pure _
  · exact blind_report _ _

theorem blind_readReference (site? : Option String) (aliasName : Value) :
    Blind (readReference site? aliasName) := by
  unfold readReference ident
  dsimp only
  -- each step looks up an identifier, which may fail, or sets a field
  repeat' first
    | with_reducible exact blind_pure _
    | with_reducible exact blind_self
    | with_reducible exact blind_identOf _
    | with_reducible exact blind_change _
    | with_reducible refine blind_bind ?_ fun _ => ?_
    | split

theorem blind_readTest (parts : List String) (op : String) : Blind (readTest parts op) := by
  unfold readTest ident
  dsimp only
  repeat' first
    | with_reducible exact blind_pure _
    | with_reducible exact blind_throw _
    | with_reducible exact blind_identOf _
    | with_reducible exact blind_change _
    | with_reducible refine blind_bind ?_ fun _ => ?_
    | split

theorem blind_unpack : Blind unpack := by
  unfold unpack unpackTest checkListValue reportWhen
  dsimp only
  repeat' first
    | with_reducible exact blind_pure _
    | with_reducible exact blind_self
    | with_reducible exact blind_fail _ _
    | with_reducible exact blind_change _
    | with_reducible exact blind_splittable _
    | with_reducible exact blind_report _ _
    | with_reducible exact blind_guard (blind_readReference _ _)
    | with_reducible exact blind_guard (blind_readTest _ _)
    | with_reducible refine blind_bind ?_ fun _ => ?_
    | split

theorem blind_make (masterAlias parentSite orderNr raw : Value) :
    Blind (make masterAlias parentSite orderNr raw) := by
  unfold make
  repeat' first
    | with_reducible exact blind_pure _
    | with_reducible exact blind_throw _
    | with_reducible exact blind_fail _ _
    | with_reducible exact blind_focus (blind_bind blind_unpack fun _ => blind_self)
    | with_reducible refine blind_bind ?_ fun _ => ?_
    | split

end Block

/-! ## Making a condition -/

namespace Condition

theorem blind_report (msg : String) (n : Notice) : Blind (report msg n) := blind_focus_add _ _ _ _

theorem blind_makeParts (ts : List String) : ∀ (acc : List Part) (ok : Bool),
    Blind (makeParts ts acc ok) := by
  induction ts with
  | nil => exact fun _ _ => blind_pure _
  | cons p rest ih =>
    intro acc ok
    rw [makeParts.eq_2]
    split
    · exact ih _ _
    · refine blind_bind blind_self fun c => blind_bind
        (blind_focus (blind_attempt (Block.blind_make _ _ _ _))) fun made => ?_
      -- a block made is kept or merged with one of the same text; one not made is reported
      split
      · split
        · exact ih _ _
        · exact blind_bind (blind_change _) fun _ => ih _ _
      · exact blind_bind (blind_report _ _) fun _ => ih _ _

theorem blind_reportAll (msgs : List String) : Blind (reportAll msgs) := by
  unfold reportAll
  exact blind_bind (blind_forIn _ _ fun _ _ => blind_bind (blind_report _ _) fun _ => blind_pure _)
    fun _ => blind_pure _

theorem blind_settle (parts : List Part) (ok : Bool) : Blind (settle parts ok) := by
  unfold settle
  refine blind_bind (blind_change _) fun _ => blind_ite ?_ (blind_report _ _)
  exact blind_bind blind_self fun _ => blind_note _ _ _

theorem blind_checkCounts : Blind checkCounts := by
  unfold checkCounts
  dsimp only
  repeat' first
    | with_reducible exact blind_pure _
    | with_reducible exact blind_self
    | with_reducible exact blind_report _ _
    | with_reducible refine blind_bind ?_ fun _ => ?_
    | split

theorem blind_readTokens (ts : List String) : Blind (readTokens ts) := by
  unfold readTokens
  dsimp only
  repeat' first
    | with_reducible exact blind_pure _
    | with_reducible exact blind_self
    | with_reducible exact blind_checkCounts
    | with_reducible exact blind_makeParts _ _ _
    | with_reducible exact blind_reportAll _
    | with_reducible exact blind_settle _ _
    | with_reducible exact blind_report _ _
    | with_reducible refine blind_bind ?_ fun _ => ?_
    | split

theorem blind_makeBlocks : Blind makeBlocks :=
  blind_bind blind_self fun _ => blind_readTokens _

theorem blind_make (site masterAlias raw timeFrom timeUntil excelRow : Value) :
    Blind (make site masterAlias raw timeFrom timeUntil excelRow) := by
  unfold make
  dsimp only
  repeat' first
    | with_reducible exact blind_pure _
    | with_reducible exact blind_throw _
    | with_reducible exact blind_fail _ _
    | with_reducible exact blind_focus (blind_bind blind_makeBlocks fun _ => blind_self)
    | with_reducible refine blind_bind ?_ fun _ => ?_
    | split

end Condition

end RoadWeather
