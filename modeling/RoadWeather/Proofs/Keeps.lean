import RoadWeather.Proofs.Steps

/-! # Actions that keep a relation -/

namespace RoadWeather

namespace Act

variable {σ τ α β γ : Type}

def lastObject : EStateM.Result Fault (Scene σ) α → σ
  | .ok _ s => s.this
  | .error _ s => s.this

@[simp] theorem lastObject_ok (x : α) (s : Scene σ) :
    lastObject (.ok x s : EStateM.Result Fault (Scene σ) α) = s.this := rfl

@[simp] theorem lastObject_error (e : Fault) (s : Scene σ) :
    lastObject (.error e s : EStateM.Result Fault (Scene σ) α) = s.this := rfl

/-- Every run of `a`, finished or failed, ends with an object related by `R` to the one it
started from. -/
def Keeps (R : σ → σ → Prop) (a : Act σ α) : Prop :=
  ∀ s, R s.this (lastObject (EStateM.run a s))

variable {R : σ → σ → Prop}

theorem keeps_true (a : Act σ α) : Keeps (fun _ _ => True) a := fun _ => trivial

theorem Keeps.mono {R' : σ → σ → Prop} {a : Act σ α} (h : Keeps R a)
    (hR : ∀ {x y}, R x y → R' x y) : Keeps R' a := fun s => hR (h s)

theorem keeps_change {f : σ → σ} (h : ∀ x, R x (f x)) : Keeps R (Act.change f) := fun s => h s.this

theorem keeps_self_bind {f : σ → Act σ β}
    (hf : ∀ s : Scene σ, R s.this (lastObject (EStateM.run (f s.this) s))) :
    Keeps R (Act.self >>= f) := fun s => by
  rw [EStateM.run_bind, Act.run_self]
  exact hf s

theorem keeps_attempt {a : Act σ α} (ha : Keeps R a) : Keeps R (Act.attempt a) := fun s => by
  have h := ha s
  unfold Act.attempt
  simp only [EStateM.run] at h ⊢
  cases hrun : a s with
  | ok x s₁ => rw [hrun] at h; exact h
  | error e s₁ => rw [hrun] at h; exact h

theorem keeps_ite {c : Prop} [Decidable c] {a b : Act σ α} (ha : Keeps R a) (hb : Keeps R b) :
    Keeps R (if c then a else b) := by
  split
  · exact ha
  · exact hb

section
variable [IsPreorder σ R]

theorem keeps_of_same {a : Act σ α} (h : ∀ s, lastObject (EStateM.run a s) = s.this) :
    Keeps R a := fun s => by
  rw [h s]
  exact refl_of R _

theorem keeps_pure (x : α) : Keeps R (pure x : Act σ α) := keeps_of_same fun _ => rfl

theorem keeps_self : Keeps R (Act.self : Act σ σ) := keeps_of_same fun _ => rfl

theorem keeps_note (l : Level) (o : Origin) (m : String) : Keeps R (Act.note l o m : Act σ Unit) :=
  keeps_of_same fun _ => rfl

theorem keeps_throw (e : Fault) : Keeps R (throw e : Act σ α) := keeps_of_same fun _ => rfl

theorem keeps_fail (k : FaultKind) (m : String) : Keeps R (Act.fail k m : Act σ α) :=
  keeps_throw _

theorem keeps_bind_of {a : Act σ α} {f : α → Act σ β} {Q : α → Prop} (ha : Keeps R a)
    (hQ : ∀ s x s', EStateM.run a s = .ok x s' → Q x) (hf : ∀ x, Q x → Keeps R (f x)) :
    Keeps R (a >>= f) := fun s => by
  have h₁ := ha s
  rw [EStateM.run_bind]
  cases hrun : EStateM.run a s with
  | ok x s₁ =>
    rw [hrun, lastObject_ok] at h₁
    exact trans_of R h₁ (hf x (hQ s x s₁ hrun) s₁)
  | error e s₁ =>
    rw [hrun, lastObject_error] at h₁
    exact h₁

theorem keeps_bind {a : Act σ α} {f : α → Act σ β} (ha : Keeps R a) (hf : ∀ x, Keeps R (f x)) :
    Keeps R (a >>= f) :=
  keeps_bind_of (Q := fun _ => True) ha (fun _ _ _ _ => trivial) fun x _ => hf x

theorem keeps_forIn (l : List β) (init : γ) {f : β → γ → Act σ (ForInStep γ)}
    (hf : ∀ x b, Keeps R (f x b)) : Keeps R (forIn l init f) := by
  induction l generalizing init with
  | nil => exact keeps_pure _
  | cons x rest ih =>
    rw [List.forIn_cons]
    refine keeps_bind (hf x init) fun step => ?_
    cases step with
    | done b => exact keeps_pure _
    | yield b => exact ih b

theorem keeps_forM (l : List β) {f : β → Act σ PUnit} (hf : ∀ x, Keeps R (f x)) :
    Keeps R (l.forM f) := by
  induction l with
  | nil => exact keeps_pure _
  | cons x rest ih =>
    simp only [List.forM_eq_forM, List.forM_cons]
    exact keeps_bind (hf x) fun _ => ih

end

theorem keeps_focus {S : τ → τ → Prop} {get : σ → τ} {set : σ → τ → σ}
    {a : Act τ α} (ha : Keeps S a) (hset : ∀ x t, S (get x) t → R x (set x t)) :
    Keeps R (Act.focus get set a) := fun s => by
  have h := ha ⟨s.log, get s.this⟩
  rw [Act.run_focus]
  cases hrun : EStateM.run a ⟨s.log, get s.this⟩ with
  | ok x s₁ => rw [hrun] at h; exact hset _ _ h
  | error e s₁ => rw [hrun] at h; exact hset _ _ h

/-- The relation of objects where the first having `P` makes the second have it: an action
that keeps it never loses `P`. -/
def Carries (P : σ → Prop) (x y : σ) : Prop := P x → P y

instance (P : σ → Prop) : IsPreorder σ (Carries P) where
  refl _ := id
  trans _ _ _ h₁ h₂ := h₂ ∘ h₁

/-! ## Actions that finish -/

/-- Every run of the action finishes. -/
def Finishes (a : Act σ α) : Prop := ∀ s, ∃ x s', EStateM.run a s = .ok x s'

theorem finishes_pure (x : α) : Finishes (pure x : Act σ α) := fun s => ⟨x, s, rfl⟩

theorem finishes_self : Finishes (Act.self : Act σ σ) := fun s => ⟨s.this, s, rfl⟩

theorem finishes_change (f : σ → σ) : Finishes (Act.change f) := fun s => ⟨_, _, run_change f s⟩

theorem finishes_note (l : Level) (o : Origin) (m : String) : Finishes (Act.note l o m : Act σ Unit) :=
  fun s => ⟨_, _, run_note l o m s⟩

theorem finishes_attempt (a : Act σ α) : Finishes (Act.attempt a) := fun s => by
  rw [run_attempt]
  cases EStateM.run a s with
  | ok x s' => exact ⟨_, _, rfl⟩
  | error e s' => exact ⟨_, _, rfl⟩

theorem finishes_focus {get : σ → τ} {set : σ → τ → σ} {a : Act τ α} (ha : Finishes a) :
    Finishes (Act.focus get set a) := fun s => by
  obtain ⟨x, s', h⟩ := ha ⟨s.log, get s.this⟩
  exact ⟨x, _, by rw [run_focus, h]⟩

theorem finishes_ite {c : Prop} [Decidable c] {a b : Act σ α} (ha : Finishes a) (hb : Finishes b) :
    Finishes (if c then a else b) := by
  split
  · exact ha
  · exact hb

theorem finishes_bind {a : Act σ α} {f : α → Act σ β} (ha : Finishes a) (hf : ∀ x, Finishes (f x)) :
    Finishes (a >>= f) := fun s => by
  obtain ⟨x, s₁, h₁⟩ := ha s
  rw [run_bind_ok h₁]
  exact hf x s₁

theorem finishes_forIn {l : List β} {init : γ} {f : β → γ → Act σ (ForInStep γ)}
    (hf : ∀ x b, Finishes (f x b)) : Finishes (forIn l init f) := by
  induction l generalizing init with
  | nil => exact finishes_pure _
  | cons x rest ih =>
    rw [List.forIn_cons]
    refine finishes_bind (hf x init) fun step => ?_
    cases step with
    | done b => exact finishes_pure _
    | yield b => exact ih

end Act

end RoadWeather
