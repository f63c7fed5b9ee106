import RoadWeather.Proofs.Validity

/-! # Steps taken on every block -/

namespace RoadWeather

open RoadWeather.Act

/-! ## Loops over positions -/

theorem Act.run_forIn_visits {σ : Type} {R : σ → σ → Prop} [IsPreorder σ R]
    {Q : σ → Nat → Prop} {step : Nat → Act σ Unit}
    (hstep : ∀ i (s : Scene σ), ∃ s', EStateM.run (step i) s = .ok () s' ∧ R s.this s'.this ∧
      Q s'.this i ∧ ∀ j, j ≠ i → Q s.this j → Q s'.this j) :
    ∀ (L : List Nat) (s : Scene σ), ∃ s', EStateM.run (forIn L PUnit.unit fun i _ => do
        step i
        pure (ForInStep.yield PUnit.unit)) s = .ok () s' ∧ R s.this s'.this ∧
      (∀ j ∈ L, Q s'.this j) ∧ ∀ j, j ∉ L → Q s.this j → Q s'.this j
  | [], s => ⟨s, by rw [List.forIn_nil]; rfl, refl_of R _, nofun, fun _ _ h => h⟩
  | i :: rest, s => by
    obtain ⟨s₁, h₁, hR₁, hQ₁, hkeep₁⟩ := hstep i s
    obtain ⟨s₂, h₂, hR₂, hQ₂, hkeep₂⟩ := run_forIn_visits hstep rest s₁
    have hvisit : EStateM.run (step i >>= fun _ => pure (ForInStep.yield PUnit.unit)) s =
        .ok (ForInStep.yield PUnit.unit) s₁ := (run_bind_ok h₁).trans (run_pure _ _)
    refine ⟨s₂, by rw [List.forIn_cons, run_bind_ok hvisit]; exact h₂, trans_of R hR₁ hR₂,
      fun j hj => ?_, fun j hj hQ => ?_⟩
    · by_cases hjr : j ∈ rest
      · exact hQ₂ j hjr
      · -- position `i` itself, which the rest of the loop does not visit again
        obtain rfl : j = i := (List.mem_cons.mp hj).resolve_right hjr
        exact hkeep₂ j hjr hQ₁
    · exact hkeep₂ j (fun h => hj (List.mem_cons_of_mem _ h))
        (hkeep₁ j (fun h => hj (h ▸ List.mem_cons_self)) hQ)

/-! ## Lists changed in place -/

section
variable {α : Type} [Inhabited α]

theorem getD_set_self {l : List α} {i : Nat} (hi : i < l.length) (x : α) :
    (l.set i x).getD i default = x := by
  rw [List.getD_eq_getElem?_getD, List.getElem?_set_self hi, Option.getD_some]

theorem getD_set_ne {l : List α} {i j : Nat} (h : j ≠ i) (x : α) :
    (l.set i x).getD j default = l.getD j default := by
  rw [List.getD_eq_getElem?_getD, List.getElem?_set_ne (Ne.symm h), ← List.getD_eq_getElem?_getD]

theorem forall_mem_of_rel {R : α → α → Prop} {P : α → Prop} (hP : ∀ {x y}, R x y → P x → P y)
    {l l' : List α} (hlen : l'.length = l.length) (hrel : ∀ k, R (l.getD k default) (l'.getD k default))
    (hl : ∀ x ∈ l, P x) : ∀ y ∈ l', P y := by
  intro y hy
  obtain ⟨k, hk, rfl⟩ := List.getElem_of_mem hy
  have hk' : k < l.length := hlen ▸ hk
  have h := hP (hrel k) (hl _ (List.getD_eq_getElem _ _ hk' ▸ List.getElem_mem hk'))
  rwa [List.getD_eq_getElem _ _ hk] at h

theorem forall_mem_of_getD {P : α → Prop} {l : List α}
    (h : ∀ k, k < l.length → P (l.getD k default)) : ∀ x ∈ l, P x := by
  intro x hx
  obtain ⟨k, hk, rfl⟩ := List.getElem_of_mem hx
  have hk' := h k hk
  rwa [List.getD_eq_getElem _ _ hk] at hk'

end

theorem Batch.getD_modify_self {l : List (String × Collection)} {i : Nat} (hi : i < l.length)
    (c : Collection) : (l.modify i fun p => (p.1, c)).getD i default = ((l.getD i default).1, c) := by
  simp [List.getD_eq_getElem?_getD, List.getElem?_eq_getElem hi]

theorem Batch.getD_modify_ne {l : List (String × Collection)} {i j : Nat} (h : j ≠ i)
    (c : Collection) : (l.modify i fun p => (p.1, c)).getD j default = l.getD j default := by
  simp only [List.getD_eq_getElem?_getD, List.getElem?_modify]
  cases l[j]? with
  | none => rfl
  | some p => simp [Ne.symm h]

/-! ## Conditions -/

namespace Condition

/-- The blocks stay in their places, each changing as `Rb` allows, and nothing else changes. -/
structure Lift (Rb : Block → Block → Prop) (c c' : Condition) : Prop where
  rest : c' = { c with blocks := c'.blocks }
  length : c'.blocks.length = c.blocks.length
  blocks : ∀ k, Rb (c.blocks.getD k default) (c'.blocks.getD k default)

instance {Rb : Block → Block → Prop} [IsPreorder Block Rb] : IsPreorder Condition (Lift Rb) where
  refl _ := ⟨rfl, rfl, fun _ => refl_of Rb _⟩
  trans _ _ c'' h₁ h₂ := ⟨by rw [h₂.rest, h₁.rest], h₂.length.trans h₁.length,
    fun k => trans_of Rb (h₁.blocks k) (h₂.blocks k)⟩

theorem Lift.forall {Rb : Block → Block → Prop} {P : Block → Prop}
    (hP : ∀ {b b'}, Rb b b' → P b → P b') {c c' : Condition} (h : Lift Rb c c')
    (hc : ∀ b ∈ c.blocks, P b) : ∀ b ∈ c'.blocks, P b :=
  forall_mem_of_rel (P := P) hP h.length h.blocks hc

theorem run_onBlock_visit {Rb : Block → Block → Prop} [IsPreorder Block Rb] {P : Block → Prop}
    {a : Act Block Unit}
    (ha : ∀ s, ∃ s', EStateM.run a s = .ok () s' ∧ Rb s.this s'.this ∧ P s'.this) (i : Nat)
    (s : Scene Condition) :
    ∃ s', EStateM.run (onBlock i a) s = .ok () s' ∧ Lift Rb s.this s'.this ∧
      (i < s'.this.blocks.length → P (s'.this.blocks.getD i default)) ∧
      ∀ j, j ≠ i → (j < s.this.blocks.length → P (s.this.blocks.getD j default)) →
        j < s'.this.blocks.length → P (s'.this.blocks.getD j default) := by
  obtain ⟨t, ht, hR, hP⟩ := ha ⟨s.log, s.this.blocks.getD i default⟩
  refine ⟨⟨t.log, { s.this with blocks := s.this.blocks.set i t.this }⟩,
    by rw [onBlock, run_focus, ht], ⟨rfl, List.length_set .., getD_set_rel hR⟩, fun hi => ?_,
    fun j hj hdone hj' => ?_⟩
  · rw [getD_set_self (by simpa using hi)]
    exact hP
  · rw [getD_set_ne hj]
    exact hdone (by simpa using hj')

theorem run_everyBlock {Rb : Block → Block → Prop} [IsPreorder Block Rb] {P : Block → Prop}
    {a : Act Block Unit}
    (ha : ∀ s, ∃ s', EStateM.run a s = .ok () s' ∧ Rb s.this s'.this ∧ P s'.this)
    (s : Scene Condition) :
    ∃ s', EStateM.run (everyBlock a) s = .ok () s' ∧ Lift Rb s.this s'.this ∧
      ∀ b ∈ s'.this.blocks, P b := by
  obtain ⟨s', h, hR, hdone, -⟩ := run_forIn_visits
    (Q := fun c j => j < c.blocks.length → P (c.blocks.getD j default)) (run_onBlock_visit ha)
    (List.range s.this.blocks.length) s
  refine ⟨s', by rw [everyBlock, run_bind_ok (run_self _)]; exact (run_bind_ok h).trans (run_pure _ _), hR,
    forall_mem_of_getD fun k hk => hdone k (List.mem_range.mpr (hR.length ▸ hk)) hk⟩

end Condition

/-! ## Collections -/

namespace Collection

/-- The conditions stay in their places, each changing as `Rc` allows, and nothing else
changes. -/
structure Lift (Rc : Condition → Condition → Prop) (c c' : Collection) : Prop where
  rest : c' = { c with conditions := c'.conditions }
  length : c'.conditions.length = c.conditions.length
  conditions : ∀ k, Rc (c.conditions.getD k default) (c'.conditions.getD k default)

instance {Rc : Condition → Condition → Prop} [IsPreorder Condition Rc] :
    IsPreorder Collection (Lift Rc) where
  refl _ := ⟨rfl, rfl, fun _ => refl_of Rc _⟩
  trans _ _ c'' h₁ h₂ := ⟨by rw [h₂.rest, h₁.rest], h₂.length.trans h₁.length,
    fun k => trans_of Rc (h₁.conditions k) (h₂.conditions k)⟩

theorem Lift.forall {Rc : Condition → Condition → Prop} {P : Condition → Prop}
    (hP : ∀ {d d'}, Rc d d' → P d → P d') {c c' : Collection} (h : Lift Rc c c')
    (hc : ∀ d ∈ c.conditions, P d) : ∀ d ∈ c'.conditions, P d :=
  forall_mem_of_rel (P := P) hP h.length h.conditions hc

theorem run_onCondition_visit {Rc : Condition → Condition → Prop} [IsPreorder Condition Rc]
    {P : Condition → Prop}
    {a : Act Condition Unit}
    (ha : ∀ s, ∃ s', EStateM.run a s = .ok () s' ∧ Rc s.this s'.this ∧ P s'.this) (i : Nat)
    (s : Scene Collection) :
    ∃ s', EStateM.run (onCondition i a) s = .ok () s' ∧ Lift Rc s.this s'.this ∧
      (i < s'.this.conditions.length → P (s'.this.conditions.getD i default)) ∧
      ∀ j, j ≠ i → (j < s.this.conditions.length → P (s.this.conditions.getD j default)) →
        j < s'.this.conditions.length → P (s'.this.conditions.getD j default) := by
  obtain ⟨t, ht, hR, hP⟩ := ha ⟨s.log, s.this.conditions.getD i default⟩
  refine ⟨⟨t.log, { s.this with conditions := s.this.conditions.set i t.this }⟩,
    by rw [onCondition, run_focus, ht], ⟨rfl, List.length_set .., Condition.getD_set_rel hR⟩,
    fun hi => ?_, fun j hj hdone hj' => ?_⟩
  · rw [getD_set_self (by simpa using hi)]
    exact hP
  · rw [getD_set_ne hj]
    exact hdone (by simpa using hj')

theorem run_everyCondition {Rc : Condition → Condition → Prop} [IsPreorder Condition Rc]
    {P : Condition → Prop} {a : Act Condition Unit}
    (ha : ∀ s, ∃ s', EStateM.run a s = .ok () s' ∧ Rc s.this s'.this ∧ P s'.this)
    (s : Scene Collection) :
    ∃ s', EStateM.run (everyCondition a) s = .ok () s' ∧ Lift Rc s.this s'.this ∧
      ∀ d ∈ s'.this.conditions, P d := by
  obtain ⟨s', h, hR, hdone, -⟩ := run_forIn_visits
    (Q := fun c j => j < c.conditions.length → P (c.conditions.getD j default))
    (run_onCondition_visit ha)
    (List.range s.this.conditions.length) s
  refine ⟨s', by rw [everyCondition, run_bind_ok (run_self _)]; exact (run_bind_ok h).trans (run_pure _ _), hR,
    forall_mem_of_getD fun k hk => hdone k (List.mem_range.mpr (hR.length ▸ hk)) hk⟩

end Collection

/-! ## Batches -/

namespace Batch

/-- A collection keeps its title, and changes as `Rc` allows. -/
def Keyed (Rc : Collection → Collection → Prop) (p q : String × Collection) : Prop :=
  q.1 = p.1 ∧ Rc p.2 q.2

instance {Rc : Collection → Collection → Prop} [IsPreorder Collection Rc] :
    IsPreorder (String × Collection) (Keyed Rc) where
  refl _ := ⟨rfl, refl_of Rc _⟩
  trans _ _ _ h₁ h₂ := ⟨h₂.1.trans h₁.1, trans_of Rc h₁.2 h₂.2⟩

/-- The collections stay in their places under their titles, each changing as `Rc` allows, and
nothing else changes. -/
structure Lift (Rc : Collection → Collection → Prop) (b b' : Batch) : Prop where
  rest : b' = { b with collections := b'.collections }
  length : b'.collections.length = b.collections.length
  collections : ∀ k, Keyed Rc (b.collections.getD k default) (b'.collections.getD k default)

instance {Rc : Collection → Collection → Prop} [IsPreorder Collection Rc] :
    IsPreorder Batch (Lift Rc) where
  refl _ := ⟨rfl, rfl, fun _ => refl_of (Keyed Rc) _⟩
  trans _ _ b'' h₁ h₂ := ⟨by rw [h₂.rest, h₁.rest], h₂.length.trans h₁.length,
    fun k => trans_of (Keyed Rc) (h₁.collections k) (h₂.collections k)⟩

theorem Lift.forall {Rc : Collection → Collection → Prop} {P : String × Collection → Prop}
    (hP : ∀ {p q}, Keyed Rc p q → P p → P q) {b b' : Batch} (h : Lift Rc b b')
    (hb : ∀ kc ∈ b.collections, P kc) : ∀ kc ∈ b'.collections, P kc :=
  forall_mem_of_rel (P := P) hP h.length h.collections hb

theorem run_onCollection_visit {Rc : Collection → Collection → Prop} [IsPreorder Collection Rc]
    {P : Collection → Prop}
    {a : Act Collection Unit}
    (ha : ∀ s, ∃ s', EStateM.run a s = .ok () s' ∧ Rc s.this s'.this ∧ P s'.this) (i : Nat)
    (s : Scene Batch) :
    ∃ s', EStateM.run (onCollection i a) s = .ok () s' ∧ Lift Rc s.this s'.this ∧
      (i < s'.this.collections.length → P (s'.this.collections.getD i default).2) ∧
      ∀ j, j ≠ i → (j < s.this.collections.length → P (s.this.collections.getD j default).2) →
        j < s'.this.collections.length → P (s'.this.collections.getD j default).2 := by
  obtain ⟨t, ht, hR, hP⟩ := ha ⟨s.log, (s.this.collections.getD i default).2⟩
  refine ⟨⟨t.log, { s.this with collections := s.this.collections.modify i fun p => (p.1, t.this) }⟩,
    by rw [onCollection, run_focus, ht], ⟨rfl, List.length_modify .., fun k => ?_⟩,
    fun hi => ?_, fun j hj hdone hj' => ?_⟩
  · by_cases hk : k = i
    · subst hk
      by_cases hlt : k < s.this.collections.length
      · rw [getD_modify_self hlt]
        exact ⟨rfl, hR⟩
      · -- no collection there: the list is as it was
        have hnil : s.this.collections.modify k (fun p => (p.1, t.this)) = s.this.collections :=
          List.modify_eq_self (Nat.le_of_not_lt hlt)
        rw [hnil]
        exact refl_of (Keyed Rc) _
    · rw [getD_modify_ne hk]
      exact refl_of (Keyed Rc) _
  · rw [getD_modify_self (by simpa using hi)]
    exact hP
  · rw [getD_modify_ne hj]
    exact hdone (by simpa using hj')

theorem run_everyCollection {Rc : Collection → Collection → Prop} [IsPreorder Collection Rc]
    {P : Collection → Prop} {a : Act Collection Unit}
    (ha : ∀ s, ∃ s', EStateM.run a s = .ok () s' ∧ Rc s.this s'.this ∧ P s'.this)
    (s : Scene Batch) :
    ∃ s', EStateM.run (everyCollection a) s = .ok () s' ∧ Lift Rc s.this s'.this ∧
      ∀ kc ∈ s'.this.collections, P kc.2 := by
  obtain ⟨s', h, hR, hdone, -⟩ := run_forIn_visits
    (Q := fun b j => j < b.collections.length → P (b.collections.getD j default).2)
    (run_onCollection_visit ha)
    (List.range s.this.collections.length) s
  refine ⟨s', by rw [everyCollection, run_bind_ok (run_self _)]; exact (run_bind_ok h).trans (run_pure _ _), hR,
    forall_mem_of_getD (P := fun kc => P kc.2) fun k hk =>
      hdone k (List.mem_range.mpr (hR.length ▸ hk)) hk⟩

theorem run_everyBlock {Rb : Block → Block → Prop} [IsPreorder Block Rb] {P : Block → Prop}
    {a : Act Block Unit}
    (ha : ∀ s, ∃ s', EStateM.run a s = .ok () s' ∧ Rb s.this s'.this ∧ P s'.this)
    (s : Scene Batch) :
    ∃ s', EStateM.run (everyCollection (Collection.everyCondition (Condition.everyBlock a))) s =
        .ok () s' ∧ Lift (Collection.Lift (Condition.Lift Rb)) s.this s'.this ∧
      ∀ kc ∈ s'.this.collections, ∀ d ∈ kc.2.conditions, ∀ b ∈ d.blocks, P b :=
  run_everyCollection (P := fun c => ∀ d ∈ c.conditions, ∀ b ∈ d.blocks, P b)
    (Collection.run_everyCondition (P := fun d => ∀ b ∈ d.blocks, P b) (Condition.run_everyBlock ha)) s

end Batch

end RoadWeather
