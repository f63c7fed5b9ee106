import RoadWeather.Proofs.Keeps
import RoadWeather.Proofs.ProblemLists
import RoadWeather.Batch.Run
import RoadWeather.Stations

/-! # Validity is never regained

A failed check leaves a mark that no later operation takes away (`failed_check_stays_failed`). -/

namespace RoadWeather

open RoadWeather.Act

/-! ## Blocks -/

instance Value.decidableEqNothing : (v : Value) → Decidable (v = .nothing)
  | .nothing => isTrue rfl
  | .bool _ | .int _ | .float _ | .text _ | .list _ | .record _ | .time _ | .span _
  | .missingTime => isFalse nofun

namespace Block

/-- A block with a problem recorded on it. -/
def Flagged (b : Block) : Prop := b.problems.entries ≠ []

/-- A block that has a problem keeps one. -/
def Keeps (b b' : Block) : Prop := b.Flagged → b'.Flagged

instance : IsPreorder Block Keeps where
  refl _ h := h
  trans _ _ _ h₁ h₂ h := h₂ (h₁ h)

theorem not_flagged_default : ¬ (default : Block).Flagged := fun h => h rfl

/-- A block that passes its check as it stands. -/
def Ready (b : Block) : Prop :=
  b.kind.isSome ∧ ¬ (b.kind = some .primary ∧ b.sensorId = .nothing) ∧ b.problems.entries = []

theorem Ready.not_flagged {b : Block} (h : b.Ready) : ¬ b.Flagged := fun hf => hf h.2.2

instance : DecidablePred Ready := fun b =>
  decidable_of_iff (b.kind.isSome ∧ ¬ (b.kind = some .primary ∧ b.sensorId = .nothing) ∧
    b.problems.entries.isEmpty = true) (by rw [List.isEmpty_iff]; rfl)

theorem flags_report (msg : String) (n : Notice) (s : Scene Block) :
    ∃ log, EStateM.run (report msg n) s =
      .ok () ⟨log, { s.this with problems := s.this.problems.record (.text msg) }⟩ ∧
      Flagged { s.this with problems := s.this.problems.record (.text msg) } := by
  obtain ⟨log, h⟩ := run_report msg n s
  exact ⟨log, h, Problems.record_ne_nil _ _⟩

theorem keeps_report (msg : String) (n : Notice) : Act.Keeps Keeps (report msg n) := fun s => by
  obtain ⟨log, h, hf⟩ := flags_report msg n s
  rw [h]
  exact fun _ => hf

theorem run_check (s : Scene Block) :
    ∃ r log b, EStateM.run check s = .ok r ⟨log, b⟩ ∧ (r = true ↔ s.this.Ready) ∧
      Keeps s.this b ∧ (s.this.Ready → b = s.this) ∧ (¬ s.this.Ready → b.Flagged) := by
  cases hk : s.this.kind with
  | none =>
    -- no kind: the first check reports, and the second cannot apply
    obtain ⟨log, hrep, hf⟩ := flags_report
      "Type of Block is None (should be .secondary == True or False)" .error s
    have hready : ¬ s.this.Ready := by simp [Ready, hk]
    refine ⟨false, log, _, ?_, by simp [hready], fun _ => hf, fun h => absurd h hready,
      fun _ => hf⟩
    simp only [check, EStateM.run_bind, Act.run_self, hk, Option.isNone_none, if_true, hrep]
    simp [Problems.isEmpty, Problems.record_ne_nil]
  | some k =>
    by_cases hsensor : k = .primary ∧ s.this.sensorId = .nothing
    · -- a block on a sensor without its id: the second check reports
      obtain ⟨rfl, hn⟩ := hsensor
      obtain ⟨log, hrep, hf⟩ := flags_report "Block has no sensor id" .error s
      have hready : ¬ s.this.Ready := by simp [Ready, hk, hn]
      refine ⟨false, log, _, ?_, by simp [hready], fun _ => hf, fun h => absurd h hready,
        fun _ => hf⟩
      simp only [check, EStateM.run_bind, Act.run_self, hk, Option.isNone_some,
        Bool.false_eq_true, if_false, hn, and_self, if_true, hrep]
      simp [Problems.isEmpty, Problems.record_ne_nil]
    · -- the kind is known and a sensor id is there: only the problems decide
      have hready : s.this.Ready ↔ s.this.problems.entries = [] := by simp [Ready, hk, hsensor]
      refine ⟨s.this.problems.entries.isEmpty, s.log, s.this, ?_, by simp [hready], fun h => h,
        fun _ => rfl, fun h => mt hready.mpr h⟩
      simp only [check, EStateM.run_bind, Act.run_self, hk, Option.isNone_some,
        Bool.false_eq_true, if_false]
      rw [if_neg]
      · simp [Problems.isEmpty]
      · rintro ⟨hp, hm⟩
        split at hm
        · exact hsensor ⟨Option.some.inj hp, by assumption⟩
        · cases hm

theorem keeps_check : Act.Keeps Keeps check := fun s => by
  obtain ⟨r, log, b, h, -, hk, -⟩ := run_check s
  rw [h]
  exact hk

theorem keeps_setSensorId (pairs : Except Fault (List (Value × Value))) :
    Act.Keeps Keeps (setSensorId pairs) := by
  unfold setSensorId
  refine keeps_self_bind fun s => ?_
  split
  · exact fun h => h
  · cases pairs with
    | error f => exact fun h => h
    | ok pairs =>
      dsimp only
      split
      · -- the id is written into the block as it was read, problems and all
        exact fun h => h
      · exact keeps_report _ _ s

theorem keeps_sql : Act.Keeps Keeps sql := by
  unfold sql
  refine keeps_bind keeps_check fun ok => ?_
  have hquery : Act.Keeps Keeps (Act.self >>= fun b => pure b.query) :=
    keeps_bind keeps_self fun _ => keeps_pure _
  dsimp only
  exact keeps_ite (keeps_bind keeps_self fun _ => keeps_bind (keeps_fail _ _) fun _ => hquery) hquery

end Block

theorem Collection.keeps_checkStation (known : List Value) (source : String) :
    Act.Keeps Block.Keeps (Collection.checkStation known source) := by
  unfold Collection.checkStation
  refine keeps_bind keeps_self fun b => keeps_ite (keeps_pure _) ?_
  split
  · exact Block.keeps_report _ _
  · exact keeps_ite (Block.keeps_report _ _) (keeps_pure _)

/-! ## Conditions -/

namespace Condition

/-- A condition whose blocks were not made, or one of whose blocks has a problem. -/
def Flagged (c : Condition) : Prop :=
  c.blocksMade = false ∨ ∃ k, (c.blocks.getD k default).Flagged

/-- Blocks that were not made stay so, and each block keeps its problems. -/
structure Keeps (c c' : Condition) : Prop where
  made : c'.blocksMade = true → c.blocksMade = true
  length : c'.blocks.length = c.blocks.length
  blocks : ∀ k, Block.Keeps (c.blocks.getD k default) (c'.blocks.getD k default)

instance : IsPreorder Condition Keeps where
  refl _ := ⟨id, rfl, fun _ => refl_of Block.Keeps _⟩
  trans _ _ _ h₁ h₂ := ⟨h₁.made ∘ h₂.made, h₂.length.trans h₁.length,
    fun k => trans_of Block.Keeps (h₁.blocks k) (h₂.blocks k)⟩

theorem Keeps.flagged {c c' : Condition} (h : Keeps c c') (hf : c.Flagged) : c'.Flagged := by
  rcases hf with hmade | ⟨k, hk⟩
  · left
    cases hm : c'.blocksMade
    · rfl
    · simpa [hmade] using h.made hm
  · exact .inr ⟨k, h.blocks k hk⟩

/-- A condition that passes its check as it stands. -/
def Ready (c : Condition) : Prop := c.blocksMade = true ∧ ∀ b ∈ c.blocks, b.Ready

instance : DecidablePred Ready := fun c =>
  inferInstanceAs (Decidable (c.blocksMade = true ∧ ∀ b ∈ c.blocks, b.Ready))

theorem not_ready_of_flagged {c : Condition} (hf : c.Flagged) : ¬ c.Ready := by
  rintro ⟨hmade, hblocks⟩
  rcases hf with h | ⟨k, hk⟩
  · simp [hmade] at h
  · -- a flagged position holds a block, since the default block has no problem
    have hlt : k < c.blocks.length := by
      refine Nat.lt_of_not_le fun hge => Block.not_flagged_default ?_
      rwa [List.getD_eq_getElem?_getD, List.getElem?_eq_none hge, Option.getD_none] at hk
    rw [List.getD_eq_getElem?_getD, List.getElem?_eq_getElem hlt, Option.getD_some] at hk
    exact (hblocks _ (List.getElem_mem hlt)).not_flagged hk

theorem keeps_of_blocks {c c' : Condition} (hmade : c'.blocksMade = c.blocksMade)
    (hblocks : c'.blocks = c.blocks) : Keeps c c' :=
  ⟨fun h => hmade ▸ h, by rw [hblocks], fun k => by rw [hblocks]; exact refl_of Block.Keeps _⟩

theorem getD_set_rel {α : Type} {R : α → α → Prop} [IsPreorder α R] {l : List α} {i : Nat}
    {d x : α} (h : R (l.getD i d) x) (k : Nat) : R (l.getD k d) ((l.set i x).getD k d) := by
  simp only [List.getD_eq_getElem?_getD, List.getElem?_set]
  split
  · next hik =>
    subst hik
    split
    · simpa [List.getD_eq_getElem?_getD] using h
    · next hge =>
      rw [List.getElem?_eq_none (Nat.le_of_not_lt hge)]
      exact refl_of R _
  · exact refl_of R _

theorem getD_set_of {α : Type} {P : α → Prop} {l : List α} {i : Nat} {d x : α} (hx : P x)
    (hd : P d) : P ((l.set i x).getD i d) := by
  by_cases hi : i < l.length
  · rwa [List.getD_eq_getElem?_getD, List.getElem?_set_self hi, Option.getD_some]
  · rwa [List.getD_eq_getElem?_getD, List.getElem?_eq_none (by simpa using Nat.le_of_not_lt hi),
      Option.getD_none]

theorem keeps_onBlock {α : Type} (i : Nat) {a : Act Block α} (ha : Act.Keeps Block.Keeps a) :
    Act.Keeps Keeps (onBlock i a) :=
  keeps_focus ha fun _ _ h => ⟨id, List.length_set .., getD_set_rel h⟩

theorem keeps_report (msg : String) (n : Notice) : Act.Keeps Keeps (report msg n) := fun s => by
  obtain ⟨log, h⟩ := run_report msg n s
  rw [h]
  exact keeps_of_blocks rfl rfl

theorem keeps_everyBlock {a : Act Block Unit} (ha : Act.Keeps Block.Keeps a) :
    Act.Keeps Keeps (everyBlock a) := by
  unfold everyBlock
  refine keeps_bind keeps_self fun _ => keeps_bind (keeps_forIn _ _ fun i _ => ?_) fun _ => keeps_pure _
  exact keeps_bind (keeps_onBlock i ha) fun _ => keeps_pure _

/-! ### The check of a condition -/

theorem run_onBlock_check (s : Scene Condition) {i : Nat} (hi : i < s.this.blocks.length) :
    ∃ r log b, EStateM.run (onBlock i Block.check) s =
        .ok r ⟨log, { s.this with blocks := s.this.blocks.set i b }⟩ ∧
      (r = true ↔ s.this.blocks[i].Ready) ∧ Block.Keeps s.this.blocks[i] b ∧
      (s.this.blocks[i].Ready → b = s.this.blocks[i]) ∧ (¬ s.this.blocks[i].Ready → b.Flagged) := by
  have hget : s.this.blocks.getD i default = s.this.blocks[i] := by
    rw [List.getD_eq_getElem?_getD, List.getElem?_eq_getElem hi, Option.getD_some]
  obtain ⟨r, log, b, hrun, hr, hkeep, hsame, hflag⟩ := Block.run_check ⟨s.log, s.this.blocks[i]⟩
  refine ⟨r, log, b, ?_, hr, hkeep, hsame, hflag⟩
  simp only [onBlock, Act.run_focus, hget, hrun]

theorem run_check_go (k : Nat) : ∀ (i : Nat) (s : Scene Condition), i + k ≤ s.this.blocks.length →
    ∃ r log c, EStateM.run (check.go k i) s = .ok r ⟨log, c⟩ ∧
      (r = true ↔ ∀ j (hj : j < s.this.blocks.length), i ≤ j → j < i + k → s.this.blocks[j].Ready) ∧
      Keeps s.this c ∧ (r = true → c = s.this) ∧ (r = false → c.Flagged) ∧
      c.blocksMade = s.this.blocksMade ∧ c.blocks.length = s.this.blocks.length := by
  induction k with
  | zero =>
    intro i s _
    refine ⟨true, s.log, s.this, rfl, ?_, refl_of Keeps _, fun _ => rfl, ?_, rfl, rfl⟩
    · exact ⟨fun _ j _ h₁ h₂ => absurd h₂ (by omega), fun _ => rfl⟩
    · exact fun h => absurd h (by decide)
  | succ k ih =>
    intro i s hk
    have hi : i < s.this.blocks.length := by omega
    obtain ⟨r, log, b, hrun, hr, hkeep, hsame, hflag⟩ := run_onBlock_check s hi
    rw [check.go.eq_2, EStateM.run_bind, hrun]
    cases r with
    | true =>
      -- block `i` is ready and unchanged; the rest of the blocks decide
      have hb : b = s.this.blocks[i] := hsame (hr.mp rfl)
      have hc : { s.this with blocks := s.this.blocks.set i b } = s.this := by
        rw [hb, List.set_getElem_self]
      rw [hc]
      obtain ⟨r', log', c, hrun', hr', hkeep', hsame', hflag', hmade', hlen'⟩ :=
        ih (i + 1) ⟨log, s.this⟩ (by simpa using (show i + 1 + k ≤ s.this.blocks.length by omega))
      refine ⟨r', log', c, by simpa using hrun', ?_, hkeep', hsame', hflag', hmade', hlen'⟩
      rw [hr']
      constructor
      · intro h j hj h₁ h₂
        rcases Nat.eq_or_lt_of_le h₁ with rfl | h₁
        · exact hr.mp rfl
        · exact h j hj h₁ (by omega)
      · exact fun h j hj h₁ h₂ => h j hj (by omega) (by omega)
    | false =>
      -- block `i` is not ready: the check stops here with a problem on it
      have hnot : ¬ s.this.blocks[i].Ready := fun h => Bool.false_ne_true (hr.mpr h)
      have hget : s.this.blocks.getD i default = s.this.blocks[i] := by
        rw [List.getD_eq_getElem?_getD, List.getElem?_eq_getElem hi, Option.getD_some]
      have hset : (s.this.blocks.set i b).getD i default = b := by
        rw [List.getD_eq_getElem?_getD, List.getElem?_set_self hi, Option.getD_some]
      refine ⟨false, log, { s.this with blocks := s.this.blocks.set i b }, rfl,
        ⟨nofun, fun h => absurd (h i hi (Nat.le_refl i) (by omega)) hnot⟩,
        ⟨id, List.length_set .., getD_set_rel (by rw [hget]; exact hkeep)⟩, nofun,
        fun _ => .inr ⟨i, by rw [hset]; exact hflag hnot⟩, rfl, by simp⟩

theorem run_check (s : Scene Condition) :
    ∃ r log c, EStateM.run check s = .ok r ⟨log, c⟩ ∧ (r = true ↔ s.this.Ready) ∧
      Keeps s.this c ∧ (s.this.Ready → c = s.this) ∧ (¬ s.this.Ready → c.Flagged) := by
  obtain ⟨r, log, c, hrun, hr, hkeep, hsame, hflag, hmade, -⟩ :=
    run_check_go s.this.blocks.length 0 s (by omega)
  have hall : (∀ j (hj : j < s.this.blocks.length), 0 ≤ j → j < 0 + s.this.blocks.length →
      s.this.blocks[j].Ready) ↔ ∀ b ∈ s.this.blocks, b.Ready := by
    constructor
    · intro h b hb
      obtain ⟨j, hj, rfl⟩ := List.getElem_of_mem hb
      exact h j hj (Nat.zero_le _) (by omega)
    · exact fun h j hj _ _ => h _ (List.getElem_mem hj)
  refine ⟨r && c.blocksMade, log, c, ?_, ?_, hkeep, fun h => hsame ((hr.trans hall).mpr h.2), ?_⟩
  · simp only [check, EStateM.run_bind, Act.run_self, hrun]
    rfl
  · rw [Bool.and_eq_true, hr, hall, hmade, Ready, and_comm]
  · intro hnot
    cases hrc : r
    · exact hflag hrc
    · -- every block is ready, so the flag that the blocks were made is down
      left
      have hblocks := (hr.trans hall).mp hrc
      rw [hmade]
      cases hm : s.this.blocksMade
      · rfl
      · exact absurd ⟨hm, hblocks⟩ hnot

theorem keeps_check : Act.Keeps Keeps check := fun s => by
  obtain ⟨r, log, c, h, -, hk, -⟩ := run_check s
  rw [h]
  exact hk

theorem flagged_default : (default : Condition).Flagged := .inl rfl

/-- Position `k` of a condition holds no block, or a block with a problem. -/
def BlockMarked (c : Condition) (k : Nat) : Prop :=
  c.blocks.length ≤ k ∨ (c.blocks.getD k default).Flagged

theorem blockMarked_default (k : Nat) : (default : Condition).BlockMarked k := .inl (Nat.zero_le k)

theorem Keeps.blockMarked {c c' : Condition} (h : Keeps c c') {k : Nat} (hm : c.BlockMarked k) :
    c'.BlockMarked k := by
  rcases hm with hk | hf
  · exact .inl (h.length ▸ hk)
  · exact .inr (h.blocks k hf)

theorem BlockMarked.not_ready {c : Condition} {k : Nat} (hm : c.BlockMarked k) :
    ¬ (c.blocks.getD k default).Ready := by
  rcases hm with hk | hf
  · -- no block there: the default block has no kind
    rw [List.getD_eq_getElem?_getD, List.getElem?_eq_none hk, Option.getD_none]
    exact fun h => Bool.false_ne_true h.1
  · exact fun h => h.not_flagged hf

theorem run_onBlock_check_marks (s : Scene Condition) (k : Nat) :
    ∃ r log c, EStateM.run (onBlock k Block.check) s = .ok r ⟨log, c⟩ ∧
      (s.this.BlockMarked k → r = false) ∧ (r = false → c.BlockMarked k) := by
  obtain ⟨r, log, b, h, hr, -, -, hflag⟩ := Block.run_check ⟨s.log, s.this.blocks.getD k default⟩
  refine ⟨r, log, { s.this with blocks := s.this.blocks.set k b }, by simp only [onBlock, Act.run_focus, h], ?_, ?_⟩
  · intro hm
    cases r with
    | false => rfl
    | true => exact absurd (hr.mp rfl) hm.not_ready
  · rintro rfl
    have hnot : ¬ (s.this.blocks.getD k default).Ready := fun h' => Bool.false_ne_true (hr.mpr h')
    by_cases hk : k < s.this.blocks.length
    · refine .inr ?_
      show ((s.this.blocks.set k b).getD k default).Flagged
      rw [List.getD_eq_getElem?_getD, List.getElem?_set_self hk, Option.getD_some]
      exact hflag hnot
    · exact .inl (by simpa using Nat.le_of_not_lt hk)

theorem run_check_marks (s : Scene Condition) :
    ∃ r log c, EStateM.run check s = .ok r ⟨log, c⟩ ∧
      (s.this.Flagged → r = false) ∧ (r = false → c.Flagged) := by
  obtain ⟨r, log, c, h, hr, -, -, hflag⟩ := run_check s
  refine ⟨r, log, c, h, fun hf => ?_, ?_⟩
  · cases r with
    | false => rfl
    | true => exact absurd (hr.mp rfl) (not_ready_of_flagged hf)
  · rintro rfl
    exact hflag fun hready => Bool.false_ne_true (hr.mpr hready)

/-! ### A condition and its connection -/

/-- On a condition with its connection, the marks of the condition are kept. -/
def OnLink.Keeps (p q : OnLink) : Prop := Condition.Keeps p.1 q.1

instance : IsPreorder OnLink OnLink.Keeps where
  refl p := refl_of Condition.Keeps p.1
  trans _ _ _ h₁ h₂ := trans_of Condition.Keeps h₁ h₂

theorem keeps_onCondition {α : Type} {a : Act Condition α} (ha : Act.Keeps Keeps a) :
    Act.Keeps OnLink.Keeps (onCondition a) :=
  keeps_focus ha fun _ _ h => h

theorem keeps_onLink {α : Type} (a : Act Link α) : Act.Keeps OnLink.Keeps (onLink a) :=
  keeps_focus (keeps_true a) fun x _ _ => refl_of Condition.Keeps x.1

theorem keeps_blockStatements (k i : Nat) (acc : List String) :
    Act.Keeps Keeps (blockStatements k i acc) := by
  induction k generalizing i acc with
  | zero => exact keeps_pure _
  | succ k ih =>
    rw [blockStatements.eq_2]
    exact keeps_bind (keeps_onBlock i Block.keeps_sql) fun _ => keeps_bind keeps_self fun _ => ih _ _

theorem keeps_makeTable (connected : Bool) : Act.Keeps OnLink.Keeps (makeTable connected) := by
  unfold makeTable
  refine keeps_bind keeps_self fun _ => keeps_bind (keeps_note _ _ _) fun _ => ?_
  refine keeps_bind (keeps_onCondition (keeps_attempt (keeps_blockStatements _ _ _))) fun r => ?_
  split
  · exact keeps_onCondition (keeps_report _ _)
  · refine keeps_bind keeps_self fun _ => ?_
    dsimp only
    -- a condition of one block fails here; otherwise the statements are logged and run over
    -- the connection, each failure caught and reported
    refine keeps_ite (keeps_bind (keeps_fail _ _) fun _ => ?_) ?_
    all_goals
      refine keeps_bind (keeps_note _ _ _) fun _ => keeps_bind (keeps_note _ _ _) fun _ => ?_
      refine keeps_ite (keeps_onCondition (keeps_report _ _)) (keeps_bind (keeps_attempt ?_) fun r => ?_)
      · exact keeps_bind (keeps_onLink _) fun _ => keeps_bind (keeps_onLink _) fun _ =>
          keeps_bind (keeps_onLink _) fun _ => keeps_bind (keeps_onLink _) fun _ =>
            keeps_bind keeps_self fun _ => keeps_note _ _ _
      · split
        · exact keeps_pure _
        · exact keeps_bind (keeps_onLink _) fun _ => keeps_onCondition (keeps_report _ _)

/-! ### Results -/

theorem keeps_liftE {α : Type} (r : Except Fault α) : Act.Keeps Keeps (liftE r : Act Condition α) := by
  cases r with
  | ok x => exact keeps_pure _
  | error f => exact keeps_throw _

theorem keeps_change_of {f : Condition → Condition}
    (h : ∀ c, (f c).blocksMade = c.blocksMade ∧ (f c).blocks = c.blocks) :
    Act.Keeps Keeps (Act.change f) :=
  keeps_change fun c => keeps_of_blocks (h c).1 (h c).2

theorem keeps_summarise (t : Table) : Act.Keeps Keeps (summarise t) := by
  unfold summarise
  -- each step reads a column or a figure, which may fail, or sets a field of the summary
  repeat
    first
    | refine keeps_bind (keeps_liftE _) fun _ => ?_
    | refine keeps_bind (keeps_change_of fun _ => ⟨rfl, rfl⟩) fun _ => ?_
  exact keeps_change_of fun _ => ⟨rfl, rfl⟩

theorem keeps_fetchResults : Act.Keeps OnLink.Keeps fetchResults := by
  unfold fetchResults
  refine keeps_bind (keeps_onCondition keeps_check) fun _ => keeps_ite (keeps_pure _) ?_
  refine keeps_bind keeps_self fun _ => keeps_bind (keeps_onLink _) fun r => ?_
  split
  · exact keeps_bind (keeps_onLink _) fun _ => keeps_onCondition (keeps_report _ _)
  · exact keeps_onCondition (keeps_summarise _)

end Condition

/-! ## Collections, batches and runs -/

namespace Collection

/-- The conditions stay in their places and each keeps its marks. -/
structure Keeps (c c' : Collection) : Prop where
  length : c'.conditions.length = c.conditions.length
  conditions : ∀ j, Condition.Keeps (c.conditions.getD j default) (c'.conditions.getD j default)

instance : IsPreorder Collection Keeps where
  refl _ := ⟨rfl, fun _ => refl_of Condition.Keeps _⟩
  trans _ _ _ h₁ h₂ := ⟨h₂.length.trans h₁.length,
    fun j => trans_of Condition.Keeps (h₁.conditions j) (h₂.conditions j)⟩

theorem keeps_of_conditions {c c' : Collection} (h : c'.conditions = c.conditions) : Keeps c c' :=
  ⟨by rw [h], fun j => by rw [h]; exact refl_of Condition.Keeps _⟩

theorem keeps_report (msg : String) (n : Notice) : Act.Keeps Keeps (report msg n) :=
  keeps_focus (keeps_true _) fun _ _ _ => keeps_of_conditions rfl

theorem keeps_onCondition {α : Type} (j : Nat) {a : Act Condition α}
    (ha : Act.Keeps Condition.Keeps a) : Act.Keeps Keeps (onCondition j a) :=
  keeps_focus ha fun _ _ h => ⟨List.length_set .., Condition.getD_set_rel h⟩

theorem keeps_everyCondition {a : Act Condition Unit} (ha : Act.Keeps Condition.Keeps a) :
    Act.Keeps Keeps (everyCondition a) := by
  unfold everyCondition
  refine keeps_bind keeps_self fun _ => keeps_bind (keeps_forIn _ _ fun j _ => ?_) fun _ => keeps_pure _
  exact keeps_bind (keeps_onCondition j ha) fun _ => keeps_pure _

/-- On a collection with its connection, the marks of the collection are kept. -/
def OnLink.Keeps (p q : OnLink) : Prop := Collection.Keeps p.1 q.1

instance : IsPreorder OnLink OnLink.Keeps where
  refl p := refl_of Collection.Keeps p.1
  trans _ _ _ h₁ h₂ := trans_of Collection.Keeps h₁ h₂

theorem keeps_onSelf {α : Type} {a : Act Collection α} (ha : Act.Keeps Keeps a) :
    Act.Keeps OnLink.Keeps (onSelf a) :=
  keeps_focus ha fun _ _ h => h

theorem keeps_onLink {α : Type} (a : Act Link α) : Act.Keeps OnLink.Keeps (onLink a) :=
  keeps_focus (keeps_true a) fun x _ _ => refl_of Collection.Keeps x.1

theorem keeps_onConditionLink {α : Type} (j : Nat) {a : Act Condition.OnLink α}
    (ha : Act.Keeps Condition.OnLink.Keeps a) : Act.Keeps OnLink.Keeps (onConditionLink j a) :=
  keeps_focus ha fun _ _ h => ⟨List.length_set .., Condition.getD_set_rel h⟩

theorem keeps_validateStations : Act.Keeps OnLink.Keeps validateStations := by
  unfold validateStations
  refine keeps_bind (keeps_note _ _ _) fun _ => keeps_bind (keeps_onLink _) fun fetched => ?_
  split
  · exact keeps_onSelf (keeps_report _ _)
  · -- every block of every condition is checked against the stations the database has seen
    refine keeps_bind keeps_self fun _ => keeps_bind (keeps_forIn _ _ fun i _ => ?_) fun _ =>
      keeps_pure _
    refine keeps_bind keeps_self fun _ => keeps_bind (keeps_forIn _ _ fun j _ => ?_) fun _ =>
      keeps_pure _
    exact keeps_bind keeps_self fun _ => keeps_bind (keeps_note _ _ _) fun _ =>
      keeps_bind (keeps_onSelf (keeps_onCondition i (Condition.keeps_onBlock j
        (keeps_checkStation _ _)))) fun _ => keeps_pure _

end Collection

namespace Batch

/-- The collections stay in their places and each keeps its marks. -/
structure Keeps (b b' : Batch) : Prop where
  length : b'.collections.length = b.collections.length
  collections : ∀ i,
    Collection.Keeps (b.collections.getD i default).2 (b'.collections.getD i default).2

instance : IsPreorder Batch Keeps where
  refl _ := ⟨rfl, fun _ => refl_of Collection.Keeps _⟩
  trans _ _ _ h₁ h₂ := ⟨h₂.length.trans h₁.length,
    fun i => trans_of Collection.Keeps (h₁.collections i) (h₂.collections i)⟩

theorem getD_modify_rel {l : List (String × Collection)} {i : Nat} {c : Collection}
    (h : Collection.Keeps (l.getD i default).2 c) (k : Nat) :
    Collection.Keeps (l.getD k default).2 ((l.modify i fun p => (p.1, c)).getD k default).2 := by
  simp only [List.getD_eq_getElem?_getD, List.getElem?_modify]
  cases hk : l[k]? with
  | none => exact refl_of Collection.Keeps _
  | some p =>
    simp only [Option.map_eq_map, Option.map_some, Option.getD_some]
    split
    · next hik =>
      subst hik
      simpa [List.getD_eq_getElem?_getD, hk] using h
    · exact refl_of Collection.Keeps _

theorem getD_modify_of {P : Collection → Prop} {l : List (String × Collection)} {i : Nat}
    {c : Collection} (hc : P c) (hd : P default) : P ((l.modify i fun p => (p.1, c)).getD i default).2 := by
  simp only [List.getD_eq_getElem?_getD, List.getElem?_modify]
  cases l[i]? with
  | none => exact hd
  | some p => exact hc

theorem keeps_onCollection {α : Type} (i : Nat) {a : Act Collection α}
    (ha : Act.Keeps Collection.Keeps a) : Act.Keeps Keeps (onCollection i a) :=
  keeps_focus ha fun _ _ h => ⟨List.length_modify .., getD_modify_rel h⟩

theorem keeps_everyCollection {a : Act Collection Unit} (ha : Act.Keeps Collection.Keeps a) :
    Act.Keeps Keeps (everyCollection a) := by
  unfold everyCollection
  refine keeps_bind keeps_self fun _ => keeps_bind (keeps_forIn _ _ fun i _ => ?_) fun _ => keeps_pure _
  exact keeps_bind (keeps_onCollection i ha) fun _ => keeps_pure _

theorem keeps_validateStations (known : List Value) : Act.Keeps Keeps (validateStations known) :=
  keeps_everyCollection (Collection.keeps_everyCondition (Condition.keeps_everyBlock
    (Collection.keeps_checkStation _ _)))

end Batch

namespace Run

/-- The batch of a run keeps its marks. -/
def Keeps (r r' : Run) : Prop := Batch.Keeps r.batch r'.batch

instance : IsPreorder Run Keeps where
  refl r := refl_of Batch.Keeps r.batch
  trans _ _ _ h₁ h₂ := trans_of Batch.Keeps h₁ h₂

theorem keeps_onBatch {α : Type} {a : Act Batch α} (ha : Act.Keeps Batch.Keeps a) :
    Act.Keeps Keeps (onBatch a) :=
  keeps_focus ha fun _ _ h => h

theorem keeps_onCollectionLink {α : Type} (c i : Nat) {a : Act Collection.OnLink α}
    (ha : Act.Keeps Collection.OnLink.Keeps a) : Act.Keeps Keeps (onCollectionLink c i a) :=
  keeps_focus ha fun _ _ h => ⟨List.length_modify .., Batch.getD_modify_rel h⟩

/-! ### Checks at their place in a run -/

def conditionAt (r : Run) (c j : Nat) : Condition :=
  (r.batch.collections.getD c default).2.conditions.getD j default

theorem Keeps.conditionAt {r r' : Run} (h : Keeps r r') (c j : Nat) :
    Condition.Keeps (r.conditionAt c j) (r'.conditionAt c j) :=
  (h.collections c).conditions j

theorem run_onCondition {α : Type} (c j : Nat) {a : Act Condition α} {s : Scene Run} {x : α}
    {t : Scene Condition} (h : EStateM.run a ⟨s.log, s.this.conditionAt c j⟩ = .ok x t) :
    ∃ r, EStateM.run (onBatch (Batch.onCollection c (Collection.onCondition j a))) s =
        .ok x ⟨t.log, r⟩ ∧
      ∀ P : Condition → Prop, P t.this → P default → P (r.conditionAt c j) := by
  unfold conditionAt at h
  simp only [onBatch, Batch.onCollection, Collection.onCondition, Act.run_focus, h,
    EStateM.Result.ok.injEq, Scene.mk.injEq, true_and, exists_eq_left']
  intro P ht hd
  exact Batch.getD_modify_of (P := fun coll => P (coll.conditions.getD j default))
    (Condition.getD_set_of ht hd) hd

def checkBlock (c j k : Nat) : Act Run Bool :=
  onBatch (Batch.onCollection c (Collection.onCondition j (Condition.onBlock k Block.check)))

def checkCondition (c j : Nat) : Act Run Bool :=
  onBatch (Batch.onCollection c (Collection.onCondition j Condition.check))

theorem run_checkBlock_marks (c j k : Nat) (s : Scene Run) :
    ∃ r log s', EStateM.run (checkBlock c j k) s = .ok r ⟨log, s'⟩ ∧
      ((s.this.conditionAt c j).BlockMarked k → r = false) ∧
      (r = false → (s'.conditionAt c j).BlockMarked k) := by
  obtain ⟨r, log, t, h, hfail, hmark⟩ :=
    Condition.run_onBlock_check_marks ⟨s.log, s.this.conditionAt c j⟩ k
  obtain ⟨s', hrun, hplace⟩ := run_onCondition c j h
  exact ⟨r, log, s', hrun, hfail, fun hr => hplace (·.BlockMarked k) (hmark hr) (Condition.blockMarked_default k)⟩

theorem run_checkCondition_marks (c j : Nat) (s : Scene Run) :
    ∃ r log s', EStateM.run (checkCondition c j) s = .ok r ⟨log, s'⟩ ∧
      ((s.this.conditionAt c j).Flagged → r = false) ∧ (r = false → (s'.conditionAt c j).Flagged) := by
  obtain ⟨r, log, t, h, hfail, hmark⟩ := Condition.run_check_marks ⟨s.log, s.this.conditionAt c j⟩
  obtain ⟨s', hrun, hplace⟩ := run_onCondition c j h
  exact ⟨r, log, s', hrun, hfail, fun hr => hplace Condition.Flagged (hmark hr) Condition.flagged_default⟩

/-! ### Runs of operations -/

/-- The operations that may follow the reading of a batch, each at the place it works on:
collection `c`, its condition `j`, block `k` of that condition, and connection `i`. -/
inductive Step where
  | setSensorId (c j k : Nat) (pairs : Except Fault (List (Value × Value)))
  | validateWithSet (known : List Value)
  | validateWithDb (c i : Nat)
  | checkBlock (c j k : Nat)
  | checkCondition (c j : Nat)
  | makeTable (c j i : Nat) (connected : Bool)
  | fetchResults (c j i : Nat)

def Step.act : Step → Act Run Unit
  | .setSensorId c j k pairs =>
    onBatch (Batch.onCollection c (Collection.onCondition j
      (Condition.onBlock k (Block.setSensorId pairs))))
  | .validateWithSet known => onBatch (Batch.validateStations known)
  | .validateWithDb c i => onCollectionLink c i Collection.validateStations
  | .checkBlock c j k => do
    let _ ← Run.checkBlock c j k
    pure ()
  | .checkCondition c j => do
    let _ ← Run.checkCondition c j
    pure ()
  | .makeTable c j i connected =>
    onCollectionLink c i (Collection.onConditionLink j (Condition.makeTable connected))
  | .fetchResults c j i => onCollectionLink c i (Collection.onConditionLink j Condition.fetchResults)

/-- Run the operations one after another; one that fails is caught, and the next runs on what
it left. -/
def runSteps (steps : List Step) : Act Run Unit :=
  steps.forM fun st => do
    let _ ← Act.attempt st.act
    pure ()

theorem Step.keeps_act : ∀ st : Step, Act.Keeps Keeps st.act
  | .setSensorId c j k pairs => keeps_onBatch (Batch.keeps_onCollection c
      (Collection.keeps_onCondition j (Condition.keeps_onBlock k (Block.keeps_setSensorId pairs))))
  | .validateWithSet known => keeps_onBatch (Batch.keeps_validateStations known)
  | .validateWithDb c i => keeps_onCollectionLink c i Collection.keeps_validateStations
  | .checkBlock c j k => keeps_bind (keeps_onBatch (Batch.keeps_onCollection c
      (Collection.keeps_onCondition j (Condition.keeps_onBlock k Block.keeps_check)))) fun _ =>
        keeps_pure _
  | .checkCondition c j => keeps_bind (keeps_onBatch (Batch.keeps_onCollection c
      (Collection.keeps_onCondition j Condition.keeps_check))) fun _ => keeps_pure _
  | .makeTable c j i connected => keeps_onCollectionLink c i
      (Collection.keeps_onConditionLink j (Condition.keeps_makeTable connected))
  | .fetchResults c j i => keeps_onCollectionLink c i
      (Collection.keeps_onConditionLink j Condition.keeps_fetchResults)

theorem keeps_runSteps (steps : List Step) : Act.Keeps Keeps (runSteps steps) :=
  keeps_forM _ fun st => keeps_bind (keeps_attempt (Step.keeps_act st)) fun _ => keeps_pure _

theorem run_runSteps (steps : List Step) (s : Scene Run) :
    ∃ s', EStateM.run (runSteps steps) s = .ok () s' := by
  induction steps generalizing s with
  | nil => exact ⟨s, rfl⟩
  | cons st rest ih =>
    -- a failure of the step is caught, so the rest always runs
    obtain ⟨s₁, h₁⟩ : ∃ s₁, EStateM.run (do let _ ← Act.attempt st.act; pure () : Act Run Unit) s =
        .ok () s₁ := by
      rw [EStateM.run_bind, Act.run_attempt]
      cases EStateM.run st.act s <;> exact ⟨_, rfl⟩
    obtain ⟨s₂, h₂⟩ := ih s₁
    refine ⟨s₂, ?_⟩
    simp only [runSteps, List.forM_eq_forM, List.forM_cons, EStateM.run_bind] at h₁ ⊢
    rw [h₁]
    exact h₂

/-- A check whose failure leaves a mark that fails it again, where the mark is kept by every
operation, fails after any run of operations once it has failed. -/
theorem stays_false {check : Act Run Bool} {M : Run → Prop} (hkeep : ∀ {r r'}, Keeps r r' → M r → M r')
    (hcheck : ∀ s, ∃ b log r, EStateM.run check s = .ok b ⟨log, r⟩ ∧ (M s.this → b = false) ∧
      (b = false → M r))
    (steps : List Step) {s s₁ : Scene Run} (h : EStateM.run check s = .ok false s₁) :
    ∃ s₂ s₃, EStateM.run (runSteps steps) s₁ = .ok () s₂ ∧ EStateM.run check s₂ = .ok false s₃ := by
  obtain ⟨b, log, r, hrun, -, hmark⟩ := hcheck s
  rw [h] at hrun
  cases hrun
  obtain ⟨s₂, h₂⟩ := run_runSteps steps ⟨log, r⟩
  have hk := keeps_runSteps steps ⟨log, r⟩
  rw [h₂, Act.lastObject_ok] at hk
  obtain ⟨b', log', r', h₃, hfail, -⟩ := hcheck s₂
  exact ⟨s₂, ⟨log', r'⟩, h₂, by rw [h₃, hfail (hkeep hk (hmark rfl))]⟩

/-- Once the check of a block or of a condition has failed, it fails again after any sequence of
further operations: setting sensor ids, checking stations against a list or against the
database, checking blocks and conditions, making tables and fetching results, any of which
may fail. -/
theorem failed_check_stays_failed (steps : List Step) (c j : Nat) :
    (∀ (k : Nat) (s s₁ : Scene Run), EStateM.run (checkBlock c j k) s = .ok false s₁ →
      ∃ s₂ s₃, EStateM.run (runSteps steps) s₁ = .ok () s₂ ∧
        EStateM.run (checkBlock c j k) s₂ = .ok false s₃) ∧
    (∀ s s₁ : Scene Run, EStateM.run (checkCondition c j) s = .ok false s₁ →
      ∃ s₂ s₃, EStateM.run (runSteps steps) s₁ = .ok () s₂ ∧
        EStateM.run (checkCondition c j) s₂ = .ok false s₃) :=
  ⟨fun k _ _ h => stays_false (fun hk hm => (hk.conditionAt c j).blockMarked hm)
      (run_checkBlock_marks c j k) steps h,
    fun _ _ h => stays_false (fun hk hm => (hk.conditionAt c j).flagged hm)
      (run_checkCondition_marks c j) steps h⟩

/-- A sheet with one condition on a sensor, read before its sensor id is set: its check fails,
and still fails after the sensor id is set, though setting it first would have passed. -/
theorem late_sensor_id_check_stays_failed :
    let book : Workbook := { sheets := [{ title := "C", extent := 4, cells :=
      [(⟨1, 1⟩, .text "start"), (⟨1, 2⟩, .text "end"), (⟨2, 1⟩, .text "1.2.2018"),
        (⟨2, 2⟩, .text "31.3.2018"), (⟨3, 1⟩, .text "site"), (⟨3, 2⟩, .text "master_alias"),
        (⟨3, 3⟩, .text "condition"), (⟨4, 1⟩, .text "s1120"), (⟨4, 2⟩, .text "m"),
        (⟨4, 3⟩, .text "s1120#keli_1 = 8")] }] }
    let b := (Act.run (Batch.addCollections ["info"] ⟨2018, 1, 1, 0, 0, 0, 0⟩)
      { name := "test", source := "input.xlsx", book } #[]).2.1
    let steps : List Step := [.setSensorId 0 0 0 (.ok localSensorTable),
      .validateWithSet localStationValues, .checkCondition 0 0]
    (b.collections.flatMap fun kc => kc.2.conditions.map (·.idString)) = ["s1120_m"] ∧
    (Act.run (do runSteps steps; checkCondition 0 0) { batch := b } #[]).1 = .ok true ∧
    ∃ s₁, EStateM.run (checkCondition 0 0) ⟨#[], { batch := b }⟩ = .ok false s₁ ∧
      ∃ s₂ s₃, EStateM.run (runSteps steps) s₁ = .ok () s₂ ∧
        EStateM.run (checkCondition 0 0) s₂ = .ok false s₃ := by
  intro book b steps
  -- the three runs on the sheet, computed together
  obtain ⟨hmade, hlate, hfalse⟩ :
      (b.collections.flatMap fun kc => kc.2.conditions.map (·.idString)) = ["s1120_m"] ∧
      (Act.run (do runSteps steps; checkCondition 0 0) { batch := b } #[]).1 = .ok true ∧
      (Act.run (checkCondition 0 0) { batch := b } #[]).1 = .ok false := by
    dsimp only [b, book, steps]
    decide +kernel
  obtain ⟨r, log, s', h, -, -⟩ := run_checkCondition_marks 0 0 ⟨#[], { batch := b }⟩
  have h' : checkCondition 0 0 ⟨#[], { batch := b }⟩ = .ok r ⟨log, s'⟩ := h
  obtain rfl : r = false := by
    simpa only [Act.run, h', Except.ok.injEq] using hfalse
  exact ⟨hmade, hlate, ⟨log, s'⟩, h, (failed_check_stays_failed steps 0 0).2 _ _ h⟩

end Run

end RoadWeather
