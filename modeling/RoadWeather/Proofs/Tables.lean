import RoadWeather.Proofs.Validity
import RoadWeather.Collection.Database

/-! # Making the tables of a collection -/

namespace RoadWeather

open RoadWeather.Act

/-! ## Statements run on a connection -/

namespace Link

/-- `l'` is `l` after running the statements `xs`, each followed by a commit. -/
structure Ran (l l' : Link) (xs : List String) : Prop where
  spec : l'.spec = l.spec
  executed : l'.executed.toList = l.executed.toList ++ xs
  commits : l'.commits = l.commits + xs.length
  rollbacks : l'.rollbacks = l.rollbacks

theorem Ran.nil (l : Link) : Ran l l [] := ⟨rfl, by simp, rfl, rfl⟩

theorem Ran.append {l₁ l₂ l₃ : Link} {xs ys : List String} (h₁ : Ran l₁ l₂ xs)
    (h₂ : Ran l₂ l₃ ys) : Ran l₁ l₃ (xs ++ ys) where
  spec := h₂.spec.trans h₁.spec
  executed := by rw [h₂.executed, h₁.executed, List.append_assoc]
  commits := by rw [h₂.commits, h₁.commits, List.length_append, Nat.add_assoc]
  rollbacks := h₂.rollbacks.trans h₁.rollbacks

theorem run_execute_accepted {s : Scene Link} (h : s.this.spec.failOn = []) (sql : String) :
    EStateM.run (execute sql) s =
      .ok (s.this.spec.answerFor sql) ⟨s.log, { s.this with executed := s.this.executed.push sql }⟩ := by
  simp [execute, LinkSpec.refuses, h]

theorem run_commit (s : Scene Link) :
    EStateM.run commit s = .ok () ⟨s.log, { s.this with commits := s.this.commits + 1 }⟩ := rfl

end Link

/-! ## The table of one condition -/

namespace Block

theorem run_check_ready {b : Block} (h : b.Ready) (log : Array Record) :
    EStateM.run check ⟨log, b⟩ = .ok true ⟨log, b⟩ := by
  obtain ⟨hkind, hsensor, hempty⟩ := h
  obtain ⟨k, hk⟩ := Option.isSome_iff_exists.mp hkind
  simp only [check, EStateM.run_bind, Act.run_self, hk, Option.isNone_some, Bool.false_eq_true,
    if_false]
  rw [if_neg]
  · simp [Problems.isEmpty, hempty]
  · rintro ⟨hp, hm⟩
    split at hm
    · exact hsensor ⟨hk ▸ hp, by assumption⟩
    · cases hm

theorem run_sql_ready {b : Block} (h : b.Ready) (log : Array Record) :
    EStateM.run sql ⟨log, b⟩ = .ok b.query ⟨log, b⟩ := by
  simp only [sql, EStateM.run_bind, run_check_ready h]
  rfl

end Block

namespace Condition

def blockTable (b : Block) : String := blockStatement b.aliasName b.query

def tableStatements (c : Condition) : List String :=
  [dropStatement c.idString,
    "\n".intercalate (c.blocks.map blockTable) ++
      masterStatement c.idString (c.blocks.map (·.aliasName)) c.aliasFormula]

theorem not_ready_default : ¬ (default : Condition).Ready := not_ready_of_flagged flagged_default

theorem mem_of_ready {cs : List Condition} {i : Nat} (h : (cs.getD i default).Ready) :
    i < cs.length ∧ cs.getD i default ∈ cs := by
  by_cases hi : i < cs.length
  · rw [List.getD_eq_getElem?_getD, List.getElem?_eq_getElem hi, Option.getD_some] at h ⊢
    exact ⟨hi, List.getElem_mem hi⟩
  · rw [List.getD_eq_getElem?_getD, List.getElem?_eq_none (Nat.le_of_not_lt hi),
      Option.getD_none] at h
    exact absurd h not_ready_default

theorem set_getD_of_ready {cs : List Condition} {i : Nat} (h : (cs.getD i default).Ready) :
    cs.set i (cs.getD i default) = cs := by
  have hi := (mem_of_ready h).1
  rw [List.getD_eq_getElem?_getD, List.getElem?_eq_getElem hi, Option.getD_some,
    List.set_getElem_self]

theorem run_blockStatements_ready {c : Condition} (hready : ∀ b ∈ c.blocks, b.Ready) (k : Nat) :
    ∀ (i : Nat) (acc : List String) (log : Array Record), i + k = c.blocks.length →
      EStateM.run (blockStatements k i acc) ⟨log, c⟩ =
        .ok (acc.reverse ++ (c.blocks.drop i).map blockTable) ⟨log, c⟩ := by
  induction k with
  | zero =>
    intro i acc log hk
    rw [List.drop_eq_nil_of_le (by omega)]
    simp [blockStatements]
  | succ k ih =>
    intro i acc log hk
    have hi : i < c.blocks.length := by omega
    have hget : c.blocks.getD i default = c.blocks[i] := by
      rw [List.getD_eq_getElem?_getD, List.getElem?_eq_getElem hi, Option.getD_some]
    have hsql : EStateM.run (onBlock i Block.sql) ⟨log, c⟩ = .ok c.blocks[i].query ⟨log, c⟩ := by
      simp only [onBlock, Act.run_focus, hget,
        Block.run_sql_ready (hready _ (List.getElem_mem hi)),
        List.set_getElem_self]
    rw [blockStatements.eq_2, EStateM.run_bind, hsql]
    simp only [EStateM.run_bind, Act.run_self, hget]
    rw [ih (i + 1) _ log (by omega), List.drop_eq_getElem_cons hi]
    simp only [List.reverse_cons, List.map_cons, blockTable, List.append_assoc, List.singleton_append]

theorem run_allBlockStatements {c : Condition} (hready : ∀ b ∈ c.blocks, b.Ready)
    (log : Array Record) : EStateM.run (blockStatements c.blocks.length 0 []) ⟨log, c⟩ =
      .ok (c.blocks.map blockTable) ⟨log, c⟩ := by
  simpa using run_blockStatements_ready hready _ 0 [] log (by simp)

theorem run_onCondition_ok {α : Type} {a : Act Condition α} {c c' : Condition} {l : Link}
    {log log' : Array Record} {x : α} (h : EStateM.run a ⟨log, c⟩ = .ok x ⟨log', c'⟩) :
    EStateM.run (onCondition a) ⟨log, (c, l)⟩ = .ok x ⟨log', (c', l)⟩ := by
  rw [onCondition, Act.run_focus, h]

theorem run_onLink_ok {α : Type} {a : Act Link α} {c : Condition} {l l' : Link}
    {log log' : Array Record} {x : α} (h : EStateM.run a ⟨log, l⟩ = .ok x ⟨log', l'⟩) :
    EStateM.run (onLink a) ⟨log, (c, l)⟩ = .ok x ⟨log', (c, l')⟩ := by
  rw [onLink, Act.run_focus, h]

theorem run_makeTable_ready {c : Condition} (hready : c.Ready) (hmany : c.blocks.length ≠ 1)
    {l : Link} (hfail : l.spec.failOn = []) (log : Array Record) :
    ∃ log' l', EStateM.run (makeTable true) ⟨log, (c, l)⟩ = .ok () ⟨log', (c, l')⟩ ∧
      l.Ran l' c.tableStatements := by
  unfold makeTable
  rw [Act.run_bind_ok (Act.run_self _)]
  dsimp only
  rw [Act.run_bind_ok (Act.run_note _ _ _ _), Act.run_bind_ok
    (run_onCondition_ok (Act.run_attempt_ok (run_allBlockStatements hready.2 _)))]
  dsimp only
  rw [Act.run_bind_ok (Act.run_self _)]
  dsimp only
  rw [if_neg hmany, Act.run_bind_ok (Act.run_note _ _ _ _), Act.run_bind_ok (Act.run_note _ _ _ _),
    if_neg (by decide), EStateM.run_bind, Act.run_attempt]
  -- the statements, each committed; the connection refuses neither
  rw [Act.run_bind_ok (run_onLink_ok (Link.run_execute_accepted ?drop _)),
    Act.run_bind_ok (run_onLink_ok (Link.run_commit _)),
    Act.run_bind_ok (run_onLink_ok (Link.run_execute_accepted ?create _)),
    Act.run_bind_ok (run_onLink_ok (Link.run_commit _)),
    Act.run_bind_ok (Act.run_self _), Act.run_note]
  case drop => exact hfail
  case create => exact hfail
  dsimp only
  exact ⟨_, _, rfl, rfl, by simp [tableStatements], rfl, rfl⟩

theorem run_makeTable_single {c : Condition} (hready : ∀ b ∈ c.blocks, b.Ready)
    (hone : c.blocks.length = 1) (connected : Bool) (l : Link) (log : Array Record) :
    ∃ log', EStateM.run (makeTable connected) ⟨log, (c, l)⟩ =
      .error ⟨.wrongKind, "'odict_keys' object is not subscriptable"⟩ ⟨log', (c, l)⟩ := by
  unfold makeTable
  rw [Act.run_bind_ok (Act.run_self _)]
  dsimp only
  rw [Act.run_bind_ok (Act.run_note _ _ _ _), Act.run_bind_ok
    (run_onCondition_ok (Act.run_attempt_ok (run_allBlockStatements hready _)))]
  dsimp only
  rw [Act.run_bind_ok (Act.run_self _)]
  dsimp only
  rw [if_pos hone, Act.run_bind_error (Act.run_fail _ _ _)]
  exact ⟨_, rfl⟩

/-! ## Checks that leave ready conditions alone -/

/-- A ready condition stays as it is, and one that is not ready does not become ready. -/
def Steady (d d' : Condition) : Prop := (d.Ready → d' = d) ∧ (¬ d.Ready → ¬ d'.Ready)

instance : IsPreorder Condition Steady where
  refl _ := ⟨fun _ => rfl, id⟩
  trans _ _ _ h₁ h₂ := ⟨fun h => (h₂.1 (h₁.1 h ▸ h)).trans (h₁.1 h), h₂.2 ∘ h₁.2⟩

theorem Steady.ready {d d' : Condition} (h : Steady d d') (h' : d'.Ready) : d.Ready :=
  Classical.byContradiction fun hn => h.2 hn h'

theorem steady_check (s : Scene Condition) :
    ∃ r log d, EStateM.run check s = .ok r ⟨log, d⟩ ∧ (r = true ↔ s.this.Ready) ∧
      Steady s.this d := by
  obtain ⟨r, log, d, hrun, hr, -, hsame, hflag⟩ := run_check s
  exact ⟨r, log, d, hrun, hr, hsame, fun hn => not_ready_of_flagged (hflag hn)⟩

theorem Steady.ready_iff {d d' : Condition} (h : Steady d d') : d'.Ready ↔ d.Ready :=
  ⟨h.ready, fun hd => h.1 hd ▸ hd⟩

def inRound (second : Bool) (d : Condition) : Bool := d.secondary == second && decide d.Ready

def roundStatements (second : Bool) (d : Condition) : List String :=
  if d.inRound second then d.tableStatements else []

theorem roundStatements_of_not_ready {d : Condition} (h : ¬ d.Ready) (second : Bool) :
    roundStatements second d = [] := by
  simp [roundStatements, inRound, h]

theorem roundStatements_of_ready {d : Condition} (h : d.Ready) {second : Bool}
    (hsec : d.secondary = second) : roundStatements second d = d.tableStatements := by
  simp [roundStatements, inRound, h, hsec]

theorem roundStatements_of_other {d : Condition} {second : Bool} (hsec : d.secondary = !second) :
    roundStatements second d = [] := by
  cases second <;> simp [roundStatements, inRound, hsec]

theorem flatMap_roundStatements (second : Bool) (cs : List Condition) :
    cs.flatMap (roundStatements second) = (cs.filter (inRound second)).flatMap tableStatements := by
  induction cs with
  | nil => rfl
  | cons d rest ih =>
    cases h : d.inRound second <;> simp [roundStatements, h, ← ih]

end Condition

/-! ## The tables of a collection -/

namespace Collection

open Condition (roundStatements)

def tableStatements (c : Collection) : List String :=
  (c.conditions.filter (Condition.inRound false)).flatMap Condition.tableStatements ++
    (c.conditions.filter (Condition.inRound true)).flatMap Condition.tableStatements

theorem flatMap_range_getD {α β : Type} (l : List α) (d : α) (f : α → List β) :
    (List.range l.length).flatMap (fun i => f (l.getD i d)) = l.flatMap f := by
  have hmap : (List.range l.length).map (l.getD · d) = l :=
    List.ext_getElem (by simp) fun i _ hi => by
      simp [List.getD_eq_getElem?_getD, List.getElem?_eq_getElem hi]
  rw [← List.flatMap_map, hmap]

/-- The conditions stay in their places, each steady. -/
structure Steady (c c' : Collection) : Prop where
  length : c'.conditions.length = c.conditions.length
  conditions : ∀ j, Condition.Steady (c.conditions.getD j default) (c'.conditions.getD j default)

instance : IsPreorder Collection Steady where
  refl _ := ⟨rfl, fun _ => refl_of Condition.Steady _⟩
  trans _ _ _ h₁ h₂ := ⟨h₂.length.trans h₁.length,
    fun j => trans_of Condition.Steady (h₁.conditions j) (h₂.conditions j)⟩

theorem Steady.set {c₀ c : Collection} (h : Steady c₀ c) {i : Nat} {d : Condition}
    (hd : Condition.Steady (c.conditions.getD i default) d) :
    Steady c₀ { c with conditions := c.conditions.set i d } :=
  ⟨(List.length_set ..).trans h.length,
    fun j => trans_of Condition.Steady (h.conditions j) (Condition.getD_set_rel hd j)⟩

section
variable {c₀ : Collection}

theorem run_checkAt {c : Collection} (hst : Steady c₀ c) (i : Nat) (l : Link)
    (log : Array Record) :
    ∃ r log' c', EStateM.run (onSelf (onCondition i Condition.check)) ⟨log, (c, l)⟩ =
        .ok r ⟨log', (c', l)⟩ ∧ Steady c₀ c' ∧ (r = true ↔ (c₀.conditions.getD i default).Ready) ∧
      (r = true → c' = c ∧ c.conditions.getD i default = c₀.conditions.getD i default) := by
  obtain ⟨r, log', d, hrun, hr, hd⟩ := Condition.steady_check ⟨log, c.conditions.getD i default⟩
  have hi := hst.conditions i
  refine ⟨r, log', { c with conditions := c.conditions.set i d }, ?_, hst.set hd,
    hr.trans hi.ready_iff, fun hr' => ?_⟩
  · simp only [onSelf, onCondition, Act.run_focus, hrun]
  · have hready := hr.mp hr'
    rw [hd.1 hready, Condition.set_getD_of_ready hready]
    exact ⟨rfl, hi.1 (hi.ready hready)⟩

theorem run_makeAt {c : Collection} {i : Nat} (hready : (c.conditions.getD i default).Ready)
    (hmany : (c.conditions.getD i default).blocks.length ≠ 1) {l : Link}
    (hfail : l.spec.failOn = []) (log : Array Record) :
    ∃ log' l', EStateM.run (onConditionLink i (Condition.makeTable true)) ⟨log, (c, l)⟩ =
        .ok () ⟨log', (c, l')⟩ ∧ l.Ran l' (c.conditions.getD i default).tableStatements := by
  obtain ⟨log', l', hrun, hran⟩ := Condition.run_makeTable_ready hready hmany hfail log
  refine ⟨log', l', ?_, hran⟩
  simp only [onConditionLink, Act.run_focus, hrun, Condition.set_getD_of_ready hready]

variable (hmany : ∀ d ∈ c₀.conditions, d.Ready → d.blocks.length ≠ 1)
include hmany

theorem run_makePrimaryTable {c : Collection} (hst : Steady c₀ c) {l : Link}
    (hfail : l.spec.failOn = []) (i : Nat) (log : Array Record) :
    ∃ log' c' l', EStateM.run (makePrimaryTable i) ⟨log, (c, l)⟩ = .ok () ⟨log', (c', l')⟩ ∧
      Steady c₀ c' ∧ l.Ran l' (roundStatements false (c₀.conditions.getD i default)) := by
  unfold makePrimaryTable
  rw [Act.run_bind_ok (Act.run_self _)]
  dsimp only
  cases hsec : (c.conditions.getD i default).secondary with
  | true =>
    -- it reads other conditions: left to the second round
    refine ⟨log, c, l, by rw [if_pos rfl]; rfl, hst, ?_⟩
    by_cases hready : (c₀.conditions.getD i default).Ready
    · rw [Condition.roundStatements_of_other (by rw [← (hst.conditions i).1 hready, hsec]; rfl)]
      exact Link.Ran.nil l
    · rw [Condition.roundStatements_of_not_ready hready]
      exact Link.Ran.nil l
  | false =>
    obtain ⟨r, log', c', hrun, hst', hr, hsame⟩ := run_checkAt hst i l log
    rw [if_neg (by decide), Act.run_bind_ok hrun]
    cases r with
    | false =>
      refine ⟨log', c', l, by rw [Bool.not_false, if_pos rfl]; rfl, hst', ?_⟩
      rw [Condition.roundStatements_of_not_ready fun h => Bool.false_ne_true (hr.mpr h)]
      exact Link.Ran.nil l
    | true =>
      obtain ⟨rfl, hd⟩ := hsame rfl
      have hready := hr.mp rfl
      obtain ⟨log'', l', hmake, hran⟩ := run_makeAt (hd ▸ hready)
        (hd ▸ hmany _ (Condition.mem_of_ready hready).2 hready) hfail log'
      refine ⟨log'', c', l', by rw [if_neg (by decide), hmake], hst, ?_⟩
      rw [← hd, Condition.roundStatements_of_ready (hd ▸ hready) hsec]
      exact hran

theorem run_makeSecondaryTable {c : Collection} (hst : Steady c₀ c) {l : Link}
    (hfail : l.spec.failOn = []) (i : Nat) (log : Array Record) :
    ∃ log' c' l', EStateM.run (makeSecondaryTable i) ⟨log, (c, l)⟩ = .ok () ⟨log', (c', l')⟩ ∧
      Steady c₀ c' ∧ l.Ran l' (roundStatements true (c₀.conditions.getD i default)) := by
  unfold makeSecondaryTable
  obtain ⟨r, log', c', hrun, hst', hr, hsame⟩ := run_checkAt hst i l log
  rw [Act.run_bind_ok hrun]
  cases r with
  | false =>
    refine ⟨log', c', l, by rw [Bool.not_false, if_pos rfl]; rfl, hst', ?_⟩
    rw [Condition.roundStatements_of_not_ready fun h => Bool.false_ne_true (hr.mpr h)]
    exact Link.Ran.nil l
  | true =>
    obtain ⟨rfl, hd⟩ := hsame rfl
    have hready := hr.mp rfl
    rw [if_neg (by decide), Act.run_bind_ok (Act.run_self _)]
    dsimp only
    cases hsec : (c'.conditions.getD i default).secondary with
    | false =>
      -- on sensors only: made in the first round
      refine ⟨log', c', l, by rw [if_neg (by decide)]; rfl, hst, ?_⟩
      rw [Condition.roundStatements_of_other (by rw [← hd, hsec]; rfl)]
      exact Link.Ran.nil l
    | true =>
      obtain ⟨log'', l', hmake, hran⟩ := run_makeAt (hd ▸ hready)
        (hd ▸ hmany _ (Condition.mem_of_ready hready).2 hready) hfail log'
      refine ⟨log'', c', l', by rw [if_pos rfl, hmake], hst, ?_⟩
      rw [← hd, Condition.roundStatements_of_ready (hd ▸ hready) hsec]
      exact hran

end

theorem run_round {c₀ : Collection} {f : Nat → Act OnLink Unit} (g : Nat → List String)
    (hf : ∀ (i : Nat) (log : Array Record) (c : Collection) (l : Link), Steady c₀ c →
      l.spec.failOn = [] →
      ∃ log' c' l', EStateM.run (f i) ⟨log, (c, l)⟩ = .ok () ⟨log', (c', l')⟩ ∧
        Steady c₀ c' ∧ Link.Ran l l' (g i)) :
    ∀ (L : List Nat) (log : Array Record) (c : Collection) (l : Link), Steady c₀ c →
      l.spec.failOn = [] →
      ∃ log' c' l', EStateM.run (forIn L PUnit.unit fun i _ => do
          f i
          pure (ForInStep.yield PUnit.unit)) ⟨log, (c, l)⟩ = .ok () ⟨log', (c', l')⟩ ∧
        Steady c₀ c' ∧ l.Ran l' (L.flatMap g)
  | [], log, c, l, hst, _ => ⟨log, c, l, by rw [List.forIn_nil]; rfl, hst, Link.Ran.nil l⟩
  | i :: rest, log, c, l, hst, hfail => by
    obtain ⟨log₁, c₁, l₁, h₁, hst₁, hran₁⟩ := hf i log c l hst hfail
    obtain ⟨log₂, c₂, l₂, h₂, hst₂, hran₂⟩ :=
      run_round g hf rest log₁ c₁ l₁ hst₁ (hran₁.spec ▸ hfail)
    refine ⟨log₂, c₂, l₂, ?_, hst₂, by rw [List.flatMap_cons]; exact hran₁.append hran₂⟩
    have hstep : EStateM.run (f i >>= fun _ => pure (ForInStep.yield PUnit.unit))
        ⟨log, (c, l)⟩ = .ok (ForInStep.yield PUnit.unit) ⟨log₁, (c₁, l₁)⟩ :=
      (Act.run_bind_ok h₁).trans (Act.run_pure _ _)
    rw [List.forIn_cons, Act.run_bind_ok hstep]
    exact h₂

/-- Over a connection that refuses nothing, making the tables of a collection whose ready
conditions each have more than one block finishes. It runs, each followed by a commit, the
statements of the tables of the ready conditions on sensors only, in the order of the
collection, then those of the ready conditions that read others, and nothing else; every
ready condition is left as it is, and no other becomes ready. -/
theorem makeTables_runs_ready_tables (c : Collection)
    (hmany : ∀ d ∈ c.conditions, d.Ready → d.blocks.length ≠ 1) {l : Link}
    (hfail : l.spec.failOn = []) (log : Array Record) :
    ∃ log' c' l', EStateM.run makeTables ⟨log, (c, l)⟩ = .ok () ⟨log', (c', l')⟩ ∧
      l.Ran l' c.tableStatements ∧ Steady c c' := by
  -- the first round, on sensors only, then the second, each over every position
  obtain ⟨log₁, c₁, l₁, h₁, hst₁, hran₁⟩ := run_round _
    (fun i log _ _ hst hfail => run_makePrimaryTable hmany hst hfail i log)
    (List.range c.conditions.length) log c l (refl_of Steady c) hfail
  obtain ⟨log₂, c₂, l₂, h₂, hst₂, hran₂⟩ := run_round _
    (fun i log _ _ hst hfail => run_makeSecondaryTable hmany hst hfail i log)
    (List.range c.conditions.length) log₁ c₁ l₁ hst₁ (hran₁.spec ▸ hfail)
  refine ⟨log₂, c₂, l₂, ?_, ?_, hst₂⟩
  · unfold makeTables
    rw [Act.run_bind_ok (Act.run_self _)]
    dsimp only
    rw [Act.run_bind_ok h₁, Act.run_bind_ok h₂]
    rfl
  · have hall := hran₁.append hran₂
    rw [flatMap_range_getD c.conditions default (roundStatements false),
      flatMap_range_getD c.conditions default (roundStatements true),
      Condition.flatMap_roundStatements, Condition.flatMap_roundStatements] at hall
    exact hall

/-- A ready condition on sensors of two blocks gets its table. -/
theorem two_block_table_made :
    let c : Collection := { (default : Collection) with conditions := [{ (default : Condition) with
      blocks := [{ (default : Block) with kind := some .primary, sensorId := .int 27 },
        { (default : Block) with kind := some .primary, sensorId := .int 28 }],
      blocksMade := true }] }
    (∀ d ∈ c.conditions, d.Ready → d.blocks.length ≠ 1) ∧
      ∃ log' c' l', EStateM.run makeTables ⟨#[], (c, { spec := {} })⟩ = .ok () ⟨log', (c', l')⟩ ∧
        Link.Ran { spec := {} } l' c.tableStatements ∧ Steady c c' :=
  ⟨by decide, makeTables_runs_ready_tables _ (by decide) rfl #[]⟩

theorem run_makeTables_single {d : Condition} (hready : d.Ready) (hsec : d.secondary = false)
    (hone : d.blocks.length = 1) {c : Collection} (hc : c.conditions = [d]) (l : Link)
    (log : Array Record) :
    ∃ s, EStateM.run makeTables ⟨log, (c, l)⟩ =
      .error ⟨.wrongKind, "'odict_keys' object is not subscriptable"⟩ s := by
  have hget : c.conditions.getD 0 default = d := by rw [hc]; rfl
  -- the check passes and leaves the collection as it is; the table then fails
  obtain ⟨r, log', c', hrun, -, hr, hsame⟩ := run_checkAt (refl_of Steady c) 0 l log
  obtain ⟨hc', -⟩ := hsame (hr.mpr (hget ▸ hready))
  rw [hc'] at hrun
  obtain ⟨log'', hmake⟩ := Condition.run_makeTable_single hready.2 hone true l log'
  have hfirst : EStateM.run (makePrimaryTable 0) ⟨log, (c, l)⟩ =
      .error ⟨.wrongKind, "'odict_keys' object is not subscriptable"⟩
        ⟨log'', ({ c with conditions := c.conditions.set 0 d }, l)⟩ := by
    unfold makePrimaryTable
    rw [Act.run_bind_ok (Act.run_self _)]
    dsimp only
    rw [hget, hsec, if_neg (by decide), Act.run_bind_ok hrun, hr.mpr (hget ▸ hready),
      if_neg (by decide)]
    simp only [onConditionLink, Act.run_focus, hget, hmake]
  unfold makeTables
  rw [Act.run_bind_ok (Act.run_self _)]
  dsimp only
  rw [hc, List.length_singleton, List.range_one, List.forIn_cons,
    Act.run_bind_error (Act.run_bind_error (Act.run_bind_error hfirst))]
  exact ⟨_, rfl⟩

/-- A ready condition on sensors with a single block: making the tables of its collection
fails, over a connection that refuses nothing. -/
theorem single_block_stops_tables :
    let d : Condition := { (default : Condition) with
      blocks := [{ (default : Block) with kind := some .primary, sensorId := .int 27 }],
      blocksMade := true }
    d.Ready ∧ ∃ s, EStateM.run makeTables
      ⟨#[], ({ (default : Collection) with conditions := [d] }, { spec := {} })⟩ =
        .error ⟨.wrongKind, "'odict_keys' object is not subscriptable"⟩ s :=
  ⟨by decide, run_makeTables_single (by decide) rfl rfl rfl _ _⟩

end Collection

end RoadWeather
