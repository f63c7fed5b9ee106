import RoadWeather.Proofs.Validity

/-! # Checking again

A second check gives the same answer and reports its problems once more. -/

namespace RoadWeather

open RoadWeather.Act

namespace Block

def checkNote (b : Block) : Option String :=
  if b.kind.isNone then some "Type of Block is None (should be .secondary == True or False)"
  else if b.kind = some .primary ∧ b.sensorId = .nothing then some "Block has no sensor id"
  else none

def checked (b : Block) : Block :=
  match b.checkNote with
  | some m => { b with problems := b.problems.record (.text m) }
  | none => b

def problemsAfter (b : Block) (n : Nat) : Problems :=
  match b.checkNote with
  | some m => (fun p => p.record (.text m))^[n] b.problems
  | none => b.problems

theorem checkNote_of_ready {b : Block} (h : b.Ready) : b.checkNote = none := by
  obtain ⟨hkind, hsensor, -⟩ := h
  have hsome : b.kind.isNone = false := by simpa using hkind
  simp [checkNote, hsome, hsensor]

theorem not_ready_of_checkNote {b : Block} {m : String} (h : b.checkNote = some m) : ¬ b.Ready :=
  fun hr => by simp [checkNote_of_ready hr] at h

theorem checked_of_ready {b : Block} (h : b.Ready) : b.checked = b := by
  simp [checked, checkNote_of_ready h]

@[simp] theorem checkNote_checked (b : Block) : b.checked.checkNote = b.checkNote := by
  unfold checked
  split <;> rfl

theorem ready_checked_iff (b : Block) : b.checked.Ready ↔ b.Ready := by
  unfold checked
  split
  · next m hm =>
    -- a block with a note is not ready, before and after the note is recorded
    have hafter : ¬ Ready { b with problems := b.problems.record (.text m) } :=
      not_ready_of_checkNote (b := { b with problems := _ }) hm
    exact iff_of_false hafter (not_ready_of_checkNote hm)
  · exact Iff.rfl

theorem with_problems_checked (b : Block) (p : Problems) :
    { b.checked with problems := p } = { b with problems := p } := by
  unfold checked
  split <;> rfl

theorem problemsAfter_checked (b : Block) (n : Nat) :
    b.checked.problemsAfter n = b.problemsAfter (n + 1) := by
  unfold problemsAfter
  rw [checkNote_checked]
  cases h : b.checkNote with
  | some m => simp [checked, h, Function.iterate_succ_apply]
  | none => simp [checked, h]

theorem checked_iterate (n : Nat) (b : Block) :
    checked^[n] b = { b with problems := b.problemsAfter n } := by
  induction n generalizing b with
  | zero =>
    show b = _
    unfold problemsAfter
    split <;> rfl
  | succ n ih => rw [Function.iterate_succ_apply, ih, problemsAfter_checked, with_problems_checked]

theorem run_check_eq (s : Scene Block) :
    ∃ log, EStateM.run check s = .ok (decide s.this.Ready) ⟨log, s.this.checked⟩ := by
  cases hk : s.this.kind with
  | none =>
    -- no kind: the first check reports, and the second cannot apply
    obtain ⟨log, hrep⟩ := run_report "Type of Block is None (should be .secondary == True or False)"
      .error s
    have hready : ¬ s.this.Ready := by simp [Ready, hk]
    refine ⟨log, ?_⟩
    simp only [check, EStateM.run_bind, Act.run_self, hk, Option.isNone_none, if_true, hrep]
    simp [Problems.isEmpty, Problems.record_ne_nil, hready, checked, checkNote, hk]
  | some k =>
    by_cases hsensor : k = .primary ∧ s.this.sensorId = .nothing
    · -- a block on a sensor without its id: the second check reports
      obtain ⟨rfl, hn⟩ := hsensor
      obtain ⟨log, hrep⟩ := run_report "Block has no sensor id" .error s
      have hready : ¬ s.this.Ready := by simp [Ready, hk, hn]
      refine ⟨log, ?_⟩
      simp only [check, EStateM.run_bind, Act.run_self, hk, Option.isNone_some,
        Bool.false_eq_true, if_false, hn, and_self, if_true, hrep]
      simp [Problems.isEmpty, Problems.record_ne_nil, hready, checked, checkNote, hk, hn]
    · -- the kind is known and a sensor id is there: nothing is reported
      have hnote : s.this.checkNote = none := by
        simp only [checkNote, hk, Option.isNone_some, Bool.false_eq_true, if_false]
        rw [if_neg (by simpa using hsensor)]
      have hready : s.this.Ready ↔ s.this.problems.entries = [] := by simp [Ready, hk, hsensor]
      refine ⟨s.log, ?_⟩
      simp only [check, EStateM.run_bind, Act.run_self, hk, Option.isNone_some,
        Bool.false_eq_true, if_false]
      rw [if_neg]
      · have hempty : s.this.problems.entries.isEmpty = decide (s.this.problems.entries = []) := by
          cases s.this.problems.entries <;> rfl
        simp [Problems.isEmpty, hready, checked, hnote, hempty]
      · rintro ⟨hp, hm⟩
        split at hm
        · exact hsensor ⟨Option.some.inj hp, by assumption⟩
        · cases hm

theorem run_checks (n : Nat) (s : Scene Block) :
    ∃ log, EStateM.run ((List.replicate n ()).mapM fun _ => check) s =
      .ok (List.replicate n (decide s.this.Ready)) ⟨log, checked^[n] s.this⟩ := by
  induction n generalizing s with
  | zero => exact ⟨s.log, rfl⟩
  | succ n ih =>
    obtain ⟨log, h⟩ := run_check_eq s
    obtain ⟨log', h'⟩ := ih ⟨log, s.this.checked⟩
    refine ⟨log', ?_⟩
    rw [List.replicate_succ, List.mapM_cons, run_bind_ok h, EStateM.run_bind, h']
    simp [ready_checked_iff, Function.iterate_succ_apply, List.replicate_succ]

end Block

namespace Condition

def firstUnready (c : Condition) : Option Nat := c.blocks.findIdx? fun b => !decide b.Ready

def checked (c : Condition) : Condition :=
  match c.firstUnready with
  | some i => { c with blocks := c.blocks.modify i Block.checked }
  | none => c

theorem firstUnready_eq_some_iff {c : Condition} {i : Nat} :
    c.firstUnready = some i ↔
      ∃ h : i < c.blocks.length, ¬ c.blocks[i].Ready ∧ ∀ j (hj : j < i), c.blocks[j].Ready := by
  simp [firstUnready, List.findIdx?_eq_some_iff_getElem]

theorem firstUnready_eq_none_iff {c : Condition} :
    c.firstUnready = none ↔ ∀ b ∈ c.blocks, b.Ready := by
  simp [firstUnready]

theorem firstUnready_checked (c : Condition) : c.checked.firstUnready = c.firstUnready := by
  unfold checked
  split
  · next i hi =>
    -- block `i` stays the first that is not ready: it is checked, and those before it stay
    obtain ⟨hlt, hnot, hbefore⟩ := firstUnready_eq_some_iff.mp hi
    rw [hi, firstUnready_eq_some_iff]
    refine ⟨by simpa using hlt, ?_, fun j hj => ?_⟩
    · rw [List.getElem_modify_eq, Block.ready_checked_iff]
      exact hnot
    · rw [List.getElem_modify_ne _ _ (by omega)]
      exact hbefore j hj
  · rfl

theorem ready_checked_iff (c : Condition) : c.checked.Ready ↔ c.Ready := by
  unfold checked
  split
  · next i hi =>
    -- block `i` is not ready, before and after it is checked
    obtain ⟨hlt, hnot, -⟩ := firstUnready_eq_some_iff.mp hi
    have hlt_mod : i < (c.blocks.modify i Block.checked).length := by simpa using hlt
    have hmod : ¬ (c.blocks.modify i Block.checked)[i].Ready := by
      rw [List.getElem_modify_eq, Block.ready_checked_iff]
      exact hnot
    exact iff_of_false (fun h => hmod (h.2 _ (List.getElem_mem _)))
      (fun h => hnot (h.2 _ (List.getElem_mem _)))
  · exact Iff.rfl

theorem checked_iterate (n : Nat) (c : Condition) :
    checked^[n] c = match c.firstUnready with
      | some i => { c with blocks := c.blocks.modify i (Block.checked^[n]) }
      | none => c := by
  induction n generalizing c with
  | zero => split <;> simp
  | succ n ih =>
    rw [Function.iterate_succ_apply, ih, firstUnready_checked]
    unfold checked
    split
    · simp [List.modify_modify_eq, Function.iterate_succ]
    · rfl

theorem run_check_go_eq (k : Nat) : ∀ (i : Nat) (s : Scene Condition),
    (hlen : i + k = s.this.blocks.length) → (∀ j (hj : j < i), s.this.blocks[j].Ready) →
    ∃ log, EStateM.run (check.go k i) s =
      .ok (decide (s.this.firstUnready = none)) ⟨log, s.this.checked⟩ := by
  induction k with
  | zero =>
    intro i s hlen hbefore
    -- every block comes before `i`, so every block is ready
    have hnone : s.this.firstUnready = none := firstUnready_eq_none_iff.mpr fun b hb => by
      obtain ⟨j, hj, rfl⟩ := List.getElem_of_mem hb
      exact hbefore j (by omega)
    exact ⟨s.log, by simp [check.go, hnone, checked]⟩
  | succ k ih =>
    intro i s hlen hbefore
    have hi : i < s.this.blocks.length := by omega
    obtain ⟨log, hrun⟩ := Block.run_check_eq ⟨s.log, s.this.blocks[i]⟩
    have hon : EStateM.run (onBlock i Block.check) s = .ok (decide s.this.blocks[i].Ready)
        ⟨log, { s.this with blocks := s.this.blocks.set i s.this.blocks[i].checked }⟩ := by
      simp only [onBlock, Act.run_focus, List.getD_eq_getElem?_getD, List.getElem?_eq_getElem hi,
        Option.getD_some, hrun]
    rw [check.go.eq_2, EStateM.run_bind, hon]
    by_cases hready : s.this.blocks[i].Ready
    · -- block `i` is ready and stays as it is: the blocks after it decide
      have hsame : { s.this with blocks := s.this.blocks.set i s.this.blocks[i].checked } = s.this := by
        rw [Block.checked_of_ready hready, List.set_getElem_self]
      rw [hsame, decide_eq_true hready]
      exact ih (i + 1) ⟨log, s.this⟩ (by simp only; omega) fun j hj => by
        rcases Nat.lt_succ_iff_lt_or_eq.mp hj with hj | rfl
        · exact hbefore j hj
        · exact hready
    · -- block `i` is the first that is not ready: it is checked, and the check stops
      have hfirst : s.this.firstUnready = some i :=
        firstUnready_eq_some_iff.mpr ⟨hi, hready, hbefore⟩
      have hmod : s.this.blocks.modify i Block.checked = s.this.blocks.set i s.this.blocks[i].checked := by
        rw [List.modify_eq_set, List.getElem?_eq_getElem hi, Option.getD_some]
      refine ⟨log, ?_⟩
      rw [decide_eq_false hready]
      simp [checked, hfirst, hmod]

theorem run_check_eq (s : Scene Condition) :
    ∃ log, EStateM.run check s = .ok (decide s.this.Ready) ⟨log, s.this.checked⟩ := by
  obtain ⟨log, hgo⟩ := run_check_go_eq s.this.blocks.length 0 s (by omega) nofun
  have hmade : s.this.checked.blocksMade = s.this.blocksMade := by
    unfold checked
    split <;> rfl
  have hanswer : (decide (s.this.firstUnready = none) && s.this.blocksMade) = decide s.this.Ready := by
    rw [Bool.eq_iff_iff, Bool.and_eq_true, decide_eq_true_iff, decide_eq_true_iff,
      firstUnready_eq_none_iff]
    exact and_comm
  refine ⟨log, ?_⟩
  simp only [check, EStateM.run_bind, Act.run_self, hgo]
  rw [← hanswer, ← hmade]
  rfl

theorem run_checks (n : Nat) (s : Scene Condition) :
    ∃ log, EStateM.run ((List.replicate n ()).mapM fun _ => check) s =
      .ok (List.replicate n (decide s.this.Ready)) ⟨log, checked^[n] s.this⟩ := by
  induction n generalizing s with
  | zero => exact ⟨s.log, rfl⟩
  | succ n ih =>
    obtain ⟨log, h⟩ := run_check_eq s
    obtain ⟨log', h'⟩ := ih ⟨log, s.this.checked⟩
    refine ⟨log', ?_⟩
    rw [List.replicate_succ, List.mapM_cons, run_bind_ok h, EStateM.run_bind, h']
    simp [ready_checked_iff, Function.iterate_succ_apply, List.replicate_succ]

end Condition

/-! ## Checking any number of times -/

/-- Each of any number of checks of a block or a condition gives the same answer, whether it
is ready, and together they change nothing but the problems of one block: a block gains the
note of its check once per check, and a condition changes only its first block that is not
ready, in that way. -/
theorem checks_answer_alike (n : Nat) :
    (∀ s : Scene Block, ∃ log, EStateM.run ((List.replicate n ()).mapM fun _ => Block.check) s =
      .ok (List.replicate n (decide s.this.Ready))
        ⟨log, { s.this with problems := s.this.problemsAfter n }⟩) ∧
    (∀ s : Scene Condition,
      ∃ log, EStateM.run ((List.replicate n ()).mapM fun _ => Condition.check) s =
        .ok (List.replicate n (decide s.this.Ready)) ⟨log, match s.this.firstUnready with
          | some i => { s.this with blocks := s.this.blocks.modify i fun b =>
              { b with problems := b.problemsAfter n } }
          | none => s.this⟩) := by
  refine ⟨fun s => ?_, fun s => ?_⟩
  · obtain ⟨log, h⟩ := Block.run_checks n s
    exact ⟨log, by rw [h, Block.checked_iterate]⟩
  · obtain ⟨log, h⟩ := Condition.run_checks n s
    have hblock : Block.checked^[n] = fun b => { b with problems := b.problemsAfter n } :=
      funext (Block.checked_iterate n)
    exact ⟨log, by rw [h, Condition.checked_iterate, hblock]⟩

/-- A block on a sensor whose id is not set gets a problem from its first check, and the
second check counts it again: checking is not free of effects. -/
theorem second_check_counts_again :
    ∃ b s, EStateM.run (Block.make (.text "m") (.text "s") (.int 0) (.text "s1120#keli_1 = 8"))
        ⟨#[], ()⟩ = .ok b s ∧
      b.problems.entries = [] ∧
      (Act.run Block.check b #[]).2.1.problems.entries.map (·.more) = [0] ∧
      (Act.run (do let _ ← Block.check; Block.check) b #[]).2.1.problems.entries.map (·.more) = [1] :=
  ⟨_, _, rfl, rfl, rfl, rfl⟩

end RoadWeather
