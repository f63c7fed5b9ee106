import RoadWeather.Proofs.Logging
import RoadWeather.Collection.Basic

/-! # Adding conditions to a collection

Of the conditions added under one identifier the collection keeps the first
(`adds_keep_first_per_identifier`). -/

namespace RoadWeather

open RoadWeather.Act

/-- A request to add a condition: its site, master alias, formula and worksheet row. -/
structure Addition where
  site : Value
  masterAlias : Value
  raw : Value
  excelRow : Value

def Addition.run (a : Addition) : Act Collection Unit :=
  Collection.add a.site a.masterAlias a.raw a.excelRow

/-! ## The first condition of each identifier -/

namespace Condition

def firstsById (taken : List String) : List Condition → List Condition
  | [] => []
  | c :: rest =>
    if c.idString ∈ taken then firstsById taken rest
    else c :: firstsById (taken ++ [c.idString]) rest

variable {taken : List String} {x : Condition}

theorem firstsById_sublist (taken : List String) (cs : List Condition) :
    (firstsById taken cs).Sublist cs := by
  induction cs generalizing taken with
  | nil => exact List.Sublist.slnil
  | cons c rest ih =>
    unfold firstsById
    split
    · exact (ih taken).cons c
    · exact (ih _).cons_cons c

theorem idString_not_mem_of_mem_firstsById {cs : List Condition}
    (hx : x ∈ firstsById taken cs) : x.idString ∉ taken := by
  induction cs generalizing taken with
  | nil => cases hx
  | cons c rest ih =>
    unfold firstsById at hx
    split at hx
    · exact ih hx
    · next hc =>
      rcases List.mem_cons.mp hx with rfl | hx
      · exact hc
      · exact fun h => ih hx (List.mem_append_left _ h)

theorem nodup_firstsById (taken : List String) (cs : List Condition) :
    ((firstsById taken cs).map (·.idString)).Nodup := by
  induction cs generalizing taken with
  | nil => exact List.nodup_nil
  | cons c rest ih =>
    unfold firstsById
    split
    · exact ih taken
    · refine List.nodup_cons.mpr ⟨fun h => ?_, ih _⟩
      -- a later one with the same identifier would have it among the taken
      obtain ⟨y, hy, hid⟩ := List.mem_map.mp h
      exact idString_not_mem_of_mem_firstsById hy (List.mem_append_right _ (by simp [hid]))

theorem idString_mem_firstsById (taken : List String) (cs : List Condition) :
    ∀ x ∈ cs, x.idString ∈ taken ∨ x.idString ∈ (firstsById taken cs).map (·.idString) := by
  induction cs generalizing taken with
  | nil => intro x hx; cases hx
  | cons c rest ih =>
    intro x hx
    unfold firstsById
    split
    · next hc =>
      rcases List.mem_cons.mp hx with rfl | hx
      · exact .inl hc
      · exact ih taken x hx
    · rcases List.mem_cons.mp hx with rfl | hx
      · exact .inr (List.mem_cons_self ..)
      · rcases ih _ x hx with h | h
        · rcases List.mem_append.mp h with h | h
          · exact .inl h
          · exact .inr (List.mem_cons.mpr (.inl (List.mem_singleton.mp h)))
        · exact .inr (List.mem_cons_of_mem _ h)

theorem find?_firstsById (taken : List String) (cs : List Condition) :
    ∀ x ∈ firstsById taken cs, cs.find? (·.idString == x.idString) = some x := by
  induction cs generalizing taken with
  | nil => intro x hx; cases hx
  | cons c rest ih =>
    intro x hx
    unfold firstsById at hx
    split at hx
    · next hc =>
      -- the head is skipped: its identifier is taken and the one kept is not
      have hne : c.idString ≠ x.idString := fun h =>
        idString_not_mem_of_mem_firstsById hx (h ▸ hc)
      rw [List.find?_cons_of_neg (by simpa using hne)]
      exact ih taken x hx
    · rcases List.mem_cons.mp hx with rfl | hx
      · exact List.find?_cons_of_pos (by simp)
      · have hne : c.idString ≠ x.idString := fun h =>
          idString_not_mem_of_mem_firstsById hx (List.mem_append_right _ (by simp [h]))
        rw [List.find?_cons_of_neg (by simpa using hne)]
        exact ih _ x hx

end Condition

/-! ## One addition and a run of them -/

namespace Collection

def candidate (c : Collection) (a : Addition) : Except Fault Condition :=
  (outcome (EStateM.run (Condition.make a.site a.masterAlias a.raw (.time c.timeFrom)
    (.time c.timeUntil) a.excelRow) ⟨#[], ()⟩)).1

def candidates (c : Collection) (adds : List Addition) : List Condition :=
  adds.filterMap fun a => (c.candidate a).toOption

def accept (c : Collection) (made : Except Fault Condition) (excelRow : Value) : Collection :=
  match made with
  | .error _ =>
    { c with
      problems := c.problems.record
        (.text ("Could not build Condition, skipping (Excel row " ++ excelRow.plain ++ ")")) }
  | .ok cond =>
    if c.conditions.any (·.idString == cond.idString) then
      { c with
        problems := c.problems.record (.text ("Condition identifier \"" ++ cond.idString ++
          "\" is already reserved, skipping (Excel row " ++ excelRow.plain ++ ")")) }
    else { c with conditions := c.conditions ++ [cond] }

def acceptAll (c : Collection) (adds : List Addition) : Collection :=
  adds.foldl (fun c a => c.accept (c.candidate a) a.excelRow) c

@[simp] theorem accept_timeFrom (c : Collection) (made : Except Fault Condition) (r : Value) :
    (c.accept made r).timeFrom = c.timeFrom := by
  unfold accept
  split
  · rfl
  · split <;> rfl

@[simp] theorem accept_timeUntil (c : Collection) (made : Except Fault Condition) (r : Value) :
    (c.accept made r).timeUntil = c.timeUntil := by
  unfold accept
  split
  · rfl
  · split <;> rfl

@[simp] theorem candidates_accept (c : Collection) (made : Except Fault Condition) (r : Value)
    (adds : List Addition) : (c.accept made r).candidates adds = c.candidates adds := by
  simp only [candidates, candidate, accept_timeFrom, accept_timeUntil]

theorem any_idString_eq_true_iff (cs : List Condition) (x : Condition) :
    cs.any (·.idString == x.idString) = true ↔ x.idString ∈ cs.map (·.idString) := by
  simp [List.any_eq_true]

theorem accept_conditions (c : Collection) (made : Except Fault Condition) (r : Value) :
    (c.accept made r).conditions = c.conditions ++
      Condition.firstsById (c.conditions.map (·.idString)) (made.toOption.toList) := by
  unfold accept
  split
  · simp [Condition.firstsById, Except.toOption]
  · next cond =>
    by_cases h : c.conditions.any (·.idString == cond.idString) = true
    · have hmem := (any_idString_eq_true_iff _ _).mp h
      simp [h, Condition.firstsById, hmem, Except.toOption]
    · have hmem : cond.idString ∉ c.conditions.map (·.idString) :=
        fun hm => h ((any_idString_eq_true_iff _ _).mpr hm)
      simp [h, Condition.firstsById, hmem, Except.toOption]

theorem run_report (msg : String) (n : Notice) (s : Scene Collection) :
    ∃ log, EStateM.run (report msg n) s =
      .ok () ⟨log, { s.this with problems := s.this.problems.record (.text msg) }⟩ :=
  Act.run_focus_add _ _ _ _ _

theorem run_add (a : Addition) (s : Scene Collection) :
    ∃ log, EStateM.run a.run s = .ok () ⟨log, s.this.accept (s.this.candidate a) a.excelRow⟩ := by
  obtain ⟨l, hmade⟩ := (Condition.blind_make a.site a.masterAlias a.raw (.time s.this.timeFrom)
    (.time s.this.timeUntil) a.excelRow).run_attempt s.log ()
  -- the condition is made on a scene of its own, from the collection's log
  have hfocus : EStateM.run (Act.focus (fun _ => ()) (fun c _ => c) (Act.attempt
      (Condition.make a.site a.masterAlias a.raw (.time s.this.timeFrom) (.time s.this.timeUntil)
        a.excelRow))) s = .ok (s.this.candidate a) ⟨l, s.this⟩ := by
    rw [run_focus, hmade]
    rfl
  unfold Addition.run add
  rw [run_bind_ok (run_self s), run_bind_ok hfocus]
  cases s.this.candidate a with
  | error e => exact run_report _ _ ⟨l, s.this⟩
  | ok cond =>
    simp only [accept]
    -- the test of the addition is the test `accept` makes
    by_cases h : s.this.conditions.any (·.idString == cond.idString) = true
    · rw [if_pos h, if_pos h]
      exact run_report _ _ ⟨l, s.this⟩
    · rw [if_neg h, if_neg h]
      exact ⟨l, rfl⟩

theorem run_adds (adds : List Addition) (s : Scene Collection) :
    ∃ log, EStateM.run (adds.forM Addition.run) s = .ok () ⟨log, s.this.acceptAll adds⟩ := by
  induction adds generalizing s with
  | nil => exact ⟨s.log, rfl⟩
  | cons a rest ih =>
    obtain ⟨l, h⟩ := run_add a s
    obtain ⟨l', h'⟩ := ih ⟨l, s.this.accept (s.this.candidate a) a.excelRow⟩
    refine ⟨l', ?_⟩
    rw [List.forM_eq_forM, List.forM_cons, run_bind_ok h]
    exact h'

theorem acceptAll_conditions (c : Collection) (adds : List Addition) :
    (c.acceptAll adds).conditions =
      c.conditions ++ Condition.firstsById (c.conditions.map (·.idString)) (c.candidates adds) := by
  induction adds generalizing c with
  | nil => simp [acceptAll, candidates, Condition.firstsById]
  | cons a rest ih =>
    have hstep : c.acceptAll (a :: rest) = (c.accept (c.candidate a) a.excelRow).acceptAll rest := rfl
    rw [hstep, ih, candidates_accept, accept_conditions]
    -- the candidate of `a` is the first of the list, when it is made
    cases hc : c.candidate a with
    | error e => simp [candidates, hc, Condition.firstsById, Except.toOption]
    | ok cond =>
      have hcands : c.candidates (a :: rest) = cond :: c.candidates rest := by
        simp [candidates, hc, Except.toOption]
      rw [hcands]
      by_cases hmem : cond.idString ∈ c.conditions.map (·.idString) <;>
        simp [Condition.firstsById, hmem, Except.toOption]

/-- Additions keep the first condition made for each identifier. A run of additions finishes;
the collection keeps its conditions and appends, in the order they came, the candidates that
were made and whose identifier neither it nor an earlier candidate had. Each of them is the
first candidate with its identifier, and afterwards every identifier made is held. -/
theorem adds_keep_first_per_identifier (adds : List Addition) (s : Scene Collection) :
    ∃ log new, EStateM.run (adds.forM Addition.run) s = .ok () ⟨log, s.this.acceptAll adds⟩ ∧
      (s.this.acceptAll adds).conditions = s.this.conditions ++ new ∧
      new.Sublist (s.this.candidates adds) ∧
      (new.map (·.idString)).Nodup ∧
      (∀ x ∈ new, x.idString ∉ s.this.conditions.map (·.idString) ∧
        (s.this.candidates adds).find? (·.idString == x.idString) = some x) ∧
      ∀ x ∈ s.this.candidates adds,
        x.idString ∈ (s.this.acceptAll adds).conditions.map (·.idString) := by
  obtain ⟨log, hrun⟩ := run_adds adds s
  let taken := s.this.conditions.map (·.idString)
  refine ⟨log, Condition.firstsById taken (s.this.candidates adds), hrun,
    acceptAll_conditions _ _, Condition.firstsById_sublist _ _, Condition.nodup_firstsById _ _,
    fun x hx => ⟨Condition.idString_not_mem_of_mem_firstsById hx,
      Condition.find?_firstsById _ _ x hx⟩, fun x hx => ?_⟩
  rw [acceptAll_conditions, List.map_append, List.mem_append]
  exact Condition.idString_mem_firstsById _ _ x hx

/-- Two different pairs of site and master alias that give one identifier: `a_b` with `c` and
`a` with `b_c` both make a condition `a_b_c`, and the second is skipped as reserved although
its pair is new. -/
theorem joined_pairs_share_identifier :
    ∃ c, make (.time ⟨2018, 2, 1, 0, 0, 0, 0⟩) (.time ⟨2018, 3, 31, 0, 0, 0, 0⟩) (.text "C")
        ⟨2018, 2, 1, 0, 0, 0, 0⟩ = .ok c ∧
      (c.candidate ⟨.text "a", .text "b_c", .text "y", .nothing⟩).toOption.map
        (fun d => (d.site, d.masterAlias, d.idString)) = some ("a", "b_c", "a_b_c") ∧
      ∃ log c', EStateM.run ([⟨.text "a_b", .text "c", .text "x", .nothing⟩,
        ⟨.text "a", .text "b_c", .text "y", .nothing⟩].forM Addition.run) ⟨#[], c⟩ = .ok () ⟨log, c'⟩ ∧
      c'.conditions.map (fun d => (d.site, d.masterAlias, d.idString)) = [("a_b", "c", "a_b_c")] ∧
      c'.problems.entries.map (·.message.plain) =
        ["Condition identifier \"a_b_c\" is already reserved, skipping (Excel row None)"] := by
  refine ⟨_, rfl, by decide +kernel, ?_⟩
  obtain ⟨log, h⟩ := run_adds [⟨.text "a_b", .text "c", .text "x", .nothing⟩,
    ⟨.text "a", .text "b_c", .text "y", .nothing⟩] ⟨#[], _⟩
  exact ⟨log, _, h, by decide +kernel, by decide +kernel⟩

end Collection

end RoadWeather
