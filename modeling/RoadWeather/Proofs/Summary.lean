import RoadWeather.Proofs.Tables
import RoadWeather.Condition.Results
import RoadWeather.Stations

/-! # Fetching the results of a condition

A fetched table is summarised by writes made in order, so a failing write leaves the summary half
updated. -/

namespace RoadWeather

open RoadWeather.Act RoadWeather.Time

/-! ## Writes made in order -/

namespace Act

variable {σ : Type}

def writeAll (ws : List (Except Fault (σ → σ))) : Act σ Unit :=
  ws.forM fun w => match w with
    | .ok f => Act.change f
    | .error e => throw e

def written : List (Except Fault (σ → σ)) → σ → σ
  | [], x => x
  | .ok f :: ws, x => written ws (f x)
  | .error _ :: _, x => x

def firstFailure : List (Except Fault (σ → σ)) → Option Fault
  | [] => none
  | .ok _ :: ws => firstFailure ws
  | .error e :: _ => some e

theorem run_writeAll (ws : List (Except Fault (σ → σ))) (s : Scene σ) :
    EStateM.run (writeAll ws) s = match firstFailure ws with
      | none => .ok () ⟨s.log, written ws s.this⟩
      | some e => .error e ⟨s.log, written ws s.this⟩ := by
  induction ws generalizing s with
  | nil => rfl
  | cons w ws ih =>
    cases w with
    | ok f =>
      simp only [writeAll] at ih ⊢
      exact ih _
    | error e => rfl

end Act

/-! ## The writes of a summary -/

namespace Condition

open RoadWeather.Table

/-- The writes of the summary of a table, in the order they are made: the table itself, the
first start and the last end, the span between them, the lengths of the true and of the false
pieces, the rest, and the three shares. A write whose value cannot be computed is the failure
that stops the summary. -/
def summaryWrites (t : Table) : List (Except Fault (Condition → Condition)) :=
  let from_ := extreme .lt <$> t.column "vfrom"
  let until_ := extreme .gt <$> t.column "vuntil"
  let whole := do let f ← from_; let u ← until_; u.minus f
  let valid := lengthWhere t true
  let notValid := lengthWhere t false
  let noData := do let w ← whole; let v ← valid; let n ← notValid; (w.minus v).bind (·.minus n)
  let secs := do (← whole).totalSeconds
  let shareOf (part : Except Fault Value) := do
    let w ← whole
    let sc ← secs
    share (← (← part).totalSeconds) w sc
  [.ok fun c => { c with results := t },
   (fun v c => { c with dataFrom := v }) <$> from_,
   (fun v c => { c with dataUntil := v }) <$> until_,
   (fun v c => { c with totalTime := v }) <$> whole,
   (fun v c => { c with validTime := v }) <$> valid,
   (fun v c => { c with notValidTime := v }) <$> notValid,
   (fun v c => { c with noDataTime := v }) <$> noData,
   (fun v c => { c with validShare := v }) <$> shareOf valid,
   (fun v c => { c with notValidShare := v }) <$> shareOf notValid,
   (fun v c => { c with noDataShare := v }) <$> shareOf noData]

@[simp] theorem run_liftE_ok {α : Type} (x : α) (s : Scene Condition) :
    EStateM.run (liftE (.ok x) : Act Condition α) s = .ok x s := rfl

@[simp] theorem run_liftE_error {α : Type} (f : Fault) (s : Scene Condition) :
    EStateM.run (liftE (.error f) : Act Condition α) s = .error f s := rfl

@[simp] theorem ok_bind {ε α β : Type} (a : α) (f : α → Except ε β) : (Except.ok a >>= f) = f a :=
  rfl

@[simp] theorem error_bind {ε α β : Type} (e : ε) (f : α → Except ε β) :
    (Except.error e >>= f) = Except.error e := rfl

theorem run_summarise (t : Table) (s : Scene Condition) :
    EStateM.run (summarise t) s = EStateM.run (Act.writeAll (summaryWrites t)) s := by
  rw [Act.run_writeAll]
  unfold summarise summaryWrites
  -- one case for each value the summary computes, in the order it computes them: a failure
  -- ends both sides at the same write
  cases h1 : t.column "vfrom" with
  | error f => simp only [EStateM.run_bind, run_change, run_liftE_error, firstFailure,
    Except.map_error, Functor.map_map, bind_map_left, error_bind, written]
  | ok fs =>
  cases h2 : t.column "vuntil" with
  | error f => simp only [EStateM.run_bind, run_change, run_liftE_ok, run_liftE_error,
    firstFailure, Except.map_ok, Except.map_error, error_bind, ok_bind, written]
  | ok us =>
  cases h3 : (extreme .gt us).minus (extreme .lt fs) with
  | error f => simp only [EStateM.run_bind, run_change, run_liftE_ok, h3, run_liftE_error,
    firstFailure, Except.map_ok, ok_bind, Except.map_error, error_bind, written]
  | ok w =>
  cases h4 : lengthWhere t true with
  | error f => simp only [EStateM.run_bind, run_change, run_liftE_ok, h3, run_liftE_error,
    firstFailure, Except.map_ok, ok_bind, Except.map_error, error_bind, map_bind, written]
  | ok v =>
  cases h5 : lengthWhere t false with
  | error f => simp only [EStateM.run_bind, run_change, run_liftE_ok, h3, run_liftE_error,
    firstFailure, Except.map_ok, ok_bind, Except.map_error, error_bind, map_bind, written]
  | ok n =>
  cases h6 : w.minus v with
  | error f => simp only [Except.bind, EStateM.run_bind, run_change, run_liftE_ok, h3, h6,
    run_liftE_error, firstFailure, Except.map_ok, ok_bind, Except.map_error, map_bind, error_bind,
    written]
  | ok x =>
  cases h7 : x.minus n with
  | error f =>
    simp only [Except.bind, EStateM.run_bind, run_change, run_liftE_ok, h3, h6, h7,
      run_liftE_error, firstFailure, Except.map_ok, ok_bind, Except.map_error, map_bind,
      error_bind, written]
  | ok d =>
  cases h8 : w.totalSeconds with
  | error f =>
    simp only [Except.bind, EStateM.run_bind, run_change, run_liftE_ok, h3, h8, h6, h7,
      run_liftE_error, firstFailure, Except.map_ok, ok_bind, error_bind, Except.map_error, written]
  | ok sc =>
  cases h9 : v.totalSeconds with
  | error f =>
    simp only [Except.bind, EStateM.run_bind, run_change, run_liftE_ok, h3, h8, h6, h9, h7,
      run_liftE_error, firstFailure, Except.map_ok, ok_bind, error_bind, Except.map_error,
      map_bind, written]
  | ok pv =>
  cases h10 : share pv w sc with
  | error f =>
    simp only [Except.bind, EStateM.run_bind, run_change, run_liftE_ok, h3, h8, h6, h9, h7, h10,
      run_liftE_error, firstFailure, Except.map_ok, ok_bind, Except.map_error, map_bind, written]
  | ok sv =>
  cases h11 : n.totalSeconds with
  | error f =>
    simp only [Except.bind, EStateM.run_bind, run_change, run_liftE_ok, h3, h8, h6, h9, h7, h11,
      h10, run_liftE_error, firstFailure, Except.map_ok, ok_bind, error_bind, Except.map_error,
      map_bind, written]
  | ok pn =>
  cases h12 : share pn w sc with
  | error f =>
    simp only [Except.bind, EStateM.run_bind, run_change, run_liftE_ok, h3, h8, h6, h9, h7, h11,
      h10, h12, run_liftE_error, firstFailure, Except.map_ok, ok_bind, Except.map_error, map_bind,
      written]
  | ok sn =>
  cases h13 : d.totalSeconds with
  | error f =>
    simp only [Except.bind, EStateM.run_bind, run_change, run_liftE_ok, h3, h8, h6, h9, h7, h11,
      h13, h10, h12, run_liftE_error, firstFailure, Except.map_ok, ok_bind, error_bind,
      Except.map_error, written]
  | ok pd =>
  cases h14 : share pd w sc with
  | error f =>
    simp only [Except.bind, EStateM.run_bind, run_change, run_liftE_ok, h3, h8, h6, h9, h7, h11,
      h13, h10, h12, h14, run_liftE_error, firstFailure, Except.map_ok, ok_bind, Except.map_error,
      written]
  | ok sd =>
    simp only [Except.bind, EStateM.run_bind, run_change, run_liftE_ok, h3, h8, h6, h9, h7, h11,
      h13, h10, h12, h14, firstFailure, Except.map_ok, ok_bind, written]

end Condition

/-! ## Fetching -/

namespace Link

theorem run_execute (sql : String) (s : Scene Link) :
    EStateM.run (execute sql) s =
      if s.this.spec.refuses sql then
        .error ⟨.runtime, "simulated db failure"⟩
          ⟨s.log, { s.this with executed := s.this.executed.push sql }⟩
      else .ok (s.this.spec.answerFor sql) ⟨s.log, { s.this with executed := s.this.executed.push sql }⟩ := by
  cases h : s.this.spec.refuses sql <;> simp [execute, h]

end Link

namespace Condition

theorem run_onCondition_check {s : Scene OnLink} (h : s.this.1.Ready) :
    ∃ log, EStateM.run (onCondition check) s = .ok true ⟨log, s.this⟩ := by
  obtain ⟨r, log, c, hcheck, hr, -, hsame, -⟩ := run_check ⟨s.log, s.this.1⟩
  obtain rfl := hsame h
  obtain rfl := hr.mpr h
  exact ⟨log, by simp [onCondition, hcheck]⟩

theorem run_fetchResults_refused {s : Scene OnLink} (h : s.this.1.Ready)
    (hrefuse : s.this.2.spec.refuses s.this.1.resultsQuery = true) :
    ∃ log, EStateM.run fetchResults s = .ok () ⟨log,
      ({ s.this.1 with problems := s.this.1.problems.record (.text "Cannot not fetch results from db") },
       { s.this.2 with executed := s.this.2.executed.push s.this.1.resultsQuery,
                       rollbacks := s.this.2.rollbacks + 1 })⟩ := by
  obtain ⟨log, hcheck⟩ := run_onCondition_check h
  obtain ⟨log', hrep⟩ := run_report "Cannot not fetch results from db" .error ⟨log, s.this.1⟩
  refine ⟨log', ?_⟩
  rw [fetchResults, EStateM.run_bind, hcheck]
  simp [EStateM.run_bind, onLink, Link.run_execute, hrefuse, Link.rollback, onCondition, hrep]

theorem run_fetchResults_answered {s : Scene OnLink} (h : s.this.1.Ready)
    (haccept : s.this.2.spec.refuses s.this.1.resultsQuery = false) :
    ∃ log, EStateM.run fetchResults s =
      EStateM.run (onCondition (summarise (Table.ofAnswer (s.this.2.spec.answerFor s.this.1.resultsQuery))))
        ⟨log, (s.this.1, { s.this.2 with executed := s.this.2.executed.push s.this.1.resultsQuery })⟩ := by
  obtain ⟨log, hcheck⟩ := run_onCondition_check h
  refine ⟨log, ?_⟩
  simp [fetchResults, EStateM.run_bind, hcheck, onLink, Link.run_execute, haccept]

/-- Fetching the results of a ready condition is all or nothing only when the query is refused:
it is rolled back and recorded, and the summary stays as it was. A table that comes back is
summarised by its writes in order: a write that fails ends the fetching with the writes before
it made and none recorded as a problem. -/
theorem fetchResults_writes_in_order {s : Scene OnLink} (h : s.this.1.Ready) :
    (s.this.2.spec.refuses s.this.1.resultsQuery = true →
      ∃ log, EStateM.run fetchResults s = .ok () ⟨log,
        ({ s.this.1 with problems := s.this.1.problems.record (.text "Cannot not fetch results from db") },
         { s.this.2 with executed := s.this.2.executed.push s.this.1.resultsQuery,
                         rollbacks := s.this.2.rollbacks + 1 })⟩) ∧
    (s.this.2.spec.refuses s.this.1.resultsQuery = false →
      ∃ log, EStateM.run fetchResults s =
        let ws := summaryWrites (Table.ofAnswer (s.this.2.spec.answerFor s.this.1.resultsQuery))
        let l := { s.this.2 with executed := s.this.2.executed.push s.this.1.resultsQuery }
        match Act.firstFailure ws with
        | none => .ok () ⟨log, (Act.written ws s.this.1, l)⟩
        | some e => .error e ⟨log, (Act.written ws s.this.1, l)⟩) := by
  refine ⟨run_fetchResults_refused h, fun haccept => ?_⟩
  obtain ⟨log, hrun⟩ := run_fetchResults_answered h haccept
  refine ⟨log, ?_⟩
  rw [hrun, onCondition, run_focus, run_summarise, Act.run_writeAll]
  dsimp only
  cases Act.firstFailure (summaryWrites (Table.ofAnswer (s.this.2.spec.answerFor s.this.1.resultsQuery))) <;>
    rfl

def noRows : Link :=
  { spec := { answer := { columns := ["vfrom", "vuntil", "vdiff", "m_0", "master"], rows := [] } } }

/-- A condition on a sensor, made and given its sensor id, fetches the empty table of its period:
the fetching is the writes of the summary in order. -/
theorem made_condition_fetch_writes_in_order :
    ∃ c, (Act.run (Condition.make (.text "s") (.text "m") (.text "s1120#keli_1 = 8")
        (.time ⟨2018, 2, 1, 0, 0, 0, 0⟩) (.time ⟨2018, 3, 31, 23, 59, 59, 0⟩) .nothing) () #[]).1 = .ok c ∧
      let c' := (Act.run (setSensorIds (.ok localSensorTable)) c #[]).2.1
      c'.Ready ∧
      ∃ log, EStateM.run fetchResults ⟨#[], (c', noRows)⟩ =
        let ws := summaryWrites (Table.ofAnswer (noRows.spec.answerFor c'.resultsQuery))
        let l := { noRows with executed := noRows.executed.push c'.resultsQuery }
        match Act.firstFailure ws with
        | none => .ok () ⟨log, (Act.written ws c', l)⟩
        | some e => .error e ⟨log, (Act.written ws c', l)⟩ := by
  obtain ⟨c, hmake, hc⟩ : ∃ c, (Act.run (Condition.make (.text "s") (.text "m")
      (.text "s1120#keli_1 = 8") (.time ⟨2018, 2, 1, 0, 0, 0, 0⟩) (.time ⟨2018, 3, 31, 23, 59, 59, 0⟩)
      .nothing) () #[]).1 = .ok c ∧ (Act.run (setSensorIds (.ok localSensorTable)) c #[]).2.1.Ready :=
    Act.exists_ok_of_run (by decide +kernel)
  exact ⟨c, hmake, hc, (@fetchResults_writes_in_order ⟨#[], (_, noRows)⟩ hc).2 rfl⟩

/-- The empty table stops the summary at the time without data, whose span cannot be taken from
a whole that is not a number: the first start and the whole span are left written, and nothing
is recorded. -/
theorem empty_table_fetch_half_written :
    ((Act.run (Condition.make (.text "s") (.text "m") (.text "s1120#keli_1 = 8")
        (.time ⟨2018, 2, 1, 0, 0, 0, 0⟩) (.time ⟨2018, 3, 31, 23, 59, 59, 0⟩) .nothing) () #[]).1.toOption.map
      fun c =>
        let c' := (Act.run (setSensorIds (.ok localSensorTable)) c #[]).2.1
        let r := Act.run fetchResults (c', noRows) #[]
        ((decide c'.Ready, r.1), (c'.dataFrom.kindName, c'.totalTime.kindName),
          (r.2.1.1.dataFrom.kindName, r.2.1.1.totalTime.kindName), r.2.1.1.problems.isEmpty)) =
    some ((true, .error ⟨.wrongKind, "unsupported operand type(s) for -: 'float' and 'datetime.timedelta'"⟩),
      ("NoneType", "datetime.timedelta"), ("float", "float"), true) := by
  decide +kernel

end Condition

end RoadWeather
