import RoadWeather.Proofs.Adding
import RoadWeather.Collection.FromSheet

/-! # The condition rows of a worksheet -/

namespace RoadWeather

open RoadWeather.Act RoadWeather.Time

namespace Collection

def emptyCellNote (p : Position) : String :=
  "Cell " ++ p.name ++ " is empty: condition row ignored"

/-- What a row of a worksheet asks of its collection, one request at a time. -/
inductive RowEntry where
  | condition (a : Addition)
  | emptyCell (p : Position)

def applyEntry (c : Collection) : RowEntry → Collection
  | .condition a => c.accept (c.candidate a) a.excelRow
  | .emptyCell p => { c with problems := c.problems.record (.text (emptyCellNote p)) }

def rowCells (s : Sheet) (r : Nat) : List (Position × Value) :=
  [1, 2, 3].map fun c => ((⟨r, c⟩ : Position), s.get ⟨r, c⟩)

def holdsNothing (x : Position × Value) : Bool := x.2 matches .nothing

def rowEntries (s : Sheet) (r : Nat) : List RowEntry :=
  if (rowCells s r).any holdsNothing then
    ((rowCells s r).filter holdsNothing).map fun x => .emptyCell x.1
  else [.condition ⟨s.get ⟨r, 1⟩, s.get ⟨r, 2⟩, s.get ⟨r, 3⟩, .int r⟩]

def conditionRows (s : Sheet) : List Nat := List.range' 4 (s.lastRow - 3)

def sheetEntries (s : Sheet) : List RowEntry := (conditionRows s).flatMap (rowEntries s)

/-- An empty cell that is not in the sheet's file at all. -/
def Gap (s : Sheet) (x : Position × Value) : Prop := holdsNothing x = true ∧ s.has x.1 = false

/-! ## One cell, one row -/

def cellVisit (s : Sheet) (reading : Reading) (x : Position × Value) (full : Bool) :
    Act Collection (ForInStep Bool) :=
  if holdsNothing x then
    if (decide (reading = .stored) && !s.has x.1) = true then do
      Act.fail .noAttribute "'EmptyCell' object has no attribute 'coordinate'"
      report (emptyCellNote x.1) .silent
      pure (.yield false)
    else do
      report (emptyCellNote x.1) .silent
      pure (.yield false)
  else pure (.yield full)

theorem readRows_succ (s : Sheet) (reading : Reading) (fuel r : Nat) :
    readRows s reading (fuel + 1) r =
      if r > s.lastRow then pure () else (do
        let full ← forIn (rowCells s r) true (cellVisit s reading)
        if full then
          add (s.get ⟨r, 1⟩) (s.get ⟨r, 2⟩) (s.get ⟨r, 3⟩) (.int r)
          readRows s reading fuel (r + 1)
        else readRows s reading fuel (r + 1)) := by
  rw [readRows.eq_2]
  rfl

section
variable {s : Sheet} {reading : Reading} {x : Position × Value} {full : Bool}

theorem run_cellVisit_filled (h : holdsNothing x = false) (st : Scene Collection) :
    EStateM.run (cellVisit s reading x full) st = .ok (.yield full) st := by
  rw [cellVisit, if_neg (by simp [h])]
  rfl

theorem run_cellVisit_empty (h : holdsNothing x = true)
    (hin : reading = .stored → s.has x.1 = true) (st : Scene Collection) :
    ∃ log, EStateM.run (cellVisit s reading x full) st =
      .ok (.yield false) ⟨log, st.this.applyEntry (.emptyCell x.1)⟩ := by
  have hpass : (decide (reading = .stored) && !s.has x.1) = false := by
    cases hr : reading <;> simp_all
  obtain ⟨log, hrep⟩ := run_report (emptyCellNote x.1) .silent st
  refine ⟨log, ?_⟩
  rw [cellVisit, if_pos h, if_neg (by simp [hpass]), run_bind_ok hrep]
  rfl

theorem run_cellVisit_gap (hgap : Gap s x) (st : Scene Collection) :
    EStateM.run (cellVisit s .stored x full) st =
      .error ⟨.noAttribute, "'EmptyCell' object has no attribute 'coordinate'"⟩ st := by
  rw [cellVisit, if_pos hgap.1, if_pos (by simp [hgap.2]), run_bind_error (run_fail _ _ _)]

theorem run_forIn_cellVisit :
    ∀ (cells : List (Position × Value)), (reading = .stored → ∀ x ∈ cells,
      holdsNothing x = true → s.has x.1 = true) → ∀ (full : Bool) (st : Scene Collection),
      ∃ log, EStateM.run (forIn cells full (cellVisit s reading)) st =
        .ok (full && !cells.any holdsNothing)
          ⟨log, ((cells.filter holdsNothing).map fun x => RowEntry.emptyCell x.1).foldl
            applyEntry st.this⟩
  | [], _, full, st => ⟨st.log, by simp⟩
  | x :: rest, hin, full, st => by
    have hrest : reading = .stored → ∀ y ∈ rest, holdsNothing y = true → s.has y.1 = true :=
      fun hr y hy => hin hr y (List.mem_cons_of_mem x hy)
    rw [List.forIn_cons]
    cases hx : holdsNothing x
    · -- a cell that holds something leaves the row as it was
      obtain ⟨log, h⟩ := run_forIn_cellVisit rest hrest full st
      refine ⟨log, ?_⟩
      rw [run_bind_ok (run_cellVisit_filled hx st)]
      simpa [hx] using h
    · -- an empty cell is reported and the row is no longer full
      obtain ⟨log₁, h₁⟩ := @run_cellVisit_empty _ _ _ full hx
        (fun hr => hin hr x List.mem_cons_self hx) st
      obtain ⟨log₂, h₂⟩ := run_forIn_cellVisit rest hrest false ⟨log₁, st.this.applyEntry (.emptyCell x.1)⟩
      refine ⟨log₂, ?_⟩
      rw [run_bind_ok h₁]
      simpa [hx] using h₂

theorem run_forIn_cellVisit_gap :
    ∀ (cells : List (Position × Value)), (∃ x ∈ cells, Gap s x) →
      ∀ (full : Bool) (st : Scene Collection), ∃ st', EStateM.run
        (forIn cells full (cellVisit s .stored)) st =
          .error ⟨.noAttribute, "'EmptyCell' object has no attribute 'coordinate'"⟩ st'
  | [], ⟨_, hx, _⟩, _, _ => absurd hx List.not_mem_nil
  | x :: rest, hgap, full, st => by
    rw [List.forIn_cons]
    by_cases hx : Gap s x
    · exact ⟨st, run_bind_error (run_cellVisit_gap hx st)⟩
    -- the gap is further on; this cell is visited as any other
    have hrest : ∃ y ∈ rest, Gap s y := by
      obtain ⟨y, hy, hgy⟩ := hgap
      rcases List.mem_cons.mp hy with rfl | hy
      · exact absurd hgy hx
      · exact ⟨y, hy, hgy⟩
    cases he : holdsNothing x
    · rw [run_bind_ok (run_cellVisit_filled he st)]
      exact run_forIn_cellVisit_gap rest hrest full st
    · obtain ⟨log, h⟩ := @run_cellVisit_empty _ _ _ full he
        (fun _ => by simpa [Gap, he] using hx) st
      rw [run_bind_ok h]
      exact run_forIn_cellVisit_gap rest hrest false _

theorem run_readRows_row {fuel r : Nat} (hr : r ≤ s.lastRow)
    (hin : reading = .stored → ∀ x ∈ rowCells s r, holdsNothing x = true → s.has x.1 = true)
    (st : Scene Collection) :
    ∃ log, EStateM.run (readRows s reading (fuel + 1) r) st =
      EStateM.run (readRows s reading fuel (r + 1))
        ⟨log, (rowEntries s r).foldl applyEntry st.this⟩ := by
  obtain ⟨log, hloop⟩ := run_forIn_cellVisit (rowCells s r) hin true st
  rw [readRows_succ, if_neg (by omega), run_bind_ok hloop]
  unfold rowEntries
  cases hany : (rowCells s r).any holdsNothing
  · -- a full row adds its condition
    have hnone : (rowCells s r).filter holdsNothing = [] :=
      List.filter_eq_nil_iff.mpr fun x hx => by simpa using List.any_eq_false.mp hany x hx
    obtain ⟨log', hadd⟩ := run_add ⟨s.get ⟨r, 1⟩, s.get ⟨r, 2⟩, s.get ⟨r, 3⟩, .int r⟩ ⟨log, st.this⟩
    dsimp only [Addition.run] at hadd
    refine ⟨log', ?_⟩
    simp only [hnone, List.map_nil, List.foldl_nil, Bool.not_false, Bool.and_self, if_true]
    rw [run_bind_ok hadd]
    rfl
  · -- a row with an empty cell only reports
    exact ⟨log, rfl⟩

theorem run_readRows : ∀ (fuel r : Nat), s.lastRow < r + fuel →
    (reading = .stored → ∀ r' ∈ List.range' r (s.lastRow + 1 - r), ∀ x ∈ rowCells s r',
      holdsNothing x = true → s.has x.1 = true) →
    ∀ st : Scene Collection, ∃ log, EStateM.run (readRows s reading fuel r) st =
      .ok () ⟨log, ((List.range' r (s.lastRow + 1 - r)).flatMap (rowEntries s)).foldl
        applyEntry st.this⟩
  | 0, r, hfuel, _, st => by
    have hnil : s.lastRow + 1 - r = 0 := by omega
    exact ⟨st.log, by rw [hnil]; rfl⟩
  | fuel + 1, r, hfuel, hin, st => by
    by_cases hr : r > s.lastRow
    · have hnil : s.lastRow + 1 - r = 0 := by omega
      refine ⟨st.log, ?_⟩
      rw [readRows_succ, if_pos hr, hnil]
      rfl
    -- row `r`, then the rows after it
    have hrange : List.range' r (s.lastRow + 1 - r) =
        r :: List.range' (r + 1) (s.lastRow + 1 - (r + 1)) := by
      rw [show s.lastRow + 1 - r = s.lastRow + 1 - (r + 1) + 1 by omega, List.range'_succ]
    obtain ⟨log₁, h₁⟩ := @run_readRows_row _ _ fuel r (by omega)
      (fun hs x hx => hin hs r (by rw [hrange]; exact List.mem_cons_self) x hx) st
    obtain ⟨log₂, h₂⟩ := run_readRows fuel (r + 1) (by omega)
      (fun hs r' hr' => hin hs r' (by rw [hrange]; exact List.mem_cons_of_mem _ hr'))
      ⟨log₁, (rowEntries s r).foldl applyEntry st.this⟩
    refine ⟨log₂, ?_⟩
    rw [h₁, h₂, hrange, List.flatMap_cons, List.foldl_append]

theorem run_readRows_gap : ∀ (fuel r : Nat), s.lastRow < r + fuel →
    (∃ r' ∈ List.range' r (s.lastRow + 1 - r), ∃ x ∈ rowCells s r', Gap s x) →
    ∀ st : Scene Collection, ∃ st', EStateM.run (readRows s .stored fuel r) st =
      .error ⟨.noAttribute, "'EmptyCell' object has no attribute 'coordinate'"⟩ st'
  | 0, r, hfuel, ⟨r', hr', _⟩, _ => by
    have hnil : s.lastRow + 1 - r = 0 := by omega
    rw [hnil] at hr'
    exact absurd hr' List.not_mem_nil
  | fuel + 1, r, hfuel, ⟨r', hr', hgr'⟩, st => by
    have hr : r ≤ s.lastRow := by
      have := List.mem_range'_1.mp hr'
      omega
    by_cases hrow : ∃ x ∈ rowCells s r, Gap s x
    · obtain ⟨st', h⟩ := run_forIn_cellVisit_gap (rowCells s r) hrow true st
      exact ⟨st', by rw [readRows_succ, if_neg (by omega), run_bind_error h]⟩
    -- row `r` is read as any other, and the gap is in a later row
    have hin : Reading.stored = .stored →
        ∀ x ∈ rowCells s r, holdsNothing x = true → s.has x.1 = true := by
      intro _ x hx hn
      cases hh : s.has x.1
      · exact absurd ⟨x, hx, hn, hh⟩ hrow
      · rfl
    have hne : r' ≠ r := by
      rintro rfl
      exact hrow hgr'
    obtain ⟨log, h⟩ := @run_readRows_row _ _ fuel r hr hin st
    rw [h]
    refine run_readRows_gap fuel (r + 1) (by omega) ⟨r', ?_, hgr'⟩ _
    rw [List.mem_range'_1] at hr' ⊢
    omega

end

/-! ## The sheet -/

theorem run_fromSheet {s : Sheet} {a b : Instant}
    (hA : dayIn (s.get ⟨2, 1⟩) "Start date in cell A2 is empty" "Cannot parse start date in cell A2" =
      .ok a)
    (hB : dayIn (s.get ⟨2, 2⟩) "End date in cell B2 is empty" "Cannot parse end date in cell B2" =
      .ok b)
    (hab : a ≤ b) (reading : Reading) (createdAt : Instant) (st : Scene Unit) :
    ∃ c, make (.time a) (.time b) (.text s.title) createdAt = .ok c ∧
      EStateM.run (fromSheet s reading createdAt) st =
        match EStateM.run (readRows s reading (s.lastRow + 1) 4) ⟨st.log, c⟩ with
        | .ok _ t => .ok t.this ⟨t.log, st.this⟩
        | .error e t => .error e ⟨t.log, st.this⟩ := by
  cases hmake : make (.time a) (.time b) (.text s.title) createdAt with
  | error e =>
    rw [make, if_pos hab] at hmake
    cases hmake
  | ok c =>
  refine ⟨c, rfl, ?_⟩
  have hba : ¬ b < a := by
    change ¬ b.toMicros < a.toMicros
    change a.toMicros ≤ b.toMicros at hab
    omega
  rw [fromSheet]
  dsimp only
  rw [hA, hB]
  dsimp only
  rw [run_bind_ok (run_pure a st), run_bind_ok (run_pure b st), if_neg hba, hmake]
  dsimp only
  rw [run_bind_ok (run_pure c st), run_focus, EStateM.run_bind]
  -- the collection is what the rows leave, and the row reader's failure is the sheet's
  cases EStateM.run (readRows s reading (s.lastRow + 1) 4) ⟨st.log, c⟩ <;> rfl

/-- A sheet with its period in A2 and B2 gives the collection that the requests of its rows,
from row 4 to the last, leave one after the other: a condition for each row whose cells A to C
all hold something, one problem for each empty cell of any other row. So it is when the sheet
is read as it was written, and when it is read back from its file with every empty cell of
those rows in the file. Read back from its file with an empty cell that is not there, the sheet
gives no collection at all. -/
theorem sheet_rows_read_in_order {s : Sheet} {a b : Instant}
    (hA : dayIn (s.get ⟨2, 1⟩) "Start date in cell A2 is empty" "Cannot parse start date in cell A2" =
      .ok a)
    (hB : dayIn (s.get ⟨2, 2⟩) "End date in cell B2 is empty" "Cannot parse end date in cell B2" =
      .ok b)
    (hab : a ≤ b) (reading : Reading) (createdAt : Instant) (st : Scene Unit) :
    ∃ c, make (.time a) (.time b) (.text s.title) createdAt = .ok c ∧
      ((reading = .direct ∨ ∀ r ∈ conditionRows s, ∀ x ∈ rowCells s r, ¬ Gap s x) →
        ∃ log, EStateM.run (fromSheet s reading createdAt) st =
          .ok ((sheetEntries s).foldl applyEntry c) ⟨log, ()⟩) ∧
      (reading = .stored → (∃ r ∈ conditionRows s, ∃ x ∈ rowCells s r, Gap s x) →
        ∃ log, EStateM.run (fromSheet s reading createdAt) st =
          .error ⟨.noAttribute, "'EmptyCell' object has no attribute 'coordinate'"⟩ ⟨log, ()⟩) := by
  obtain ⟨c, hmake, hrun⟩ := run_fromSheet hA hB hab reading createdAt st
  have hrows : List.range' 4 (s.lastRow + 1 - 4) = conditionRows s := by
    rw [conditionRows, show s.lastRow + 1 - 4 = s.lastRow - 3 by omega]
  refine ⟨c, hmake, fun hread => ?_, fun hstored hgap => ?_⟩
  · -- every empty cell the reader meets is in the file, or the sheet is read as written
    have hin : reading = .stored → ∀ r' ∈ List.range' 4 (s.lastRow + 1 - 4),
        ∀ x ∈ rowCells s r', holdsNothing x = true → s.has x.1 = true := by
      intro hs r' hr' x hx hn
      rcases hread with hd | hno
      · rw [hs] at hd
        cases hd
      · cases hh : s.has x.1
        · exact absurd ⟨hn, hh⟩ (hno r' (hrows ▸ hr') x hx)
        · rfl
    obtain ⟨log, h⟩ := run_readRows (s := s) (s.lastRow + 1) 4 (by omega) hin ⟨st.log, c⟩
    refine ⟨log, ?_⟩
    rw [hrun, h, hrows]
    rfl
  · subst hstored
    obtain ⟨st', h⟩ := run_readRows_gap (s := s) (s.lastRow + 1) 4 (by omega) (hrows ▸ hgap)
      ⟨st.log, c⟩
    exact ⟨st'.log, by rw [hrun, h]⟩

/-- The sheet `C` has the period of February and March 2018, a full condition row 4 and a row
5 with only its site, read back from its file, where B5 and C5 are not. -/
theorem sheet_rows_read_in_order_gap_in_row_five :
    let sheet : Sheet := { title := "C", cells :=
      [(⟨2, 1⟩, .text "1.2.2018"), (⟨2, 2⟩, .text "31.3.2018"), (⟨4, 1⟩, .text "s"),
        (⟨4, 2⟩, .text "m"), (⟨4, 3⟩, .text "s1120#keli_1 = 8"), (⟨5, 1⟩, .text "t")] }
    let a : Instant := ⟨2018, 2, 1, 0, 0, 0, 0⟩
    let b : Instant := ⟨2018, 3, 31, 0, 0, 0, 0⟩
    dayIn (sheet.get ⟨2, 1⟩) "Start date in cell A2 is empty" "Cannot parse start date in cell A2" =
      .ok a ∧
    dayIn (sheet.get ⟨2, 2⟩) "End date in cell B2 is empty" "Cannot parse end date in cell B2" =
      .ok b ∧
    a ≤ b ∧
    ∃ c, make (.time a) (.time b) (.text sheet.title) a = .ok c ∧
      ((Reading.stored = .direct ∨ ∀ r ∈ conditionRows sheet, ∀ x ∈ rowCells sheet r, ¬ Gap sheet x) →
        ∃ log, EStateM.run (fromSheet sheet .stored a) ⟨#[], ()⟩ =
          .ok ((sheetEntries sheet).foldl applyEntry c) ⟨log, ()⟩) ∧
      (Reading.stored = .stored → (∃ r ∈ conditionRows sheet, ∃ x ∈ rowCells sheet r, Gap sheet x) →
        ∃ log, EStateM.run (fromSheet sheet .stored a) ⟨#[], ()⟩ =
          .error ⟨.noAttribute, "'EmptyCell' object has no attribute 'coordinate'"⟩ ⟨log, ()⟩) := by
  intro sheet a b
  have hA : dayIn (sheet.get ⟨2, 1⟩) "Start date in cell A2 is empty"
      "Cannot parse start date in cell A2" = .ok a := rfl
  have hB : dayIn (sheet.get ⟨2, 2⟩) "End date in cell B2 is empty"
      "Cannot parse end date in cell B2" = .ok b := rfl
  have hab : a ≤ b := by decide
  exact ⟨hA, hB, hab, sheet_rows_read_in_order hA hB hab .stored a ⟨#[], ()⟩⟩

/-- The sheet `C` has the period of February and March 2018 and one condition row, row 4, with
site `s`, master alias `m` and no cell C4 at all. Read as written, it gives a collection with no
condition and the one problem of C4; read back from its file, it gives no collection. -/
theorem absent_cell_loses_stored_sheet :
    let sheet : Sheet := { title := "C", cells :=
      [(⟨1, 1⟩, .text "start"), (⟨1, 2⟩, .text "end"), (⟨2, 1⟩, .text "1.2.2018"),
        (⟨2, 2⟩, .text "31.3.2018"), (⟨3, 1⟩, .text "site"), (⟨3, 2⟩, .text "master_alias"),
        (⟨3, 3⟩, .text "condition"), (⟨4, 1⟩, .text "s"), (⟨4, 2⟩, .text "m")] }
    let t : Instant := ⟨2018, 4, 1, 0, 0, 0, 0⟩
    ((Act.run (fromSheet sheet .direct t) () #[]).1.toOption.map fun c =>
      (c.problems.entries.map (·.message.plain), c.conditions.length)) =
        some (["Cell C4 is empty: condition row ignored"], 0) ∧
    (match (Act.run (fromSheet sheet .stored t) () #[]).1 with
      | .error f => some f
      | .ok _ => none) = some ⟨.noAttribute, "'EmptyCell' object has no attribute 'coordinate'"⟩ := by
  decide +kernel

end Collection

end RoadWeather
