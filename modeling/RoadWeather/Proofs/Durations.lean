import RoadWeather.Proofs.Summary

/-! # The summary of a table of pieces, in exact durations -/

namespace RoadWeather

open RoadWeather.Act RoadWeather.Time RoadWeather.Table

/-! ## Pieces -/

/-- A row of a result table: a piece of time from its start up to its end, and the value of the
formula on it, if it has one. -/
structure Piece where
  start : Instant
  stop : Instant
  value : Option Bool
  start_le_stop : start.toMicros ≤ stop.toMicros

namespace Piece

def length (p : Piece) : Int := p.stop.toMicros - p.start.toMicros

def points (p : Piece) : Finset Int :=
  -- the order of the integers is named: with all of Mathlib in scope, a search for it finds a
  -- conditionally complete order first, which cannot be computed
  @Finset.Ico Int (@PartialOrder.toPreorder Int (@SemilatticeInf.toPartialOrder Int
    (@Lattice.toSemilatticeInf Int instLatticeInt))) Int.instLocallyFiniteOrder
    p.start.toMicros p.stop.toMicros

def master (p : Piece) : Value :=
  match p.value with
  | some b => .bool b
  | none => .nothing

theorem length_nonneg (p : Piece) : 0 ≤ p.length := by
  have := p.start_le_stop
  unfold length
  omega

theorem card_points (p : Piece) : (p.points.card : Int) = p.length := by
  rw [points, Int.card_Ico]
  exact Int.toNat_of_nonneg p.length_nonneg

theorem disjoint_of_stop_le {p q : Piece} (h : p.stop.toMicros ≤ q.start.toMicros) :
    Disjoint p.points q.points :=
  Finset.disjoint_left.mpr fun x hp hq => by
    simp only [points, Finset.mem_Ico] at hp hq
    omega

theorem master_same (p : Piece) (b : Bool) : p.master.same (.bool b) = decide (p.value = some b) := by
  cases hv : p.value with
  | none => simp [master, hv, Value.same, Value.integer?]
  | some b' => cases b' <;> cases b <;> simp [master, hv, Value.same, Value.integer?]

end Piece

def lengthOf (ps : List Piece) (v : Option Bool) : Int :=
  ((ps.filter (·.value = v)).map Piece.length).sum

def totalLength (ps : List Piece) : Int := (ps.map Piece.length).sum

theorem lengthOf_nonneg (ps : List Piece) (v : Option Bool) : 0 ≤ lengthOf ps v :=
  List.sum_nonneg fun _ hx => by
    obtain ⟨p, -, rfl⟩ := List.mem_map.mp hx
    exact p.length_nonneg

@[simp] theorem totalLength_nil : totalLength [] = 0 := by
  rw [totalLength, List.map_nil, List.sum_nil]

-- Sums of lengths are taken apart by rewriting: checking them by unfolding would unfold the
-- microseconds of every point in time.
@[simp] theorem totalLength_cons (p : Piece) (ps : List Piece) :
    totalLength (p :: ps) = p.length + totalLength ps := by
  rw [totalLength, totalLength, List.map_cons, List.sum_cons]

@[simp] theorem lengthOf_nil (v : Option Bool) : lengthOf [] v = 0 := by
  rw [lengthOf, List.filter_nil, List.map_nil, List.sum_nil]

theorem lengthOf_cons (p : Piece) (ps : List Piece) (v : Option Bool) :
    lengthOf (p :: ps) v = (if p.value = v then p.length else 0) + lengthOf ps v := by
  rw [lengthOf, lengthOf, List.filter_cons]
  by_cases h : p.value = v
  · rw [if_pos (by simpa using h), if_pos h, List.map_cons, List.sum_cons]
  · rw [if_neg (by simpa using h), if_neg h, Int.zero_add]

theorem lengthOf_add (ps : List Piece) :
    lengthOf ps (some true) + lengthOf ps (some false) + lengthOf ps none = totalLength ps := by
  induction ps with
  | nil => simp
  | cons p ps ih =>
    rw [lengthOf_cons, lengthOf_cons, lengthOf_cons, totalLength_cons]
    rcases p.value with _ | _ | _ <;> simp <;> omega

theorem totalLength_le_card {ps : List Piece} (hdisj : ps.Pairwise fun p q => Disjoint p.points q.points)
    {S : Finset Int} (hsub : ∀ p ∈ ps, p.points ⊆ S) : totalLength ps ≤ S.card := by
  induction ps generalizing S with
  | nil => simp
  | cons p ps ih =>
    rw [List.pairwise_cons] at hdisj
    -- the other pieces lie in what the first one leaves of the set
    have hrest : totalLength ps ≤ (S \ p.points).card := ih hdisj.2 fun q hq =>
      Finset.subset_sdiff.mpr ⟨hsub q (List.mem_cons_of_mem p hq), (hdisj.1 q hq).symm⟩
    have hcard : ((S \ p.points).card : Int) + p.length = S.card := by
      rw [← p.card_points]
      exact_mod_cast Finset.card_sdiff_add_card_eq_card (hsub p List.mem_cons_self)
    rw [totalLength_cons]
    omega

/-- Three lengths that split a span: none is negative, and together they make the span. -/
structure Splits (span valid notValid noData : Int) : Prop where
  valid_nonneg : 0 ≤ valid
  notValid_nonneg : 0 ≤ notValid
  noData_nonneg : 0 ≤ noData
  sum_eq : valid + notValid + noData = span

def fraction (part span : Int) : ℚ := part / span

theorem fraction_mem {span part : Int} (hpos : 0 < span) (hpart : 0 ≤ part) (hle : part ≤ span) :
    fraction part span ∈ Set.Icc 0 1 := by
  have hspan : (0 : ℚ) < span := by exact_mod_cast hpos
  exact ⟨div_nonneg (by exact_mod_cast hpart) hspan.le, (div_le_one₀ hspan).mpr (by exact_mod_cast hle)⟩

namespace Splits

variable {span valid notValid noData : Int}

theorem fractions (h : Splits span valid notValid noData) (hpos : 0 < span) :
    fraction valid span ∈ Set.Icc 0 1 ∧ fraction notValid span ∈ Set.Icc 0 1 ∧
      fraction noData span ∈ Set.Icc 0 1 ∧
      fraction valid span + fraction notValid span + fraction noData span = 1 := by
  have hs := h.sum_eq
  have h₁ := h.valid_nonneg
  have h₂ := h.notValid_nonneg
  have h₃ := h.noData_nonneg
  refine ⟨fraction_mem hpos h₁ (by omega), fraction_mem hpos h₂ (by omega),
    fraction_mem hpos h₃ (by omega), ?_⟩
  have hspan : (span : ℚ) ≠ 0 := by exact_mod_cast hpos.ne'
  rw [fraction, fraction, fraction, ← add_div, ← add_div, div_eq_one_iff_eq hspan]
  exact_mod_cast hs

end Splits

/-! ## Tables of pieces -/

/-- A table holding pieces: its columns `vfrom`, `vuntil`, `vdiff` and `master` list the start,
the end, the length and the value of each piece, in order. -/
structure Table.Holds (t : Table) (ps : List Piece) : Prop where
  vfrom : t.column "vfrom" = .ok (ps.map fun p => .time p.start)
  vuntil : t.column "vuntil" = .ok (ps.map fun p => .time p.stop)
  vdiff : t.column "vdiff" = .ok (ps.map fun p => .span (p.stop.diff p.start))
  master : t.column "master" = .ok (ps.map Piece.master)

namespace Table

theorem column_eq_ok {t : Table} {name : String} {ns : List Value} (h : t.column name = .ok ns) :
    ∃ j, ns = t.rows.map (·.getD j .nothing) ∧
      ∀ rows, ({ t with rows } : Table).column name = .ok (rows.map (·.getD j .nothing)) := by
  unfold column at h ⊢
  split at h
  · rename_i j hj
    cases h
    exact ⟨j, rfl, fun rows => by simp only [hj]⟩
  · cases h

theorem map_filterMap_zip {α β γ : Type} (f : α → β) (p : γ → Bool) (l : List α) (ks : List γ) :
    ((l.zip ks).filterMap fun (r, k) => if p k then some r else none).map f =
      ((l.map f).zip ks).filterMap fun (x, k) => if p k then some x else none := by
  induction l generalizing ks with
  | nil => simp
  | cons r l ih =>
    cases ks with
    | nil => simp
    | cons k ks => by_cases hk : p k <;> simp [hk, ih]

theorem whereEq_of_column {t : Table} {key : String} {v : Value} {ks : List Value}
    (hk : t.column key = .ok ks) :
    t.whereEq key v =
      .ok { t with rows := (t.rows.zip ks).filterMap fun (r, x) => if x.same v then some r else none } := by
  simp only [whereEq, hk, Condition.ok_bind]
  rfl

theorem column_whereEq {t : Table} {key name : String} {v : Value} {ks ns : List Value}
    (hk : t.column key = .ok ks) (hn : t.column name = .ok ns) :
    (t.whereEq key v >>= (·.column name)) =
      .ok ((ns.zip ks).filterMap fun (x, k) => if k.same v then some x else none) := by
  obtain ⟨j, rfl, hcol⟩ := column_eq_ok hn
  rw [whereEq_of_column hk, Condition.ok_bind, hcol]
  exact congrArg Except.ok (map_filterMap_zip _ (fun x : Value => x.same v) _ _)

theorem filterMap_zip_master {α : Type} (f : Piece → α) (ps : List Piece) (b : Bool) :
    ((ps.map f).zip (ps.map Piece.master)).filterMap
        (fun (x, k) => if k.same (.bool b) then some x else none) =
      (ps.filter (·.value = some b)).map f := by
  induction ps with
  | nil => rfl
  | cons p ps ih =>
    by_cases hv : p.value = some b <;> simp [Piece.master_same, hv, ih]

theorem foldlM_plus_spans (ds : List Span) (acc : Span) :
    (ds.map Value.span).foldlM Value.plus (.span acc) =
      .ok (.span ⟨acc.micros + (ds.map Span.micros).sum⟩) := by
  induction ds generalizing acc with
  | nil => simp [pure, Except.pure]
  | cons d ds ih =>
    simp only [List.map_cons, List.foldlM_cons, List.sum_cons]
    rw [show Value.plus (.span acc) (.span d) = .ok (.span (acc + d)) from rfl, Condition.ok_bind, ih]
    congr 3
    show acc.micros + d.micros + _ = _
    omega

theorem orZeroSpan_total_spans (ds : List Span) :
    Condition.orZeroSpan <$> total (ds.map Value.span) = .ok (.span ⟨(ds.map Span.micros).sum⟩) := by
  cases ds with
  | nil => rfl
  | cons d ds =>
    have hkind : kindOf ((d :: ds).map Value.span) = .spans := by
      simp [kindOf, List.filter_eq_self.mpr, List.all_map]
    have hpresent : ((d :: ds).map Value.span).filter (fun v => !isMissing v) = (d :: ds).map Value.span :=
      List.filter_eq_self.mpr fun _ hx => by
        obtain ⟨e, -, rfl⟩ := List.mem_map.mp hx
        rfl
    rw [total, hkind, hpresent, if_pos rfl, foldlM_plus_spans]
    simp only [Except.map_ok, Condition.orZeroSpan, Value.truthy, Int.zero_add]
    -- a total of zero is the zero duration either way
    simp
    omega

/-! ### The search for the first start and the last end -/

section Strict

variable {want : Ordering} (hwant : want ≠ .eq)
include hwant

theorem compare_self_ne (a : Int) : compare a a ≠ want := by
  rw [compare_eq_iff_eq.mpr rfl]
  exact hwant.symm

theorem compare_ne_trans {a b c : Int} (hab : compare a b ≠ want) (hbc : compare b c ≠ want) :
    compare a c ≠ want := by
  rcases want with _ | _ | _
  · simp only [ne_eq, compare_lt_iff_lt] at hab hbc ⊢
    omega
  · exact absurd rfl hwant
  · simp only [ne_eq, compare_gt_iff_gt] at hab hbc ⊢
    omega

theorem compare_ne_of_beats {a b c : Int} (hab : compare a b = want) (hac : compare a c ≠ want) :
    compare b c ≠ want := by
  rcases want with _ | _ | _
  · simp only [ne_eq, compare_lt_iff_lt] at hab hac ⊢
    omega
  · exact absurd rfl hwant
  · simp only [ne_eq, compare_gt_iff_gt] at hab hac ⊢
    omega

end Strict

theorem foldl_extreme_times {want : Ordering} (hwant : want ≠ .eq) (l : List Instant) (m : Instant) :
    ∃ r ∈ m :: l, (l.map Value.time).foldl
        (fun best x => if Value.order? x best = some want then x else best) (.time m) = .time r ∧
      ∀ u ∈ m :: l, compare u.toMicros r.toMicros ≠ want := by
  induction l generalizing m with
  | nil => exact ⟨m, List.mem_singleton_self m, rfl, by simpa using compare_self_ne hwant m.toMicros⟩
  | cons x l ih =>
    rw [List.map_cons, List.foldl_cons]
    by_cases hc : compare x.toMicros m.toMicros = want
    · -- the new point is kept, and the old one does not beat what it leads to
      obtain ⟨r, hr, hfold, hall⟩ := ih x
      refine ⟨r, List.mem_cons_of_mem m hr, ?_, ?_⟩
      · simpa [Value.order?, hc] using hfold
      · intro u hu
        rcases List.mem_cons.mp hu with rfl | hu
        · exact compare_ne_of_beats hwant hc (hall x List.mem_cons_self)
        · exact hall u hu
    · obtain ⟨r, hr, hfold, hall⟩ := ih m
      refine ⟨r, ?_, ?_, ?_⟩
      · rcases List.mem_cons.mp hr with rfl | hr
        · exact List.mem_cons_self
        · exact List.mem_cons_of_mem m (List.mem_cons_of_mem x hr)
      · simpa [Value.order?, hc] using hfold
      · intro u hu
        rcases List.mem_cons.mp hu with rfl | hu
        · exact hall u List.mem_cons_self
        · rcases List.mem_cons.mp hu with rfl | hu
          · exact compare_ne_trans hwant hc (hall m List.mem_cons_self)
          · exact hall u (List.mem_cons_of_mem m hu)

theorem extreme_times {want : Ordering} (hwant : want ≠ .eq) {l : List Instant} (hne : l ≠ []) :
    ∃ r ∈ l, extreme want (l.map Value.time) = .time r ∧
      ∀ u ∈ l, compare u.toMicros r.toMicros ≠ want := by
  obtain ⟨a, l, rfl⟩ := List.exists_cons_of_ne_nil hne
  have hpresent : ((a :: l).map Value.time).filter (fun v => !isMissing v) = (a :: l).map Value.time :=
    List.filter_eq_self.mpr fun _ hx => by
      obtain ⟨e, -, rfl⟩ := List.mem_map.mp hx
      rfl
  obtain ⟨r, hr, hfold, hall⟩ := foldl_extreme_times hwant l a
  refine ⟨r, hr, ?_, hall⟩
  simp only [extreme]
  rw [hpresent]
  exact hfold

end Table

/-! ## The summary of a table of pieces -/

namespace Condition

theorem lengthWhere_of_holds {t : Table} {ps : List Piece} (h : t.Holds ps) (b : Bool) :
    lengthWhere t b = .ok (.span ⟨lengthOf ps (some b)⟩) := by
  have hsel : (t.whereEq "master" (.bool b) >>= (·.column "vdiff")) =
      .ok (((ps.filter (·.value = some b)).map fun p => p.stop.diff p.start).map Value.span) := by
    rw [Table.column_whereEq h.master h.vdiff, Table.filterMap_zip_master, List.map_map]
    rfl
  unfold lengthWhere
  cases hw : t.whereEq "master" (.bool b) with
  | error e => rw [hw] at hsel; cases hsel
  | ok sel =>
    rw [hw, ok_bind] at hsel
    rw [ok_bind, hsel, ok_bind, bind_pure_comp, Table.orZeroSpan_total_spans, List.map_map]
    rfl

theorem extreme_starts {ps : List Piece} {lo : Int}
    (hlo : IsLeast {x | ∃ p ∈ ps, p.start.toMicros = x} lo) :
    ∃ first : Instant, first.toMicros = lo ∧ extreme .lt (ps.map fun p => .time p.start) = .time first := by
  have hne : ps.map (·.start) ≠ [] := by
    obtain ⟨p, hp, -⟩ := hlo.1
    exact List.ne_nil_of_mem (List.mem_map_of_mem hp)
  obtain ⟨r, hr, hext, hall⟩ := extreme_times (show Ordering.lt ≠ .eq by decide) hne
  rw [List.map_map] at hext
  refine ⟨r, ?_, hext⟩
  obtain ⟨p, hp, rfl⟩ := List.mem_map.mp hr
  obtain ⟨q, hq, hql⟩ := hlo.1
  have hnot := hall q.start (List.mem_map_of_mem hq)
  rw [ne_eq, compare_lt_iff_lt] at hnot
  have hle := hlo.2 ⟨p, hp, rfl⟩
  omega

theorem extreme_stops {ps : List Piece} {hi : Int}
    (hhi : IsGreatest {x | ∃ p ∈ ps, p.stop.toMicros = x} hi) :
    ∃ last : Instant, last.toMicros = hi ∧ extreme .gt (ps.map fun p => .time p.stop) = .time last := by
  have hne : ps.map (·.stop) ≠ [] := by
    obtain ⟨p, hp, -⟩ := hhi.1
    exact List.ne_nil_of_mem (List.mem_map_of_mem hp)
  obtain ⟨r, hr, hext, hall⟩ := extreme_times (show Ordering.gt ≠ .eq by decide) hne
  rw [List.map_map] at hext
  refine ⟨r, ?_, hext⟩
  obtain ⟨p, hp, rfl⟩ := List.mem_map.mp hr
  obtain ⟨q, hq, hqh⟩ := hhi.1
  have hnot := hall q.stop (List.mem_map_of_mem hq)
  rw [ne_eq, compare_gt_iff_gt] at hnot
  have hle := hhi.2 ⟨p, hp, rfl⟩
  omega

theorem summaryWrites_of_holds {t : Table} {ps : List Piece} (h : t.Holds ps) {lo hi : Int}
    (hlo : IsLeast {x | ∃ p ∈ ps, p.start.toMicros = x} lo)
    (hhi : IsGreatest {x | ∃ p ∈ ps, p.stop.toMicros = x} hi) (hpos : lo < hi) (c : Condition) :
    ∃ first last : Instant, Act.firstFailure (summaryWrites t) = none ∧
      Act.written (summaryWrites t) c = { c with
        results := t
        dataFrom := .time first
        dataUntil := .time last
        totalTime := .span ⟨hi - lo⟩
        validTime := .span ⟨lengthOf ps (some true)⟩
        notValidTime := .span ⟨lengthOf ps (some false)⟩
        noDataTime := .span ⟨hi - lo - lengthOf ps (some true) - lengthOf ps (some false)⟩
        validShare := .float (Value.spanSeconds ⟨lengthOf ps (some true)⟩ / Value.spanSeconds ⟨hi - lo⟩)
        notValidShare :=
          .float (Value.spanSeconds ⟨lengthOf ps (some false)⟩ / Value.spanSeconds ⟨hi - lo⟩)
        noDataShare := .float (Value.spanSeconds
          ⟨hi - lo - lengthOf ps (some true) - lengthOf ps (some false)⟩ / Value.spanSeconds ⟨hi - lo⟩) } := by
  obtain ⟨first, hfirst, hfrom⟩ := extreme_starts hlo
  obtain ⟨last, hlast, huntil⟩ := extreme_stops hhi
  -- every value the summary computes, from the columns of the pieces
  have hstart : extreme .lt <$> t.column "vfrom" = .ok (.time first) := by
    rw [h.vfrom, Except.map_ok, hfrom]
  have hend : extreme .gt <$> t.column "vuntil" = .ok (.time last) := by
    rw [h.vuntil, Except.map_ok, huntil]
  have hwhole : (Value.time last).minus (.time first) = .ok (.span ⟨hi - lo⟩) := by
    simp [Value.minus, Instant.diff, hfirst, hlast]
  have hrest : ∀ x y : Int, (Value.span ⟨x⟩).minus (.span ⟨y⟩) = .ok (.span ⟨x - y⟩) := fun _ _ => rfl
  have hsecs : ∀ d, (Value.span d).totalSeconds = .ok (Value.spanSeconds d) := fun _ => rfl
  have hshare : ∀ p sc, share p (.span ⟨hi - lo⟩) sc = .ok (.float (p / sc)) := fun _ _ => by
    rw [share, if_neg]
    simp only [isZeroSpan, beq_iff_eq]
    omega
  refine ⟨first, last, ?_, ?_⟩
  · simp [summaryWrites, hstart, hend, hwhole, lengthWhere_of_holds h, Except.bind, hrest, hsecs,
      hshare, Act.firstFailure]
  · simp [summaryWrites, hstart, hend, hwhole, lengthWhere_of_holds h, Except.bind, hrest, hsecs,
      hshare, Act.written]

theorem totalLength_le_span {ps : List Piece} (hdisj : ps.Pairwise fun p q => Disjoint p.points q.points)
    {lo hi : Int} (hlo : IsLeast {x | ∃ p ∈ ps, p.start.toMicros = x} lo)
    (hhi : IsGreatest {x | ∃ p ∈ ps, p.stop.toMicros = x} hi) (hpos : lo < hi) :
    totalLength ps ≤ hi - lo := by
  have hsub : ∀ p ∈ ps, p.points ⊆ Finset.Ico lo hi := fun p hp =>
    Finset.Ico_subset_Ico (hlo.2 ⟨p, hp, rfl⟩) (hhi.2 ⟨p, hp, rfl⟩)
  have hle := totalLength_le_card hdisj hsub
  rwa [Int.card_Ico, Int.toNat_of_nonneg (by omega)] at hle

/-- The summary of a ready condition whose table holds pieces that do not overlap, over a span
of positive length, is exact: the total time is the span from the first start to the last end,
the valid and the not valid time are the lengths of the true and of the false pieces, and the
time without data is the rest, the pieces of no value and the gaps together. The three split the
span, each share is the double of its seconds over those of the span, and the exact shares are
fractions of one that add up to one. -/
theorem fetchResults_exact_summary {s : Scene OnLink} (h : s.this.1.Ready)
    (haccept : s.this.2.spec.refuses s.this.1.resultsQuery = false) {ps : List Piece}
    (hholds : (Table.ofAnswer (s.this.2.spec.answerFor s.this.1.resultsQuery)).Holds ps)
    (hdisj : ps.Pairwise fun p q => Disjoint p.points q.points) {lo hi : Int}
    (hlo : IsLeast {x | ∃ p ∈ ps, p.start.toMicros = x} lo)
    (hhi : IsGreatest {x | ∃ p ∈ ps, p.stop.toMicros = x} hi) (hpos : lo < hi) :
    ∃ s', EStateM.run fetchResults s = .ok () s' ∧
      s'.this.1.totalTime = .span ⟨hi - lo⟩ ∧
      s'.this.1.validTime = .span ⟨lengthOf ps (some true)⟩ ∧
      s'.this.1.notValidTime = .span ⟨lengthOf ps (some false)⟩ ∧
      s'.this.1.noDataTime = .span ⟨hi - lo - lengthOf ps (some true) - lengthOf ps (some false)⟩ ∧
      hi - lo - lengthOf ps (some true) - lengthOf ps (some false) =
        lengthOf ps none + (hi - lo - totalLength ps) ∧
      Splits (hi - lo) (lengthOf ps (some true)) (lengthOf ps (some false))
        (hi - lo - lengthOf ps (some true) - lengthOf ps (some false)) ∧
      s'.this.1.validShare =
        .float (Value.spanSeconds ⟨lengthOf ps (some true)⟩ / Value.spanSeconds ⟨hi - lo⟩) ∧
      s'.this.1.notValidShare =
        .float (Value.spanSeconds ⟨lengthOf ps (some false)⟩ / Value.spanSeconds ⟨hi - lo⟩) ∧
      s'.this.1.noDataShare = .float (Value.spanSeconds
        ⟨hi - lo - lengthOf ps (some true) - lengthOf ps (some false)⟩ / Value.spanSeconds ⟨hi - lo⟩) ∧
      fraction (lengthOf ps (some true)) (hi - lo) ∈ Set.Icc 0 1 ∧
      fraction (lengthOf ps (some false)) (hi - lo) ∈ Set.Icc 0 1 ∧
      fraction (hi - lo - lengthOf ps (some true) - lengthOf ps (some false)) (hi - lo) ∈ Set.Icc 0 1 ∧
      fraction (lengthOf ps (some true)) (hi - lo) + fraction (lengthOf ps (some false)) (hi - lo) +
        fraction (hi - lo - lengthOf ps (some true) - lengthOf ps (some false)) (hi - lo) = 1 := by
  obtain ⟨log, hrun⟩ := run_fetchResults_answered h haccept
  obtain ⟨first, last, hnone, hwritten⟩ := summaryWrites_of_holds hholds hlo hhi hpos s.this.1
  -- the rest is the pieces of no value and the gaps, which the pieces leave uncovered
  have hrest : hi - lo - lengthOf ps (some true) - lengthOf ps (some false) =
      lengthOf ps none + (hi - lo - totalLength ps) := by
    have := lengthOf_add ps
    omega
  have hsplit : Splits (hi - lo) (lengthOf ps (some true)) (lengthOf ps (some false))
      (hi - lo - lengthOf ps (some true) - lengthOf ps (some false)) := by
    have hcover := totalLength_le_span hdisj hlo hhi hpos
    have hnone := lengthOf_nonneg ps none
    exact ⟨lengthOf_nonneg ps _, lengthOf_nonneg ps _, by omega, by omega⟩
  obtain ⟨hv, hn, hd, hsum⟩ := hsplit.fractions (by omega)
  refine ⟨⟨log, (Act.written (summaryWrites (Table.ofAnswer (s.this.2.spec.answerFor s.this.1.resultsQuery)))
      s.this.1,
    { s.this.2 with executed := s.this.2.executed.push s.this.1.resultsQuery })⟩, ?_, ?_⟩
  · rw [hrun, onCondition, run_focus, run_summarise, Act.run_writeAll, hnone]
  · rw [hwritten]
    exact ⟨rfl, rfl, rfl, rfl, hrest, hsplit, rfl, rfl, rfl, hv, hn, hd, hsum⟩

def sampleReady : Condition :=
  { (default : Condition) with
    idString := "s_m"
    blocksMade := true
    blocks := [{ (default : Block) with kind := some .secondary }] }

def threePieces : List Piece :=
  [⟨⟨2018, 2, 1, 0, 0, 0, 0⟩, ⟨2018, 2, 1, 6, 0, 0, 0⟩, some true, by decide⟩,
   ⟨⟨2018, 2, 1, 6, 0, 0, 0⟩, ⟨2018, 2, 1, 12, 0, 0, 0⟩, some false, by decide⟩,
   ⟨⟨2018, 2, 1, 18, 0, 0, 0⟩, ⟨2018, 2, 2, 0, 0, 0, 0⟩, none, by decide⟩]

def threePiecesAnswer : Answer :=
  { columns := ["vfrom", "vuntil", "vdiff", "master"],
    rows := threePieces.map fun p => [.time p.start, .time p.stop, .span (p.stop.diff p.start), p.master] }

/-- The three pieces of one day are summarised exactly: a day of total time, six hours valid,
six not valid and twelve without data. -/
theorem three_pieces_summary :
    sampleReady.Ready ∧ (Table.ofAnswer threePiecesAnswer).Holds threePieces ∧
      ∃ s', EStateM.run fetchResults ⟨#[], (sampleReady, { spec := { answer := threePiecesAnswer } })⟩ =
          .ok () s' ∧
        s'.this.1.totalTime = .span ⟨86400000000⟩ ∧ s'.this.1.validTime = .span ⟨21600000000⟩ ∧
        s'.this.1.notValidTime = .span ⟨21600000000⟩ ∧ s'.this.1.noDataTime = .span ⟨43200000000⟩ := by
  have hready : sampleReady.Ready := by decide
  have hholds : (Table.ofAnswer threePiecesAnswer).Holds threePieces := ⟨rfl, rfl, rfl, rfl⟩
  have hdisj : threePieces.Pairwise fun p q => Disjoint p.points q.points := by
    simp only [threePieces, List.pairwise_cons, List.mem_cons, List.not_mem_nil, or_false,
      forall_eq_or_imp, forall_eq, List.Pairwise.nil]
    refine ⟨⟨Piece.disjoint_of_stop_le ?_, Piece.disjoint_of_stop_le ?_⟩, Piece.disjoint_of_stop_le ?_,
      by simp⟩ <;> decide
  have hlo : IsLeast {x | ∃ p ∈ threePieces, p.start.toMicros = x}
      (Instant.toMicros ⟨2018, 2, 1, 0, 0, 0, 0⟩) := by
    refine ⟨⟨_, List.mem_cons_self, rfl⟩, ?_⟩
    rintro x ⟨p, hp, rfl⟩
    simp only [threePieces, List.mem_cons, List.not_mem_nil, or_false] at hp
    rcases hp with rfl | rfl | rfl <;> decide
  have hhi : IsGreatest {x | ∃ p ∈ threePieces, p.stop.toMicros = x}
      (Instant.toMicros ⟨2018, 2, 2, 0, 0, 0, 0⟩) := by
    refine ⟨⟨_, List.mem_cons_of_mem _ (List.mem_cons_of_mem _ List.mem_cons_self), rfl⟩, ?_⟩
    rintro x ⟨p, hp, rfl⟩
    simp only [threePieces, List.mem_cons, List.not_mem_nil, or_false] at hp
    rcases hp with rfl | rfl | rfl <;> decide
  obtain ⟨s', hrun, htotal, hvalid, hnotValid, hnoData, -⟩ :=
    @fetchResults_exact_summary ⟨#[], (sampleReady, { spec := { answer := threePiecesAnswer } })⟩
      hready rfl threePieces hholds hdisj _ _ hlo hhi (by decide)
  refine ⟨hready, hholds, s', hrun, ?_, ?_, ?_, ?_⟩
  · rw [htotal]
    rfl
  · rw [hvalid]
    rfl
  · rw [hnotValid]
    rfl
  · rw [hnoData]
    rfl

end Condition

end RoadWeather
