import RoadWeather.Proofs.DryValidation
import RoadWeather.Proofs.Summary

/-! # Checking stations, against the database and against a list

Given the same stations the two passes change the same blocks (`station_checks_agree`). -/

namespace RoadWeather

open RoadWeather.Act

/-! ## Changing every position of a list -/

section
variable {σ α : Type} [Inhabited α]

theorem foldl_range_set_getD_take (g : α → α) (l : List α) :
    ∀ n, n ≤ l.length → (List.range n).foldl (fun l' i => l'.set i (g (l'.getD i default))) l =
      (l.take n).map g ++ l.drop n
  | 0, _ => by simp
  | n + 1, hn => by
    rw [List.range_succ, List.foldl_append, foldl_range_set_getD_take g l n (by omega),
      List.foldl_cons, List.foldl_nil]
    -- position `n` still holds the element of `l` there
    have hlen : ((l.take n).map g).length = n := by simp; omega
    rw [List.drop_eq_getElem_cons (by omega : n < l.length),
      List.getD_append_right _ _ _ _ hlen.le, hlen, Nat.sub_self,
      List.set_append_right _ _ hlen.le, hlen, Nat.sub_self, List.take_add_one,
      List.getElem?_eq_getElem (by omega)]
    simp only [List.getD_cons_zero, List.set_cons_zero, List.map_append, List.append_assoc,
      Option.toList_some, List.map_cons, List.map_nil, List.cons_append, List.nil_append]

theorem foldl_range_set_getD (g : α → α) (l : List α) :
    (List.range l.length).foldl (fun l' i => l'.set i (g (l'.getD i default))) l = l.map g := by
  rw [foldl_range_set_getD_take g l l.length le_rfl, List.take_length, List.drop_length,
    List.append_nil]

theorem foldl_range_put (get : σ → List α) (put : σ → List α → σ) (g : α → α) {x : σ}
    (hget : ∀ l, get (put x l) = l) (hput : ∀ l l', put (put x l) l' = put x l')
    (hself : put x (get x) = x) :
    (List.range (get x).length).foldl
      (fun y i => put y ((get y).set i (g ((get y).getD i default)))) x = put x ((get x).map g) := by
  -- every step stays of the form `put x l`, so the loop runs on the list alone
  have hhom : ∀ l, (List.range (get x).length).foldl
      (fun y i => put y ((get y).set i (g ((get y).getD i default)))) (put x l) =
      put x ((List.range (get x).length).foldl (fun l' i => l'.set i (g (l'.getD i default))) l) :=
    fun l => List.foldl_hom (put x) fun l i => by rw [hget, hput]
  rw [← foldl_range_set_getD, ← hhom, hself]

end

/-! ## Actions that act as a function -/

namespace Act

variable {σ : Type}

/-- `a` finishes on every scene and leaves the object that `f` makes of the one it started
from, whatever the log. -/
def Maps (a : Act σ Unit) (f : σ → σ) : Prop :=
  ∀ s, ∃ log, EStateM.run a s = .ok () ⟨log, f s.this⟩

theorem maps_focus {τ : Type} {get : σ → τ} {set : σ → τ → σ} {a : Act τ Unit} {g : τ → τ}
    (ha : Maps a g) : Maps (focus get set a) fun x => set x (g (get x)) := fun s => by
  obtain ⟨log, h⟩ := ha ⟨s.log, get s.this⟩
  exact ⟨log, by rw [run_focus, h]⟩

theorem exists_run_bind_pure {β : Type} {x : Act σ PUnit} {s : Scene σ} {t : σ} (r : β)
    (h : ∃ log, EStateM.run x s = .ok PUnit.unit ⟨log, t⟩) :
    ∃ log, EStateM.run (x >>= fun _ => pure r) s = .ok r ⟨log, t⟩ := by
  obtain ⟨log, h⟩ := h
  exact ⟨log, by rw [run_bind_ok h]; rfl⟩

theorem maps_forIn {β : Type} {body : β → PUnit → Act σ (ForInStep PUnit)} {f : β → σ → σ}
    (h : ∀ i s, ∃ log,
      EStateM.run (body i PUnit.unit) s = .ok (.yield PUnit.unit) ⟨log, f i s.this⟩) :
    ∀ (L : List β) (s : Scene σ), ∃ log, EStateM.run (forIn L PUnit.unit body) s =
      .ok PUnit.unit ⟨log, L.foldl (fun x i => f i x) s.this⟩
  | [], s => ⟨s.log, rfl⟩
  | i :: rest, s => by
    obtain ⟨log₁, h₁⟩ := h i s
    obtain ⟨log₂, h₂⟩ := maps_forIn h rest ⟨log₁, f i s.this⟩
    exact ⟨log₂, by rw [List.forIn_cons, run_bind_ok h₁]; exact h₂⟩

theorem maps_forIn_range {α : Type} [Inhabited α] {body : Nat → PUnit → Act σ (ForInStep PUnit)}
    (get : σ → List α) (put : σ → List α → σ) (g : α → α)
    (h : ∀ i s, ∃ log, EStateM.run (body i PUnit.unit) s = .ok (.yield PUnit.unit)
      ⟨log, put s.this ((get s.this).set i (g ((get s.this).getD i default)))⟩)
    (s : Scene σ) (hget : ∀ l, get (put s.this l) = l)
    (hput : ∀ l l', put (put s.this l) l' = put s.this l') (hself : put s.this (get s.this) = s.this) :
    ∃ log, EStateM.run (forIn (List.range (get s.this).length) PUnit.unit body) s =
      .ok PUnit.unit ⟨log, put s.this ((get s.this).map g)⟩ := by
  obtain ⟨log, hrun⟩ := @maps_forIn σ Nat body
    (fun i x => put x ((get x).set i (g ((get x).getD i default)))) h (List.range (get s.this).length) s
  exact ⟨log, by rw [hrun, foldl_range_put get put g hget hput hself]⟩

end Act

/-! ## Each block, each condition, each collection -/

def Collection.mapBlocks (g : Block → Block) (c : Collection) : Collection :=
  { c with conditions := c.conditions.map fun d => { d with blocks := d.blocks.map g } }

theorem Condition.maps_everyBlock {a : Act Block Unit} {g : Block → Block} (ha : Maps a g) :
    Maps (everyBlock a) fun c => { c with blocks := c.blocks.map g } := fun s => by
  rw [everyBlock, run_bind_ok (run_self s)]
  refine exists_run_bind_pure () (maps_forIn_range (·.blocks) (fun c bs => { c with blocks := bs })
    g (fun i t => ?_) s (fun _ => rfl) (fun _ _ => rfl) rfl)
  exact exists_run_bind_pure _ (maps_focus ha t)

theorem Collection.maps_everyCondition {a : Act Condition Unit} {g : Condition → Condition}
    (ha : Maps a g) : Maps (everyCondition a) fun c => { c with conditions := c.conditions.map g } :=
  fun s => by
    rw [everyCondition, run_bind_ok (run_self s)]
    refine exists_run_bind_pure () (maps_forIn_range (·.conditions)
      (fun c ds => { c with conditions := ds }) g (fun i t => ?_) s (fun _ => rfl) (fun _ _ => rfl) rfl)
    exact exists_run_bind_pure _ (maps_focus ha t)

theorem Batch.maps_onCollection {a : Act Collection Unit} {g : Collection → Collection}
    (ha : Maps a g) (i : Nat) :
    Maps (onCollection i a) fun b => { b with
      collections := b.collections.modify i fun (k, _) => (k, g (b.collections.getD i default).2) } :=
  maps_focus ha

theorem Batch.maps_everyCollection {a : Act Collection Unit} {g : Collection → Collection}
    (ha : Maps a g) :
    Maps (everyCollection a) fun b =>
      { b with collections := b.collections.map fun kc => (kc.1, g kc.2) } := fun s => by
  rw [everyCollection, run_bind_ok (run_self s)]
  refine exists_run_bind_pure () (maps_forIn_range (·.collections)
    (fun b cs => { b with collections := cs }) (fun kc => (kc.1, g kc.2)) (fun i t => ?_) s
    (fun _ => rfl) (fun _ _ => rfl) rfl)
  -- a collection is changed in place, under its title
  obtain ⟨log, h⟩ := maps_onCollection ha i t
  refine exists_run_bind_pure _ ⟨log, ?_⟩
  rw [h]
  beta_reduce
  rw [List.modify_eq_set, ← List.getD_eq_getElem?_getD]

/-! ## The check of one block -/

namespace Block

/-- A block on a sensor whose station number is missing or not among `known`. -/
def StationUnknown (known : List Value) (b : Block) : Prop :=
  b.kind = some .primary ∧ ∀ n, b.stationId = some n → known.any (Value.same (.int n)) = false

def stationNote (known : List Value) (source : String) (b : Block) : Option String :=
  if b.kind != some .primary then none
  else match b.stationId with
    | none => some ("stationid is None (tried to compare it to " ++ source ++ ")")
    | some n =>
      if known.any (Value.same (.int n)) then none else some ("stationid was not found in " ++ source)

def stationChecked (known : List Value) (source : String) (b : Block) : Block :=
  match b.stationNote known source with
  | some m => { b with problems := b.problems.record (.text m) }
  | none => b

theorem stationNote_isSome_iff (known : List Value) (source : String) (b : Block) :
    (b.stationNote known source).isSome ↔ b.StationUnknown known := by
  unfold stationNote StationUnknown
  by_cases hk : b.kind = some .primary
  · cases hid : b.stationId with
    | none => simp [hk]
    | some n => cases hn : known.any (Value.same (.int n)) <;> simp_all
  · simp [hk]

theorem stationChecked_cases (known : List Value) (source : String) (b : Block) :
    (b.StationUnknown known →
      ∃ m, b.stationChecked known source = { b with problems := b.problems.record (.text m) }) ∧
    (¬ b.StationUnknown known → b.stationChecked known source = b) := by
  unfold stationChecked
  rw [← stationNote_isSome_iff known source]
  cases b.stationNote known source with
  | none => simp
  | some m => exact ⟨fun _ => ⟨m, rfl⟩, fun h => absurd rfl h⟩

theorem stationChecked_of_none {known : List Value} {source : String} {b : Block}
    (h : b.stationNote known source = none) : b.stationChecked known source = b := by
  rw [stationChecked, h]

theorem stationChecked_of_some {known : List Value} {source : String} {b : Block} {m : String}
    (h : b.stationNote known source = some m) :
    b.stationChecked known source = { b with problems := b.problems.record (.text m) } := by
  rw [stationChecked, h]

theorem maps_checkStation (known : List Value) (source : String) :
    Maps (Collection.checkStation known source) (stationChecked known source) := fun s => by
  unfold Collection.checkStation
  rw [run_bind_ok (run_self s)]
  split
  · have hnote : s.this.stationNote known source = none := by simp_all [stationNote]
    exact ⟨s.log, by rw [stationChecked_of_none hnote]; rfl⟩
  · split
    · have hnote : s.this.stationNote known source =
          some ("stationid is None (tried to compare it to " ++ source ++ ")") := by
        simp_all [stationNote]
      rw [stationChecked_of_some hnote]
      exact Block.run_report _ _ s
    · split
      · have hnote : s.this.stationNote known source =
            some ("stationid was not found in " ++ source) := by
          simp_all [stationNote]
        rw [stationChecked_of_some hnote]
        exact Block.run_report _ _ s
      · have hnote : s.this.stationNote known source = none := by simp_all [stationNote]
        exact ⟨s.log, by rw [stationChecked_of_none hnote]; rfl⟩

end Block

/-! ## The check against a list -/

theorem Batch.maps_validateStations (known : List Value) :
    Maps (validateStations known) fun b =>
      { b with collections := b.collections.map fun kc =>
          (kc.1, kc.2.mapBlocks (Block.stationChecked known "static ids")) } :=
  maps_everyCollection (Collection.maps_everyCondition
    (Condition.maps_everyBlock (Block.maps_checkStation known "static ids")))

/-! ## The check against the database -/

namespace Collection

theorem firstValues_singletons : ∀ {known : List Value}, (∀ v ∈ known, v.isKey = true) →
    firstValues (known.map fun v => [v]) = .ok known
  | [], _ => rfl
  | v :: rest, h => by
    have hv := h v List.mem_cons_self
    have hrest := firstValues_singletons fun x hx => h x (List.mem_cons_of_mem v hx)
    simp [firstValues, hv, hrest]

theorem run_fetchStations (s : Scene OnLink) :
    EStateM.run (onLink (attempt (Link.execute stationQuery))) s =
      .ok (if s.this.2.spec.refuses stationQuery then .error ⟨.runtime, "simulated db failure"⟩
        else .ok (s.this.2.spec.answerFor stationQuery))
        ⟨s.log, (s.this.1, { s.this.2 with executed := s.this.2.executed.push stationQuery })⟩ := by
  rw [onLink, run_focus, run_attempt, Link.run_execute]
  cases s.this.2.spec.refuses stationQuery <;> rfl

theorem maps_onSelf {a : Act Collection Unit} {g : Collection → Collection} (ha : Maps a g) :
    Maps (onSelf a) fun p => (g p.1, p.2) :=
  maps_focus ha

theorem maps_report (msg : String) (n : Notice) :
    Maps (report msg n) fun c => { c with problems := c.problems.record (.text msg) } :=
  fun s => Act.run_focus_add _ _ _ _ s

theorem run_validateStations_answered {known : List Value} (hkey : ∀ v ∈ known, v.isKey = true)
    {c : Collection} {l : Link} (hfree : l.spec.refuses stationQuery = false)
    (hrows : (l.spec.answerFor stationQuery).rows = known.map fun v => [v]) (log : Array Record) :
    ∃ log', EStateM.run validateStations ⟨log, (c, l)⟩ =
      .ok () ⟨log', (c.mapBlocks (Block.stationChecked known "ids from db view"),
        { l with executed := l.executed.push stationQuery })⟩ := by
  rw [validateStations, run_bind_ok (run_note _ _ _ _), run_bind_ok (run_fetchStations _)]
  rw [if_neg (by simp [hfree])]
  dsimp only [Except.bind]
  rw [hrows, firstValues_singletons hkey, run_bind_ok (run_self _)]
  refine exists_run_bind_pure () (maps_forIn_range (fun p : OnLink => p.1.conditions)
    (fun p ds => ({ p.1 with conditions := ds }, p.2))
    (fun d => { d with blocks := d.blocks.map (Block.stationChecked known "ids from db view") })
    (fun i t => ?_) _ (fun _ => rfl) (fun _ _ => rfl) rfl)
  -- the visit to condition `i` checks every block of it
  rw [run_bind_ok (run_self t)]
  by_cases hi : i < t.this.1.conditions.length
  · refine exists_run_bind_pure _ (maps_forIn_range
      (fun p : OnLink => (p.1.conditions.getD i default).blocks)
      (fun p bs => ({ p.1 with
        conditions := p.1.conditions.set i { p.1.conditions.getD i default with blocks := bs } }, p.2))
      (Block.stationChecked known "ids from db view") (fun j u => ?_) t
      (fun bs => by simp only [getD_set_self hi])
      (fun bs bs' => by simp only [getD_set_self hi, List.set_set]) ?_)
    · rw [run_bind_ok (run_self u), run_bind_ok (run_note _ _ _ _)]
      exact exists_run_bind_pure _ (maps_focus (maps_focus (maps_focus
        (Block.maps_checkStation known _))) _)
    · -- writing back the blocks of condition `i` as they are changes nothing
      show ((({ t.this.1 with
        conditions := t.this.1.conditions.set i (t.this.1.conditions.getD i default) }),
        t.this.2) : OnLink) = t.this
      rw [List.getD_eq_getElem _ _ hi, List.set_getElem_self]
  · -- there is no condition `i`: nothing to visit and nothing to change
    have hnone : t.this.1.conditions.getD i default = default :=
      List.getD_eq_default _ _ (by omega)
    refine ⟨t.log, ?_⟩
    rw [hnone, List.set_eq_of_length_le (by omega)]
    rfl

theorem run_validateStations_unanswered {c : Collection} {l : Link}
    (hfail : l.spec.refuses stationQuery = true ∨
      ∃ f, firstValues (l.spec.answerFor stationQuery).rows = .error f) (log : Array Record) :
    ∃ log', EStateM.run validateStations ⟨log, (c, l)⟩ =
      .ok () ⟨log', ({ c with
          problems := c.problems.record
            (.text "Cannot fetch station ids for Block validation from db view obs_main") },
        { l with executed := l.executed.push stationQuery })⟩ := by
  rw [validateStations, run_bind_ok (run_note _ _ _ _), run_bind_ok (run_fetchStations _)]
  have hreport := maps_onSelf (maps_report
    "Cannot fetch station ids for Block validation from db view obs_main" .error)
  by_cases hrefused : l.spec.refuses stationQuery = true
  · rw [if_pos hrefused]
    exact hreport _
  · obtain ⟨f, hbad⟩ := hfail.resolve_left hrefused
    rw [if_neg hrefused]
    dsimp only [Except.bind]
    rw [hbad]
    exact hreport _

end Collection

/-! ## The two checks agree -/

/-- Checking the stations of a collection against those its database answers with, and checking
them against a list of the same stations in any batch, say the same of every block: every
block on a sensor whose station number is missing or not among them gets exactly one more
problem, and nothing else changes, neither the other blocks nor anything around the blocks.
When the database refuses the query or its answer gives no station list, no block changes and
the collection gets one problem. -/
theorem station_checks_agree {known : List Value} (hkey : ∀ v ∈ known, v.isKey = true)
    {l : Link} (hfree : l.spec.refuses Collection.stationQuery = false)
    (hrows : (l.spec.answerFor Collection.stationQuery).rows = known.map fun v => [v])
    (c : Collection) (b : Batch) (log : Array Record) :
    (∃ log', EStateM.run Collection.validateStations ⟨log, (c, l)⟩ =
      .ok () ⟨log', (c.mapBlocks (Block.stationChecked known "ids from db view"),
        { l with executed := l.executed.push Collection.stationQuery })⟩) ∧
    (∃ log', EStateM.run (Batch.validateStations known) ⟨log, b⟩ =
      .ok () ⟨log', { b with collections := b.collections.map fun kc =>
        (kc.1, kc.2.mapBlocks (Block.stationChecked known "static ids")) }⟩) ∧
    (∀ (source : String) (bl : Block),
      (bl.StationUnknown known → ∃ m,
        bl.stationChecked known source = { bl with problems := bl.problems.record (.text m) }) ∧
      (¬ bl.StationUnknown known → bl.stationChecked known source = bl)) ∧
    ∀ l' : Link, (l'.spec.refuses Collection.stationQuery = true ∨
        ∃ f, Collection.firstValues (l'.spec.answerFor Collection.stationQuery).rows = .error f) →
      ∃ log', EStateM.run Collection.validateStations ⟨log, (c, l')⟩ =
        .ok () ⟨log', ({ c with
            problems := c.problems.record
              (.text "Cannot fetch station ids for Block validation from db view obs_main") },
          { l' with executed := l'.executed.push Collection.stationQuery })⟩ :=
  ⟨Collection.run_validateStations_answered hkey hfree hrows log,
    Batch.maps_validateStations known ⟨log, b⟩,
    fun source bl => Block.stationChecked_cases known source bl,
    fun _ hfail => Collection.run_validateStations_unanswered hfail log⟩

/-- A sheet of two conditions on stations 1120, 1121 and 1122, checked against a database
that has seen 1120 and 1122 and against a list of the same two: both passes flag the block on
1121 and no other. -/
theorem station_checks_agree_on_two_stations :
    let book : Workbook := { sheets := [{ title := "C", extent := 5, cells :=
      [(⟨1, 1⟩, .text "start"), (⟨1, 2⟩, .text "end"), (⟨2, 1⟩, .text "1.2.2018"),
        (⟨2, 2⟩, .text "31.3.2018"), (⟨3, 1⟩, .text "site"), (⟨3, 2⟩, .text "master_alias"),
        (⟨3, 3⟩, .text "condition"), (⟨4, 1⟩, .text "s"), (⟨4, 2⟩, .text "a"),
        (⟨4, 3⟩, .text "s1120#keli_1 = 8"), (⟨5, 1⟩, .text "s"), (⟨5, 2⟩, .text "b"),
        (⟨5, 3⟩, .text "s1121#keli_1 = 8 or s1122#keli_2 = 9")] }] }
    let b := (Act.run (Batch.addCollections ["info"] ⟨2018, 1, 1, 0, 0, 0, 0⟩)
      { name := "test", source := "input.xlsx", book } #[]).2.1
    let c := (b.collections.getD 0 default).2
    let known := [Value.int 1120, .int 1122]
    let l : Link := { spec := { answer := { rows := [[.int 1120], [.int 1122]] } } }
    (∀ v ∈ known, v.isKey = true) ∧ l.spec.refuses Collection.stationQuery = false ∧
    (l.spec.answerFor Collection.stationQuery).rows = known.map (fun v => [v]) ∧
    ((Act.run Collection.validateStations (c, l) #[]).2.1.1.conditions.flatMap fun d =>
        d.blocks.map (·.problems.isEmpty)) = [true, false, true] ∧
    ((Act.run (Batch.validateStations known) b #[]).2.1.collections.flatMap fun kc =>
        kc.2.conditions.flatMap fun d => d.blocks.map (·.problems.isEmpty)) = [true, false, true] ∧
    (∃ log', EStateM.run Collection.validateStations ⟨#[], (c, l)⟩ =
      .ok () ⟨log', (c.mapBlocks (Block.stationChecked known "ids from db view"),
        { l with executed := l.executed.push Collection.stationQuery })⟩) ∧
    (∃ log', EStateM.run (Batch.validateStations known) ⟨#[], b⟩ =
      .ok () ⟨log', { b with collections := b.collections.map fun kc =>
        (kc.1, kc.2.mapBlocks (Block.stationChecked known "static ids")) }⟩) ∧
    (∀ (source : String) (bl : Block),
      (bl.StationUnknown known → ∃ m,
        bl.stationChecked known source = { bl with problems := bl.problems.record (.text m) }) ∧
      (¬ bl.StationUnknown known → bl.stationChecked known source = bl)) ∧
    ∀ l' : Link, (l'.spec.refuses Collection.stationQuery = true ∨
        ∃ f, Collection.firstValues (l'.spec.answerFor Collection.stationQuery).rows = .error f) →
      ∃ log', EStateM.run Collection.validateStations ⟨#[], (c, l')⟩ =
        .ok () ⟨log', ({ c with
            problems := c.problems.record
              (.text "Cannot fetch station ids for Block validation from db view obs_main") },
          { l' with executed := l'.executed.push Collection.stationQuery })⟩ := by
  intro book b c known l
  have hkey : ∀ v ∈ known, v.isKey = true := by decide
  -- which blocks each pass flags, computed on the sheet
  obtain ⟨hdb, hlist⟩ :
      ((Act.run Collection.validateStations (c, l) #[]).2.1.1.conditions.flatMap fun d =>
        d.blocks.map (·.problems.isEmpty)) = [true, false, true] ∧
      ((Act.run (Batch.validateStations known) b #[]).2.1.collections.flatMap fun kc =>
        kc.2.conditions.flatMap fun d => d.blocks.map (·.problems.isEmpty)) = [true, false, true] := by
    dsimp only [c, b, book, known, l]
    decide +kernel
  exact ⟨hkey, rfl, rfl, hdb, hlist, station_checks_agree hkey rfl rfl c b #[]⟩

end RoadWeather
