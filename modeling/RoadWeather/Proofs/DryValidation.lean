import RoadWeather.Proofs.EveryBlock
import RoadWeather.Proofs.Made
import RoadWeather.Proofs.Tables
import RoadWeather.Stations

/-! # Validation without a database

What a dry validation that shows no problem says of every block (`dryValidate_verdict`). -/

namespace RoadWeather

open RoadWeather.Act RoadWeather.Time

theorem map_eq_of_rel {α β : Type} [Inhabited α] {R : α → α → Prop} {f : α → β}
    (hf : ∀ {x y}, R x y → f y = f x) {l l' : List α} (hlen : l'.length = l.length)
    (hrel : ∀ k, R (l.getD k default) (l'.getD k default)) : l'.map f = l.map f := by
  refine List.ext_getElem (by simp [hlen]) fun k h₁ h₂ => ?_
  have hk := hf (hrel k)
  rw [List.getD_eq_getElem _ _ (by simpa using h₁), List.getD_eq_getElem _ _ (by simpa using h₂)]
    at hk
  simpa using hk

/-! ## One block -/

namespace Block

/-- A step of validation: it changes only the sensor id and the problems, and a problem once
recorded stays. -/
structure Validates (b b' : Block) : Prop where
  rest : b' = { b with sensorId := b'.sensorId, problems := b'.problems }
  flagged : b.Flagged → b'.Flagged

instance : IsPreorder Block Validates where
  refl _ := ⟨rfl, id⟩
  trans _ _ _ h₁ h₂ := ⟨by rw [h₂.rest, h₁.rest], h₂.flagged ∘ h₁.flagged⟩

/-- A step that only records problems. -/
structure Noted (b b' : Block) : Prop where
  rest : b' = { b with problems := b'.problems }
  flagged : b.Flagged → b'.Flagged

instance : IsPreorder Block Noted where
  refl _ := ⟨rfl, id⟩
  trans _ _ _ h₁ h₂ := ⟨by rw [h₂.rest, h₁.rest], h₂.flagged ∘ h₁.flagged⟩

theorem Noted.validates {b b' : Block} (h : Noted b b') : Validates b b' :=
  ⟨by rw [h.rest], h.flagged⟩

theorem Validates.aliasName {b b' : Block} (h : Validates b b') : b'.aliasName = b.aliasName := by
  rw [h.rest]

theorem Validates.made {b b' : Block} (h : Validates b b') (hb : b.Made) : b'.Made := by
  rw [h.rest]
  exact ⟨fun hk => h.flagged (hb.kind hk), fun hk hn => hb.reference hk fun hf => hn (h.flagged hf)⟩

def sensorKey (b : Block) : Value :=
  match b.sensor with
  | some s => .text s
  | none => .nothing

/-- A block that is not a reference has a problem, or the id that `sensors` gives first for
its sensor. -/
def SensorSet (sensors : List (Value × Value)) (b : Block) : Prop :=
  b.kind ≠ some .secondary → b.Flagged ∨ ∃ k, sensors.find? (·.1.same b.sensorKey) = some (k, b.sensorId)

/-- A block on a sensor has a problem, or a station among `known`. -/
def StationKnown (known : List Value) (b : Block) : Prop :=
  b.kind = some .primary → b.Flagged ∨ ∃ n, b.stationId = some n ∧ known.any (Value.same (.int n)) = true

theorem Noted.sensorSet {sensors : List (Value × Value)} {b b' : Block} (h : Noted b b')
    (hb : b.SensorSet sensors) : b'.SensorSet sensors := by
  rw [h.rest]
  exact fun hk => (hb hk).imp h.flagged id

theorem run_setSensorId_ok (sensors : List (Value × Value)) (s : Scene Block) :
    ∃ s', EStateM.run (setSensorId (.ok sensors)) s = .ok () s' ∧ Validates s.this s'.this ∧
      s'.this.SensorSet sensors := by
  unfold setSensorId
  rw [run_bind_ok (run_self s)]
  split
  · next hsec => exact ⟨s, rfl, refl_of Validates _, fun hk => absurd hsec hk⟩
  · dsimp only
    split
    · next k sid hfind =>
      exact ⟨⟨s.log, { s.this with sensorId := sid }⟩, rfl, ⟨rfl, id⟩, fun _ => .inr ⟨k, hfind⟩⟩
    · obtain ⟨log, h, hflag⟩ := flags_report
        ("No sensor id found by sensor name \"" ++ s.this.sensorKey.plain ++ "\"") .error s
      exact ⟨_, h, ⟨rfl, fun _ => hflag⟩, fun _ => .inl hflag⟩

theorem run_checkStation (known : List Value) (source : String) (s : Scene Block) :
    ∃ s', EStateM.run (Collection.checkStation known source) s = .ok () s' ∧ Noted s.this s'.this ∧
      s'.this.StationKnown known := by
  unfold Collection.checkStation
  rw [run_bind_ok (run_self s)]
  split
  · next hnot => exact ⟨s, rfl, refl_of Noted _, fun hk => by simp [hk] at hnot⟩
  · split
    · obtain ⟨log, h, hflag⟩ := flags_report
        ("stationid is None (tried to compare it to " ++ source ++ ")") .error s
      exact ⟨_, h, ⟨rfl, fun _ => hflag⟩, fun _ => .inl hflag⟩
    · next n hn =>
      split
      · obtain ⟨log, h, hflag⟩ := flags_report ("stationid was not found in " ++ source) .error s
        exact ⟨_, h, ⟨rfl, fun _ => hflag⟩, fun _ => .inl hflag⟩
      · next hknown =>
        exact ⟨s, rfl, refl_of Noted _, fun _ => .inr ⟨n, hn, by simpa using hknown⟩⟩

end Block

/-! ## Lifting the two passes -/

theorem Condition.Lift.idString {Rb : Block → Block → Prop} {d d' : Condition} (h : Lift Rb d d') :
    d'.idString = d.idString := by
  rw [h.rest]

theorem Condition.Lift.made {Rb : Block → Block → Prop}
    (hmade : ∀ {b b'}, Rb b b' → b.Made → b'.Made) (halias : ∀ {b b'}, Rb b b' → b'.aliasName = b.aliasName)
    {d d' : Condition} (h : Lift Rb d d') (hd : d.Made) : d'.Made := by
  have hblocks : ∀ b ∈ d'.blocks, b.Made := Lift.forall (P := Block.Made) hmade h hd.blocks.2.1
  have haliases : d'.blocks.map (·.aliasName) = (List.range d'.blocks.length).map (aliasOf d.masterAlias) := by
    rw [map_eq_of_rel (f := (·.aliasName)) halias h.length h.blocks, h.length]
    exact hd.blocks.2.2
  rw [h.rest]
  exact ⟨hd.flagged, hd.noBlank, hd.blocks.1, hblocks, haliases⟩

theorem Collection.Lift.title {Rc : Condition → Condition → Prop} {c c' : Collection} (h : Lift Rc c c') :
    c'.title = c.title := by
  rw [h.rest]

theorem Collection.Lift.made {Rc : Condition → Condition → Prop}
    (hmade : ∀ {d d'}, Rc d d' → d.Made → d'.Made) (hid : ∀ {d d'}, Rc d d' → d'.idString = d.idString)
    {c c' : Collection} (h : Lift Rc c c') (hc : c.Made) : c'.Made :=
  ⟨by rw [map_eq_of_rel (f := (·.idString)) hid h.length h.conditions]; exact hc.ids,
    Lift.forall (P := Condition.Made) hmade h hc.conditions⟩

theorem Batch.Lift.made {Rc : Collection → Collection → Prop}
    (hmade : ∀ {c c'}, Rc c c' → c.Made → c'.Made) (htitle : ∀ {c c'}, Rc c c' → c'.title = c.title)
    {b b' : Batch} (h : Lift Rc b b') (hb : b.Made) : b'.Made where
  keys := by
    rw [map_eq_of_rel (f := (·.1)) (fun hk => hk.1) h.length h.collections]
    exact hb.keys
  titles := Lift.forall (P := fun kc => kc.2.title = .text kc.1)
    (fun hk ht => by rw [hk.1, htitle hk.2, ht]) h hb.titles
  collections := Lift.forall (P := fun kc => kc.2.Made) (fun hk => hmade hk.2) h hb.collections

namespace Batch

theorem made_of_lift {Rb : Block → Block → Prop} (hR : ∀ {b b'}, Rb b b' → Block.Validates b b')
    {b b' : Batch} (h : Lift (Collection.Lift (Condition.Lift Rb)) b b') (hb : b.Made) : b'.Made :=
  Lift.made (Collection.Lift.made (Condition.Lift.made (fun hr => (hR hr).made)
    (fun hr => (hR hr).aliasName)) Condition.Lift.idString) Collection.Lift.title h hb

theorem forall_blocks_of_lift {Rb : Block → Block → Prop} {P : Block → Prop}
    (hP : ∀ {x y}, Rb x y → P x → P y) {b b' : Batch} (h : Lift (Collection.Lift (Condition.Lift Rb)) b b')
    (hb : ∀ kc ∈ b.collections, ∀ d ∈ kc.2.conditions, ∀ bl ∈ d.blocks, P bl) :
    ∀ kc ∈ b'.collections, ∀ d ∈ kc.2.conditions, ∀ bl ∈ d.blocks, P bl :=
  Lift.forall (P := fun kc => ∀ d ∈ kc.2.conditions, ∀ bl ∈ d.blocks, P bl)
    (fun hk hc => Collection.Lift.forall (P := fun d => ∀ bl ∈ d.blocks, P bl)
      (fun hd => Condition.Lift.forall (P := P) hP hd) hk.2 hc) h hb

theorem run_dryValidate {b : Batch} (hb : b.Made) (sensors : List (Value × Value))
    (stations : List Value) (log : Array Record) :
    ∃ log' b', EStateM.run (dryValidate sensors stations) ⟨log, b⟩ = .ok b'.problemTree ⟨log', b'⟩ ∧
      b'.Made ∧ b'.problems = b.problems ∧
      ∀ kc ∈ b'.collections, ∀ d ∈ kc.2.conditions, ∀ bl ∈ d.blocks,
        bl.SensorSet sensors ∧ bl.StationKnown stations := by
  obtain ⟨s₁, h₁, hl₁, hs₁⟩ := run_everyBlock (Block.run_setSensorId_ok sensors) ⟨log, b⟩
  obtain ⟨s₂, h₂, hl₂, hs₂⟩ := run_everyBlock (Block.run_checkStation stations "static ids") s₁
  -- the second pass only records problems, so the sensor ids of the first stay
  have hsensors := forall_blocks_of_lift (fun hn hs => Block.Noted.sensorSet hn hs) hl₂ hs₁
  obtain ⟨log', hrun⟩ : ∃ log', EStateM.run (dryValidate sensors stations) ⟨log, b⟩ =
      .ok s₂.this.problemTree ⟨log', s₂.this⟩ := by
    simp only [dryValidate, setSensorIds, Collection.setSensorIds, Condition.setSensorIds,
      validateStations, EStateM.run_bind, h₁, h₂, collectProblems, run_note, run_self, run_pure]
    exact ⟨_, rfl⟩
  refine ⟨log', s₂.this, hrun, made_of_lift Block.Noted.validates hl₂ (made_of_lift id hl₁ hb), ?_,
    fun kc hkc d hd bl hbl => ⟨hsensors kc hkc d hd bl hbl, hs₂ kc hkc d hd bl hbl⟩⟩
  · have hp₂ : s₂.this.problems = s₁.this.problems := by rw [hl₂.rest]
    have hp₁ : s₁.this.problems = b.problems := by rw [hl₁.rest]
    rw [hp₂, hp₁]


theorem made_fresh (name source : String) (book : Workbook) :
    ({ name, source, book } : Batch).Made :=
  ⟨List.nodup_nil, nofun, nofun⟩

theorem run_addCollections_made {b : Batch} (hb : b.Made) (drop : List String) (t : Instant)
    (log : Array Record) :
    ∃ log' b', EStateM.run (addCollections drop t) ⟨log, b⟩ = .ok () ⟨log', b'⟩ ∧ b'.Made := by
  obtain ⟨x, s', h⟩ := finishes_addCollections drop t ⟨log, b⟩
  have hk := keeps_addCollections drop t ⟨log, b⟩
  rw [h] at hk
  exact ⟨s'.log, s'.this, h, hk hb⟩

theorem run_validated (name source : String) (book : Workbook) (drop : List String) (t : Instant)
    (sensors : List (Value × Value)) (stations : List Value) (log : Array Record) :
    ∃ log' b, EStateM.run (do addCollections drop t; dryValidate sensors stations)
        ⟨log, { name, source, book }⟩ = .ok b.problemTree ⟨log', b⟩ ∧ b.Made ∧
      ∀ kc ∈ b.collections, ∀ d ∈ kc.2.conditions, ∀ bl ∈ d.blocks,
        bl.SensorSet sensors ∧ bl.StationKnown stations := by
  obtain ⟨log₁, b₁, h₁, hm₁⟩ := run_addCollections_made (made_fresh name source book) drop t log
  obtain ⟨log₂, b₂, h₂, hm₂, -, hblocks⟩ := run_dryValidate hm₁ sensors stations log₁
  exact ⟨log₂, b₂, (run_bind_ok h₁).trans h₂, hm₂, hblocks⟩

/-! ## The verdict -/

/-- No problem is recorded anywhere: on the batch, its collections, their conditions and
their blocks. -/
def Clean (b : Batch) : Prop :=
  b.problems.entries = [] ∧ ∀ kc ∈ b.collections, kc.2.problems.entries = [] ∧
    ∀ d ∈ kc.2.conditions, d.problems.entries = [] ∧ ∀ bl ∈ d.blocks, bl.problems.entries = []

theorem any_problemTree_eq_false_iff (b : Batch) : b.problemTree.any = false ↔ b.Clean := by
  simp [ProblemTree.any, problemTree, Problems.texts, Clean]


end Batch

/-! ## The local tables -/

theorem Value.same_text_eq_true {a : String} {v : Value} : (Value.text a).same v = true ↔ v = .text a := by
  cases v
  case text b =>
    show (a == b) = true ↔ _
    rw [beq_iff_eq, Value.text.injEq]
    exact eq_comm
  -- a text is the same only as a text
  all_goals exact ⟨nofun, nofun⟩

theorem find?_localSensorTable {key k sid : Value}
    (h : localSensorTable.find? (·.1.same key) = some (k, sid)) :
    ∃ name n, key = .text name ∧ localSensors.find? (·.1 == name) = some (name, n) ∧ sid = .int n := by
  rw [localSensorTable, List.find?_map] at h
  obtain ⟨q, hq, hqe⟩ := Option.map_eq_some_iff.mp h
  have hsame : (Value.text q.1).same key = true := by
    simpa only [Function.comp_def] using List.find?_some hq
  have hkey : key = .text q.1 := Value.same_text_eq_true.mp hsame
  refine ⟨q.1, q.2, hkey, ?_, (Prod.mk.inj hqe).2.symm⟩
  subst hkey
  simpa [Function.comp_def, Value.same] using hq

theorem mem_localStations {n : Int} (h : localStationValues.any (Value.same (.int n)) = true) :
    ∃ m ∈ localStations, n = m := by
  rw [localStationValues, List.any_map] at h
  obtain ⟨m, hm, hsame⟩ := List.any_eq_true.mp h
  exact ⟨m, hm, beq_iff_eq.mp hsame⟩

namespace Block

theorem ready_of_clean {bl : Block} (hm : bl.Made) (hs : bl.SensorSet localSensorTable)
    (hc : bl.problems.entries = []) : bl.Ready := by
  have hnf : ¬ bl.Flagged := fun h => h hc
  refine ⟨?_, fun ⟨hp, hn⟩ => ?_, hc⟩
  · cases hk : bl.kind with
    | none => exact absurd (hm.kind hk) hnf
    | some k => rfl
  · obtain ⟨k, hfind⟩ := (hs (by rw [hp]; nofun)).resolve_left hnf
    obtain ⟨name, n, -, -, hid⟩ := find?_localSensorTable hfind
    rw [hn] at hid
    cases hid

theorem sensor_of_clean {bl : Block} (hs : bl.SensorSet localSensorTable) (hnf : ¬ bl.Flagged)
    (hp : bl.kind = some .primary) :
    ∃ sensor n, bl.sensor = some sensor ∧ localSensors.find? (·.1 == sensor) = some (sensor, n) ∧
      bl.sensorId = .int n := by
  obtain ⟨k, hfind⟩ := (hs (by rw [hp]; nofun)).resolve_left hnf
  obtain ⟨name, n, hkey, hname, hid⟩ := find?_localSensorTable hfind
  -- a block without a sensor is looked up by nothing, which no local sensor is
  cases hsensor : bl.sensor with
  | none => simp [sensorKey, hsensor] at hkey
  | some sensor =>
    have hsame : sensor = name := by simpa [sensorKey, hsensor] using hkey
    exact ⟨sensor, n, rfl, hsame ▸ hname, hid⟩

end Block

namespace Batch


/-- The verdict of a dry validation. A workbook read into a batch and validated against the
local sensors and stations gives the problem tree of the batch, with one name for each
collection, condition and block. The tree shows no problem exactly when none is recorded
anywhere. Then every condition passes its check and is left as it was, every block gives its
query, and every block on a sensor has a local station and the id listed first for its
sensor. -/
theorem dryValidate_verdict (name source : String) (book : Workbook) (drop : List String)
    (t : Instant) (log : Array Record) :
    ∃ log' b, EStateM.run (do addCollections drop t; dryValidate localSensorTable localStationValues)
        ⟨log, { name, source, book }⟩ = .ok b.problemTree ⟨log', b⟩ ∧
      b.problemTree.NamesDistinct ∧ (b.problemTree.any = false ↔ b.Clean) ∧
      (b.problemTree.any = false → ∀ kc ∈ b.collections, ∀ d ∈ kc.2.conditions,
        (∀ l, ∃ l', EStateM.run Condition.check ⟨l, d⟩ = .ok true ⟨l', d⟩) ∧
        ∀ bl ∈ d.blocks, (∀ l, EStateM.run Block.sql ⟨l, bl⟩ = .ok bl.query ⟨l, bl⟩) ∧
          (bl.kind = some .primary → (∃ n ∈ localStations, bl.stationId = some (n : Int)) ∧
            ∃ sensor n, bl.sensor = some sensor ∧
              localSensors.find? (·.1 == sensor) = some (sensor, n) ∧ bl.sensorId = .int n)) := by
  obtain ⟨log', b, hrun, hmade, hblocks⟩ :=
    run_validated name source book drop t localSensorTable localStationValues log
  refine ⟨log', b, hrun, hmade.distinct.names, any_problemTree_eq_false_iff b, fun hany kc hkc d hd => ?_⟩
  obtain ⟨-, hclean⟩ := (any_problemTree_eq_false_iff b).mp hany
  obtain ⟨-, hcond⟩ := hclean kc hkc
  obtain ⟨hdclean, hbclean⟩ := hcond d hd
  have hdmade := (hmade.collections kc hkc).conditions d hd
  -- every block is ready, and so is the condition, whose blocks were all made
  have hready : ∀ bl ∈ d.blocks, bl.Ready := fun bl hbl =>
    Block.ready_of_clean (hdmade.blocks.2.1 bl hbl) (hblocks kc hkc d hd bl hbl).1 (hbclean bl hbl)
  have hmadeAll : d.blocksMade = true := by
    cases hm : d.blocksMade with
    | false => exact absurd hdclean (hdmade.flagged hm)
    | true => rfl
  refine ⟨fun l => ?_, fun bl hbl => ⟨Block.run_sql_ready (hready bl hbl), fun hp => ?_⟩⟩
  · obtain ⟨r, l', d', hcheck, hr, -, hsame, -⟩ := Condition.run_check ⟨l, d⟩
    have hd' : d' = d := hsame ⟨hmadeAll, hready⟩
    subst hd'
    exact ⟨l', by rw [hcheck, hr.mpr ⟨hmadeAll, hready⟩]⟩
  · have hnf : ¬ bl.Flagged := fun h => h (hbclean bl hbl)
    obtain ⟨n, hn, hknown⟩ := ((hblocks kc hkc d hd bl hbl).2 hp).resolve_left hnf
    obtain ⟨m, hm, rfl⟩ := mem_localStations hknown
    exact ⟨⟨m, hm, hn⟩, Block.sensor_of_clean (hblocks kc hkc d hd bl hbl).1 hnf hp⟩

/-- After a dry validation that shows no problem, every reference to another condition names
the view of its site and source alias: the identifier of the two joined by `_`. -/
theorem clean_references_read_views (name source : String) (book : Workbook) (drop : List String)
    (t : Instant) (log : Array Record) :
    ∃ log' b, EStateM.run (do addCollections drop t; dryValidate localSensorTable localStationValues)
        ⟨log, { name, source, book }⟩ = .ok b.problemTree ⟨log', b⟩ ∧
      (b.problemTree.any = false → ∀ kc ∈ b.collections, ∀ d ∈ kc.2.conditions, ∀ bl ∈ d.blocks,
        bl.kind = some .secondary → bl.ReadsView) := by
  obtain ⟨log', b, hrun, hmade, -⟩ :=
    run_validated name source book drop t localSensorTable localStationValues log
  refine ⟨log', b, hrun, fun hany kc hkc d hd bl hbl hsec => ?_⟩
  obtain ⟨-, hclean⟩ := (any_problemTree_eq_false_iff b).mp hany
  have hbclean := ((hclean kc hkc).2 d hd).2 bl hbl
  exact (((hmade.collections kc hkc).conditions d hd).blocks.2.1 bl hbl).reference hsec
    fun h => h hbclean

/-- A reference to a condition that the collection does not have passes. The sheet `C` has one
condition, `x` at site `s` under master alias `m`: its one block refers to the view `s_x`, the
collection has only the condition `s_m`, and the tree shows no problem. -/
theorem reference_to_missing_condition_passes :
    let book : Workbook := { sheets := [{ title := "C", extent := 4, cells :=
      [(⟨1, 1⟩, .text "start"), (⟨1, 2⟩, .text "end"), (⟨2, 1⟩, .text "1.2.2018"),
        (⟨2, 2⟩, .text "31.3.2018"), (⟨3, 1⟩, .text "site"), (⟨3, 2⟩, .text "master_alias"),
        (⟨3, 3⟩, .text "condition"), (⟨4, 1⟩, .text "s"), (⟨4, 2⟩, .text "m"), (⟨4, 3⟩, .text "x")] }] }
    let r := Act.run (do
        addCollections ["info"] ⟨2018, 1, 1, 0, 0, 0, 0⟩
        dryValidate localSensorTable localStationValues)
      { name := "test", source := "input.xlsx", book } #[]
    r.1.toOption.map ProblemTree.any = some false ∧
      (r.2.1.collections.flatMap fun kc => kc.2.conditions.flatMap fun d =>
        d.blocks.map fun bl => (bl.kind, bl.sourceView)) = [(some .secondary, some "s_x")] ∧
      (r.2.1.collections.flatMap fun kc => kc.2.conditions.map (·.idString)) = ["s_m"] := by
  decide +kernel

end Batch

end RoadWeather
