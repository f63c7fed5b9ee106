import RoadWeather.Proofs.DryValidation
import RoadWeather.Proofs.Logging

/-! # The value of a test in its query -/

namespace RoadWeather

open RoadWeather.Act RoadWeather.Text

namespace Block

def valueOf (raw : String) : Option String :=
  (testParts raw ((operatorCount (.text raw)).2.getD ""))[2]?.map fun v => strip (lower v)

/-- The value text of a block, when it has one, is the value of its text. -/
def ValueRead (b : Block) : Prop :=
  ∀ v, b.valueText = some v → ∃ raw, b.rawLogic = .text raw ∧ valueOf raw = some v

/-- A step that leaves the text and the value text of a block alone. -/
def Untouched (b b' : Block) : Prop := b'.rawLogic = b.rawLogic ∧ b'.valueText = b.valueText

instance : IsPreorder Block Untouched where
  refl _ := ⟨rfl, rfl⟩
  trans _ _ _ h₁ h₂ := ⟨h₂.1.trans h₁.1, h₂.2.trans h₁.2⟩

/-- A step that, on a block of the text `raw`, keeps the text, and keeps the value text or sets
it to the value of the text. -/
def ValueFrom (raw : Value) (b b' : Block) : Prop :=
  b.rawLogic = raw → b'.rawLogic = raw ∧
    (b'.valueText = b.valueText ∨ ∃ r, raw = .text r ∧ b'.valueText = valueOf r)

instance (raw : Value) : IsPreorder Block (ValueFrom raw) where
  refl _ h := ⟨h, .inl rfl⟩
  trans _ _ _ h₁ h₂ h := by
    obtain ⟨h₁r, h₁v⟩ := h₁ h
    obtain ⟨h₂r, h₂v⟩ := h₂ h₁r
    refine ⟨h₂r, ?_⟩
    rcases h₂v with h₂v | h₂v
    · exact h₂v ▸ h₁v
    · exact .inr h₂v

theorem Untouched.valueFrom {raw : Value} {b b' : Block} (h : Untouched b b') : ValueFrom raw b b' :=
  fun hr => ⟨h.1.trans hr, .inl h.2⟩

theorem keeps_report_untouched (msg : String) (n : Notice) : Act.Keeps Untouched (report msg n) := fun s => by
  obtain ⟨log, h⟩ := run_report msg n s
  rw [h]
  exact ⟨rfl, rfl⟩

theorem keeps_report_valueFrom (raw : Value) (msg : String) (n : Notice) :
    Act.Keeps (ValueFrom raw) (report msg n) :=
  (keeps_report_untouched msg n).mono Untouched.valueFrom

theorem keeps_guard_valueFrom {raw : Value} {msg : String} {step : Act Block Unit}
    (h : Act.Keeps (ValueFrom raw) step) : Act.Keeps (ValueFrom raw) (guard msg step) :=
  keeps_guard h (keeps_report_valueFrom raw msg .error)

theorem keeps_readReference_untouched (site? : Option String) (aliasName : Value) :
    Act.Keeps Untouched (readReference site? aliasName) := by
  unfold readReference
  dsimp only
  -- a reference sets its site, alias and view only
  repeat' first
    | with_reducible exact keeps_pure _
    | with_reducible exact keeps_self
    | with_reducible exact keeps_identOf _
    | with_reducible exact keeps_ident _
    | with_reducible refine keeps_bind ?_ fun _ => ?_
    | split
    | exact keeps_change fun _ => ⟨rfl, rfl⟩

theorem keeps_checkListValue_untouched : Act.Keeps Untouched checkListValue := by
  unfold checkListValue
  refine keeps_bind keeps_self fun b => keeps_ite ?_ (keeps_pure _)
  split
  · exact keeps_ite (keeps_report_untouched _ _) (keeps_pure _)
  · exact keeps_fail _ _

theorem eq_text_of_splittable {v : Value} {s s' : Scene Block} {r : String}
    (h : EStateM.run (splittable v) s = .ok r s') : v = .text r := by
  cases v
  case text t =>
    cases h
    rfl
  all_goals cases h

theorem keeps_readTest_value {raw : Value} {r : String} (hr : raw = .text r) {op : String}
    (hop : (operatorCount raw).2.getD "" = op) : Act.Keeps (ValueFrom raw) (readTest (testParts r op) op) :=
  fun s hraw => by
    refine ⟨(keeps_readTest (testParts r op) op s).named.1.trans hraw, ?_⟩
    rcases readTest_fields (testParts r op) op s with ⟨-, -, hv⟩ | ⟨-, -, hv⟩
    · rw [hv]
      -- the value text is set from the third part, when there is one
      cases h3 : (testParts r op)[2]? with
      | none => exact .inl rfl
      | some p =>
        subst hr
        exact .inr ⟨r, rfl, by simp only [valueOf, hop, h3, Option.map_some, Option.some_or]⟩
    · exact .inl hv

theorem keeps_unpack_value (raw : Value) : Act.Keeps (ValueFrom raw) unpack := by
  unfold unpack
  refine keeps_self_bind fun s => ?_
  by_cases hraw : s.this.rawLogic = raw
  · rw [hraw]
    refine (?_ : Act.Keeps (ValueFrom raw) _) s
    unfold reportWhen
    refine keeps_bind (keeps_ite (keeps_report_valueFrom _ _ _) (keeps_pure _)) fun _ => ?_
    refine keeps_bind (keeps_ite (keeps_report_valueFrom _ _ _) (keeps_pure _)) fun _ => ?_
    have hkind : ∀ k, Act.Keeps (ValueFrom raw) (Act.change fun b => { b with kind := k }) :=
      fun _ => keeps_change fun _ => Untouched.valueFrom ⟨rfl, rfl⟩
    -- a reference of either form, a sensor test, or a text of neither shape
    refine keeps_ite ?_ (keeps_ite ?_ (keeps_ite ?_ (keeps_report_valueFrom _ _ _)))
    · exact keeps_bind (hkind _) fun _ =>
        keeps_guard_valueFrom ((keeps_readReference_untouched _ _).mono Untouched.valueFrom)
    · exact keeps_bind (hkind _) fun _ => keeps_bind (keeps_splittable _) fun _ =>
        keeps_guard_valueFrom ((keeps_readReference_untouched _ _).mono Untouched.valueFrom)
    · -- the value of a test is read from the text
      unfold unpackTest
      refine keeps_bind (keeps_change fun _ => Untouched.valueFrom ⟨rfl, rfl⟩) fun _ => ?_
      refine keeps_bind_of (keeps_splittable _) (fun _ _ _ h => eq_text_of_splittable h) fun r hr => ?_
      exact keeps_bind (keeps_guard_valueFrom (keeps_readTest_value hr rfl)) fun _ =>
        keeps_checkListValue_untouched.mono Untouched.valueFrom
  · exact fun h => absurd h hraw

theorem valueRead_of_make {m site n raw : Value} {s s' : Scene Unit} {b : Block}
    (h : EStateM.run (make m site n raw) s = .ok b s') : b.ValueRead := by
  obtain ⟨ma, ps, t, -, -, ht, rfl⟩ := run_make_unpack h
  -- the text is read on a new block, which has no value text
  have hk := keeps_unpack_value raw ⟨s.log, blank ma ps n raw⟩ rfl
  rw [ht, lastObject_ok] at hk
  intro v hv
  rcases hk.2 with hnone | ⟨r, hr, hval⟩
  · simp [blank, hnone] at hv
  · exact ⟨r, hk.1.trans hr, hval ▸ hv⟩

theorem Validates.valueRead {b b' : Block} (h : Validates b b') (hb : b.ValueRead) : b'.ValueRead := by
  rw [h.rest]
  exact hb

theorem query_of_primary {b : Block} (h : b.kind = some .primary) :
    ∃ pre, b.query = pre ++ "', p_seval := '" ++ optText b.valueText ++ "')" := by
  unfold query
  rw [if_neg (by rw [h]; nofun)]
  exact ⟨_, rfl⟩

end Block

/-! ## The blocks of a condition -/

namespace Condition

/-- Every block of the condition has `P`. -/
def BlocksAre (P : Block → Prop) (c : Condition) : Prop := ∀ b ∈ c.blocks, P b

section
variable {P : Block → Prop}

theorem keeps_blocksAre_of_blocks {α : Type} {a : Act Condition α}
    (h : ∀ s, (lastObject (EStateM.run a s)).blocks = s.this.blocks) :
    Act.Keeps (Carries (BlocksAre P)) a := fun s hs b hb => hs b (h s ▸ hb)

theorem keeps_blocksAre_report (msg : String) (n : Notice) :
    Act.Keeps (Carries (BlocksAre P)) (report msg n) := keeps_blocksAre_of_blocks fun s => by
  obtain ⟨log, h⟩ := run_report msg n s
  rw [h]
  rfl

theorem keeps_blocksAre_checkCounts : Act.Keeps (Carries (BlocksAre P)) checkCounts :=
  keeps_blocksAre_of_blocks fun s => by
    obtain ⟨s', h, hs⟩ := run_checkCounts s
    rw [h, lastObject_ok, hs]

theorem keeps_blocksAre_reportAll (msgs : List String) : Act.Keeps (Carries (BlocksAre P)) (reportAll msgs) :=
  keeps_blocksAre_of_blocks fun s => by
    obtain ⟨s', h, hs⟩ := run_reportAll msgs s
    rw [h, lastObject_ok, hs]

theorem keeps_blocksAre_settle (parts : List Part) (ok : Bool) :
    Act.Keeps (Carries (BlocksAre P)) (settle parts ok) :=
  keeps_blocksAre_of_blocks fun s => by
    obtain ⟨s', h, hs⟩ := run_settle parts ok s
    rw [h, lastObject_ok, hs]

variable (hP : ∀ {m site n raw : Value} {s s' : Scene Unit} {b : Block},
  EStateM.run (Block.make m site n raw) s = .ok b s' → P b)
include hP

theorem keeps_blocksAre_makeParts (ts : List String) :
    ∀ acc ok, Act.Keeps (Carries (BlocksAre P)) (makeParts ts acc ok) := by
  induction ts with
  | nil => exact fun _ _ => keeps_pure _
  | cons p rest ih =>
    intro acc ok
    rw [makeParts.eq_2]
    split
    · exact ih _ _
    · refine keeps_bind keeps_self fun c => ?_
      refine keeps_bind_of (Q := fun made => ∀ b, made = .ok b → P b)
        (keeps_focus (keeps_true _) fun _ _ _ => id) (fun s made s' h b hb => ?_) fun made hmade => ?_
      · rw [run_focus, run_attempt] at h
        cases hr : EStateM.run (Block.make (.text c.masterAlias) (.text c.site) (.int c.blocks.length)
            (.text p)) ⟨s.log, ()⟩ with
        | ok b' t => rw [hr] at h; cases h; cases hb; exact hP hr
        | error e t => rw [hr] at h; cases h; cases hb
      · cases made with
        | ok b =>
          dsimp only
          split
          · exact ih _ _
          · refine keeps_bind (keeps_change fun x hx y hy => ?_) fun _ => ih _ _
            rcases List.mem_append.mp hy with hy | hy
            · exact hx y hy
            · exact List.mem_singleton.mp hy ▸ hmade b rfl
        | error e => exact keeps_bind (keeps_blocksAre_report _ _) fun _ => ih _ _

theorem keeps_blocksAre_readTokens (ts : List String) : Act.Keeps (Carries (BlocksAre P)) (readTokens ts) := by
  unfold readTokens
  dsimp only
  repeat' first
    | with_reducible exact keeps_pure _
    | with_reducible exact keeps_self
    | with_reducible exact keeps_blocksAre_checkCounts
    | with_reducible exact keeps_blocksAre_makeParts hP _ _ _
    | with_reducible exact keeps_blocksAre_reportAll _
    | with_reducible exact keeps_blocksAre_settle _ _
    | with_reducible exact keeps_blocksAre_report _ _
    | with_reducible refine keeps_bind ?_ fun _ => ?_
    | split

theorem blocksAre_of_make {site masterAlias raw timeFrom timeUntil excelRow : Value}
    {s s' : Scene Unit} {c : Condition}
    (h : EStateM.run (make site masterAlias raw timeFrom timeUntil excelRow) s = .ok c s') :
    c.BlocksAre P := by
  obtain ⟨c₀, log, s₁, total, hnil, -, -, -, hmb, rfl⟩ := run_make_ok h
  have hk := keeps_blocksAre_readTokens hP (tokens c₀.formula) ⟨log, c₀⟩
  rw [← run_makeBlocks ⟨log, c₀⟩, hmb, lastObject_ok] at hk
  -- the condition read from has no block yet, and the one made has the blocks read
  have hread : BlocksAre P s₁.this := hk fun b hb => by simp [hnil] at hb
  exact fun b hb => hread b hb

end

end Condition

/-! ## The value in the query -/

/-- The value of a test goes into its query as it was written. In a condition made from any
text, with the sensor ids set from any table, every block on a sensor that passes its check
gives its query, which ends with its value text between quotes after `p_seval :=`; and that
value text is the text after the operator, lowered and stripped, with nothing taken out. -/
theorem ready_test_quotes_value {site masterAlias raw timeFrom timeUntil excelRow : Value}
    {s s' : Scene Unit} {c : Condition}
    (hmake : EStateM.run (Condition.make site masterAlias raw timeFrom timeUntil excelRow) s = .ok c s')
    (sensors : List (Value × Value)) (log : Array Record) :
    ∃ log' c', EStateM.run (Condition.setSensorIds (.ok sensors)) ⟨log, c⟩ = .ok () ⟨log', c'⟩ ∧
      ∀ b ∈ c'.blocks, b.Ready → b.kind = some .primary →
        (∀ l, EStateM.run Block.sql ⟨l, b⟩ = .ok b.query ⟨l, b⟩) ∧
        (∃ pre, b.query = pre ++ "', p_seval := '" ++ Block.optText b.valueText ++ "')") ∧
        (b.valueText = none ∨ ∃ text, b.rawLogic = .text text ∧ b.valueText = Block.valueOf text) := by
  have hread : c.BlocksAre Block.ValueRead := Condition.blocksAre_of_make Block.valueRead_of_make hmake
  obtain ⟨⟨log', c'⟩, hrun, hlift, -⟩ := Condition.run_everyBlock (Block.run_setSensorId_ok sensors) ⟨log, c⟩
  have hread' := Condition.Lift.forall (P := Block.ValueRead) Block.Validates.valueRead hlift hread
  refine ⟨log', c', hrun, fun b hb hready hp => ⟨Block.run_sql_ready hready, Block.query_of_primary hp, ?_⟩⟩
  cases hv : b.valueText with
  | none => exact .inl rfl
  | some v =>
    obtain ⟨text, htext, hval⟩ := hread' b hb v hv
    exact .inr ⟨text, htext, hval.symm⟩

/-- Two tests on sensors of station 1120 make a condition, and every block of it on a sensor
that passes its check, with the ids of the local table, quotes its value. -/
theorem two_tests_quote_values :
    ∃ c s', EStateM.run (Condition.make (.text "s") (.text "m") (.text "s1120#keli_1 = 8 and s1120#keli_2 = 9")
        (.time ⟨2018, 2, 1, 0, 0, 0, 0⟩) (.time ⟨2018, 3, 31, 23, 59, 59, 0⟩) .nothing) ⟨#[], ()⟩ = .ok c s' ∧
      ∃ log' c', EStateM.run (Condition.setSensorIds (.ok localSensorTable)) ⟨#[], c⟩ = .ok () ⟨log', c'⟩ ∧
        ∀ b ∈ c'.blocks, b.Ready → b.kind = some .primary →
          (∀ l, EStateM.run Block.sql ⟨l, b⟩ = .ok b.query ⟨l, b⟩) ∧
          (∃ pre, b.query = pre ++ "', p_seval := '" ++ Block.optText b.valueText ++ "')") ∧
          (b.valueText = none ∨ ∃ text, b.rawLogic = .text text ∧ b.valueText = Block.valueOf text) := by
  obtain ⟨c, s', hc⟩ := exists_ok_of_outcome (by decide +kernel :
    (outcome (EStateM.run (Condition.make (.text "s") (.text "m") (.text "s1120#keli_1 = 8 and s1120#keli_2 = 9")
      (.time ⟨2018, 2, 1, 0, 0, 0, 0⟩) (.time ⟨2018, 3, 31, 23, 59, 59, 0⟩) .nothing) ⟨#[], ()⟩)).1.isOk = true)
  exact ⟨c, s', hc, ready_test_quotes_value hc localSensorTable #[]⟩

/-- A value with a quote ends the literal of its query early. The test `s1120#keli_1 = 8'` is on
a sensor of the local table and passes its check, and its query holds `p_seval := '8''`. -/
theorem quote_ends_value_literal :
    ((Act.run (Condition.make (.text "s") (.text "m") (.text "s1120#keli_1 = 8' and s1120#keli_2 = 9")
        (.time ⟨2018, 2, 1, 0, 0, 0, 0⟩) (.time ⟨2018, 3, 31, 23, 59, 59, 0⟩) .nothing) () #[]).1.toOption.bind
      fun c => ((Act.run (Condition.setSensorIds (.ok localSensorTable)) c #[]).2.1.blocks.map
        fun b => (decide b.Ready, b.kind, b.valueText, b.query)).head?) =
    some (true, some .primary, some "8'", "SELECT valid_r, istrue AS m_0 FROM pack_ranges(" ++
      "p_obs_relation := 'obs_main', p_maxminutes := 30, p_statid := 1120, p_seid := 27, " ++
      "p_operator := '=', p_seval := '8'')") := by
  decide +kernel

end RoadWeather
