import RoadWeather.Proofs.Identifiers
import RoadWeather.Proofs.Numbering

/-! # Making a block -/

namespace RoadWeather

namespace Text

theorem cutAux_ne_nil (sep : List Char) (fuel : Nat) (cs cur : List Char) :
    cutAux sep fuel cs cur ≠ [] := by
  fun_induction cutAux sep fuel cs cur <;> simp_all

theorem cutAux_eq_singleton {sep : List Char} {fuel : Nat} {cs cur : List Char}
    (h : (cutAux sep fuel cs cur).length ≤ 1) : cutAux sep fuel cs cur = [cur.reverse ++ cs] := by
  fun_induction cutAux sep fuel cs cur with
  | case1 => rfl
  | case2 => simp
  | case3 fuel c cs cur hstart =>
    -- a separator found here starts a second piece
    have hne := cutAux_ne_nil sep fuel ((c :: cs).drop sep.length) []
    rw [List.length_cons] at h
    exact absurd (List.length_eq_zero_iff.mp (by omega)) hne
  | case4 fuel c cs cur hstart ih =>
    rw [ih h]
    simp

theorem cut_eq_singleton {s sep : String} (h : occurrences s sep = 0) : cut s sep = [s] := by
  unfold occurrences at h
  unfold cut at h ⊢
  split
  · rfl
  · rename_i hsep
    rw [if_neg hsep, List.length_map] at h
    rw [cutAux_eq_singleton (by omega)]
    simp

end Text

open RoadWeather.Act RoadWeather.Text

namespace Block

/-! ## The operator of a test -/

theorem foldl_count_snd_mem (raw : Value) (l : List String) (init : Nat × Option String)
    (hsub : l ⊆ operators) (hinit : ∀ o, init.2 = some o → o ∈ operators) (o : String)
    (h : (l.foldl (fun (n, last) op =>
      let k := countOf raw op
      if k > 0 then (n + k, some op) else (n, last)) init).2 = some o) : o ∈ operators := by
  induction l generalizing init with
  | nil => exact hinit o h
  | cons x rest ih =>
    rw [List.foldl_cons] at h
    refine ih _ (fun y hy => hsub (List.mem_cons_of_mem x hy)) (fun o ho => ?_) h
    simp only at ho
    split at ho
    · exact Option.some.inj ho ▸ hsub List.mem_cons_self
    · exact hinit o ho

theorem operatorCount_snd_mem (raw : Value) {op : String} (h : (operatorCount raw).2 = some op) :
    op ∈ operators :=
  foldl_count_snd_mem raw operators (0, none) (fun _ h => h) (fun _ h => by cases h) op h

theorem reads_in_iff {lastOp : Option String} (h : ∀ o, lastOp = some o → o ∈ operators) :
    strip (lower (lastOp.getD "")) = "in" ↔ lastOp = some " in " := by
  have hall : ∀ o ∈ operators, strip (lower o) = "in" → o = " in " := by decide
  cases lastOp with
  | none => exact iff_of_false (by decide) (by simp)
  | some o =>
    refine ⟨fun hin => congrArg some (hall o (h o rfl) hin), fun ho => ?_⟩
    cases ho
    decide

/-! ## Reading a test -/

theorem run_identOf (v : Value) (s : Scene Block) :
    EStateM.run (identOf v) s = match identifier v with
      | .ok x => .ok x s
      | .error f => .error f s := by
  unfold identOf
  cases identifier v <;> rfl

/-- The station and the sensor of a test read: the station is an identifier with a number,
and a sensor part follows that is an identifier. -/
def NamesRead (parts : List String) : Prop :=
  ∃ st, identifier (.text (parts.getD 0 "")) = .ok st ∧ (∃ n, stationNumber st = .ok n) ∧
    ∃ p, parts[1]? = some p ∧ ∃ se, identifier (.text p) = .ok se

theorem readTest_fields (parts : List String) (op : String) (s : Scene Block) :
    (NamesRead parts ∧
        (lastObject (EStateM.run (readTest parts op) s)).operator = some (strip (lower op)) ∧
        (lastObject (EStateM.run (readTest parts op) s)).valueText =
          (parts[2]?.map fun v => strip (lower v)).or s.this.valueText) ∨
      (¬ NamesRead parts ∧
        (lastObject (EStateM.run (readTest parts op) s)).operator = s.this.operator ∧
        (lastObject (EStateM.run (readTest parts op) s)).valueText = s.this.valueText) := by
  unfold readTest ident
  simp only [NamesRead, List.getD_eq_getElem?_getD]
  -- follow the reading step by step: station, its number, the sensor part, the sensor
  cases hst : identifier (.text (parts[0]?.getD "")) with
  | error f => simp [EStateM.run_bind, run_identOf, hst]
  | ok st =>
  cases hnum : stationNumber st with
  | error f => simp [EStateM.run_bind, run_identOf, hst, hnum]
  | ok n =>
  cases parts[1]? with
  | none => simp [EStateM.run_bind, run_identOf, hst, hnum]
  | some p =>
  cases hse : identifier (.text p) with
  | error f => simp [EStateM.run_bind, run_identOf, hst, hnum, hse]
  | ok se =>
  left
  cases parts[2]? <;> simp [EStateM.run_bind, run_identOf, hst, hnum, hse]

theorem run_guard_test (msg : String) (step : Act Block Unit) (s : Scene Block) :
    ∃ s', EStateM.run (guard msg step) s = .ok () s' ∧
      s'.this.operator = (lastObject (EStateM.run step s)).operator ∧
      s'.this.valueText = (lastObject (EStateM.run step s)).valueText := by
  unfold guard
  rw [EStateM.run_bind, run_attempt]
  cases EStateM.run step s with
  | ok u t => exact ⟨t, rfl, rfl, rfl⟩
  | error e t =>
    obtain ⟨log, h⟩ := run_report msg .error t
    exact ⟨_, h, rfl, rfl⟩

theorem run_reportWhen (c : Prop) [Decidable c] (msg : String) (s : Scene Block) :
    ∃ s', EStateM.run (reportWhen c msg) s = .ok () s' ∧
      s'.this = { s.this with problems := s'.this.problems } := by
  unfold reportWhen
  split
  · obtain ⟨log, h⟩ := run_report msg .error s
    exact ⟨_, h, rfl⟩
  · exact ⟨s, rfl, rfl⟩

theorem run_checkListValue (s : Scene Block) :
    (s.this.operator = some "in" ∧ s.this.valueText = none →
      EStateM.run checkListValue s =
        .error ⟨.noAttribute, "'NoneType' object has no attribute 'startswith'"⟩ s) ∧
    (¬ (s.this.operator = some "in" ∧ s.this.valueText = none) →
      ∃ s', EStateM.run checkListValue s = .ok () s') := by
  unfold checkListValue
  rw [EStateM.run_bind, run_self]
  by_cases hin : s.this.operator = some "in"
  · cases hv : s.this.valueText with
    | none => simp [hin, hv]
    | some v =>
      refine ⟨fun h => absurd h.2 (Option.some_ne_none v), fun _ => ?_⟩
      simp only [hin, hv, if_true]
      split
      · obtain ⟨log, h⟩ := run_report "\"in\" must be followed by values enclosed by \"()\"" .error s
        exact ⟨_, h⟩
      · exact ⟨s, rfl⟩
  · exact ⟨fun h => absurd h.1 hin, fun _ => ⟨s, by simp [hin]⟩⟩

theorem run_unpackTest (raw op : String) (s : Scene Block) (hop : s.this.operator = none)
    (hval : s.this.valueText = none) :
    (NamesRead (testParts raw op) ∧ strip (lower op) = "in" ∧ (testParts raw op).length ≤ 2 →
      ∃ s', EStateM.run (unpackTest (.text raw) op) s =
        .error ⟨.noAttribute, "'NoneType' object has no attribute 'startswith'"⟩ s') ∧
    (¬ (NamesRead (testParts raw op) ∧ strip (lower op) = "in" ∧ (testParts raw op).length ≤ 2) →
      ∃ s', EStateM.run (unpackTest (.text raw) op) s = .ok () s') := by
  unfold unpackTest
  simp only [EStateM.run_bind, run_change, splittable, run_pure]
  let s₀ : Scene Block := ⟨s.log, { s.this with kind := some .primary, site := some s.this.parentSite }⟩
  obtain ⟨s₁, hguard, hop₁, hval₁⟩ := run_guard_test "Cannot set attributes for primary condition"
    (readTest (testParts raw op) op) s₀
  rw [hguard]
  dsimp only
  -- after the guard, the operator and the value are what the reading of the parts left
  have hunread : s₁.this.operator = some "in" ∧ s₁.this.valueText = none ↔
      NamesRead (testParts raw op) ∧ strip (lower op) = "in" ∧ (testParts raw op).length ≤ 2 := by
    rcases readTest_fields (testParts raw op) op s₀ with ⟨hnames, hset, hvalue⟩ | ⟨hnames, hsame, _⟩
    · rw [hop₁, hval₁, hset, hvalue]
      simp [s₀, hval, hnames]
    · rw [hop₁, hsame]
      simp [s₀, hop, hnames]
  rw [← hunread]
  exact ⟨fun h => ⟨s₁, (run_checkListValue s₁).1 h⟩, (run_checkListValue s₁).2⟩

/-! ## Reading the text of a block -/

/-- A test text whose value is never read although its station and sensor are: one `#`, one
operator, ` in `, no ` in ` after the `#`, and names on both sides of the `#`. -/
def ValueUnread (raw : String) : Prop :=
  occurrences raw "#" = 1 ∧ operatorCount (.text raw) = (1, some " in ") ∧
    occursIn " in " ((cut raw "#").getD 1 "") = false ∧
    NamesRead [(cut raw "#").getD 0 "", (cut raw "#").getD 1 ""]

theorem testUnread_iff {raw : String} {lastOp : Option String} (hh : occurrences raw "#" = 1)
    (ho : operatorCount (.text raw) = (1, lastOp)) :
    (NamesRead (testParts raw (lastOp.getD "")) ∧ strip (lower (lastOp.getD "")) = "in" ∧
      (testParts raw (lastOp.getD "")).length ≤ 2) ↔ ValueUnread raw := by
  have hmem : ∀ o, lastOp = some o → o ∈ operators := fun o h =>
    operatorCount_snd_mem (.text raw) (by rw [ho, h])
  rw [reads_in_iff hmem]
  unfold ValueUnread testParts
  generalize (cut raw "#").getD 0 "" = h0
  generalize (cut raw "#").getD 1 "" = h1
  constructor
  · rintro ⟨hnames, rfl, hlen⟩
    -- no second piece after the `#`, so the sensor part is all of it
    have hnone : occurrences h1 " in " = 0 := by
      simp only [Option.getD_some, List.length_cons] at hlen
      simp only [occurrences]
      omega
    rw [Option.getD_some, cut_eq_singleton hnone] at hnames
    exact ⟨hh, ho, by simp [occursIn, hnone], hnames⟩
  · rintro ⟨-, ho', hocc, hnames⟩
    have hlast : lastOp = some " in " := (Prod.mk.inj (ho.symm.trans ho')).2
    have hnone : occurrences h1 " in " = 0 := by simpa [occursIn] using hocc
    subst hlast
    rw [Option.getD_some, cut_eq_singleton hnone]
    exact ⟨hnames, rfl, by simp⟩

theorem unpack_cases {s s' : Scene Block} (h : EStateM.run unpack s = .ok () s') :
    ∃ s₂ : Scene Block, s₂.this = { s.this with problems := s₂.this.problems } ∧
      ((countOf s.this.rawLogic "#" = 0 ∧ (operatorCount s.this.rawLogic).1 = 0 ∧
          EStateM.run (guard "Cannot set source alias and view for secondary condition"
              (readReference none s.this.rawLogic))
            ⟨s₂.log, { s₂.this with kind := some .secondary }⟩ = .ok () s') ∨
        (countOf s.this.rawLogic "#" = 1 ∧ (operatorCount s.this.rawLogic).1 = 0 ∧
          ∃ r t, EStateM.run (splittable s.this.rawLogic)
              ⟨s₂.log, { s₂.this with kind := some .secondary }⟩ = .ok r t ∧
            EStateM.run (guard "Cannot set site, source alias and view for secondary condition"
              (readReference (some ((cut r "#").getD 0 "")) (.text ((cut r "#").getD 1 "")))) t =
              .ok () s') ∨
        (countOf s.this.rawLogic "#" = 1 ∧ (operatorCount s.this.rawLogic).1 = 1 ∧
          EStateM.run (unpackTest s.this.rawLogic ((operatorCount s.this.rawLogic).2.getD "")) s₂ =
            .ok () s') ∨
        (¬ (countOf s.this.rawLogic "#" = 0 ∧ (operatorCount s.this.rawLogic).1 = 0) ∧
          ¬ (countOf s.this.rawLogic "#" = 1 ∧ (operatorCount s.this.rawLogic).1 = 0) ∧
          ¬ (countOf s.this.rawLogic "#" = 1 ∧ (operatorCount s.this.rawLogic).1 = 1) ∧
          ∃ log, s' = ⟨log, { s₂.this with
            problems := s₂.this.problems.record
              (.text "Primary Block requires a \"#\" between station and sensor") }⟩)) := by
  unfold unpack at h
  rw [EStateM.run_bind, run_self] at h
  dsimp only at h
  -- the two counts only report
  obtain ⟨s₁, h₁, hf₁⟩ := run_reportWhen (countOf s.this.rawLogic "#" > 1)
    "Too many \"#\" symbols, only one or zero allowed" s
  rw [run_bind_ok h₁] at h
  obtain ⟨s₂, h₂, hf₂⟩ := run_reportWhen ((operatorCount s.this.rawLogic).1 > 1)
    "Too many \"=\", \"<>\", \">\", \"<\", \">=\", \"<=\", \"in\" operators, only one or zero allowed" s₁
  rw [run_bind_ok h₂] at h
  refine ⟨s₂, by rw [hf₂, hf₁], ?_⟩
  split at h
  · rename_i hbranch
    rw [run_bind_ok (run_change _ _)] at h
    exact .inl ⟨hbranch.1, hbranch.2, h⟩
  split at h
  · rename_i hbranch
    rw [run_bind_ok (run_change _ _)] at h
    cases hsplit : EStateM.run (splittable s.this.rawLogic)
        ⟨s₂.log, { s₂.this with kind := some .secondary }⟩ with
    | error e t => rw [run_bind_error hsplit] at h; cases h
    | ok r t =>
      rw [run_bind_ok hsplit] at h
      exact .inr (.inl ⟨hbranch.1, hbranch.2, r, t, rfl, h⟩)
  split at h
  · rename_i hbranch
    exact .inr (.inr (.inl ⟨hbranch.1, hbranch.2, h⟩))
  · rename_i h0 h1 h2
    obtain ⟨log, hrep⟩ := run_report "Primary Block requires a \"#\" between station and sensor" .error s₂
    rw [hrep] at h
    cases h
    exact .inr (.inr (.inr ⟨h0, h1, h2, log, rfl⟩))

theorem run_unpack (s : Scene Block) {raw : String} (hraw : s.this.rawLogic = .text raw)
    (hop : s.this.operator = none) (hval : s.this.valueText = none) :
    (ValueUnread raw → ∃ s', EStateM.run unpack s =
        .error ⟨.noAttribute, "'NoneType' object has no attribute 'startswith'"⟩ s') ∧
    (¬ ValueUnread raw → ∃ s', EStateM.run unpack s = .ok () s') := by
  unfold unpack
  rw [EStateM.run_bind, run_self]
  dsimp only
  -- the two counts only report
  obtain ⟨s₁, h₁, hf₁⟩ := run_reportWhen (countOf s.this.rawLogic "#" > 1)
    "Too many \"#\" symbols, only one or zero allowed" s
  rw [run_bind_ok h₁]
  obtain ⟨s₂, h₂, hf₂⟩ := run_reportWhen ((operatorCount s.this.rawLogic).1 > 1)
    "Too many \"=\", \"<>\", \">\", \"<\", \">=\", \"<=\", \"in\" operators, only one or zero allowed" s₁
  rw [run_bind_ok h₂, hraw]
  have hframe : s₂.this = { s.this with problems := s₂.this.problems } := by rw [hf₂, hf₁]
  have hhash : countOf (.text raw) "#" = occurrences raw "#" := rfl
  cases hcount : operatorCount (.text raw) with
  | mk nOps lastOp =>
  rw [hhash]
  simp only
  -- a text whose value is never read has one `#` and one operator
  have hshape : ValueUnread raw → occurrences raw "#" = 1 ∧ nOps = 1 := fun h =>
    ⟨h.1, (Prod.mk.inj (hcount.symm.trans h.2.1)).1⟩
  split
  · rename_i hbranch
    refine ⟨fun h => absurd (hshape h).1 (by omega), fun _ => ?_⟩
    simpa [EStateM.run_bind] using run_guard _ _ _
  split
  · rename_i hbranch
    refine ⟨fun h => absurd (hshape h).2 (by omega), fun _ => ?_⟩
    simpa [EStateM.run_bind, splittable] using run_guard _ _ _
  split
  · rename_i _ _ hbranch
    rw [← testUnread_iff hbranch.1 (hbranch.2 ▸ hcount)]
    exact run_unpackTest raw (lastOp.getD "") s₂ ((congrArg Block.operator hframe).trans hop)
      ((congrArg Block.valueText hframe).trans hval)
  · rename_i hsecond hprimary
    refine ⟨fun h => absurd ⟨(hshape h).1, (hshape h).2⟩ hprimary, fun _ => ?_⟩
    obtain ⟨log, h⟩ := run_report "Primary Block requires a \"#\" between station and sensor" .error s₂
    exact ⟨_, h⟩

/-! ## Making a block -/

/-- Made from a master alias and a site that are identifiers, a block of a text is made unless
the value of its test is never read; then the making fails with the failure of the check of
an `in` value. -/
theorem make_finishes_unless_value_unread {m' site' m site raw : String}
    (hm : identifier (.text m') = .ok m) (hs : identifier (.text site') = .ok site)
    (orderNr : Value) (log : Array Record) :
    (¬ ValueUnread raw →
      ∃ b s', EStateM.run (make (.text m) (.text site) orderNr (.text raw)) ⟨log, ()⟩ = .ok b s') ∧
    (ValueUnread raw →
      ∃ s', EStateM.run (make (.text m) (.text site) orderNr (.text raw)) ⟨log, ()⟩ =
        .error ⟨.noAttribute, "'NoneType' object has no attribute 'startswith'"⟩ s') := by
  unfold make
  simp only [identifier_self hm, identifier_self hs, EStateM.run_bind, run_pure, run_focus]
  obtain ⟨hfail, hok⟩ := run_unpack ⟨log, blank m site orderNr (.text raw)⟩ rfl rfl rfl
  constructor
  · intro hread
    obtain ⟨t, ht⟩ := hok hread
    exact ⟨t.this, ⟨t.log, ()⟩, by simp [ht]⟩
  · intro hunread
    obtain ⟨t, ht⟩ := hfail hunread
    exact ⟨⟨t.log, ()⟩, by simp [ht]⟩

/-- An `in` test on a list after the `#` gives a block. -/
theorem list_test_block_made :
    identifier (.text "M") = .ok "m" ∧ identifier (.text "S") = .ok "s" ∧
      ¬ ValueUnread "s1#a in (1,2)" ∧
      ∃ b s', EStateM.run (make (.text "m") (.text "s") (.int 0) (.text "s1#a in (1,2)")) ⟨#[], ()⟩ =
        .ok b s' :=
  have hm : identifier (.text "M") = .ok "m" := by rfl
  have hs : identifier (.text "S") = .ok "s" := by rfl
  have hread : ¬ ValueUnread "s1#a in (1,2)" := fun h => absurd h.2.2.1 (by decide)
  ⟨hm, hs, hread, (make_finishes_unless_value_unread hm hs (.int 0) #[]).1 hread⟩

/-- With ` in ` in the station part, the block of `s1 in b#c` is not made, although its master
alias and site are identifiers. -/
theorem make_fails_on_unread_value :
    identifier (.text "m") = .ok "m" ∧ identifier (.text "s") = .ok "s" ∧
    ∃ s', EStateM.run (make (.text "m") (.text "s") (.int 0) (.text "s1 in b#c")) ⟨#[], ()⟩ =
      .error ⟨.noAttribute, "'NoneType' object has no attribute 'startswith'"⟩ s' :=
  ⟨by rfl, by rfl, _, rfl⟩

end Block

end RoadWeather
