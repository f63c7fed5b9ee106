import RoadWeather.Proofs.TableNames

/-! # The number of a station -/

namespace RoadWeather

open RoadWeather.Act RoadWeather.Text

/-! ## Reading the digits of a name -/

namespace Text

def digitsValue (ds : List Char) : Nat := ds.foldl (fun n c => 10 * n + (decimalValue? c).getD 0) 0

theorem readDigits_eq_some {v : Nat} : ∀ {cs : List Char} {acc : Nat} {after : Bool},
    (∀ c ∈ cs, c ≠ '_') → readDigits cs acc after = some v →
      (cs ≠ [] ∨ after = true) ∧ (∀ c ∈ cs, (decimalValue? c).isSome) ∧
        v = cs.foldl (fun n c => 10 * n + (decimalValue? c).getD 0) acc
  | [], acc, after, _, h => by
    unfold readDigits at h
    split at h
    · cases h
      exact ⟨.inr ‹_›, by simp, rfl⟩
    · cases h
  | c :: rest, acc, after, hu, h => by
    rw [readDigits, if_neg (hu c List.mem_cons_self)] at h
    cases hd : decimalValue? c with
    | none => rw [hd] at h; cases h
    | some d =>
      rw [hd] at h
      obtain ⟨-, hdec, hv⟩ := readDigits_eq_some (fun x hx => hu x (List.mem_cons_of_mem c hx)) h
      refine ⟨.inl (List.cons_ne_nil c rest), fun x hx => ?_, ?_⟩
      · rcases List.mem_cons.mp hx with rfl | hx
        · simp [hd]
        · exact hdec x hx
      · rw [hv, List.foldl_cons, hd, Option.getD_some]

end Text

namespace Block

theorem stationNumber_eq_ok {st : String} {n : Int} (hst : ∀ c ∈ st.toList, isBlank c = false)
    (h : stationNumber st = .ok n) :
    st.toList.filter isDigit ≠ [] ∧ (∀ c ∈ st.toList.filter isDigit, (decimalValue? c).isSome) ∧
      n = digitsValue (st.toList.filter isDigit) := by
  generalize hds : st.toList.filter isDigit = ds
  have hdigit : ∀ c ∈ ds, isDigit c = true := fun c hc => by
    rw [← hds] at hc
    exact (List.mem_filter.mp hc).2
  -- no digit is blank, a sign or an underscore
  have hblank : ∀ c ∈ ds, isBlank c = false := fun c hc => by
    rw [← hds] at hc
    exact hst c (List.mem_filter.mp hc).1
  have hsign : ∀ rest, ds ≠ '-' :: rest ∧ ds ≠ '+' :: rest := fun rest => by
    constructor <;> rintro rfl
    · exact absurd (hdigit '-' List.mem_cons_self) (by decide)
    · exact absurd (hdigit '+' List.mem_cons_self) (by decide)
  have hu : ∀ c ∈ ds, c ≠ '_' := fun c hc hc' => by
    subst hc'
    exact absurd (hdigit '_' hc) (by decide)
  have hread : readInteger (String.ofList ds) = some n := by
    cases hr : readInteger (String.ofList ds) with
    | none => simp [stationNumber, hds, Value.toInteger, hr] at h
    | some k => simp_all [stationNumber, Value.toInteger]
  unfold readInteger at hread
  rw [String.toList_ofList, stripChars_of_not_blank hblank] at hread
  split at hread
  · exact absurd rfl (hsign _).1
  · exact absurd rfl (hsign _).2
  · obtain ⟨v, hv, rfl⟩ : ∃ v, readDigits ds 0 false = some v ∧ (v : Int) = n := by
      cases hrd : readDigits ds 0 false <;> simp_all
    obtain ⟨hne, hdec, rfl⟩ := readDigits_eq_some hu hv
    exact ⟨hne.resolve_right Bool.false_ne_true, hdec, rfl⟩

/-! ## A test read without a problem -/

/-- A step that leaves the kind, the station and its number as they are, and keeps a problem
once recorded. -/
structure StationKept (b b' : Block) : Prop where
  kind : b'.kind = b.kind
  station : b'.station = b.station
  stationId : b'.stationId = b.stationId
  flagged : b.Flagged → b'.Flagged

instance : IsPreorder Block StationKept where
  refl _ := ⟨rfl, rfl, rfl, id⟩
  trans _ _ _ h₁ h₂ := ⟨h₂.kind.trans h₁.kind, h₂.station.trans h₁.station,
    h₂.stationId.trans h₁.stationId, h₂.flagged ∘ h₁.flagged⟩

theorem keeps_report_stationKept (msg : String) (n : Notice) :
    Act.Keeps StationKept (report msg n) := fun s => by
  obtain ⟨log, h, hf⟩ := flags_report msg n s
  rw [h]
  exact ⟨rfl, rfl, rfl, fun _ => hf⟩

theorem keeps_checkListValue_stationKept : Act.Keeps StationKept checkListValue := by
  unfold checkListValue
  refine keeps_bind keeps_self fun b => keeps_ite ?_ (keeps_pure _)
  split
  · exact keeps_ite (keeps_report_stationKept _ _) (keeps_pure _)
  · exact keeps_fail _ _

theorem run_of_guard_clean {msg : String} {step : Act Block Unit} {s s' : Scene Block}
    (h : EStateM.run (guard msg step) s = .ok () s') (hclean : ¬ s'.this.Flagged) :
    EStateM.run step s = .ok () s' := by
  unfold guard at h
  cases hrun : EStateM.run step s with
  | ok u t =>
    rw [run_bind_ok (run_attempt_ok hrun)] at h
    cases h
    rfl
  | error e t =>
    rw [run_bind_ok (run_attempt_error hrun)] at h
    obtain ⟨log, hrep, hf⟩ := flags_report msg .error t
    rw [hrep] at h
    cases h
    exact absurd hf hclean

theorem readTest_station {parts : List String} {op : String} {s s' : Scene Block}
    (h : EStateM.run (readTest parts op) s = .ok () s') :
    ∃ st n, identifier (.text (parts.getD 0 "")) = .ok st ∧ stationNumber st = .ok n ∧
      s'.this.station = some st ∧ s'.this.stationId = some n := by
  unfold readTest ident at h
  cases hst : identifier (.text (parts.getD 0 "")) with
  | error f => rw [run_bind_error (by rw [run_identOf, hst])] at h; cases h
  | ok st =>
  rw [run_bind_ok (by rw [run_identOf, hst]), run_bind_ok (run_change _ _)] at h
  cases hnum : stationNumber st with
  | error f =>
    rw [hnum] at h
    dsimp only at h
    rw [run_bind_error (run_throw _ _)] at h
    cases h
  | ok n =>
  rw [hnum] at h
  dsimp only at h
  rw [run_bind_ok (run_change _ _)] at h
  refine ⟨st, n, rfl, hnum, ?_⟩
  -- the sensor, the operator and the value come after, and leave the station alone
  cases h1 : parts[1]? with
  | none => rw [h1, run_bind_error (run_throw _ _)] at h; cases h
  | some p =>
  rw [h1, run_bind_ok (run_pure _ _)] at h
  cases hse : identifier (.text p) with
  | error f => rw [run_bind_error (by rw [run_identOf, hse])] at h; cases h
  | ok se =>
  rw [run_bind_ok (by rw [run_identOf, hse]), run_bind_ok (run_change _ _),
    run_bind_ok (run_change _ _)] at h
  cases h2 : parts[2]? with
  | none => rw [h2] at h; cases h
  | some v =>
    rw [h2, run_change] at h
    cases h
    exact ⟨rfl, rfl⟩

theorem station_of_unpack {s s' : Scene Block} (h : EStateM.run unpack s = .ok () s')
    (hnew : s.this.kind = none) (hkind : s'.this.kind = some .primary) (hclean : ¬ s'.this.Flagged) :
    ∃ parts op t t', EStateM.run (readTest parts op) t = .ok () t' ∧
      s'.this.station = t'.this.station ∧ s'.this.stationId = t'.this.stationId := by
  have hreads : ∀ (site? : Option String) (v : Value) (msg : String),
      Act.Keeps Reads (guard msg (readReference site? v)) := fun _ _ msg =>
    keeps_guard (keeps_readReference _ _) (keeps_report_reads msg .error)
  obtain ⟨s₂, hframe, ⟨-, -, h⟩ | ⟨-, -, r, t, hsplit, h⟩ | ⟨-, -, h⟩ | ⟨-, -, -, log, rfl⟩⟩ :=
    unpack_cases h
  · -- a reference stays a reference
    have hk := hreads none s.this.rawLogic "Cannot set source alias and view for secondary condition"
      ⟨s₂.log, { s₂.this with kind := some .secondary }⟩
    rw [h, lastObject_ok] at hk
    exact absurd (hk.kind.symm.trans hkind) nofun
  · -- splitting the text leaves the block as it was, a reference
    have ht : t.this.kind = some .secondary := by
      have hs := keeps_splittable (R := Reads) s.this.rawLogic
        ⟨s₂.log, { s₂.this with kind := some .secondary }⟩
      rw [hsplit, lastObject_ok] at hs
      exact hs.kind
    have hk := hreads (some ((cut r "#").getD 0 "")) (.text ((cut r "#").getD 1 ""))
      "Cannot set site, source alias and view for secondary condition" t
    rw [h, lastObject_ok] at hk
    exact absurd (hk.kind.symm.trans hkind) (by rw [ht]; nofun)
  · -- a test: the station was read under the guard, and the check of its value keeps it
    unfold unpackTest at h
    rw [run_bind_ok (run_change _ _)] at h
    cases hsplit : EStateM.run (splittable s.this.rawLogic) ⟨s₂.log,
        { s₂.this with kind := some .primary, site := some s₂.this.parentSite }⟩ with
    | error e t => rw [run_bind_error hsplit] at h; cases h
    | ok r t =>
      rw [run_bind_ok hsplit] at h
      cases hg : EStateM.run (guard "Cannot set attributes for primary condition"
          (readTest (testParts r ((operatorCount s.this.rawLogic).2.getD "")) ((operatorCount s.this.rawLogic).2.getD ""))) t with
      | error e t' => rw [run_bind_error hg] at h; cases h
      | ok u t' =>
        rw [run_bind_ok hg] at h
        have hk := keeps_checkListValue_stationKept t'
        rw [h, lastObject_ok] at hk
        exact ⟨_, _, t, t', run_of_guard_clean hg (mt hk.flagged hclean), hk.station, hk.stationId⟩
  · -- a text that is neither keeps the kind it had, none
    exact absurd (hkind.symm.trans ((congrArg Block.kind hframe).trans hnew)) nofun

theorem station_of_make {m site orderNr raw : Value} {s s' : Scene Unit} {b : Block}
    (h : EStateM.run (make m site orderNr raw) s = .ok b s') (hkind : b.kind = some .primary)
    (hclean : ¬ b.Flagged) :
    ∃ p st n, identifier (.text p) = .ok st ∧ stationNumber st = .ok n ∧ b.station = some st ∧
      b.stationId = some n := by
  obtain ⟨ma, ps, t, -, -, ht, rfl⟩ := run_make_unpack h
  -- the text is read on a new block, of no kind yet
  obtain ⟨parts, op, r, r', htest, hst, hid⟩ := station_of_unpack ht rfl hkind hclean
  obtain ⟨st, n, hident, hnum, hst', hid'⟩ := readTest_station htest
  exact ⟨_, st, n, hident, hnum, hst.trans hst', hid.trans hid'⟩

/-- A block made as a test without a problem names an identifier as its station; the name holds
a digit, every digit of it is decimal, and the station number is the integer that all the digits
of the name spell, in order, wherever they stand in it. -/
theorem clean_test_station_number {m site orderNr raw : Value} {s s' : Scene Unit} {b : Block}
    (h : EStateM.run (make m site orderNr raw) s = .ok b s') (hkind : b.kind = some .primary)
    (hclean : ¬ b.Flagged) :
    ∃ st, b.station = some st ∧ NameOk st ∧ st.toList.filter isDigit ≠ [] ∧
      (∀ c ∈ st.toList.filter isDigit, (decimalValue? c).isSome) ∧
      b.stationId = some (digitsValue (st.toList.filter isDigit) : Int) := by
  obtain ⟨p, st, n, hident, hnum, hst, hid⟩ := station_of_make h hkind hclean
  have hok : NameOk st := nameOk_of_identifier hident
  obtain ⟨hne, hdec, rfl⟩ :=
    stationNumber_eq_ok (fun c hc => isBlank_eq_false_of_identChar (hok.chars c hc)) hnum
  exact ⟨st, hst, hok, hne, hdec, hid⟩

/-- The station `a1b2` reads without a problem, as station 12. -/
theorem scattered_digits_station_number :
    ∃ b s', EStateM.run (make (.text "m") (.text "s") (.int 0) (.text "a1b2#keli_1 = 8")) ⟨#[], ()⟩ =
        .ok b s' ∧ b.kind = some .primary ∧ ¬ b.Flagged ∧ b.station = some "a1b2" ∧
      b.stationId = some 12 ∧
      ∃ st, b.station = some st ∧ NameOk st ∧ st.toList.filter isDigit ≠ [] ∧
        (∀ c ∈ st.toList.filter isDigit, (decimalValue? c).isSome) ∧
        b.stationId = some (digitsValue (st.toList.filter isDigit) : Int) := by
  have h : EStateM.run (make (.text "m") (.text "s") (.int 0) (.text "a1b2#keli_1 = 8")) ⟨#[], ()⟩ =
      .ok _ _ := rfl
  exact ⟨_, _, h, rfl, fun hf => hf rfl, rfl, rfl, clean_test_station_number h rfl fun hf => hf rfl⟩

/-- The station `x1120` does not start with `s`, yet the test on it reads without a problem, as
station 1120. -/
theorem station_without_s_reads :
    ∃ b s', EStateM.run (make (.text "m") (.text "s") (.int 0) (.text "x1120#keli_1 = 8")) ⟨#[], ()⟩ =
        .ok b s' ∧ b.kind = some .primary ∧ ¬ b.Flagged ∧ b.station = some "x1120" ∧
      b.stationId = some 1120 :=
  ⟨_, _, rfl, rfl, fun hf => hf rfl, rfl, rfl⟩

end Block

end RoadWeather
