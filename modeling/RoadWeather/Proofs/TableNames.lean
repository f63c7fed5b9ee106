import RoadWeather.Proofs.Adding
import RoadWeather.Proofs.Made

/-! # The names of the temporary tables -/

namespace RoadWeather

open RoadWeather.Act RoadWeather.Text RoadWeather.Time

theorem nameOk_of_identifier {x y : String} (h : identifier (.text x) = .ok y) : NameOk y := by
  obtain ⟨rfl, hok⟩ := checkName_eq_ok_iff.mp (identifier_text_eq_ok_iff.mp h)
  exact hok

theorem identChar_of_isDigit {c : Char} (h : c.isDigit = true) : identChar c = true := by
  have hlt : c.toNat < 128 := by
    simp only [Char.isDigit, Bool.and_eq_true, decide_eq_true_eq] at h
    have h9 : c.val.toNat ≤ ('9' : Char).val.toNat := UInt32.le_iff_toNat_le.mp h.2
    exact Nat.lt_of_le_of_lt h9 (by decide)
  simp [identChar, isAlnum, hlt, Char.isAlphanum, h]

theorem isDigit_eq_false_of_reserved : ∀ r ∈ reservedNames, ∀ c ∈ r.toList, c.isDigit = false := by
  -- checked as one boolean, so that the kernel runs no instance of a bounded quantifier
  have hall : reservedNames.all (fun r => r.toList.all fun c => !c.isDigit) = true := by decide
  intro r hr c hc
  simpa using List.all_eq_true.mp (List.all_eq_true.mp hall r hr) c hc

/-! ## Aliases -/

namespace Condition

theorem toList_aliasOf (ma : String) (i : Nat) :
    (aliasOf ma i).toList = ma.toList ++ '_' :: Nat.toDigits 10 i := by
  simp [aliasOf]

theorem length_aliasOf (ma : String) (i : Nat) :
    (aliasOf ma i).length = ma.length + 1 + (Nat.toDigits 10 i).length := by
  rw [← String.length_toList, toList_aliasOf]
  simp only [List.length_append, List.length_cons, String.length_toList]
  omega

theorem nameOk_aliasOf_iff {ma : String} (hma : NameOk ma) (i : Nat) :
    NameOk (aliasOf ma i) ↔ (aliasOf ma i).length ≤ 63 := by
  have hdigit : ∀ c ∈ Nat.toDigits 10 i, c.isDigit = true := fun c hc =>
    Nat.isDigit_of_mem_toDigits (by decide) (by decide) hc
  refine ⟨NameOk.short, fun hshort => ⟨?nonempty, ?not_reserved, ?no_leading_digit, hshort, ?chars⟩⟩
  case nonempty =>
    intro h
    have hlist := congrArg String.toList h
    simp [toList_aliasOf] at hlist
  case not_reserved =>
    intro hmem
    obtain ⟨d, hd⟩ := List.exists_mem_of_ne_nil _ (Nat.toDigits_ne_nil : Nat.toDigits 10 i ≠ [])
    have hd' : d ∈ (aliasOf ma i).toList := by simp [toList_aliasOf, hd]
    have hfalse := isDigit_eq_false_of_reserved _ hmem d hd'
    rw [hdigit d hd] at hfalse
    cases hfalse
  case no_leading_digit =>
    intro c hc
    have hne : ma.toList ≠ [] := by simpa using hma.nonempty
    rw [toList_aliasOf, List.head?_append_of_ne_nil _ hne] at hc
    exact hma.no_leading_digit c hc
  case chars =>
    intro c hc
    rw [toList_aliasOf] at hc
    rcases List.mem_append.mp hc with hc | hc
    · exact hma.chars c hc
    · rcases List.mem_cons.mp hc with rfl | hc
      · decide
      · exact identChar_of_isDigit (hdigit c hc)

/-! ## The names of one condition -/

/-- The names the tables of a condition are created under: its identifier is an identifier;
its aliases are numbered in order under its master alias, so are distinct, and the alias
numbered `i` is an identifier exactly when the master alias, `_` and the digits of `i` make at
most 63 characters; and a reference without a problem reads a view named by an identifier. -/
structure TableNames (d : Condition) : Prop where
  idString : NameOk d.idString
  aliases : d.blocks.map (·.aliasName) = (List.range d.blocks.length).map (aliasOf d.masterAlias)
  distinct : (d.blocks.map (·.aliasName)).Nodup
  aliasOk : ∀ i < d.blocks.length, NameOk (aliasOf d.masterAlias i) ↔
    d.masterAlias.length + 1 + (Nat.toDigits 10 i).length ≤ 63
  views : ∀ b ∈ d.blocks, b.kind = some .secondary → ¬ b.Flagged →
    ∃ v, b.sourceView = some v ∧ NameOk v

theorem idString_of_make {site masterAlias raw timeFrom timeUntil excelRow : Value}
    {s s' : Scene Unit} {c : Condition}
    (h : EStateM.run (make site masterAlias raw timeFrom timeUntil excelRow) s = .ok c s') :
    ∃ x, identifier (.text x) = .ok c.idString := by
  obtain ⟨c₀, log, s₁, total, -, -, -, hid, hmb, rfl⟩ := run_make_ok h
  obtain ⟨s₂, h₂, hg, -⟩ := run_readTokens_grows (tokens c₀.formula) ⟨log, c₀⟩
  rw [run_makeBlocks, h₂] at hmb
  cases hmb
  -- reading the formula keeps the identifier
  exact ⟨_, hg.idString ▸ hid⟩

theorem BlocksMade.aliases_nodup {d : Condition} (h : d.BlocksMade) :
    (d.blocks.map (·.aliasName)).Nodup := by
  rw [h.2.2]
  exact List.Nodup.map (aliasOf_injective d.masterAlias) List.nodup_range

theorem tableNames_of_make {site masterAlias raw timeFrom timeUntil excelRow : Value}
    {s s' : Scene Unit} {c : Condition}
    (h : EStateM.run (make site masterAlias raw timeFrom timeUntil excelRow) s = .ok c s') :
    c.TableNames := by
  have hmade := made_of_make h
  obtain ⟨hma, hblocks, hnum⟩ := hmade.blocks
  obtain ⟨x, hid⟩ := idString_of_make h
  refine ⟨nameOk_of_identifier hid, hnum, hmade.blocks.aliases_nodup, fun i _ => ?_,
    fun b hb hsec hclean => ?_⟩
  · rw [nameOk_aliasOf_iff (nameOk_of_identifier hma) i, length_aliasOf]
  · -- a reference without a problem reads the identifier of its site and source alias
    obtain ⟨site, a, v, -, -, hv, hview⟩ := (hblocks b hb).reference hsec hclean
    exact ⟨v, hv, nameOk_of_identifier hview⟩

end Condition

/-! ## The names of a collection -/

namespace Collection

theorem exists_make_of_mem_candidates {c : Collection} {adds : List Addition} {d : Condition}
    (h : d ∈ c.candidates adds) : ∃ a ∈ adds, ∃ s', EStateM.run (Condition.make a.site
      a.masterAlias a.raw (.time c.timeFrom) (.time c.timeUntil) a.excelRow) ⟨#[], ()⟩ = .ok d s' := by
  obtain ⟨a, ha, hd⟩ := List.mem_filterMap.mp h
  refine ⟨a, ha, exists_run_of_outcome ?_⟩
  -- the candidate is the outcome of making the condition
  cases hc : c.candidate a with
  | ok d' =>
    rw [hc] at hd
    cases hd
    exact hc
  | error e => rw [hc] at hd; cases hd

/-- The names of a collection made by additions are well formed. A run of additions on a new
collection finishes; the conditions it holds have distinct identifiers, and each has its table
names as `Condition.TableNames` says. -/
theorem added_conditions_table_names {timeFrom timeUntil title : Value} {t : Instant}
    {c₀ : Collection} (hmake : make timeFrom timeUntil title t = .ok c₀) (adds : List Addition)
    (log : Array Record) :
    ∃ log' c, EStateM.run (adds.forM Addition.run) ⟨log, c₀⟩ = .ok () ⟨log', c⟩ ∧
      (c.conditions.map (·.idString)).Nodup ∧ ∀ d ∈ c.conditions, d.TableNames := by
  obtain ⟨log', hrun⟩ := run_adds adds ⟨log, c₀⟩
  have hconds := acceptAll_conditions c₀ adds
  rw [(make_eq_ok hmake).2, List.map_nil, List.nil_append] at hconds
  refine ⟨log', _, hrun, hconds ▸ Condition.nodup_firstsById _ _, fun d hd => ?_⟩
  -- a condition kept is a candidate, and a candidate was made
  rw [hconds] at hd
  obtain ⟨a, -, s', hd'⟩ :=
    exists_make_of_mem_candidates ((Condition.firstsById_sublist _ _).subset hd)
  exact Condition.tableNames_of_make hd'

/-- A new collection and one addition, of a test and a reference: the names are well formed. -/
theorem test_and_reference_table_names :
    ∃ c₀, make (.time ⟨2018, 2, 1, 0, 0, 0, 0⟩) (.time ⟨2018, 3, 31, 0, 0, 0, 0⟩) (.text "C")
        ⟨2018, 2, 1, 0, 0, 0, 0⟩ = .ok c₀ ∧
      ∃ log' c, EStateM.run ([⟨.text "s", .text "m", .text "s1120#keli_1 = 8 and x", .nothing⟩].forM
          Addition.run) ⟨#[], c₀⟩ = .ok () ⟨log', c⟩ ∧
        (c.conditions.map (·.idString)).Nodup ∧ ∀ d ∈ c.conditions, d.TableNames :=
  ⟨_, rfl, added_conditions_table_names (rfl : make (.time ⟨2018, 2, 1, 0, 0, 0, 0⟩)
    (.time ⟨2018, 3, 31, 0, 0, 0, 0⟩) (.text "C") ⟨2018, 2, 1, 0, 0, 0, 0⟩ = _) _ #[]⟩

/-- An alias of one condition may be the identifier of another. At site `x` under master alias
`y_0` a condition has the identifier `x_y_0`; at site `s` under master alias `x_y` the first
block of a condition has the alias `x_y_0`. Their identifiers differ, so a collection takes
both. -/
theorem alias_meets_identifier :
    ∃ c₀, make (.time ⟨2018, 2, 1, 0, 0, 0, 0⟩) (.time ⟨2018, 3, 31, 0, 0, 0, 0⟩) (.text "C")
        ⟨2018, 2, 1, 0, 0, 0, 0⟩ = .ok c₀ ∧
      ∃ log c, EStateM.run ([⟨.text "x", .text "y_0", .text "q", .nothing⟩,
          ⟨.text "s", .text "x_y", .text "r", .nothing⟩].forM Addition.run) ⟨#[], c₀⟩ =
          .ok () ⟨log, c⟩ ∧
        c.conditions.map (fun d => (d.idString, d.blocks.map (·.aliasName))) =
          [("x_y_0", ["y_0_0"]), ("s_x_y", ["x_y_0"])] := by
  refine ⟨_, rfl, ?_⟩
  obtain ⟨log, h⟩ := run_adds [⟨.text "x", .text "y_0", .text "q", .nothing⟩,
    ⟨.text "s", .text "x_y", .text "r", .nothing⟩] ⟨#[], _⟩
  exact ⟨log, _, h, by decide +kernel⟩

end Collection

end RoadWeather
