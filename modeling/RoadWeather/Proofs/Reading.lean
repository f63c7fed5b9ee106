import RoadWeather.Proofs.Steps
import RoadWeather.Proofs.Grammar

/-! # Reading a formula -/

namespace RoadWeather

def Part.role : Part → Condition.Role
  | .openPar => .openPar
  | .closePar => .closePar
  | .andOr _ => .andOr
  | .negation => .negation
  | .block _ => .block

namespace Condition
open RoadWeather.Text

@[simp] theorem shown_fst (bs : List Block) (p : Part) : (Part.shown bs p).1 = p.role := by
  cases p <;> rfl

def tokenRole (p : String) : Role :=
  match Part.ofPiece? p with
  | some part => part.role
  | none => .block

theorem run_makeParts_block (p : String) (rest : List String) (acc : List Part) (ok : Bool)
    (hp : Part.ofPiece? p = none) (s : Scene Condition) :
    EStateM.run (makeParts (p :: rest) acc ok) s =
      match EStateM.run (Block.make (.text s.this.masterAlias) (.text s.this.site)
          (.int s.this.blocks.length) (.text p)) ⟨s.log, ()⟩ with
      | .ok b s₂ =>
        match s.this.blocks.findIdx? (·.rawLogic.same b.rawLogic) with
        | some j => EStateM.run (makeParts rest (.block j :: acc) ok) ⟨s₂.log, s.this⟩
        | none => EStateM.run (makeParts rest (.block s.this.blocks.length :: acc) ok)
            ⟨s₂.log, { s.this with blocks := s.this.blocks ++ [b] }⟩
      | .error _ s₂ =>
        EStateM.run (report ("Cannot create Block from \"" ++ p ++ "\"") .error >>= fun _ =>
          makeParts rest acc false) ⟨s₂.log, s.this⟩ := by
  rw [makeParts.eq_2, hp]
  simp only [EStateM.run_bind, Act.run_self, Act.run_focus, Act.run_attempt]
  cases EStateM.run (Block.make (.text s.this.masterAlias) (.text s.this.site)
    (.int s.this.blocks.length) (.text p)) ⟨s.log, ()⟩ with
  | ok b s₂ =>
    dsimp only
    cases s.this.blocks.findIdx? (·.rawLogic.same b.rawLogic) <;> rfl
  | error e s₂ => rfl

theorem tokenRole_of_ofPiece {p : String} {part : Part} (h : Part.ofPiece? p = some part) :
    tokenRole p = part.role := by
  simp [tokenRole, h]

theorem tokenRole_of_block {p : String} (h : Part.ofPiece? p = none) : tokenRole p = .block := by
  simp [tokenRole, h]

theorem run_makeParts (ps : List String) (acc : List Part) (ok : Bool) (s : Scene Condition) :
    ∃ parts ok' s', EStateM.run (makeParts ps acc ok) s = .ok (parts, ok') s' ∧
      s'.this = { s.this with blocks := s'.this.blocks, problems := s'.this.problems } ∧
      (ok' = true → ok = true ∧
        parts.map Part.role = acc.reverse.map Part.role ++ ps.map tokenRole) ∧
      (Role.block ∉ ps.map tokenRole → s'.this.blocks = s.this.blocks) := by
  induction ps generalizing acc ok s with
  | nil => exact ⟨acc.reverse, ok, s, rfl, rfl, fun h => ⟨h, by simp⟩, fun _ => rfl⟩
  | cons p rest ih =>
    cases hp : Part.ofPiece? p with
    | some part =>
      obtain ⟨parts, ok', s', hrun, hframe, hroles, hblocks⟩ := ih (part :: acc) ok s
      refine ⟨parts, ok', s', by rw [makeParts.eq_2, hp]; exact hrun, hframe, fun h => ?_,
        fun h => hblocks (fun hr => h (List.mem_cons_of_mem _ hr))⟩
      obtain ⟨hok, hmap⟩ := hroles h
      exact ⟨hok, by simp [hmap, tokenRole_of_ofPiece hp]⟩
    | none =>
      -- a block token: whatever happens to it, the roles line up as long as all is made
      have hblock : Role.block ∈ (p :: rest).map tokenRole := by simp [tokenRole_of_block hp]
      rw [run_makeParts_block p rest acc ok hp]
      cases EStateM.run (Block.make (.text s.this.masterAlias) (.text s.this.site)
          (.int s.this.blocks.length) (.text p)) ⟨s.log, ()⟩ with
      | ok b s₂ =>
        dsimp only
        split
        all_goals
          obtain ⟨parts, ok', s', hrun, hframe, hroles, -⟩ := ih _ ok _
          refine ⟨parts, ok', s', hrun, hframe, fun h => ?_, fun h => absurd hblock h⟩
          obtain ⟨hok, hmap⟩ := hroles h
          exact ⟨hok, by simp [hmap, tokenRole_of_block hp, Part.role]⟩
      | error e s₂ =>
        dsimp only
        obtain ⟨log, hrep⟩ := run_report ("Cannot create Block from \"" ++ p ++ "\"") .error
          ⟨s₂.log, s.this⟩
        obtain ⟨parts, ok', s', hrun, hframe, hroles, -⟩ := ih acc false ⟨log, { s.this with
          problems := s.this.problems.record (.text ("Cannot create Block from \"" ++ p ++ "\"")) }⟩
        refine ⟨parts, ok', s', by rw [EStateM.run_bind, hrep]; exact hrun, hframe,
          fun h => absurd (hroles h).1 Bool.false_ne_true, fun h => absurd hblock h⟩

theorem run_checkCounts (s : Scene Condition) :
    ∃ s', EStateM.run checkCounts s =
        .ok (occurrences s.this.formula "(" == occurrences s.this.formula ")") s' ∧
      s'.this = { s.this with problems := s'.this.problems } := by
  by_cases h : occurrences s.this.formula "(" = occurrences s.this.formula ")"
  · exact ⟨s, by simp [checkCounts, h], rfl⟩
  · obtain ⟨log, hrep⟩ := run_report ("Unequal of \"(\" (" ++
      toString (occurrences s.this.formula "(") ++ ") and \")\" (" ++
      toString (occurrences s.this.formula ")") ++ ") in condition") .error s
    refine ⟨_, by simp only [checkCounts, EStateM.run_bind, Act.run_self, if_pos h, hrep]; rfl,
      by rfl⟩

theorem run_reportAll (msgs : List String) (s : Scene Condition) :
    ∃ s', EStateM.run (reportAll msgs) s = .ok () s' ∧
      s'.this = { s.this with problems := s'.this.problems } := by
  induction msgs generalizing s with
  | nil => exact ⟨s, rfl, rfl⟩
  | cons m rest ih =>
    obtain ⟨log, hrep⟩ := run_report m .error s
    obtain ⟨s', hrest, hframe⟩ := ih ⟨log, { s.this with problems := s.this.problems.record (.text m) }⟩
    refine ⟨s', ?_, hframe⟩
    simp only [reportAll, List.forIn_cons, EStateM.run_bind] at hrest ⊢
    rw [hrep]
    exact hrest

theorem run_settle (parts : List Part) (ok : Bool) (s : Scene Condition) :
    ∃ s', EStateM.run (settle parts ok) s = .ok () s' ∧ s'.this = { s.this with
      aliasFormula := String.join (parts.map (Part.aliasText s.this.blocks)),
      secondary := s.this.blocks.any (·.kind == some .secondary),
      blocksMade := ok, problems := s'.this.problems } := by
  cases ok with
  | true => exact ⟨_, rfl, rfl⟩
  | false =>
    obtain ⟨log, hrep⟩ := run_report "There were errors with this condition and it will not be analyzed"
      .warning ⟨s.log, { s.this with
        aliasFormula := String.join (parts.map (Part.aliasText s.this.blocks)),
        secondary := s.this.blocks.any (·.kind == some .secondary), blocksMade := false }⟩
    exact ⟨_, by simp only [settle, EStateM.run_bind, Act.run_change]; exact hrep, rfl⟩

theorem run_readTokens (ts : List String) (s : Scene Condition) :
    ∃ s', EStateM.run (readTokens ts) s = .ok () s' ∧ s'.this.formula = s.this.formula ∧
      (s'.this.blocksMade = true →
        occurrences s.this.formula "(" = occurrences s.this.formula ")" ∧
        OrderOk (ts.map tokenRole) ∧ (s.this.blocks = [] → Role.block ∈ ts.map tokenRole)) := by
  obtain ⟨s₁, h₁, f₁⟩ := run_checkCounts s
  obtain ⟨parts, ok, s₂, h₂, f₂, hroles, hblocks⟩ := run_makeParts ts [] true s₁
  obtain ⟨s₃, h₃, f₃⟩ := run_reportAll
    (if (occurrences s.this.formula "(" == occurrences s.this.formula ")" && ok) = true then
      orderProblems (parts.map (Part.shown s₂.this.blocks)) else []) s₂
  simp only [readTokens, EStateM.run_bind, h₁, h₂, Act.run_self, h₃]
  have hform : s₃.this.formula = s.this.formula :=
    (congrArg (·.formula) f₃).trans ((congrArg (·.formula) f₂).trans (congrArg (·.formula) f₁))
  by_cases hempty : s₂.this.blocks.isEmpty = true
  · -- no block: the blocks are not made
    obtain ⟨log₄, h₄⟩ := run_report "No Blocks were created" .warning s₃
    obtain ⟨s₅, h₅, f₅⟩ := run_settle parts false ⟨log₄, { s₃.this with
      problems := s₃.this.problems.record (.text "No Blocks were created") }⟩
    refine ⟨s₅, by simp only [hempty, if_true, EStateM.run_bind, h₄, pure_bind]; exact h₅,
      (congrArg (·.formula) f₅).trans hform, fun hmade => ?_⟩
    have : s₅.this.blocksMade = false := congrArg (·.blocksMade) f₅
    simp [this] at hmade
  · obtain ⟨s₅, h₅, f₅⟩ := run_settle parts _ s₃
    refine ⟨s₅, by simp only [hempty, Bool.false_eq_true, if_false, pure_bind]; exact h₅,
      (congrArg (·.formula) f₅).trans hform, fun hmade => ?_⟩
    have hok : _ = true := (congrArg (·.blocksMade) f₅).symm.trans hmade
    simp only [Bool.and_eq_true, beq_iff_eq, List.isEmpty_iff] at hok
    obtain ⟨⟨⟨hbal, hmadeAll⟩, hnone⟩, -⟩ := hok
    obtain ⟨-, hmap⟩ := hroles hmadeAll
    refine ⟨hbal, ?_, fun hnil => ?_⟩
    · -- the order was checked, and the roles it saw are those of the tokens
      have hchecked : orderProblems (parts.map (Part.shown s₂.this.blocks)) = [] := by
        simpa [hbal, hmadeAll] using hnone
      have hshown : Prod.fst ∘ Part.shown s₂.this.blocks = Part.role := funext (shown_fst _)
      have horder := (orderProblems_eq_nil_iff _).mp hchecked
      rw [List.map_map, hshown, hmap] at horder
      simpa using horder
    · by_contra hno
      have hb₁ : s₁.this.blocks = s.this.blocks := congrArg (·.blocks) f₁
      exact hempty (by simp [hblocks hno, hb₁, hnil])

theorem run_makeBlocks (s : Scene Condition) :
    EStateM.run makeBlocks s = EStateM.run (readTokens (tokens s.this.formula)) s := rfl

theorem run_make_ok {site masterAlias raw timeFrom timeUntil excelRow : Value} {s : Scene Unit}
    {c : Condition} {s' : Scene Unit}
    (h : EStateM.run (make site masterAlias raw timeFrom timeUntil excelRow) s = .ok c s') :
    ∃ c₀ log s₁ total, c₀.blocks = [] ∧ identifier masterAlias = .ok c₀.masterAlias ∧
      identifier site = .ok c₀.site ∧
      identifier (.text (c₀.site ++ "_" ++ c₀.masterAlias)) = .ok c₀.idString ∧
      EStateM.run makeBlocks ⟨log, c₀⟩ = .ok () s₁ ∧
      c = { s₁.this with totalTime := total, noDataTime := total } := by
  unfold make at h
  cases hsite : identifier site with
  | error f => simp [hsite, EStateM.run_bind] at h
  | ok x =>
  cases hma : identifier masterAlias with
  | error f => simp [hsite, hma, EStateM.run_bind] at h
  | ok y =>
  cases hid : identifier (.text (x ++ "_" ++ y)) with
  | error f => simp [hsite, hma, hid, EStateM.run_bind] at h
  | ok i =>
  simp only [hsite, hma, hid, EStateM.run_bind, Act.run_pure] at h
  split at h
  next r =>
    simp only [EStateM.run_bind, Act.run_pure, Act.run_focus, Act.run_self] at h
    cases hmb : EStateM.run makeBlocks ⟨s.log,
        { site := x, masterAlias := y, idString := i, formula := lower (strip (eliminateUmlauts r)),
          timeFrom := timeFrom, timeUntil := timeUntil, excelRow := excelRow,
          problems := { context := pendingText i excelRow } }⟩ with
    | ok u s₁ =>
      simp only [hmb] at h
      split at h
      next total _ =>
        simp only [Act.run_pure, EStateM.Result.ok.injEq] at h
        refine ⟨_, _, s₁, total, rfl, rfl, rfl, ?_, hmb, h.1.symm⟩
        exact hid
      next => simp at h
    | error e s₁ => simp [hmb] at h
  next => simp at h

/-! ## Accepted formulas and the grammar -/

/-- A formula whose blocks are made is a formula of the grammar exactly when its parentheses
nest: the checks that accept it count the parentheses and look at neighbours, and that is all
they leave open. Reading never fails. -/
theorem made_derives_iff_balanced (s : Scene Condition) (hs : s.this.blocks = []) :
    ∃ s', EStateM.run makeBlocks s = .ok () s' ∧
      (s'.this.blocksMade = true →
        (Derives ((tokens s.this.formula).map tokenRole) ↔
          Balanced ((tokens s.this.formula).map tokenRole))) := by
  obtain ⟨s', hrun, -, hmade⟩ := run_readTokens (tokens s.this.formula) s
  refine ⟨s', hrun, fun h => ?_⟩
  obtain ⟨-, horder, hblock⟩ := hmade h
  exact derives_iff_balanced horder (hblock hs)

def freshCondition (formula : String) : Condition where
  site := "s"
  masterAlias := "m"
  idString := "s_m"
  formula := formula
  timeFrom := .nothing
  timeUntil := .nothing
  excelRow := .nothing
  problems := { context := "<? Condition s_m at Excel row None>" }

def madeBy (r : EStateM.Result Fault (Scene Condition) Unit) : Bool :=
  match r with
  | .ok _ s => s.this.blocksMade
  | .error _ _ => false

theorem made_of_readTokens {s : Scene Condition} {ts : List String}
    (htok : tokens s.this.formula = ts) (h : madeBy (EStateM.run (readTokens ts) s) = true) :
    ∃ s', EStateM.run makeBlocks s = .ok () s' ∧ s'.this.blocksMade = true := by
  obtain ⟨s', hrun, -⟩ := run_readTokens ts s
  rw [hrun] at h
  exact ⟨s', by rw [run_makeBlocks, htok, hrun], h⟩

theorem made_derives_iff_balanced_crossed :
    (freshCondition "x ) ) and ( ( y").blocks = [] ∧
      ∃ s', EStateM.run makeBlocks ⟨#[], freshCondition "x ) ) and ( ( y"⟩ = .ok () s' ∧
        (s'.this.blocksMade = true →
          (Derives ((tokens "x ) ) and ( ( y").map tokenRole) ↔
            Balanced ((tokens "x ) ) and ( ( y").map tokenRole))) :=
  ⟨rfl, made_derives_iff_balanced _ rfl⟩

theorem tokens_crossed : tokens "x ) ) and ( ( y" = ["x", ")", ")", "and", "(", "(", "y"] := by
  have hp : pieces "x ) ) and ( ( y" = ["x", ")", ")", "and", "(", "(", "y"] := by cbv
  rw [tokens, hp]
  decide

/-- The blocks of `x ) ) and ( ( y` are made, although it is no formula of the grammar. -/
theorem crossed_made_not_derives :
    ∃ s', EStateM.run makeBlocks ⟨#[], freshCondition "x ) ) and ( ( y"⟩ = .ok () s' ∧
      s'.this.blocksMade = true ∧ ¬ Derives ((tokens "x ) ) and ( ( y").map tokenRole) := by
  obtain ⟨s', hrun, hmade⟩ := made_of_readTokens (s := ⟨#[], freshCondition "x ) ) and ( ( y"⟩)
    tokens_crossed (by decide +kernel)
  refine ⟨s', hrun, hmade, fun hd => ?_⟩
  -- the prefix `x )` closes a parenthesis that was never opened
  have hroles : (tokens "x ) ) and ( ( y").map tokenRole =
      [.block, .closePar, .closePar, .andOr, .openPar, .openPar, .block] := by
    rw [tokens_crossed]
    decide
  have := (Balanced.of_derives hd).prefixes [.block, .closePar] (by rw [hroles]; simp)
  simp [Role.weight] at this

end Condition
end RoadWeather
