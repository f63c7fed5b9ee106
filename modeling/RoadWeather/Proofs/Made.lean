import RoadWeather.Proofs.Making
import RoadWeather.Proofs.Names
import RoadWeather.Proofs.Validity

/-! # What reading a workbook leaves -/

namespace RoadWeather

open RoadWeather.Act RoadWeather.Text RoadWeather.Time

theorem blank_not_mem_of_identifier {x y : String} (h : identifier (.text x) = .ok y) :
    ' ' ∉ y.toList := fun hmem => by
  obtain ⟨rfl, hok⟩ := checkName_eq_ok_iff.mp (identifier_text_eq_ok_iff.mp h)
  have hblank : isBlank ' ' = true := by decide
  rw [isBlank_eq_false_of_identChar (hok.chars ' ' hmem)] at hblank
  cases hblank

theorem eq_text_of_identifier {v : Value} {y : String} (h : identifier v = .ok y) :
    ∃ x, v = .text x := by
  cases v
  case text x => exact ⟨x, rfl⟩
  all_goals simp [identifier, identifier?, Except.mapError] at h

/-! ## Blocks -/

namespace Block

/-- The view a reference reads: its site, source alias and source view are set, and the view
is the identifier of the site and the alias joined by `_`. -/
def ReadsView (b : Block) : Prop :=
  ∃ site a v, b.site = some site ∧ b.sourceAlias = some a ∧ b.sourceView = some v ∧
    identifier (.text (site ++ "_" ++ a)) = .ok v

/-- A block as making leaves it: of unknown kind only with a problem, and a reference without
a problem names the view it reads. -/
structure Made (b : Block) : Prop where
  kind : b.kind = none → b.Flagged
  reference : b.kind = some .secondary → ¬ b.Flagged → b.ReadsView

theorem Made.of_flagged {b : Block} (h : b.Flagged) : b.Made := ⟨fun _ => h, fun _ hn => absurd h hn⟩

theorem Made.of_primary {b : Block} (h : b.kind = some .primary) : b.Made :=
  ⟨fun hk => absurd (hk.symm.trans h) nofun, fun hk => absurd (hk.symm.trans h) nofun⟩

theorem Made.of_reference {b : Block} (h : b.kind = some .secondary) (hv : b.Flagged ∨ b.ReadsView) :
    b.Made :=
  ⟨fun hk => absurd (hk.symm.trans h) nofun, fun _ hn => hv.resolve_left hn⟩

theorem keeps_checkListValue : Act.Keeps Reads checkListValue := by
  unfold checkListValue
  refine keeps_bind keeps_self fun b => keeps_ite ?_ (keeps_pure _)
  split
  · exact keeps_ite (keeps_report_reads _ _) (keeps_pure _)
  · exact keeps_fail _ _

theorem readsView_of_alias {site : String} {v : Value} {t s' : Scene Block}
    (hsite : t.this.site = some site)
    (h : EStateM.run (do
        let a ← identOf v
        Act.change fun b => { b with sourceAlias := some a }
        let w ← ident (site ++ "_" ++ a)
        Act.change fun b => { b with sourceView := some w }) t = .ok () s') :
    s'.this.ReadsView := by
  cases ha : identifier v with
  | error f => rw [run_bind_error (by rw [run_identOf, ha])] at h; cases h
  | ok a =>
  rw [run_bind_ok (by rw [run_identOf, ha]), run_bind_ok (run_change _ _)] at h
  cases hw : identifier (.text (site ++ "_" ++ a)) with
  | error f => rw [run_bind_error (by rw [ident, run_identOf, hw])] at h; cases h
  | ok w =>
  rw [run_bind_ok (by rw [ident, run_identOf, hw]), run_change] at h
  cases h
  exact ⟨site, a, w, hsite, rfl, rfl, hw⟩

theorem readsView_of_readReference {site? : Option String} {v : Value} {s s' : Scene Block}
    (h : EStateM.run (readReference site? v) s = .ok () s') : s'.this.ReadsView := by
  unfold readReference at h
  -- the site is set first, from the text or from the parent
  cases site? with
  | none =>
    dsimp only at h
    rw [run_bind_ok (run_self s)] at h
    rw [run_bind_ok (run_change _ _), pure_bind] at h
    exact readsView_of_alias rfl h
  | some st =>
    dsimp only at h
    cases hst : identifier (.text st) with
    | error f =>
      rw [run_bind_error (by rw [ident, run_identOf, hst])] at h
      cases h
    | ok x =>
      rw [run_bind_ok (show EStateM.run (ident st) s = .ok x s by rw [ident, run_identOf, hst])] at h
      rw [run_bind_ok (run_change _ _), pure_bind] at h
      exact readsView_of_alias rfl h

theorem run_guard_reference (msg : String) (site? : Option String) (v : Value) (s : Scene Block) :
    ∃ s', EStateM.run (guard msg (readReference site? v)) s = .ok () s' ∧ Reads s.this s'.this ∧
      (s'.this.Flagged ∨ s'.this.ReadsView) := by
  have hkeep := keeps_guard (keeps_readReference site? v) (keeps_report_reads msg .error) s
  cases hrun : EStateM.run (readReference site? v) s with
  | ok u t =>
    have hguard : EStateM.run (guard msg (readReference site? v)) s = .ok () t := by
      rw [guard, EStateM.run_bind, run_attempt_ok hrun]
      rfl
    rw [hguard] at hkeep
    exact ⟨t, hguard, hkeep, .inr (readsView_of_readReference (by rw [hrun]))⟩
  | error e t =>
    -- the failure is recorded as a problem
    obtain ⟨log, hrep⟩ := run_report msg .error t
    have hguard : EStateM.run (guard msg (readReference site? v)) s =
        .ok () ⟨log, { t.this with problems := t.this.problems.record (.text msg) }⟩ := by
      rw [guard, EStateM.run_bind, run_attempt_error hrun]
      exact hrep
    rw [hguard] at hkeep
    exact ⟨_, hguard, hkeep, .inl (Problems.record_ne_nil _ _)⟩

theorem kind_of_unpackTest {raw : Value} {op : String} {s s' : Scene Block}
    (h : EStateM.run (unpackTest raw op) s = .ok () s') : s'.this.kind = some .primary := by
  unfold unpackTest at h
  rw [run_bind_ok (run_change _ _)] at h
  -- after the kind is set, the test is read under a guard and checked, which keeps the kind
  have hk := (keeps_bind (keeps_splittable raw) fun r => keeps_bind
    (keeps_guard (keeps_readTest (testParts r op) op)
      (keeps_report_reads "Cannot set attributes for primary condition" .error)) fun _ =>
      keeps_checkListValue) ⟨s.log, { s.this with kind := some .primary, site := some s.this.parentSite }⟩
  rw [h] at hk
  exact hk.kind

theorem made_of_unpack {s s' : Scene Block} (h : EStateM.run unpack s = .ok () s') : s'.this.Made := by
  obtain ⟨s₂, -, ⟨-, -, h⟩ | ⟨-, -, r, t, hsplit, h⟩ | ⟨-, -, h⟩ | ⟨-, -, -, log, rfl⟩⟩ :=
    unpack_cases h
  · -- a reference to a condition of the same site
    obtain ⟨t, ht, hreads, hview⟩ := run_guard_reference
      "Cannot set source alias and view for secondary condition" none s.this.rawLogic
      ⟨s₂.log, { s₂.this with kind := some .secondary }⟩
    rw [ht] at h
    cases h
    exact Made.of_reference hreads.kind hview
  · -- a reference with its site: splitting the text at its `#` keeps the kind
    have hkind : t.this.kind = some .secondary := by
      have hs := keeps_splittable (R := Reads) s.this.rawLogic
        ⟨s₂.log, { s₂.this with kind := some .secondary }⟩
      rw [hsplit, lastObject_ok] at hs
      exact hs.kind
    obtain ⟨u, hu, hreads, hview⟩ := run_guard_reference _ _ _ t
    rw [hu] at h
    cases h
    exact Made.of_reference (hreads.kind.trans hkind) hview
  · exact Made.of_primary (kind_of_unpackTest h)
  · exact Made.of_flagged (Problems.record_ne_nil _ _)

theorem made_of_make {m site n raw : Value} {s s' : Scene Unit} {b : Block}
    (h : EStateM.run (make m site n raw) s = .ok b s') : b.Made := by
  obtain ⟨ma, ps, t, -, -, ht, rfl⟩ := run_make_unpack h
  exact made_of_unpack ht

end Block

/-! ## Conditions -/

namespace Condition

/-- The blocks of a condition as reading leaves them: each made, and numbered in order under
the master alias, which is its own identifier. -/
def BlocksMade (c : Condition) : Prop :=
  identifier (.text c.masterAlias) = .ok c.masterAlias ∧ (∀ b ∈ c.blocks, b.Made) ∧
    c.blocks.map (·.aliasName) = (List.range c.blocks.length).map (aliasOf c.masterAlias)

theorem BlocksMade.append {c : Condition} {b : Block} (hc : c.BlocksMade) (hb : b.Made)
    (halias : b.aliasName = aliasOf c.masterAlias c.blocks.length) :
    BlocksMade { c with blocks := c.blocks ++ [b] } := by
  obtain ⟨hma, hmade, hnum⟩ := hc
  refine ⟨hma, fun x hx => ?_, ?_⟩
  · rcases List.mem_append.mp hx with hx | hx
    · exact hmade x hx
    · rw [List.mem_singleton.mp hx]
      exact hb
  · simp [hnum, List.range_succ, halias]

/-- Reading a formula keeps the identifier and the master alias, and keeps the blocks made. -/
structure Grows (c c' : Condition) : Prop where
  idString : c'.idString = c.idString
  masterAlias : c'.masterAlias = c.masterAlias
  blocks : c.BlocksMade → c'.BlocksMade

instance : IsPreorder Condition Grows where
  refl _ := ⟨rfl, rfl, id⟩
  trans _ _ _ h₁ h₂ := ⟨h₂.idString.trans h₁.idString, h₂.masterAlias.trans h₁.masterAlias,
    h₂.blocks ∘ h₁.blocks⟩

theorem grows_of_eq {c c' : Condition} (hid : c'.idString = c.idString)
    (hma : c'.masterAlias = c.masterAlias) (hb : c'.blocks = c.blocks) : Grows c c' :=
  ⟨hid, hma, fun h => by unfold BlocksMade; rw [hma, hb]; exact h⟩

theorem grows_of_problems {c c' : Condition} (h : c' = { c with problems := c'.problems }) :
    Grows c c' :=
  grows_of_eq (congrArg (·.idString) h) (congrArg (·.masterAlias) h) (congrArg (·.blocks) h)

theorem grows_record (c : Condition) (m : Value) :
    Grows c { c with problems := c.problems.record m } :=
  grows_of_eq rfl rfl rfl

theorem run_makeParts_grows (ts : List String) : ∀ (acc : List Part) (ok : Bool) (s : Scene Condition),
    ∃ r s', EStateM.run (makeParts ts acc ok) s = .ok r s' ∧ Grows s.this s'.this := by
  induction ts with
  | nil => exact fun acc ok s => ⟨_, s, rfl, refl_of Grows _⟩
  | cons p rest ih =>
    intro acc ok s
    cases hp : Part.ofPiece? p with
    | some part =>
      obtain ⟨r, s', h, hg⟩ := ih (part :: acc) ok s
      exact ⟨r, s', by rw [makeParts.eq_2, hp]; exact h, hg⟩
    | none =>
      rw [run_makeParts_block p rest acc ok hp]
      cases hb : EStateM.run (Block.make (.text s.this.masterAlias) (.text s.this.site)
        (.int s.this.blocks.length) (.text p)) ⟨s.log, ()⟩ with
      | ok b s₂ =>
        dsimp only
        split
        · exact ih _ ok ⟨s₂.log, s.this⟩
        · obtain ⟨r, s', h, hg⟩ := ih _ ok ⟨s₂.log, { s.this with blocks := s.this.blocks ++ [b] }⟩
          refine ⟨r, s', h, trans_of Grows (?_ : Grows s.this _) hg⟩
          refine ⟨rfl, rfl, fun hc => ?_⟩
          -- the block is numbered under the master alias, its own identifier
          obtain ⟨ma, hma, -, halias⟩ := Block.make_named hb
          rw [hc.1] at hma
          cases hma
          exact hc.append (Block.made_of_make hb) halias
      | error e s₂ =>
        dsimp only
        obtain ⟨log, hrep⟩ := run_report ("Cannot create Block from \"" ++ p ++ "\"") .error
          ⟨s₂.log, s.this⟩
        obtain ⟨r, s', h, hg⟩ := ih acc false ⟨log, { s.this with
          problems := s.this.problems.record (.text ("Cannot create Block from \"" ++ p ++ "\"")) }⟩
        refine ⟨r, s', by rw [run_bind_ok hrep]; exact h, trans_of Grows (?_ : Grows s.this _) hg⟩
        exact grows_of_eq rfl rfl rfl

theorem run_settle_flagged (parts : List Part) (ok : Bool) (s : Scene Condition) :
    ∃ s', EStateM.run (settle parts ok) s = .ok () s' ∧ Grows s.this s'.this ∧
      (s'.this.blocksMade = false → s'.this.problems.entries ≠ []) := by
  cases ok with
  | true => exact ⟨_, rfl, grows_of_eq rfl rfl rfl, nofun⟩
  | false =>
    obtain ⟨log, hrep⟩ := run_report "There were errors with this condition and it will not be analyzed"
      .warning ⟨s.log, { s.this with
        aliasFormula := String.join (parts.map (Part.aliasText s.this.blocks)),
        secondary := s.this.blocks.any (·.kind == some .secondary), blocksMade := false }⟩
    exact ⟨_, by simp only [settle, EStateM.run_bind, Act.run_change]; exact hrep,
      by exact grows_of_eq rfl rfl rfl, by exact fun _ => Problems.record_ne_nil _ _⟩

theorem run_readTokens_grows (ts : List String) (s : Scene Condition) :
    ∃ s', EStateM.run (readTokens ts) s = .ok () s' ∧ Grows s.this s'.this ∧
      (s'.this.blocksMade = false → s'.this.problems.entries ≠ []) := by
  obtain ⟨s₁, h₁, f₁⟩ := run_checkCounts s
  obtain ⟨⟨parts, allMade⟩, s₂, h₂, g₂⟩ := run_makeParts_grows ts [] true s₁
  obtain ⟨s₃, h₃, f₃⟩ := run_reportAll
    (if (occurrences s.this.formula "(" == occurrences s.this.formula ")" && allMade) = true then
      orderProblems (parts.map (Part.shown s₂.this.blocks)) else []) s₂
  simp only [readTokens, EStateM.run_bind, h₁, h₂, Act.run_self, h₃]
  have g₃ : Grows s.this s₃.this :=
    trans_of Grows (trans_of Grows (grows_of_problems f₁) g₂) (grows_of_problems f₃)
  by_cases hempty : s₂.this.blocks.isEmpty = true
  · -- no block: the condition is reported before it is settled
    obtain ⟨log₄, h₄⟩ := run_report "No Blocks were created" .warning s₃
    obtain ⟨s₅, h₅, g₅, hflag⟩ := run_settle_flagged parts false ⟨log₄, { s₃.this with
      problems := s₃.this.problems.record (.text "No Blocks were created") }⟩
    exact ⟨s₅, by simp only [hempty, if_true, EStateM.run_bind, h₄, pure_bind]; exact h₅,
      trans_of Grows g₃ (trans_of Grows (grows_record s₃.this _) g₅), hflag⟩
  · obtain ⟨s₅, h₅, g₅, hflag⟩ := run_settle_flagged parts _ s₃
    exact ⟨s₅, by simp only [hempty, Bool.false_eq_true, if_false, pure_bind]; exact h₅,
      trans_of Grows g₃ g₅, hflag⟩

/-- A condition as making leaves it: blocks not all made only with a problem, an identifier
without blanks, and its blocks made and numbered. -/
structure Made (c : Condition) : Prop where
  flagged : c.blocksMade = false → c.problems.entries ≠ []
  noBlank : ' ' ∉ c.idString.toList
  blocks : c.BlocksMade

theorem made_of_make {site masterAlias raw timeFrom timeUntil excelRow : Value}
    {s s' : Scene Unit} {c : Condition}
    (h : EStateM.run (make site masterAlias raw timeFrom timeUntil excelRow) s = .ok c s') :
    c.Made := by
  obtain ⟨c₀, log, s₁, total, hnil, hma, -, hid, hmb, rfl⟩ := run_make_ok h
  obtain ⟨s₂, h₂, hg, hflag⟩ := run_readTokens_grows (tokens c₀.formula) ⟨log, c₀⟩
  rw [run_makeBlocks, h₂] at hmb
  cases hmb
  -- the condition read from has no block, and a master alias that is an identifier
  obtain ⟨x, rfl⟩ := eq_text_of_identifier hma
  refine ⟨hflag, ?_, hg.blocks ⟨identifier_self hma, by simp [hnil], by simp [hnil]⟩⟩
  rw [hg.idString]
  exact blank_not_mem_of_identifier hid

end Condition

/-! ## Collections -/

namespace Collection

/-- A collection as reading leaves it: its conditions have distinct identifiers, and each is
made. -/
structure Made (c : Collection) : Prop where
  ids : (c.conditions.map (·.idString)).Nodup
  conditions : ∀ d ∈ c.conditions, d.Made

/-- Reading rows keeps the title and keeps a collection made. -/
structure Grows (c c' : Collection) : Prop where
  title : c'.title = c.title
  made : c.Made → c'.Made

instance : IsPreorder Collection Grows where
  refl _ := ⟨rfl, id⟩
  trans _ _ _ h₁ h₂ := ⟨h₂.title.trans h₁.title, h₂.made ∘ h₁.made⟩

theorem grows_of_conditions {c c' : Collection} (ht : c'.title = c.title)
    (h : c'.conditions = c.conditions) : Grows c c' :=
  ⟨ht, fun hc => ⟨h ▸ hc.ids, h ▸ hc.conditions⟩⟩

theorem keeps_report_grows (msg : String) (n : Notice) : Act.Keeps Grows (report msg n) :=
  keeps_focus (keeps_true _) fun _ _ _ => grows_of_conditions rfl rfl

theorem keeps_add (site masterAlias raw excelRow : Value) :
    Act.Keeps Grows (add site masterAlias raw excelRow) := by
  unfold add
  refine keeps_self_bind fun s => ?_
  rw [EStateM.run_bind, run_focus, run_attempt]
  cases hmake : EStateM.run (Condition.make site masterAlias raw (.time s.this.timeFrom)
    (.time s.this.timeUntil) excelRow) ⟨s.log, ()⟩ with
  | error e t => exact keeps_report_grows _ _ ⟨t.log, s.this⟩
  | ok d t =>
    dsimp only
    split
    · exact keeps_report_grows _ _ ⟨t.log, s.this⟩
    · next hfresh =>
      rw [run_change, lastObject_ok]
      refine ⟨rfl, fun hc => ⟨?_, fun x hx => ?_⟩⟩
      · -- the new identifier is none of the others
        rw [List.map_append, List.nodup_append]
        refine ⟨hc.ids, List.nodup_singleton _, fun a ha b hb hab => hfresh ?_⟩
        rw [List.mem_singleton.mp hb] at hab
        obtain ⟨y, hy, rfl⟩ := List.mem_map.mp ha
        exact List.any_eq_true.mpr ⟨y, hy, beq_iff_eq.mpr hab⟩
      · rcases List.mem_append.mp hx with hx | hx
        · exact hc.conditions x hx
        · rw [List.mem_singleton.mp hx]
          exact Condition.made_of_make hmake

theorem keeps_readRows (sh : Sheet) (reading : Reading) :
    ∀ fuel r, Act.Keeps Grows (readRows sh reading fuel r)
  | 0, _ => keeps_pure _
  | fuel + 1, r => by
    rw [readRows.eq_2]
    refine keeps_ite (keeps_pure _) ?_
    dsimp only
    -- the cells of the row only report, or fail
    refine keeps_bind (keeps_forIn _ _ fun x full => ?_) fun full => ?_
    · obtain ⟨p, v⟩ := x
      dsimp only
      refine keeps_ite ?_ (keeps_pure _)
      refine keeps_ite (keeps_bind (keeps_fail _ _) fun _ => ?_) ?_ <;>
        exact keeps_bind (keeps_report_grows _ _) fun _ => keeps_pure _
    · exact keeps_ite (keeps_bind (keeps_add _ _ _ _) fun _ => keeps_readRows sh reading fuel (r + 1))
        (keeps_readRows sh reading fuel (r + 1))

theorem make_eq_ok {timeFrom timeUntil title : Value} {createdAt : Instant} {c : Collection}
    (h : make timeFrom timeUntil title createdAt = .ok c) : c.title = title ∧ c.conditions = [] := by
  unfold make at h
  split at h
  · split at h
    · cases h
      exact ⟨rfl, rfl⟩
    · cases h
  · cases h

theorem made_of_fromSheet {sh : Sheet} {reading : Reading} {t : Instant} {s s' : Scene Unit}
    {c : Collection} (h : EStateM.run (fromSheet sh reading t) s = .ok c s') :
    c.Made ∧ c.title = .text sh.title := by
  unfold fromSheet at h
  dsimp only at h
  -- the two days, their order and the collection itself come first, each able to fail
  cases ha : dayIn (sh.get ⟨2, 1⟩) "Start date in cell A2 is empty" "Cannot parse start date in cell A2" with
  | error f => rw [ha, run_bind_error (run_throw _ _)] at h; cases h
  | ok a =>
  rw [ha, run_bind_ok (run_pure _ _)] at h
  cases hb : dayIn (sh.get ⟨2, 2⟩) "End date in cell B2 is empty" "Cannot parse end date in cell B2" with
  | error f => rw [hb, run_bind_error (run_throw _ _)] at h; cases h
  | ok b =>
  rw [hb, run_bind_ok (run_pure _ _)] at h
  split at h
  · rw [run_bind_error (run_fail _ _ _)] at h
    cases h
  cases hm : make (.time a) (.time b) (.text sh.title) t with
  | error f => rw [hm, run_bind_error (run_throw _ _)] at h; cases h
  | ok c₀ =>
  rw [hm, run_bind_ok (run_pure _ _)] at h
  -- then the rows are read into the new collection, which has no condition yet
  obtain ⟨htitle, hnil⟩ := make_eq_ok hm
  have hk := keeps_readRows sh reading (sh.lastRow + 1) 4 ⟨s.log, c₀⟩
  cases hr : EStateM.run (readRows sh reading (sh.lastRow + 1) 4) ⟨s.log, c₀⟩ with
  | ok u t' =>
    rw [run_focus, run_bind_ok hr, run_self] at h
    cases h
    rw [hr, lastObject_ok] at hk
    exact ⟨hk.made ⟨by simp [hnil], by simp [hnil]⟩, hk.title.trans htitle⟩
  | error e t' => rw [run_focus, run_bind_error hr] at h; cases h

end Collection

/-! ## Batches -/

namespace Batch

/-- A batch as reading leaves it: its collections are keyed by their titles, once each, and
each is made. -/
structure Made (b : Batch) : Prop where
  keys : (b.collections.map (·.1)).Nodup
  titles : ∀ kc ∈ b.collections, kc.2.title = .text kc.1
  collections : ∀ kc ∈ b.collections, kc.2.Made

theorem Made.distinct {b : Batch} (h : b.Made) : b.Distinct where
  keys := h.keys
  titles := h.titles
  collections kc hkc :=
    have hc := h.collections kc hkc
    ⟨hc.ids, fun d hd => (hc.conditions d hd).noBlank,
      fun d hd => ⟨d.masterAlias, (hc.conditions d hd).blocks.2.2⟩⟩

theorem mem_setCollection {title : String} {c : Collection} {kc : String × Collection} :
    ∀ {l : List (String × Collection)}, kc ∈ setCollection title c l → kc ∈ l ∨ kc = (title, c)
  | [], h => .inr (List.mem_singleton.mp h)
  | (k, d) :: rest, h => by
    unfold setCollection at h
    split at h
    · next hk =>
      rcases List.mem_cons.mp h with rfl | h
      · exact .inr (by rw [hk])
      · exact .inl (List.mem_cons_of_mem _ h)
    · rcases List.mem_cons.mp h with rfl | h
      · exact .inl List.mem_cons_self
      · exact (mem_setCollection h).imp_left (List.mem_cons_of_mem _)

theorem nodup_setCollection {title : String} {c : Collection} :
    ∀ {l : List (String × Collection)}, (l.map (·.1)).Nodup →
      ((setCollection title c l).map (·.1)).Nodup
  | [], _ => List.nodup_singleton _
  | (k, d) :: rest, h => by
    unfold setCollection
    rw [List.map_cons, List.nodup_cons] at h
    split
    · rw [List.map_cons, List.nodup_cons]
      exact h
    · next hk =>
      rw [List.map_cons, List.nodup_cons]
      refine ⟨fun hmem => ?_, nodup_setCollection h.2⟩
      -- the key `k` is neither among the others nor the title
      obtain ⟨kc, hkc, rfl⟩ := List.mem_map.mp hmem
      rcases mem_setCollection hkc with hkc | rfl
      · exact h.1 (List.mem_map.mpr ⟨kc, hkc, rfl⟩)
      · exact hk rfl

theorem Made.setCollection {b : Batch} {title : String} {c : Collection} (hb : b.Made)
    (hc : c.Made) (ht : c.title = .text title) :
    Made { b with collections := setCollection title c b.collections } where
  keys := nodup_setCollection hb.keys
  titles kc hkc := by
    rcases mem_setCollection hkc with hkc | rfl
    · exact hb.titles kc hkc
    · exact ht
  collections kc hkc := by
    rcases mem_setCollection hkc with hkc | rfl
    · exact hb.collections kc hkc
    · exact hc

theorem keeps_report_made (msg : String) (n : Notice) : Act.Keeps (Carries Made) (report msg n) :=
  keeps_focus (keeps_true _) fun _ _ _ hb => ⟨hb.keys, hb.titles, hb.collections⟩

theorem keeps_addCollections (drop : List String) (t : Instant) :
    Act.Keeps (Carries Made) (addCollections drop t) := by
  unfold addCollections
  refine keeps_bind keeps_self fun b => keeps_bind (keeps_forIn _ _ fun sh _ => ?_) fun _ => keeps_pure _
  refine keeps_ite (keeps_pure _) ?_
  refine keeps_bind_of (Q := fun made => ∀ c, made = .ok c → c.Made ∧ c.title = .text sh.title)
    (keeps_focus (keeps_true _) fun _ _ _ => id) (fun s made s' h c hc => ?_) fun made hmade => ?_
  · -- a collection made of the sheet is made
    rw [run_focus, run_attempt] at h
    cases hr : EStateM.run (Collection.fromSheet sh .stored t) ⟨s.log, ()⟩ with
    | ok c' t' => rw [hr] at h; cases h; cases hc; exact Collection.made_of_fromSheet hr
    | error e t' => rw [hr] at h; cases h; cases hc
  · cases made with
    | ok c =>
      obtain ⟨hc, ht⟩ := hmade c rfl
      exact keeps_bind (keeps_change fun b hb => hb.setCollection hc ht) fun _ =>
        keeps_bind (keeps_note _ _ _) fun _ => keeps_pure _
    | error e => exact keeps_bind (keeps_report_made _ _) fun _ => keeps_pure _

theorem finishes_report (msg : String) (n : Notice) : Act.Finishes (report msg n) := fun s => by
  obtain ⟨log, h⟩ := Act.run_focus_add (σ := Batch) (·.problems) (fun b p => { b with problems := p })
    (.text msg) n s
  exact ⟨_, _, h⟩

theorem finishes_addCollections (drop : List String) (t : Instant) :
    Act.Finishes (addCollections drop t) := by
  unfold addCollections
  refine finishes_bind finishes_self fun b =>
    finishes_bind (finishes_forIn fun sh _ => ?_) fun _ => finishes_pure _
  refine finishes_ite (finishes_pure _)
    (finishes_bind (finishes_focus (finishes_attempt _)) fun made => ?_)
  cases made with
  | ok c =>
    exact finishes_bind (finishes_change _) fun _ =>
      finishes_bind (finishes_note _ _ _) fun _ => finishes_pure _
  | error e => exact finishes_bind (finishes_report _ _) fun _ => finishes_pure _

end Batch

end RoadWeather
