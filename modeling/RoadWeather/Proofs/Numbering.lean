import RoadWeather.Proofs.Reading
import RoadWeather.Proofs.Keeps
import RoadWeather.Proofs.Blanks
import RoadWeather.Proofs.ProblemLists

/-! # How the blocks of a formula are numbered -/

namespace RoadWeather

open RoadWeather.Act RoadWeather.Text

/-! ## A block keeps its text and alias -/

namespace Block

/-- The text and the alias of a block stay as they are. -/
def Named (b b' : Block) : Prop := b'.rawLogic = b.rawLogic ∧ b'.aliasName = b.aliasName

instance : IsPreorder Block Named where
  refl _ := ⟨rfl, rfl⟩
  trans _ _ _ h₁ h₂ := ⟨h₂.1.trans h₁.1, h₂.2.trans h₁.2⟩

/-- Reading one part of a block's text: the kind, the text and the alias stay, and a problem
once recorded stays. -/
structure Reads (b b' : Block) : Prop where
  kind : b'.kind = b.kind
  named : Named b b'
  problems : b.problems.entries ≠ [] → b'.problems.entries ≠ []

instance : IsPreorder Block Reads where
  refl b := ⟨rfl, refl_of Named b, id⟩
  trans _ _ _ h₁ h₂ := ⟨h₂.kind.trans h₁.kind, trans_of Named h₁.named h₂.named,
    h₂.problems ∘ h₁.problems⟩

theorem keeps_report_reads (msg : String) (n : Notice) : Act.Keeps Reads (report msg n) := fun s => by
  obtain ⟨log, h⟩ := run_report msg n s
  rw [h]
  exact ⟨rfl, ⟨rfl, rfl⟩, fun _ => Problems.record_ne_nil _ _⟩

theorem keeps_report_named (msg : String) (n : Notice) : Act.Keeps Named (report msg n) :=
  (keeps_report_reads msg n).mono Reads.named

section
variable {R : Block → Block → Prop} [IsPreorder Block R]

theorem keeps_identOf (v : Value) : Act.Keeps R (identOf v) := by
  unfold identOf
  split
  · exact keeps_pure _
  · exact keeps_throw _

theorem keeps_ident (s : String) : Act.Keeps R (ident s) := keeps_identOf _

theorem keeps_splittable (v : Value) : Act.Keeps R (splittable v) := by
  cases v
  case text => exact keeps_pure _
  all_goals exact keeps_fail _ _

theorem keeps_guard {msg : String} {step : Act Block Unit} (h : Act.Keeps R step)
    (hrep : Act.Keeps R (report msg .error)) : Act.Keeps R (guard msg step) := by
  unfold guard
  refine keeps_bind (keeps_attempt h) fun r => ?_
  split
  · exact keeps_pure _
  · exact hrep

end

theorem keeps_readReference (site? : Option String) (aliasName : Value) :
    Act.Keeps Reads (readReference site? aliasName) := by
  unfold readReference
  dsimp only
  -- each step looks up an identifier, which may fail, or sets a field the reference gives
  repeat' first
    | with_reducible exact keeps_pure _
    | with_reducible exact keeps_self
    | with_reducible exact keeps_identOf _
    | with_reducible exact keeps_ident _
    | with_reducible refine keeps_bind ?_ fun _ => ?_
    | split
    | exact keeps_change fun _ => ⟨rfl, ⟨rfl, rfl⟩, id⟩

theorem keeps_readTest (parts : List String) (op : String) : Act.Keeps Reads (readTest parts op) := by
  unfold readTest
  dsimp only
  repeat' first
    | with_reducible exact keeps_pure _
    | with_reducible exact keeps_self
    | with_reducible exact keeps_throw _
    | with_reducible exact keeps_identOf _
    | with_reducible exact keeps_ident _
    | with_reducible refine keeps_bind ?_ fun _ => ?_
    | split
    | exact keeps_change fun _ => ⟨rfl, ⟨rfl, rfl⟩, id⟩

theorem keeps_unpack : Act.Keeps Named unpack := by
  unfold unpack unpackTest checkListValue reportWhen
  dsimp only
  -- each step reports, sets a field other than these two, or runs a guarded reading
  repeat' first
    | with_reducible exact keeps_pure _
    | with_reducible exact keeps_self
    | with_reducible exact keeps_fail _ _
    | with_reducible exact keeps_splittable _
    | with_reducible exact keeps_report_named _ _
    | with_reducible exact keeps_guard ((keeps_readReference _ _).mono Reads.named) (keeps_report_named _ _)
    | with_reducible exact keeps_guard ((keeps_readTest _ _).mono Reads.named) (keeps_report_named _ _)
    | with_reducible refine keeps_bind ?_ fun _ => ?_
    | split
    | exact keeps_change fun _ => ⟨rfl, rfl⟩

theorem run_focus_unpack {b₀ b : Block} {s s' : Scene Unit}
    (h : EStateM.run (Act.focus (fun _ => b₀) (fun u _ => u) (do unpack; Act.self)) s = .ok b s') :
    ∃ t, EStateM.run unpack ⟨s.log, b₀⟩ = .ok () t ∧ b = t.this := by
  cases hu : EStateM.run unpack ⟨s.log, b₀⟩ with
  | ok u t =>
    rw [run_focus, run_bind_ok hu, run_self] at h
    cases h
    exact ⟨t, rfl, rfl⟩
  | error e t => rw [run_focus, run_bind_error hu] at h; cases h

theorem run_make_unpack {m site n raw : Value} {s s' : Scene Unit} {b : Block}
    (h : EStateM.run (make m site n raw) s = .ok b s') :
    ∃ ma ps t, identifier m = .ok ma ∧ identifier site = .ok ps ∧
      EStateM.run unpack ⟨s.log, blank ma ps n raw⟩ = .ok () t ∧ b = t.this := by
  unfold make at h
  cases hma : identifier m with
  | error f => rw [hma, run_bind_error (run_throw _ _)] at h; cases h
  | ok ma =>
  rw [hma, run_bind_ok (run_pure _ _)] at h
  cases hps : identifier site with
  | error f => rw [hps, run_bind_error (run_throw _ _)] at h; cases h
  | ok ps =>
  rw [hps, run_bind_ok (run_pure _ _)] at h
  dsimp only at h
  -- only a text or a list is read; any other value fails before
  split at h
  · rw [run_bind_ok (run_pure _ _)] at h
    obtain ⟨t, ht, rfl⟩ := run_focus_unpack h
    exact ⟨ma, ps, t, rfl, rfl, ht, rfl⟩
  · rw [run_bind_ok (run_pure _ _)] at h
    obtain ⟨t, ht, rfl⟩ := run_focus_unpack h
    exact ⟨ma, ps, t, rfl, rfl, ht, rfl⟩
  · rw [run_bind_error (run_fail _ _ _)] at h
    cases h

theorem make_named {m site p : String} {n : Nat} {log : Array Record} {b : Block} {s' : Scene Unit}
    (h : EStateM.run (make (.text m) (.text site) (.int n) (.text p)) ⟨log, ()⟩ = .ok b s') :
    ∃ ma, identifier (.text m) = .ok ma ∧ b.rawLogic = .text p ∧ b.aliasName = ma ++ "_" ++ toString n := by
  obtain ⟨ma, ps, t, hma, -, hu, rfl⟩ := run_make_unpack h
  have hk := keeps_unpack ⟨log, blank ma ps (.int n) (.text p)⟩
  rw [hu, Act.lastObject_ok] at hk
  exact ⟨ma, hma, hk.1, hk.2⟩

theorem run_guard (msg : String) (step : Act Block Unit) (s : Scene Block) :
    ∃ s', EStateM.run (guard msg step) s = .ok () s' := by
  unfold guard
  rw [EStateM.run_bind, Act.run_attempt]
  cases EStateM.run step s with
  | ok u t => exact ⟨t, rfl⟩
  | error e t =>
    obtain ⟨log, h⟩ := run_report msg .error t
    exact ⟨_, h⟩

theorem run_unpack_reference (s : Scene Block) (hh : countOf s.this.rawLogic "#" = 0)
    (ho : (operatorCount s.this.rawLogic).1 = 0) : ∃ s', EStateM.run unpack s = .ok () s' := by
  unfold unpack reportWhen
  simp only [EStateM.run_bind, Act.run_self, hh, gt_iff_lt, Nat.not_lt_zero, if_false]
  cases hop : operatorCount s.this.rawLogic with
  | mk nOps lastOp =>
    simp only [hop] at ho
    subst ho
    simp only [Nat.not_lt_zero, if_false, and_self, if_true, EStateM.run_bind, Act.run_change]
    exact run_guard _ _ _

theorem make_reference_ok {m site p ma ps : String} (hma : identifier (.text m) = .ok ma)
    (hps : identifier (.text site) = .ok ps) (hh : countOf (.text p) "#" = 0)
    (ho : (operatorCount (.text p)).1 = 0) (n : Nat) (log : Array Record) :
    ∃ b s', EStateM.run (make (.text m) (.text site) (.int n) (.text p)) ⟨log, ()⟩ = .ok b s' := by
  obtain ⟨t, ht⟩ := run_unpack_reference ⟨log, blank ma ps (.int n) (.text p)⟩ hh ho
  refine ⟨t.this, ⟨t.log, ()⟩, ?_⟩
  unfold make
  simp only [hma, hps, EStateM.run_bind, Act.run_pure, Act.run_focus, ht, Act.run_self]

def textAsAlias (b : Block) : Block := { b with aliasName := b.rawLogic.plain }

end Block

/-! ## Numbering the blocks -/

theorem eraseDups_append_singleton {α : Type} [BEq α] [LawfulBEq α] (l : List α) (a : α) :
    (l ++ [a]).eraseDups = if a ∈ l then l.eraseDups else l.eraseDups ++ [a] := by
  rw [List.eraseDups_append]
  split <;> simp [List.removeAll, List.eraseDups_cons, *]

theorem idxOf_eraseDups_append {α : Type} [BEq α] [LawfulBEq α] {l : List α} (m : List α) {a : α}
    (h : a ∈ l) : (l ++ m).eraseDups.idxOf a = l.eraseDups.idxOf a := by
  rw [List.eraseDups_append, List.idxOf_append, if_pos (List.mem_eraseDups.mpr h)]

theorem findIdx?_beq_of_mem {l : List String} {p : String} (h : p ∈ l) :
    l.findIdx? (· == p) = some (l.idxOf p) := by
  rw [List.findIdx?_eq_some_iff_findIdx_eq]
  exact ⟨List.idxOf_lt_length_of_mem h, rfl⟩

theorem findIdx?_beq_of_not_mem {l : List String} {p : String} (h : p ∉ l) :
    l.findIdx? (· == p) = none := by
  rw [List.findIdx?_eq_none_iff]
  intro x hx
  simpa using fun hxp : x = p => h (hxp ▸ hx)

namespace Condition

def blockTokens (ts : List String) : List String := ts.filter fun p => (Part.ofPiece? p).isNone

theorem blockTokens_cons_block {p : String} (h : Part.ofPiece? p = none) (ts : List String) :
    blockTokens (p :: ts) = p :: blockTokens ts := by
  simp [blockTokens, h]

theorem blockTokens_cons_other {p : String} {part : Part} (h : Part.ofPiece? p = some part)
    (ts : List String) : blockTokens (p :: ts) = blockTokens ts := by
  simp [blockTokens, h]

def partOf (texts : List String) (p : String) : Part := (Part.ofPiece? p).getD (.block (texts.idxOf p))

def aliasOf (ma : String) (i : Nat) : String := ma ++ "_" ++ toString i

/-- The blocks hold the distinct texts of the block tokens `W` read so far, in the order they
first occur, once each, with aliases numbered from 0. -/
structure Numbered (ma : String) (W : List String) (bs : List Block) : Prop where
  texts : bs.map (·.rawLogic) = W.eraseDups.map .text
  nodup : (bs.map (·.rawLogic)).Nodup
  aliases : bs.map (·.aliasName) = (List.range bs.length).map (aliasOf ma)

theorem Numbered.length_eq {ma : String} {W : List String} {bs : List Block} (h : Numbered ma W bs) :
    bs.length = W.eraseDups.length := by
  simpa using congrArg List.length h.texts

theorem Numbered.findIdx? {ma : String} {W : List String} {bs : List Block} (h : Numbered ma W bs)
    (p : String) : bs.findIdx? (·.rawLogic.same (.text p)) = W.eraseDups.findIdx? (· == p) := by
  have hmap : bs.findIdx? (·.rawLogic.same (.text p)) =
      (bs.map (·.rawLogic)).findIdx? (·.same (.text p)) := by
    rw [List.findIdx?_map]
    rfl
  rw [hmap, h.texts, List.findIdx?_map]
  rfl

theorem Numbered.seen {ma : String} {W : List String} {bs : List Block} (h : Numbered ma W bs)
    {p : String} (hp : p ∈ W) : Numbered ma (W ++ [p]) bs := by
  refine ⟨?_, h.nodup, h.aliases⟩
  rw [eraseDups_append_singleton, if_pos hp, h.texts]

theorem Numbered.fresh {ma : String} {W : List String} {bs : List Block} (h : Numbered ma W bs)
    {p : String} (hp : p ∉ W) {b : Block} (hraw : b.rawLogic = .text p)
    (halias : b.aliasName = aliasOf ma bs.length) : Numbered ma (W ++ [p]) (bs ++ [b]) := by
  have hnew : Value.text p ∉ bs.map (·.rawLogic) := by
    rw [h.texts]
    simpa [List.mem_eraseDups] using hp
  refine ⟨?_, ?_, ?_⟩
  · rw [eraseDups_append_singleton, if_neg hp, List.map_append, List.map_append, h.texts]
    simp [hraw]
  · rw [List.map_append, List.nodup_append]
    exact ⟨h.nodup, by simp, by simpa [hraw] using hnew⟩
  · rw [List.map_append, h.aliases, List.length_append, List.length_singleton, List.range_succ,
      List.map_append]
    simp [halias]

theorem Numbered.rawLogic_getD {ma : String} {W : List String} {bs : List Block}
    (h : Numbered ma W bs) {p : String} (hp : p ∈ W) :
    (bs.getD (W.eraseDups.idxOf p) default).rawLogic = .text p := by
  have hmem : p ∈ W.eraseDups := List.mem_eraseDups.mpr hp
  have hlt : W.eraseDups.idxOf p < bs.length := h.length_eq ▸ List.idxOf_lt_length_of_mem hmem
  have hat := List.getElem_of_eq h.texts (by simpa using hlt)
  rw [List.getD_eq_getElem?_getD, List.getElem?_eq_getElem hlt, Option.getD_some]
  simpa [List.getElem_idxOf (List.idxOf_lt_length_of_mem hmem)] using hat

/-- Every block of text `p` can be made for condition `c`, whatever its number. -/
def BlockMakes (c : Condition) (p : String) : Prop :=
  ∀ (n : Nat) (log : Array Record), ∃ b s',
    EStateM.run (Block.make (.text c.masterAlias) (.text c.site) (.int n) (.text p)) ⟨log, ()⟩ =
      .ok b s'

theorem run_makeParts_numbered {ma : String} (ts : List String) :
    ∀ (W : List String) (acc : List Part) (ok : Bool) (s : Scene Condition),
      identifier (.text s.this.masterAlias) = .ok ma → Numbered ma W s.this.blocks →
      (∀ p ∈ ts, Part.ofPiece? p = none → BlockMakes s.this p) →
      ∃ log bs, EStateM.run (makeParts ts acc ok) s =
          .ok (acc.reverse ++ ts.map (partOf (W ++ blockTokens ts).eraseDups), ok)
            ⟨log, { s.this with blocks := bs }⟩ ∧
        Numbered ma (W ++ blockTokens ts) bs := by
  induction ts with
  | nil =>
    intro W acc ok s _ hN _
    exact ⟨s.log, s.this.blocks, by simp [makeParts], by simpa [blockTokens] using hN⟩
  | cons p rest ih =>
    intro W acc ok s hma hN hmake
    have hmake' : ∀ q ∈ rest, Part.ofPiece? q = none → BlockMakes s.this q :=
      fun q hq => hmake q (List.mem_cons_of_mem _ hq)
    cases hp : Part.ofPiece? p with
    | some part =>
      obtain ⟨log, bs, hrun, hN'⟩ := ih W (part :: acc) ok s hma hN hmake'
      refine ⟨log, bs, ?_, by rwa [blockTokens_cons_other hp]⟩
      rw [makeParts.eq_2, hp]
      simp [hrun, blockTokens_cons_other hp, partOf, hp]
    | none =>
      obtain ⟨b, s₂, hb⟩ := hmake p List.mem_cons_self hp s.this.blocks.length s.log
      obtain ⟨ma', hma', hraw, halias⟩ := Block.make_named hb
      obtain rfl : ma' = ma := by rw [hma] at hma'; cases hma'; rfl
      have hV : W ++ blockTokens (p :: rest) = (W ++ [p]) ++ blockTokens rest := by
        simp [blockTokens_cons_block hp]
      have hfind : s.this.blocks.findIdx? (·.rawLogic.same b.rawLogic) = W.eraseDups.findIdx? (· == p) := by
        rw [hraw]
        exact hN.findIdx? p
      rw [run_makeParts_block p rest acc ok hp, hb]
      dsimp only
      rw [hfind]
      by_cases hpW : p ∈ W
      · -- a text seen before: the token stands for the block of that text
        rw [findIdx?_beq_of_mem (List.mem_eraseDups.mpr hpW)]
        dsimp only
        obtain ⟨log, bs, hrun, hN'⟩ := ih (W ++ [p]) (.block (W.eraseDups.idxOf p) :: acc) ok
          ⟨s₂.log, s.this⟩ hma (hN.seen hpW) hmake'
        have hpart : partOf ((W ++ [p]) ++ blockTokens rest).eraseDups p =
            .block (W.eraseDups.idxOf p) := by
          simp only [partOf, hp, Option.getD_none]
          rw [idxOf_eraseDups_append _ (List.mem_append_left _ hpW), eraseDups_append_singleton,
            if_pos hpW]
        refine ⟨log, bs, ?_, by rwa [hV]⟩
        rw [hrun, hV, List.map_cons, hpart]
        simp
      · -- a new text: a new block, with the next number
        rw [findIdx?_beq_of_not_mem (mt List.mem_eraseDups.mp hpW)]
        dsimp only
        obtain ⟨log, bs, hrun, hN'⟩ := ih (W ++ [p]) (.block s.this.blocks.length :: acc) ok
          ⟨s₂.log, { s.this with blocks := s.this.blocks ++ [b] }⟩ hma (hN.fresh hpW hraw halias)
          hmake'
        have hpart : partOf ((W ++ [p]) ++ blockTokens rest).eraseDups p =
            .block s.this.blocks.length := by
          simp only [partOf, hp, Option.getD_none]
          rw [idxOf_eraseDups_append _ List.mem_concat_self, eraseDups_append_singleton, if_neg hpW,
            List.idxOf_append, if_neg (mt List.mem_eraseDups.mp hpW), hN.length_eq]
          simp
        refine ⟨log, bs, ?_, by rwa [hV]⟩
        rw [hrun, hV, List.map_cons, hpart]
        simp

/-! ## The blocks and the alias formula after reading -/

theorem run_readTokens_made {ts : List String} {s : Scene Condition} {parts : List Part}
    {P : List Block → Prop}
    (h : ∀ (log : Array Record) (pr : Problems), ∃ log' bs,
      EStateM.run (makeParts ts [] true) ⟨log, { s.this with problems := pr }⟩ =
        .ok (parts, true) ⟨log', { s.this with problems := pr, blocks := bs }⟩ ∧ P bs) :
    ∃ s', EStateM.run (readTokens ts) s = .ok () s' ∧ P s'.this.blocks ∧
      s'.this.aliasFormula = String.join (parts.map (Part.aliasText s'.this.blocks)) := by
  obtain ⟨⟨log₁, c₁⟩, h₁, f₁⟩ := run_checkCounts s
  obtain ⟨log₂, bs, h₂, hP⟩ := h log₁ c₁.problems
  have h₂' : EStateM.run (makeParts ts [] true) ⟨log₁, c₁⟩ =
      .ok (parts, true) ⟨log₂, { c₁ with blocks := bs }⟩ := by
    dsimp only at f₁
    rw [f₁]
    exact h₂
  obtain ⟨s₃, h₃, f₃⟩ := run_reportAll
    (if (occurrences s.this.formula "(" == occurrences s.this.formula ")" && true) = true then
      orderProblems (parts.map (Part.shown bs)) else []) ⟨log₂, { c₁ with blocks := bs }⟩
  have hb₃ : s₃.this.blocks = bs := congrArg (·.blocks) f₃
  simp only [readTokens, EStateM.run_bind, h₁, h₂', Act.run_self, h₃]
  by_cases hempty : bs.isEmpty = true
  · -- no block: the condition is reported, and the formula is still recorded
    obtain ⟨log₄, h₄⟩ := run_report "No Blocks were created" .warning s₃
    obtain ⟨s₅, h₅, f₅⟩ := run_settle parts false ⟨log₄, { s₃.this with
      problems := s₃.this.problems.record (.text "No Blocks were created") }⟩
    have hb₅ : s₅.this.blocks = bs := (congrArg (·.blocks) f₅).trans hb₃
    refine ⟨s₅, by simp only [hempty, if_true, EStateM.run_bind, h₄, pure_bind]; exact h₅,
      hb₅ ▸ hP, ?_⟩
    rw [hb₅, congrArg (·.aliasFormula) f₅]
    simp [hb₃]
  · obtain ⟨s₅, h₅, f₅⟩ := run_settle parts _ s₃
    have hb₅ : s₅.this.blocks = bs := (congrArg (·.blocks) f₅).trans hb₃
    refine ⟨s₅, by simp only [hempty, Bool.false_eq_true, if_false, pure_bind]; exact h₅,
      hb₅ ▸ hP, ?_⟩
    rw [hb₅, congrArg (·.aliasFormula) f₅, hb₃]

/-! ## Rendering the parts with texts for aliases -/

theorem ofPiece?_eq_some {p : String} {part : Part} (h : Part.ofPiece? p = some part) :
    (p = "(" ∧ part = .openPar) ∨ (p = ")" ∧ part = .closePar) ∨
      (p = "and" ∧ part = .andOr "and") ∨ (p = "or" ∧ part = .andOr "or") ∨
      (p = "not" ∧ part = .negation) := by
  unfold Part.ofPiece? at h
  split at h
  · next hp => exact .inl ⟨hp, (Option.some.inj h).symm⟩
  split at h
  · next hp => exact .inr (.inl ⟨hp, (Option.some.inj h).symm⟩)
  split at h
  · next hp => exact .inr (.inr (.inl ⟨hp, (Option.some.inj h).symm⟩))
  split at h
  · next hp => exact .inr (.inr (.inr (.inl ⟨hp, (Option.some.inj h).symm⟩)))
  split at h
  · next hp => exact .inr (.inr (.inr (.inr ⟨hp, (Option.some.inj h).symm⟩)))
  · cases h

theorem nonBlank_aliasText_ofPiece {p : String} {part : Part} (h : Part.ofPiece? p = some part)
    (bs : List Block) : nonBlank (Part.aliasText bs part).toList = nonBlank p.toList := by
  rcases ofPiece?_eq_some h with ⟨rfl, rfl⟩ | ⟨rfl, rfl⟩ | ⟨rfl, rfl⟩ | ⟨rfl, rfl⟩ | ⟨rfl, rfl⟩ <;>
    simp only [Part.aliasText] <;> decide

theorem Numbered.nonBlank_partOf {ma : String} {W : List String} {bs : List Block}
    (h : Numbered ma W bs) {p : String} (hp : Part.ofPiece? p = none → p ∈ W) :
    nonBlank (Part.aliasText (bs.map Block.textAsAlias) (partOf W.eraseDups p)).toList =
      nonBlank p.toList := by
  cases hpart : Part.ofPiece? p with
  | some part =>
    simp only [partOf, hpart, Option.getD_some]
    exact nonBlank_aliasText_ofPiece hpart _
  | none =>
    -- a block token: its block is in range and has the token's text
    have hW := hp hpart
    have hlt : W.eraseDups.idxOf p < bs.length :=
      h.length_eq ▸ List.idxOf_lt_length_of_mem (List.mem_eraseDups.mpr hW)
    have hraw := h.rawLogic_getD hW
    rw [List.getD_eq_getElem?_getD, List.getElem?_eq_getElem hlt, Option.getD_some] at hraw
    simp only [partOf, hpart, Option.getD_none, Part.aliasText, List.getD_eq_getElem?_getD,
      List.getElem?_map, List.getElem?_eq_getElem hlt, Option.map_some, Option.getD_some,
      Block.textAsAlias, hraw, Value.plain]

def blockTexts (f : String) : List String := (blockTokens (tokens f)).eraseDups

def readParts (f : String) : List Part := (tokens f).map (partOf (blockTexts f))

/-- Reading a formula into a condition with no blocks, when every block can be made: the blocks
hold the distinct block texts in the order they first occur, once each; their aliases are
the master alias followed by `_0`, `_1`, ... in this order; each block token is read as the
block of its text; the alias formula renders the tokens in order with each block written as
its alias; and written with each block's text in place of its alias, it has exactly the
characters of the formula that are not blank. -/
theorem makeBlocks_numbers_blocks (s : Scene Condition) (hs : s.this.blocks = []) {ma : String}
    (hma : identifier (.text s.this.masterAlias) = .ok ma)
    (hmake : ∀ p ∈ tokens s.this.formula, Part.ofPiece? p = none → BlockMakes s.this p) :
    ∃ s', EStateM.run makeBlocks s = .ok () s' ∧
      s'.this.blocks.map (·.rawLogic) = (blockTexts s.this.formula).map .text ∧
      (s'.this.blocks.map (·.rawLogic)).Nodup ∧
      s'.this.blocks.map (·.aliasName) = (List.range s'.this.blocks.length).map (aliasOf ma) ∧
      (∀ p ∈ tokens s.this.formula, Part.ofPiece? p = none →
        (s'.this.blocks.getD ((blockTexts s.this.formula).idxOf p) default).rawLogic = .text p) ∧
      s'.this.aliasFormula =
        String.join ((readParts s.this.formula).map (Part.aliasText s'.this.blocks)) ∧
      nonBlank (String.join ((readParts s.this.formula).map
        (Part.aliasText (s'.this.blocks.map Block.textAsAlias)))).toList =
        nonBlank s.this.formula.toList := by
  have hparts : ∀ (log : Array Record) (pr : Problems), ∃ log' bs,
      EStateM.run (makeParts (tokens s.this.formula) [] true) ⟨log, { s.this with problems := pr }⟩ =
        .ok (readParts s.this.formula, true) ⟨log', { s.this with problems := pr, blocks := bs }⟩ ∧
      Numbered ma (blockTokens (tokens s.this.formula)) bs := by
    intro log pr
    obtain ⟨log', bs, hrun, hN⟩ := run_makeParts_numbered (tokens s.this.formula) [] [] true
      ⟨log, { s.this with problems := pr }⟩ hma (by rw [hs]; exact ⟨rfl, List.nodup_nil, rfl⟩) hmake
    exact ⟨log', bs, by simpa [readParts, blockTexts] using hrun, by simpa using hN⟩
  obtain ⟨s', hrun, hN, hformula⟩ := run_readTokens_made hparts
  have hblock : ∀ p ∈ tokens s.this.formula, Part.ofPiece? p = none →
      p ∈ blockTokens (tokens s.this.formula) := fun p hp hnone => by simp [blockTokens, hp, hnone]
  refine ⟨s', by rw [run_makeBlocks]; exact hrun, hN.texts, hN.nodup, hN.aliases,
    fun p hp hnone => hN.rawLogic_getD (hblock p hp hnone), hformula, ?_⟩
  -- token by token, the rendering keeps what is not blank, and so do the tokens
  have hrender : ((readParts s.this.formula).map
      (Part.aliasText (s'.this.blocks.map Block.textAsAlias))).map (fun x => nonBlank x.toList) =
      (tokens s.this.formula).map fun p => nonBlank p.toList := by
    rw [readParts, List.map_map, List.map_map]
    exact List.map_congr_left fun p hp => hN.nonBlank_partOf (hblock p hp)
  rw [nonBlank_join, hrender, ← nonBlank_join, nonBlank_tokens]

/-- The formula `a and (b or a)`: its two distinct blocks are numbered in the order they first
occur, and the second `a` reuses the first block. -/
theorem repeated_block_numbered_once :
    ∃ s', EStateM.run makeBlocks ⟨#[], freshCondition "a and (b or a)"⟩ = .ok () s' ∧
      s'.this.blocks.map (·.rawLogic) = [.text "a", .text "b"] ∧
      s'.this.blocks.map (·.aliasName) = ["m_0", "m_1"] := by
  have htok : tokens "a and (b or a)" = ["a", "and", "(", "b", "or", "a", ")"] := by
    have hp : pieces "a and (b or a)" = ["a", "and", "(", "b", "or", "a", ")"] := by cbv
    rw [tokens, hp]
    decide +kernel
  have hmake : ∀ p ∈ tokens (freshCondition "a and (b or a)").formula, Part.ofPiece? p = none →
      BlockMakes (freshCondition "a and (b or a)") p := by
    intro p hp hnone n log
    rw [show (freshCondition "a and (b or a)").formula = "a and (b or a)" from rfl, htok] at hp
    -- the block tokens are the references `a` and `b`
    have hab : p = "a" ∨ p = "b" := by
      simp only [List.mem_cons, List.not_mem_nil, or_false] at hp
      rcases hp with rfl | rfl | rfl | rfl | rfl | rfl | rfl <;> simp_all [Part.ofPiece?]
    rcases hab with rfl | rfl
    all_goals exact Block.make_reference_ok (by rfl) (by rfl) (by decide) (by decide) n log
  obtain ⟨s', hrun, htexts, -, haliases, -⟩ :=
    makeBlocks_numbers_blocks ⟨#[], freshCondition "a and (b or a)"⟩ rfl rfl hmake
  have hbt : blockTexts "a and (b or a)" = ["a", "b"] := by
    rw [blockTexts, htok]
    decide
  have htexts' : s'.this.blocks.map (·.rawLogic) = [.text "a", .text "b"] := by
    rw [htexts]
    exact congrArg (List.map Value.text) hbt
  have hlen : s'.this.blocks.length = 2 := by simpa using congrArg List.length htexts'
  refine ⟨s', hrun, htexts', ?_⟩
  rw [haliases, hlen]
  rfl

end Condition

end RoadWeather
