import RoadWeather.Proofs.Reading

/-! # Connectives in the text of a formula

The words `and`, `or` and `not` are cut out of a formula only where blanks stand around them. -/

namespace RoadWeather.Condition

open RoadWeather.Text

/-! ## The cut at one position -/

/-- A separator word `w` between the character `prev` before it and `next` after it: a
parenthesis anywhere, `and` and `or` with blanks on both sides, `not` with a blank or the
start of the text before it and a blank after it. -/
def Separator (prev : Option Char) (w : List Char) (next : Option Char) : Prop :=
  w = ['('] ∨ w = [')'] ∨
  ((w = ['a', 'n', 'd'] ∨ w = ['o', 'r']) ∧ blankBefore prev = true ∧ next.any isBlank = true) ∨
  (w = ['n', 'o', 't'] ∧ (blankBefore prev = true ∨ prev = none) ∧ next.any isBlank = true)

theorem sepAt_eq_some_iff {prev : Option Char} {l w rest : List Char} :
    sepAt prev l = some (w, rest) ↔ l = w ++ rest ∧ Separator prev w rest.head? := by
  constructor
  · intro h
    unfold sepAt at h
    split at h
    case h_1 rest' | h_2 rest' =>
      cases h; simp [Separator]
    case h_3 c tail | h_4 c tail | h_5 c tail =>
      split at h
      · cases h
        simp_all [Separator]
      · cases h
    case h_6 => cases h
  · rintro ⟨rfl, hsep⟩
    rcases hsep with rfl | rfl | ⟨rfl | rfl, hp, hn⟩ | ⟨rfl, hp, hn⟩
    case inl | inr.inl => simp [sepAt]
    all_goals
      obtain ⟨c, t, rfl⟩ : ∃ c t, rest = c :: t := by cases rest <;> simp_all
      simp_all [sepAt]

theorem Separator.not_blank {prev : Option Char} {w : List Char} {next : Option Char}
    (h : Separator prev w next) : ∀ x ∈ w, isBlank x = false := by
  rcases h with rfl | rfl | ⟨rfl | rfl, -⟩ | ⟨rfl, -⟩ <;> simp [isBlank]

theorem Separator.ne_nil {prev : Option Char} {w : List Char} {next : Option Char}
    (h : Separator prev w next) : w ≠ [] := by
  rcases h with rfl | rfl | ⟨rfl | rfl, -⟩ | ⟨rfl, -⟩ <;> simp

theorem cutFrom_skip (c : Char) (w' rest : List Char) :
    cutFrom w'.length (some c) (w' ++ rest) [] = cutFrom 0 (c :: w').getLast? rest [] := by
  induction w' generalizing c with
  | nil => rfl
  | cons d w' ih =>
    rw [List.length_cons, List.cons_append, cutFrom, ih d]
    simp

theorem cutPieces_eq (prev : Option Char) (x cur : List Char) :
    cutPieces prev x cur =
      match x with
      | [] => [cur.reverse]
      | c :: l =>
        match sepAt prev (c :: l) with
        | some (w, rest) => cur.reverse :: w :: cutPieces w.getLast? rest []
        | none => cutPieces (some c) l (c :: cur) := by
  cases x with
  | nil => rfl
  | cons c l =>
    unfold cutPieces
    rw [cutFrom]
    dsimp only
    cases h : sepAt prev (c :: l) with
    | none => rfl
    | some p =>
      obtain ⟨w, rest⟩ := p
      -- the separator starts with `c`, and the cut passes the rest of it
      obtain ⟨hl, hsep⟩ := sepAt_eq_some_iff.mp h
      obtain ⟨w', rfl⟩ : ∃ w', w = c :: w' := by
        cases w with
        | nil => exact absurd rfl hsep.ne_nil
        | cons d w' => exact ⟨w', by simp_all⟩
      obtain rfl : l = w' ++ rest := by simpa using hl
      simp only [List.length_cons, Nat.add_sub_cancel]
      rw [cutFrom_skip]

theorem eq_append_of_blank {u r w rest : List Char} {b : Char} (hb : isBlank b = true)
    (hw : ∀ x ∈ w, isBlank x = false) (h : u ++ b :: r = w ++ rest) :
    ∃ c, u = w ++ c ∧ rest = c ++ b :: r := by
  rcases List.append_eq_append_iff.mp h with ⟨a, rfl, ha⟩ | ⟨c, rfl, rfl⟩
  · cases a with
    | nil => exact ⟨[], by simp, by simpa using ha.symm⟩
    | cons x a =>
      obtain ⟨rfl, -⟩ := List.cons_eq_cons.mp ha
      simp [hw b (by simp)] at hb
  · exact ⟨c, rfl, rfl⟩

theorem sepAt_append_blank {prev : Option Char} {u r : List Char} {b : Char}
    (hb : isBlank b = true) :
    sepAt prev (u ++ b :: r) = (sepAt prev (u ++ [b])).map fun p => (p.1, p.2 ++ r) := by
  cases h : sepAt prev (u ++ [b]) with
  | some p =>
    obtain ⟨w, rest⟩ := p
    obtain ⟨hu, hsep⟩ := sepAt_eq_some_iff.mp h
    obtain ⟨c, rfl, rfl⟩ := eq_append_of_blank hb hsep.not_blank (by simpa using hu)
    simp only [Option.map_some, List.append_assoc, List.cons_append, List.nil_append]
    exact sepAt_eq_some_iff.mpr ⟨by simp, by cases c <;> simpa using hsep⟩
  | none =>
    cases h' : sepAt prev (u ++ b :: r) with
    | none => rfl
    | some p =>
      obtain ⟨w, rest⟩ := p
      obtain ⟨hu, hsep⟩ := sepAt_eq_some_iff.mp h'
      obtain ⟨c, rfl, rfl⟩ := eq_append_of_blank hb hsep.not_blank hu
      have hsep' : Separator prev w (c ++ [b]).head? := by cases c <;> simpa using hsep
      have : sepAt prev (w ++ c ++ [b]) = some (w, c ++ [b]) :=
        sepAt_eq_some_iff.mpr ⟨by simp, hsep'⟩
      rw [h] at this
      cases this

theorem sepAt_blank {prev : Option Char} {b : Char} {l : List Char} (hb : isBlank b = true) :
    sepAt prev (b :: l) = none := by
  cases h : sepAt prev (b :: l) with
  | none => rfl
  | some p =>
    obtain ⟨w, rest⟩ := p
    obtain ⟨hl, hsep⟩ := sepAt_eq_some_iff.mp h
    obtain ⟨x, w, rfl⟩ := List.exists_cons_of_ne_nil hsep.ne_nil
    obtain ⟨rfl, -⟩ := List.cons_eq_cons.mp hl
    simp [hsep.not_blank b (by simp)] at hb

theorem cutPieces_append_blank {b : Char} (hb : isBlank b = true) (r : List Char)
    (u : List Char) (prev : Option Char) (cur : List Char) : ∃ ps acc,
      cutPieces prev (u ++ b :: r) cur = ps ++ cutPieces (some b) r acc ∧
      cutPieces prev (u ++ [b]) cur = ps ++ [acc.reverse] := by
  cases u with
  | nil =>
    refine ⟨[], b :: cur, ?_, ?_⟩
    · rw [cutPieces_eq]; simp [sepAt_blank hb]
    · rw [cutPieces_eq]; simp [sepAt_blank hb, cutPieces, cutFrom]
  | cons x u =>
    have hmap : sepAt prev (x :: u ++ b :: r) = (sepAt prev (x :: u ++ [b])).map
        fun p => (p.1, p.2 ++ r) := sepAt_append_blank hb
    cases h : sepAt prev (x :: u ++ [b]) with
    | none =>
      rw [h, Option.map_none] at hmap
      obtain ⟨ps, acc, h1, h2⟩ := cutPieces_append_blank hb r u (some x) (x :: cur)
      refine ⟨ps, acc, ?_, ?_⟩
      · rw [cutPieces_eq]; simp only [List.cons_append] at hmap ⊢; rw [hmap]; exact h1
      · rw [cutPieces_eq]; simp only [List.cons_append] at h ⊢; rw [h]; exact h2
    | some p =>
      obtain ⟨w, rest⟩ := p
      rw [h, Option.map_some] at hmap
      obtain ⟨hu, hsep⟩ := sepAt_eq_some_iff.mp h
      obtain ⟨c, hc, rfl⟩ := eq_append_of_blank (u := x :: u) (r := []) hb hsep.not_blank hu
      have hlen : c.length < (x :: u).length := by
        rw [hc, List.length_append]
        have := List.length_pos_iff.mpr hsep.ne_nil
        omega
      obtain ⟨ps, acc, h1, h2⟩ := cutPieces_append_blank hb r c w.getLast? []
      refine ⟨cur.reverse :: w :: ps, acc, ?_, ?_⟩
      · rw [cutPieces_eq]; simp only [List.cons_append] at hmap ⊢; rw [hmap]; simp [h1]
      · rw [cutPieces_eq]; simp only [List.cons_append] at h ⊢; rw [h]; simp [h2]
termination_by u.length
decreasing_by all_goals (simp only [List.length_cons] at *; omega)

theorem cutPieces_blank_start {b : Char} (hb : isBlank b = true) (prev : Option Char)
    (l : List Char) : cutPieces prev (b :: l) [] = cutPieces none (b :: l) [] := by
  rw [cutPieces_eq, cutPieces_eq]
  simp [sepAt_blank hb]

theorem cutPieces_separator {prev : Option Char} {w rest : List Char} (cur : List Char)
    (h : Separator prev w rest.head?) :
    cutPieces prev (w ++ rest) cur = cur.reverse :: w :: cutPieces w.getLast? rest [] := by
  obtain ⟨c, l, hcl⟩ : ∃ c l, w ++ rest = c :: l :=
    List.exists_cons_of_ne_nil (by simp [h.ne_nil])
  rw [cutPieces_eq, hcl]
  dsimp only
  rw [← hcl, sepAt_eq_some_iff.mpr ⟨rfl, h⟩]

/-! ## Connectives -/

/-- `w` stands as a connective between `u` and `v`: `and` or `or` with a blank on each side, or
`not` with a blank or the start of the text before it and a blank after it. -/
def Connective (u w v : List Char) : Prop :=
  v.head?.any isBlank = true ∧
    ((w = ['a', 'n', 'd'] ∨ w = ['o', 'r']) ∧ u.getLast?.any isBlank = true ∨
      w = ['n', 'o', 't'] ∧ (u = [] ∨ u.getLast?.any isBlank = true))

instance (u w v : List Char) : Decidable (Connective u w v) :=
  inferInstanceAs (Decidable (_ ∧ _))

theorem Connective.separator {u w v : List Char} (h : Connective u w v) :
    Separator u.getLast? w v.head? := by
  have hblank : ∀ o : Option Char, o.any isBlank = true → blankBefore o = true := by
    rintro (_ | c) h <;> simp_all [blankBefore]
  obtain ⟨hv, ⟨hw, hu⟩ | ⟨hw, rfl | hu⟩⟩ := h
  · exact .inr (.inr (.inl ⟨hw, hblank _ hu, hv⟩))
  · exact .inr (.inr (.inr ⟨hw, .inr rfl, hv⟩))
  · exact .inr (.inr (.inr ⟨hw, .inl (hblank _ hu), hv⟩))

theorem Connective.eq_nil_or_blank {u w v : List Char} (h : Connective u w v) :
    u = [] ∨ ∃ u' a, u = u' ++ [a] ∧ isBlank a = true := by
  have hlast : u = [] ∨ u.getLast?.any isBlank = true := by
    obtain ⟨-, ⟨-, hu⟩ | ⟨-, hu⟩⟩ := h
    exacts [.inr hu, hu]
  rcases hlast with rfl | hlast
  · exact .inl rfl
  · cases ha : u.getLast? with
    | none => simp [ha] at hlast
    | some a =>
      obtain ⟨u', hu'⟩ := List.getLast?_eq_some_iff.mp ha
      exact .inr ⟨u', a, hu', by simpa [ha] using hlast⟩

theorem cutPieces_at_connective {u w v : List Char} (h : Connective u w v) :
    cutPieces none (u ++ w ++ v) [] = cutPieces none u [] ++ w :: cutPieces none v [] := by
  have hsep := h.separator
  obtain ⟨b, v', rfl, hbl⟩ : ∃ b v', v = b :: v' ∧ isBlank b = true := by
    cases v with
    | nil => simp [Connective] at h
    | cons b v' => exact ⟨b, v', rfl, by simpa using h.1⟩
  have htail := cutPieces_blank_start hbl w.getLast? v'
  rcases h.eq_nil_or_blank with rfl | ⟨u', a, rfl, hal⟩
  · have hsep' : Separator none w (b :: v').head? := hsep
    rw [List.nil_append, cutPieces_separator [] hsep', htail]
    simp [cutPieces, cutFrom]
  · -- the cut runs on through the blank before the connective
    obtain ⟨ps, acc, h1, h2⟩ := cutPieces_append_blank hal (w ++ b :: v') u' none []
    have hsep' : Separator (some a) w (b :: v').head? := by simpa using hsep
    rw [show u' ++ [a] ++ w ++ b :: v' = u' ++ a :: (w ++ b :: v') by simp, h1, h2,
      cutPieces_separator acc hsep', htail]
    simp

/-! ## Pieces and tokens -/

def piecesOf (l : List Char) : List String :=
  ((cutPieces none l []).map fun p => String.ofList (stripChars p)).filter (!·.isEmpty)

def tokensOf (l : List Char) : List String := mergeLists (piecesOf l)

theorem tokens_eq_tokensOf (f : String) : tokens f = tokensOf (squeeze f).toList := rfl

theorem piecesOf_at_connective {u w v : List Char} (h : Connective u w v) :
    piecesOf (u ++ w ++ v) = piecesOf u ++ String.ofList w :: piecesOf v := by
  have hw : stripChars w = w ∧ (String.ofList w).isEmpty = false := by
    obtain ⟨-, ⟨rfl | rfl, -⟩ | ⟨rfl, -⟩⟩ := h <;> decide
  rw [piecesOf, cutPieces_at_connective h]
  simp [piecesOf, hw]

def takesNext (t : String) : Bool :=
  (t.length > 3 && t.endsWith " in") || (occursIn " in " t && !t.endsWith ")")

theorem mergeStep_of_takesNext_false {t : String} (ts : List String) (p : String)
    (h : takesNext t = false) : mergeStep (t :: ts) p = p :: t :: ts := by
  simp only [takesNext, Bool.or_eq_false_iff] at h
  simp [mergeStep, h.1, h.2]

theorem mergeStep_append {B : List String} (C : List String) (hB : B ≠ []) (p : String) :
    mergeStep (B ++ C) p = mergeStep B p ++ C := by
  obtain ⟨t, ts, rfl⟩ := List.exists_cons_of_ne_nil hB
  simp only [List.cons_append, mergeStep]
  split_ifs <;> simp

theorem mergeStep_ne_nil (B : List String) (p : String) : mergeStep B p ≠ [] := by
  unfold mergeStep
  split
  · simp
  · split_ifs <;> simp

theorem foldl_mergeStep_append (Q : List String) {B : List String} (C : List String)
    (hB : B ≠ []) : Q.foldl mergeStep (B ++ C) = Q.foldl mergeStep B ++ C := by
  induction Q generalizing B with
  | nil => rfl
  | cons q Q ih =>
    simp only [List.foldl_cons]
    rw [mergeStep_append C hB, ih (mergeStep_ne_nil B q)]

theorem mergeLists_append_cons (P Q : List String) (x : String) (hx : takesNext x = false)
    (hP : ∀ t ∈ (mergeLists P).getLast?, takesNext t = false) :
    mergeLists (P ++ x :: Q) = mergeLists P ++ x :: mergeLists Q := by
  have hstep : mergeStep (P.foldl mergeStep []) x = x :: P.foldl mergeStep [] := by
    cases hA : P.foldl mergeStep [] with
    | nil => rfl
    | cons t ts =>
      exact mergeStep_of_takesNext_false ts x (hP t (by simp [mergeLists, hA]))
  have hrest : Q.foldl mergeStep (x :: P.foldl mergeStep []) =
      Q.foldl mergeStep [] ++ x :: P.foldl mergeStep [] := by
    cases Q with
    | nil => rfl
    | cons q Q =>
      simp only [List.foldl_cons, mergeStep_of_takesNext_false _ q hx]
      exact foldl_mergeStep_append Q (x :: P.foldl mergeStep []) (List.cons_ne_nil q [])
  simp [mergeLists, List.foldl_append, hstep, hrest]

/-- Every occurrence of `and`, `or` or `not` that stands as a connective in the normalized text
of a formula is a token of its own, of role `and`/`or` or `not`, with the tokens of the text
before it on its left and those of the text after it on its right, unless the text before it
ends in a list after `in` that is still open. -/
theorem tokens_at_connective (f : String) (u w v : List Char)
    (hf : (squeeze f).toList = u ++ w ++ v) (h : Connective u w v)
    (hopen : ∀ t ∈ (tokensOf u).getLast?, takesNext t = false) :
    tokens f = tokensOf u ++ String.ofList w :: tokensOf v ∧
      tokenRole (String.ofList w) = if w = ['n', 'o', 't'] then .negation else .andOr := by
  have hword : takesNext (String.ofList w) = false ∧
      tokenRole (String.ofList w) = if w = ['n', 'o', 't'] then .negation else .andOr := by
    obtain ⟨-, ⟨rfl | rfl, -⟩ | ⟨rfl, -⟩⟩ := h <;> decide +kernel
  refine ⟨?_, hword.2⟩
  rw [tokens_eq_tokensOf, hf, tokensOf, piecesOf_at_connective h]
  exact mergeLists_append_cons _ _ _ hword.1 hopen

theorem tokens_at_connective_after_list :
    (squeeze "s1#a in (1, 2) and not s2#b = 3").toList =
        "s1#a in (1, 2) ".toList ++ "and".toList ++ " not s2#b = 3".toList ∧
      Connective "s1#a in (1, 2) ".toList "and".toList " not s2#b = 3".toList ∧
      (∀ t ∈ (tokensOf "s1#a in (1, 2) ".toList).getLast?, takesNext t = false) ∧
      (tokens "s1#a in (1, 2) and not s2#b = 3" =
          tokensOf "s1#a in (1, 2) ".toList ++ String.ofList "and".toList ::
            tokensOf " not s2#b = 3".toList ∧
        tokenRole (String.ofList "and".toList) =
          if "and".toList = ['n', 'o', 't'] then .negation else .andOr) := by
  have hf : (squeeze "s1#a in (1, 2) and not s2#b = 3").toList =
      "s1#a in (1, 2) ".toList ++ "and".toList ++ " not s2#b = 3".toList := by
    cbv
  have hc : Connective "s1#a in (1, 2) ".toList "and".toList " not s2#b = 3".toList := by
    decide +kernel
  have hopen : ∀ t ∈ (tokensOf "s1#a in (1, 2) ".toList).getLast?, takesNext t = false := by
    have hp : piecesOf "s1#a in (1, 2) ".toList = ["s1#a in", "(", "1, 2", ")"] := by cbv
    rw [tokensOf, hp]
    decide +kernel
  exact ⟨hf, hc, hopen, tokens_at_connective _ _ _ _ hf hc hopen⟩

/-- A connective next to a parenthesis, or inside the open list after `in`, stays inside a
block of a formula whose blocks are made: `(not s1120#keli_1 = 8)` reads `not s1120` as a
station, and `s1#a in ( 1 and 2 )` reads `(1and2)` as the list. -/
theorem connectives_kept_in_blocks :
    ((∃ s', EStateM.run makeBlocks ⟨#[], freshCondition "(not s1120#keli_1 = 8)"⟩ = .ok () s' ∧
        s'.this.blocksMade = true) ∧
      tokens "(not s1120#keli_1 = 8)" = ["(", "not s1120#keli_1 = 8", ")"]) ∧
    ((∃ s', EStateM.run makeBlocks ⟨#[], freshCondition "s1#a in ( 1 and 2 )"⟩ = .ok () s' ∧
        s'.this.blocksMade = true) ∧
      tokens "s1#a in ( 1 and 2 )" = ["s1#a in (1and2)"]) := by
  have hnot : tokens "(not s1120#keli_1 = 8)" = ["(", "not s1120#keli_1 = 8", ")"] := by
    have hp : pieces "(not s1120#keli_1 = 8)" = ["(", "not s1120#keli_1 = 8", ")"] := by cbv
    rw [tokens, hp]
    decide +kernel
  have hlist : tokens "s1#a in ( 1 and 2 )" = ["s1#a in (1and2)"] := by
    have hp : pieces "s1#a in ( 1 and 2 )" = ["s1#a in", "(", "1", "and", "2", ")"] := by cbv
    rw [tokens, hp]
    decide +kernel
  exact ⟨⟨made_of_readTokens (s := ⟨#[], freshCondition "(not s1120#keli_1 = 8)"⟩) hnot
      (by decide +kernel), hnot⟩,
    ⟨made_of_readTokens (s := ⟨#[], freshCondition "s1#a in ( 1 and 2 )"⟩) hlist
      (by decide +kernel), hlist⟩⟩

end RoadWeather.Condition
