import RoadWeather.Proofs.Identifiers
import RoadWeather.Condition.Token

/-! # Normal forms of text -/

namespace RoadWeather.Text

/-! ## Characters that cut a text -/

def boundary (c : Char) : Bool := !isCased c && !isCaseIgnorable c

def blankCodes : List Nat :=
  [9, 10, 11, 12, 13, 28, 29, 30, 31, 32, 133, 160, 5760, 8192, 8193, 8194, 8195, 8196, 8197,
    8198, 8199, 8200, 8201, 8202, 8232, 8233, 8239, 8287, 12288]

theorem of_isBlank {P : Char → Prop} (h : ∀ n ∈ blankCodes, P (Char.ofNat n)) {c : Char}
    (hc : isBlank c = true) : P c := by
  have hn : c.toNat ∈ blankCodes := by
    simp only [isBlank, Bool.or_eq_true, Bool.and_eq_true, decide_eq_true_eq] at hc
    simp only [blankCodes, List.mem_cons, List.not_mem_nil, or_false]
    omega
  simpa [Char.ofNat_toNat] using h _ hn

set_option maxRecDepth 20000 in
theorem blank_facts {c : Char} (hc : isBlank c = true) :
    boundary c = true ∧ Lowered c ∧ plainVowel c = c :=
  of_isBlank (P := fun c => boundary c = true ∧ Lowered c ∧ plainVowel c = c)
    (by decide) hc

set_option maxRecDepth 20000 in
theorem hash_facts : boundary '#' = true ∧ Lowered '#' ∧ plainVowel '#' = '#' ∧ isBlank '#' = false :=
  by decide

def runTargetsPlain : Bool :=
  lowerRuns.toList.all fun r =>
    (List.range ((r.2.1 - r.1) / r.2.2.1 + 1)).all fun k =>
      !isBlank (runTarget r k) && runTarget r k != '#'

-- About 1,400 positions.
set_option maxRecDepth 100000 in
theorem runTargetsPlain_eq_true : runTargetsPlain = true := by decide

theorem lowerOne_plain (c : Char) :
    isBlank (lowerOne c) = isBlank c ∧ (lowerOne c = '#' → c = '#') := by
  have hascii : ∀ n : Fin 128, isBlank (Char.ofNat n.val).toLower = isBlank (Char.ofNat n.val) ∧
      ((Char.ofNat n.val).toLower = '#' → Char.ofNat n.val = '#') := by decide
  rcases lowerOne_cases c with h | ⟨hc, h⟩ | ⟨r, hr, k, hk, h⟩
  · rw [h]
    exact ⟨rfl, id⟩
  · rw [h]
    simpa [Char.ofNat_toNat] using hascii ⟨c.toNat, hc⟩
  · have htable := List.all_eq_true.mp runTargetsPlain_eq_true r hr
    have hk' := List.all_eq_true.mp htable k (List.mem_range.mpr hk)
    simp only [Bool.and_eq_true, Bool.not_eq_true', bne_iff_ne, ne_eq] at hk'
    rw [h]
    refine ⟨?_, fun hh => absurd hh hk'.2⟩
    -- a blank lowers to itself, so only a character that is no blank reaches a run
    cases hb : isBlank c
    · exact hk'.1
    · have := (blank_facts hb).2.1.2.2
      rw [← h, this, hb]

set_option maxRecDepth 20000 in
theorem plainVowel_facts (c : Char) :
    isBlank (plainVowel c) = isBlank c ∧ isCased (plainVowel c) = isCased c ∧
      isCaseIgnorable (plainVowel c) = isCaseIgnorable c ∧
      (plainVowel c = 'İ' ↔ c = 'İ') ∧ (plainVowel c = 'Σ' ↔ c = 'Σ') ∧
      plainVowel (lowerOne (plainVowel c)) = plainVowel (lowerOne c) := by
  by_cases hu : c = 'ä' ∨ c = 'Ä' ∨ c = 'ö' ∨ c = 'Ö'
  · rcases hu with rfl | rfl | rfl | rfl <;> decide
  · have hc : plainVowel c = c := by
      simp only [not_or] at hu
      simp [plainVowel, hu.1, hu.2.1, hu.2.2.1, hu.2.2.2]
    rw [hc]
    exact ⟨rfl, rfl, rfl, Iff.rfl, Iff.rfl, rfl⟩

/-! ## Lowering reads two bits of its surroundings -/

def casedBefore (before : List Char) : Bool :=
  match before.dropWhile isCaseIgnorable with
  | c :: _ => isCased c
  | [] => false

def freeAfter (after : List Char) : Bool :=
  match after.dropWhile isCaseIgnorable with
  | c :: _ => !isCased c
  | [] => true

theorem endsWord_eq (before after : List Char) :
    endsWord before after = (casedBefore before && freeAfter after) := rfl

theorem casedBefore_cons (c : Char) (before : List Char) :
    casedBefore (c :: before) = if isCaseIgnorable c then casedBefore before else isCased c := by
  unfold casedBefore
  cases h : isCaseIgnorable c <;> simp [h]

theorem freeAfter_cons (c : Char) (after : List Char) :
    freeAfter (c :: after) = if isCaseIgnorable c then freeAfter after else !isCased c := by
  unfold freeAfter
  cases h : isCaseIgnorable c <;> simp [h]

theorem casedBefore_cons_congr {b b' : List Char} (h : casedBefore b = casedBefore b') (c : Char) :
    casedBefore (c :: b) = casedBefore (c :: b') := by
  rw [casedBefore_cons, casedBefore_cons, h]

theorem casedBefore_boundary {c : Char} (hc : boundary c = true) (before : List Char) :
    casedBefore (c :: before) = false := by
  simp only [boundary, Bool.and_eq_true, Bool.not_eq_true'] at hc
  simp [casedBefore_cons, hc.1, hc.2]

theorem freeAfter_boundary {c : Char} (hc : boundary c = true) (after : List Char) :
    freeAfter (c :: after) = true := by
  simp only [boundary, Bool.and_eq_true, Bool.not_eq_true'] at hc
  simp [freeAfter_cons, hc.1, hc.2]

theorem freeAfter_append {B : List Char} (hB : freeAfter B = true) :
    ∀ A : List Char, freeAfter (A ++ B) = freeAfter A
  | [] => hB.trans rfl
  | a :: A => by
    rw [List.cons_append, freeAfter_cons, freeAfter_cons, freeAfter_append hB A]

def lowerHere (before : List Char) (c : Char) (rest : List Char) : List Char :=
  if c = 'İ' then ['i', '̇']
  else if c = 'Σ' then [if endsWord before rest then 'ς' else 'σ']
  else [lowerOne c]

theorem lowerChars_cons (before : List Char) (c : Char) (rest : List Char) :
    lowerChars before (c :: rest) = lowerHere before c rest ++ lowerChars (c :: before) rest := rfl

theorem lowerHere_congr {b b' r r' : List Char} (hb : casedBefore b = casedBefore b')
    (hr : freeAfter r = freeAfter r') (c : Char) : lowerHere b c r = lowerHere b' c r' := by
  rw [lowerHere, lowerHere, endsWord_eq, endsWord_eq, hb, hr]

theorem lowerHere_of_blank {c : Char} (hc : isBlank c = true) (b r : List Char) :
    lowerHere b c r = [c] := by
  obtain ⟨hI, hS, hlow⟩ := (blank_facts hc).2.1
  rw [lowerHere, if_neg hI, if_neg hS, hlow]

theorem lowerHere_of_not_blank {c : Char} (hc : isBlank c = false) (b r : List Char) :
    lowerHere b c r ≠ [] ∧ ∀ d ∈ lowerHere b c r, isBlank d = false := by
  unfold lowerHere
  refine ⟨?_, fun d hd => ?_⟩
  · repeat' split
    all_goals exact List.cons_ne_nil _ _
  split at hd
  · rcases List.mem_cons.mp hd with rfl | hd
    · decide
    · rw [List.mem_singleton.mp hd]
      decide
  split at hd
  · rw [List.mem_singleton.mp hd]
    split <;> decide
  · rw [List.mem_singleton.mp hd, (lowerOne_plain c).1, hc]

theorem eq_hash_of_mem_lowerHere {b r : List Char} {c : Char} (h : '#' ∈ lowerHere b c r) :
    c = '#' := by
  unfold lowerHere at h
  split at h
  · simp at h
  split at h
  · split at h <;> simp at h
  · exact (lowerOne_plain c).2 (List.mem_singleton.mp h).symm

theorem lowerChars_congr : ∀ {cs b b' : List Char}, casedBefore b = casedBefore b' →
    lowerChars b cs = lowerChars b' cs
  | [], _, _, _ => rfl
  | c :: rest, b, b', h => by
    have hrest : lowerChars (c :: b) rest = lowerChars (c :: b') rest :=
      lowerChars_congr (casedBefore_cons_congr h c)
    rw [lowerChars_cons, lowerChars_cons, lowerHere_congr h rfl, hrest]

theorem lowerChars_append {B : List Char} (hB : freeAfter B = true) :
    ∀ (A b : List Char), lowerChars b (A ++ B) = lowerChars b A ++ lowerChars (A.reverse ++ b) B
  | [], b => by simp [lowerChars]
  | a :: A, b => by
    rw [List.cons_append, lowerChars_cons, lowerChars_cons, lowerChars_append hB A (a :: b),
      lowerHere_congr rfl (freeAfter_append hB A)]
    simp [List.append_assoc]

theorem lowerChars_split {c : Char} (hc : boundary c = true) (hI : c ≠ 'İ') (hS : c ≠ 'Σ')
    (A B b : List Char) :
    lowerChars b (A ++ c :: B) = lowerChars b A ++ lowerOne c :: lowerChars [] B := by
  rw [lowerChars_append (freeAfter_boundary hc B)]
  simp only [lowerChars, hI, hS, if_false, List.singleton_append]
  rw [@lowerChars_congr B (c :: (A.reverse ++ b)) [] (by rw [casedBefore_boundary hc]; rfl)]

theorem lowerChars_lowerChars (b b' cs : List Char) :
    lowerChars b (lowerChars b' cs) = lowerChars b' cs :=
  lowerChars_of_lowered fun _ hd => lowered_of_mem_lowerChars hd

theorem hash_mem_of_mem_lowerChars : ∀ {b cs : List Char}, '#' ∈ lowerChars b cs → '#' ∈ cs
  | _, [], h => by simp [lowerChars] at h
  | b, c :: cs, h => by
    rw [lowerChars_cons, List.mem_append] at h
    rcases h with h | h
    · rw [eq_hash_of_mem_lowerHere h]
      exact List.mem_cons_self
    · exact List.mem_cons_of_mem c (hash_mem_of_mem_lowerChars h)

/-! ## Blanks at the end, and runs of blanks -/

def stripEnd (cs : List Char) : List Char := (cs.reverse.dropWhile isBlank).reverse

theorem stripChars_eq (cs : List Char) : stripChars cs = stripEnd (cs.dropWhile isBlank) := rfl

@[simp] theorem stripEnd_nil : stripEnd [] = [] := rfl

theorem stripEnd_cons (c : Char) (cs : List Char) :
    stripEnd (c :: cs) = if isBlank c && (stripEnd cs).isEmpty then [] else c :: stripEnd cs := by
  unfold stripEnd
  rw [List.reverse_cons, List.dropWhile_append]
  cases h : cs.reverse.dropWhile isBlank with
  | nil => cases hc : isBlank c <;> simp [hc]
  | cons d ds => simp

theorem mem_of_mem_stripEnd {d : Char} {cs : List Char} (h : d ∈ stripEnd cs) : d ∈ cs :=
  List.mem_reverse.mp ((List.dropWhile_sublist _).subset (List.mem_reverse.mp h))

theorem stripEnd_of_not_blank : ∀ {cs : List Char}, (∀ c ∈ cs, isBlank c = false) → stripEnd cs = cs
  | [], _ => rfl
  | c :: cs, h => by
    rw [stripEnd_cons, h c List.mem_cons_self,
      stripEnd_of_not_blank fun d hd => h d (List.mem_cons_of_mem c hd)]
    rfl

theorem stripEnd_append (A W : List Char) :
    stripEnd (A ++ W) = if (stripEnd W).isEmpty then stripEnd A else A ++ stripEnd W := by
  induction A with
  | nil =>
    cases h : (stripEnd W).isEmpty
    · rfl
    · exact List.isEmpty_iff.mp h
  | cons a A ih =>
    rw [List.cons_append, stripEnd_cons, ih, stripEnd_cons]
    cases h : (stripEnd W).isEmpty
    · have hW : stripEnd W ≠ [] := by simpa using h
      simp [hW]
    · rfl

theorem stripEnd_append_of_not_blank {H : List Char} (hH : ∀ c ∈ H, isBlank c = false)
    (W : List Char) : stripEnd (H ++ W) = H ++ stripEnd W := by
  rw [stripEnd_append, stripEnd_of_not_blank hH]
  cases h : (stripEnd W).isEmpty
  · rfl
  · rw [List.isEmpty_iff.mp h, List.append_nil]
    rfl

theorem stripChars_split {c : Char} (hc : isBlank c = false) (A B : List Char) :
    stripChars (A ++ c :: B) = A.dropWhile isBlank ++ c :: stripEnd B := by
  have hfront : (A ++ c :: B).dropWhile isBlank = A.dropWhile isBlank ++ c :: B := by
    rw [List.dropWhile_append, List.dropWhile_cons_of_neg (by simp [hc])]
    cases h : (A.dropWhile isBlank).isEmpty
    · rfl
    · rw [List.isEmpty_iff.mp h]
      rfl
  rw [stripChars_eq, hfront, stripEnd_append, stripEnd_cons, hc]
  simp

theorem stripEnd_stripEnd : ∀ cs : List Char, stripEnd (stripEnd cs) = stripEnd cs
  | [] => rfl
  | c :: cs => by
    rw [stripEnd_cons c cs]
    split
    · rfl
    · rw [stripEnd_cons, stripEnd_stripEnd cs, if_neg ‹_›]

theorem dropWhile_stripEnd : ∀ cs : List Char,
    (stripEnd cs).dropWhile isBlank = stripEnd (cs.dropWhile isBlank)
  | [] => rfl
  | c :: cs => by
    rw [stripEnd_cons]
    cases hc : isBlank c
    · simp only [Bool.false_and, Bool.false_eq_true, if_false]
      rw [List.dropWhile_cons_of_neg (by simp [hc]), List.dropWhile_cons_of_neg (by simp [hc]),
        stripEnd_cons, hc]
      rfl
    · rw [List.dropWhile_cons_of_pos hc, ← dropWhile_stripEnd cs]
      cases h : (stripEnd cs).isEmpty
      · simp [hc]
      · simp [List.isEmpty_iff.mp h]

theorem dropWhile_isBlank_idem : ∀ cs : List Char,
    (cs.dropWhile isBlank).dropWhile isBlank = cs.dropWhile isBlank
  | [] => rfl
  | c :: cs => by
    cases hc : isBlank c
    · rw [List.dropWhile_cons_of_neg (by simp [hc]), List.dropWhile_cons_of_neg (by simp [hc])]
    · rw [List.dropWhile_cons_of_pos hc, dropWhile_isBlank_idem cs]

theorem stripChars_stripChars (cs : List Char) : stripChars (stripChars cs) = stripChars cs := by
  rw [stripChars_eq, stripChars_eq, dropWhile_stripEnd, dropWhile_isBlank_idem, stripEnd_stripEnd]

def collapse : Bool → List Char → List Char
  | _, [] => []
  | start, c :: cs =>
    if isBlank c then (if start then collapse true cs else ' ' :: collapse true cs)
    else c :: collapse false cs

def squeezeChars (cs : List Char) : List Char := stripEnd (collapse true cs)

theorem mem_collapse : ∀ {p : Bool} {cs : List Char} {d : Char}, d ∈ collapse p cs → d ∈ cs ∨ d = ' '
  | _, [], _, h => by simp [collapse] at h
  | p, c :: cs, d, h => by
    unfold collapse at h
    -- every character that goes out is one of the text's or a space
    have hrest : ∀ {q}, d ∈ collapse q cs → d ∈ c :: cs ∨ d = ' ' := fun hd =>
      (mem_collapse hd).imp (List.mem_cons_of_mem c) id
    split at h
    · split at h
      · exact hrest h
      · rcases List.mem_cons.mp h with rfl | h
        · exact .inr rfl
        · exact hrest h
    · rcases List.mem_cons.mp h with rfl | h
      · exact .inl List.mem_cons_self
      · exact hrest h

theorem collapse_append_of_not_blank {H : List Char} (hH : ∀ c ∈ H, isBlank c = false) (p : Bool)
    (W : List Char) : collapse p (H ++ W) = H ++ collapse (p && H.isEmpty) W := by
  induction H generalizing p with
  | nil => simp
  | cons h H ih =>
    have hh := hH h List.mem_cons_self
    rw [List.cons_append, collapse, if_neg (by simp [hh]),
      ih (fun c hc => hH c (List.mem_cons_of_mem h hc))]
    simp

theorem collapse_append_cons {c : Char} (hc : isBlank c = false) (A B : List Char) (p : Bool) :
    collapse p (A ++ c :: B) = collapse p A ++ c :: collapse false B := by
  induction A generalizing p with
  | nil => simp [collapse, hc]
  | cons a A ih =>
    cases ha : isBlank a <;> cases p <;> simp [collapse, ha, ih]

theorem dropWhile_collapse_true : ∀ cs : List Char, (collapse true cs).dropWhile isBlank = collapse true cs
  | [] => rfl
  | c :: cs => by
    cases hc : isBlank c
    · simp [collapse, hc]
    · simp only [collapse, hc, if_true]
      exact dropWhile_collapse_true cs

theorem dropWhile_collapse_false (cs : List Char) :
    (collapse false cs).dropWhile isBlank = collapse true cs := by
  cases cs with
  | nil => rfl
  | cons c cs =>
    cases hc : isBlank c
    · simp [collapse, hc]
    · simp only [collapse, hc, if_true, Bool.false_eq_true, if_false]
      rw [List.dropWhile_cons_of_pos (by decide), dropWhile_collapse_true]

theorem collapse_true_dropWhile : ∀ cs : List Char, collapse true (cs.dropWhile isBlank) = collapse true cs
  | [] => rfl
  | c :: cs => by
    cases hc : isBlank c
    · simp [hc]
    · rw [List.dropWhile_cons_of_pos hc, collapse_true_dropWhile cs]
      simp [collapse, hc]

theorem stripEnd_collapse_stripEnd : ∀ (p : Bool) (cs : List Char),
    stripEnd (collapse p (stripEnd cs)) = stripEnd (collapse p cs)
  | _, [] => rfl
  | p, c :: cs => by
    have ih := stripEnd_collapse_stripEnd true cs
    have ih' := stripEnd_collapse_stripEnd false cs
    rw [stripEnd_cons c cs]
    cases hc : isBlank c
    · simp only [hc, Bool.false_and, Bool.false_eq_true, if_false, collapse]
      rw [stripEnd_cons, stripEnd_cons, ih']
    cases h : (stripEnd cs).isEmpty
    · simp only [hc, Bool.and_false, Bool.false_eq_true, if_false, collapse, if_true]
      cases p
      · rw [if_neg Bool.false_ne_true, if_neg Bool.false_ne_true, stripEnd_cons, stripEnd_cons, ih]
      · rw [if_pos rfl, if_pos rfl, ih]
    · -- only blanks follow, and they squeeze to at most one space
      have hnil : stripEnd (collapse true cs) = [] := by
        rw [← ih, List.isEmpty_iff.mp h]
        rfl
      simp only [hc, Bool.and_self, if_true, collapse]
      cases p
      · rw [if_neg Bool.false_ne_true, stripEnd_cons, hnil]
        rfl
      · rw [if_pos rfl, hnil]
        rfl

/-! ## Squeezing -/

theorem squeezeChars_dropWhile (cs : List Char) :
    squeezeChars (cs.dropWhile isBlank) = squeezeChars cs := by
  rw [squeezeChars, collapse_true_dropWhile, squeezeChars]

theorem squeezeChars_stripEnd (cs : List Char) : squeezeChars (stripEnd cs) = squeezeChars cs :=
  stripEnd_collapse_stripEnd true cs

theorem stripChars_squeezeChars (cs : List Char) : stripChars (squeezeChars cs) = squeezeChars cs := by
  rw [stripChars_eq, squeezeChars, dropWhile_stripEnd, dropWhile_collapse_true, stripEnd_stripEnd]

theorem stripChars_collapse_true (cs : List Char) : stripChars (collapse true cs) = squeezeChars cs := by
  rw [stripChars_eq, dropWhile_collapse_true, squeezeChars]

theorem stripChars_stripEnd_collapse_false (cs : List Char) :
    stripChars (stripEnd (collapse false cs)) = squeezeChars cs := by
  rw [stripChars_eq, dropWhile_stripEnd, dropWhile_collapse_false, stripEnd_stripEnd, squeezeChars]

theorem squeezeChars_split {c : Char} (hc : isBlank c = false) (A B : List Char) :
    squeezeChars (A ++ c :: B) = collapse true A ++ c :: stripEnd (collapse false B) := by
  rw [squeezeChars, collapse_append_cons hc, stripEnd_append, stripEnd_cons, hc]
  simp

/-! ## Lowering and squeezing commute -/

theorem freeAfter_collapse_false : ∀ cs : List Char, freeAfter (collapse false cs) = freeAfter cs
  | [] => rfl
  | c :: cs => by
    cases hc : isBlank c
    · simp only [collapse, hc, Bool.false_eq_true, if_false]
      rw [freeAfter_cons, freeAfter_cons, freeAfter_collapse_false cs]
    · simp only [collapse, hc, if_true, Bool.false_eq_true, if_false]
      rw [freeAfter_boundary (blank_facts (by decide)).1, freeAfter_boundary (blank_facts hc).1]

theorem freeAfter_stripEnd : ∀ cs : List Char, freeAfter (stripEnd cs) = freeAfter cs
  | [] => rfl
  | c :: cs => by
    rw [stripEnd_cons]
    split
    · rename_i h
      simp only [Bool.and_eq_true] at h
      rw [freeAfter_boundary (blank_facts h.1).1]
      rfl
    · rw [freeAfter_cons, freeAfter_cons, freeAfter_stripEnd cs]

theorem lowerChars_collapse : ∀ {cs : List Char} {p : Bool} {b b' : List Char},
    casedBefore b = casedBefore b' → (p = true → casedBefore b = false) →
    lowerChars b (collapse p cs) = collapse p (lowerChars b' cs)
  | [], _, _, _, _, _ => rfl
  | c :: cs, p, b, b', hb, hp => by
    rw [lowerChars_cons]
    cases hc : isBlank c with
    | true =>
      -- a blank lowers to itself, and what follows it reads no letter before
      have hcb : casedBefore (c :: b') = false := casedBefore_boundary (blank_facts hc).1 b'
      have hsp : casedBefore (' ' :: b) = false := casedBefore_boundary (blank_facts (by decide)).1 b
      rw [lowerHere_of_blank hc, List.singleton_append]
      cases p
      · simp only [collapse, hc, if_true, Bool.false_eq_true, if_false]
        rw [lowerChars_cons, lowerHere_of_blank (by decide), List.singleton_append,
          lowerChars_collapse (hsp.trans hcb.symm) fun _ => hsp]
      · simp only [collapse, hc, if_true]
        exact lowerChars_collapse ((hp rfl).trans hcb.symm) hp
    | false =>
      obtain ⟨hne, hH⟩ := lowerHere_of_not_blank hc b' cs
      simp only [collapse, hc, Bool.false_eq_true, if_false]
      have ih : lowerChars (c :: b) (collapse false cs) = collapse false (lowerChars (c :: b') cs) :=
        lowerChars_collapse (casedBefore_cons_congr hb c) nofun
      rw [lowerChars_cons, collapse_append_of_not_blank hH, lowerHere_congr hb
        (freeAfter_collapse_false cs), ih]
      have hemp : (lowerHere b' c cs).isEmpty = false := by simpa using hne
      rw [hemp, Bool.and_false]

theorem lowerChars_stripEnd : ∀ {cs b : List Char},
    lowerChars b (stripEnd cs) = stripEnd (lowerChars b cs)
  | [], _ => rfl
  | c :: cs, b => by
    have ih : lowerChars (c :: b) (stripEnd cs) = stripEnd (lowerChars (c :: b) cs) :=
      lowerChars_stripEnd
    rw [stripEnd_cons, lowerChars_cons]
    cases hc : isBlank c with
    | true =>
      rw [lowerHere_of_blank hc, List.singleton_append, stripEnd_cons, hc, ← ih]
      cases h : (stripEnd cs).isEmpty
      · have hne : stripEnd cs ≠ [] := by simpa using h
        have hl : (lowerChars (c :: b) (stripEnd cs)).isEmpty = false := by
          simpa [lowerChars_eq_nil_iff] using hne
        simp only [Bool.true_and, hl, Bool.false_eq_true, if_false]
        rw [lowerChars_cons, lowerHere_of_blank hc, List.singleton_append]
      · rw [List.isEmpty_iff.mp h]
        rfl
    | false =>
      obtain ⟨-, hH⟩ := lowerHere_of_not_blank hc b cs
      simp only [Bool.false_and, Bool.false_eq_true, if_false]
      rw [lowerChars_cons, stripEnd_append_of_not_blank hH, ih,
        lowerHere_congr rfl (freeAfter_stripEnd cs)]

theorem lowerChars_squeezeChars (cs : List Char) :
    lowerChars [] (squeezeChars cs) = squeezeChars (lowerChars [] cs) := by
  rw [squeezeChars, lowerChars_stripEnd, lowerChars_collapse rfl fun _ => rfl, squeezeChars]

/-! ## Plain vowels -/

theorem isBlank_comp_plainVowel : isBlank ∘ plainVowel = isBlank :=
  funext fun c => (plainVowel_facts c).1

theorem map_plainVowel_collapse : ∀ (p : Bool) (cs : List Char),
    (collapse p cs).map plainVowel = collapse p (cs.map plainVowel)
  | _, [] => rfl
  | p, c :: cs => by
    have hb := (plainVowel_facts c).1
    have hsp : plainVowel ' ' = ' ' := (blank_facts (by decide)).2.2
    cases hc : isBlank c <;> cases p <;>
      simp [collapse, hc, hb, hsp, map_plainVowel_collapse]

theorem map_plainVowel_dropWhile (cs : List Char) :
    (cs.dropWhile isBlank).map plainVowel = (cs.map plainVowel).dropWhile isBlank := by
  rw [List.dropWhile_map, isBlank_comp_plainVowel]

theorem map_plainVowel_stripEnd (cs : List Char) :
    (stripEnd cs).map plainVowel = stripEnd (cs.map plainVowel) := by
  rw [stripEnd, stripEnd, List.map_reverse, map_plainVowel_dropWhile, List.map_reverse]

theorem map_plainVowel_squeezeChars (cs : List Char) :
    (squeezeChars cs).map plainVowel = squeezeChars (cs.map plainVowel) := by
  rw [squeezeChars, map_plainVowel_stripEnd, map_plainVowel_collapse, squeezeChars]

theorem freeAfter_map_plainVowel : ∀ cs : List Char, freeAfter (cs.map plainVowel) = freeAfter cs
  | [] => rfl
  | c :: cs => by
    obtain ⟨-, hcased, hign, -⟩ := plainVowel_facts c
    rw [List.map_cons, freeAfter_cons, freeAfter_cons, hcased, hign, freeAfter_map_plainVowel cs]

theorem eq_hash_of_plainVowel {c : Char} (h : plainVowel c = '#') : c = '#' := by
  unfold plainVowel at h
  repeat' split at h
  all_goals first | exact h | exact absurd h (by decide)

theorem plainVowel_lowerHere {b b' : List Char} (hb : casedBefore b = casedBefore b') (c : Char)
    (cs : List Char) :
    (lowerHere b (plainVowel c) (cs.map plainVowel)).map plainVowel =
      (lowerHere b' c cs).map plainVowel := by
  obtain ⟨-, -, -, hI, hS, hlow⟩ := plainVowel_facts c
  unfold lowerHere
  by_cases h₁ : c = 'İ'
  · rw [if_pos (hI.mpr h₁), if_pos h₁]
  by_cases h₂ : c = 'Σ'
  · rw [if_neg (mt hI.mp h₁), if_pos (hS.mpr h₂), if_neg h₁, if_pos h₂, endsWord_eq, endsWord_eq,
      hb, freeAfter_map_plainVowel]
  · rw [if_neg (mt hI.mp h₁), if_neg (mt hS.mp h₂), if_neg h₁, if_neg h₂]
    simp [hlow]

theorem plainVowel_lowerChars_plain : ∀ {cs b b' : List Char}, casedBefore b = casedBefore b' →
    (lowerChars b (cs.map plainVowel)).map plainVowel = (lowerChars b' cs).map plainVowel
  | [], _, _, _ => rfl
  | c :: cs, b, b', hb => by
    obtain ⟨-, hcased, hign, -⟩ := plainVowel_facts c
    have hcb : casedBefore (plainVowel c :: b) = casedBefore (c :: b') := by
      rw [casedBefore_cons, casedBefore_cons, hcased, hign, hb]
    rw [List.map_cons, lowerChars_cons, lowerChars_cons, List.map_append, List.map_append,
      plainVowel_lowerHere hb, plainVowel_lowerChars_plain hcb]

theorem plainVowel_lowerChars_squeezeChars {W X : List Char}
    (h : squeezeChars W = squeezeChars (X.map plainVowel)) :
    (lowerChars [] (squeezeChars (lowerChars [] W))).map plainVowel =
      (lowerChars [] (squeezeChars X)).map plainVowel := by
  rw [← lowerChars_squeezeChars, lowerChars_lowerChars, h, ← map_plainVowel_squeezeChars,
    plainVowel_lowerChars_plain rfl]

/-! ## Squeezing a text as its words -/

theorem ne_nil_of_mem_wordsAux : ∀ {cs cur w : List Char}, w ∈ wordsAux cs cur → w ≠ []
  | [], cur, w, h => by
    unfold wordsAux at h
    split at h
    · simp at h
    · rename_i hcur
      rw [List.mem_singleton.mp h]
      simpa using hcur
  | c :: cs, cur, w, h => by
    unfold wordsAux at h
    split at h
    · split at h
      · exact ne_nil_of_mem_wordsAux h
      · rename_i hcur
        rcases List.mem_cons.mp h with rfl | h
        · simpa using hcur
        · exact ne_nil_of_mem_wordsAux h
    · exact ne_nil_of_mem_wordsAux h

theorem intercalate_wordsAux : ∀ {cs cur : List Char}, (∀ c ∈ cur, isBlank c = false) →
    [' '].intercalate (wordsAux cs cur) = stripEnd (cur.reverse ++ collapse cur.isEmpty cs)
  | [], cur, hcur => by
    have hrev : ∀ c ∈ cur.reverse, isBlank c = false := fun c hc => hcur c (List.mem_reverse.mp hc)
    simp only [collapse, List.append_nil]
    rw [stripEnd_of_not_blank hrev]
    cases cur <;> simp [wordsAux]
  | c :: cs, cur, hcur => by
    have hrev : ∀ c ∈ cur.reverse, isBlank c = false := fun c hc => hcur c (List.mem_reverse.mp hc)
    cases hc : isBlank c with
    | false =>
      have ih := @intercalate_wordsAux cs (c :: cur) (by
        intro d hd
        rcases List.mem_cons.mp hd with rfl | hd
        · exact hc
        · exact hcur d hd)
      simp only [wordsAux, hc, Bool.false_eq_true, if_false, ih]
      cases cur <;> simp [collapse, hc]
    | true =>
      have ih := @intercalate_wordsAux cs [] (by simp)
      simp only [List.reverse_nil, List.isEmpty_nil, List.nil_append] at ih
      cases cur with
      | nil => simp [wordsAux, collapse, hc, ih]
      | cons d cur =>
        simp only [wordsAux, hc, if_true, List.isEmpty_cons, Bool.false_eq_true, if_false,
          collapse]
        -- the words after the blank are none exactly when the rest squeezes to nothing
        cases hw : wordsAux cs [] with
        | nil =>
          rw [hw, List.intercalate_nil] at ih
          rw [List.intercalate_singleton, stripEnd_append, stripEnd_cons, ← ih,
            stripEnd_of_not_blank hrev]
          simp [(by decide : isBlank ' ' = true)]
        | cons w ws =>
          have hne : [' '].intercalate (w :: ws) ≠ [] := by
            have := ne_nil_of_mem_wordsAux (hw ▸ List.mem_cons_self : w ∈ wordsAux cs [])
            cases ws <;> simp [this]
          rw [hw] at ih
          have hrest : (stripEnd (collapse true cs)).isEmpty = false := by
            rw [← ih]
            simpa using hne
          rw [List.intercalate_cons_cons, ih, stripEnd_append, stripEnd_cons, hrest]
          simp

theorem toList_squeeze (s : String) : (Condition.squeeze s).toList = squeezeChars s.toList := by
  have h := @intercalate_wordsAux s.toList [] (by simp)
  rw [Condition.squeeze, words, String.toList_intercalate, List.map_map]
  simpa [Function.comp_def, squeezeChars] using h

end RoadWeather.Text
