import RoadWeather.Proofs.Making
import RoadWeather.Proofs.TextForms

/-! # Lists after `in`

The pieces of a list after `in` are glued back into one token (`tokens_glue_in_runs`). -/

namespace RoadWeather

namespace Text

/-! ## Occurrences and ends of a text -/

theorem startsWith_eq_true_iff : ∀ cs p : List Char, startsWith cs p = true ↔ p <+: cs
  | _, [] => by simp [startsWith]
  | [], _ :: _ => by simp [startsWith]
  | c :: cs, q :: p => by
    rw [startsWith, Bool.and_eq_true, beq_iff_eq, startsWith_eq_true_iff cs p, List.cons_prefix_cons,
      eq_comm]

theorem cutAux_cuts_iff {sep : List Char} (hsep : sep ≠ []) {fuel : Nat} {cs cur : List Char}
    (hfuel : cs.length < fuel) : 2 ≤ (cutAux sep fuel cs cur).length ↔ sep <:+: cs := by
  fun_induction cutAux sep fuel cs cur with
  | case1 => simp at hfuel
  | case2 => simp [hsep]
  | case3 fuel c cs cur hstart =>
    have hne := cutAux_ne_nil sep fuel ((c :: cs).drop sep.length) []
    have hlen : 1 ≤ (cutAux sep fuel ((c :: cs).drop sep.length) []).length :=
      List.length_pos_iff.mpr hne
    simp only [List.length_cons]
    exact ⟨fun _ => ((startsWith_eq_true_iff _ _).mp hstart).isInfix, fun _ => by omega⟩
  | case4 fuel c cs cur hstart ih =>
    rw [ih (by simp at hfuel; omega), List.infix_cons_iff]
    simp [← startsWith_eq_true_iff, hstart]

theorem occursIn_eq_true_iff {sep s : String} (hsep : sep ≠ "") :
    occursIn sep s = true ↔ sep.toList <:+: s.toList := by
  have hne : sep.toList ≠ [] := fun h => hsep (String.toList_inj.mp (by rw [h]; rfl))
  have hempty : sep.isEmpty = false := by
    rw [Bool.eq_false_iff, ne_eq, String.isEmpty_iff]
    exact hsep
  rw [← @cutAux_cuts_iff sep.toList hne (s.length + 1) s.toList []
    (by rw [String.length_toList]; omega)]
  simp only [occursIn, occurrences, cut, hempty]
  simp
  omega

theorem endsWith_iff_suffix (s pat : String) : s.endsWith pat = true ↔ pat.toList <:+ s.toList := by
  rw [← String.endsWith_toSlice, String.Slice.endsWith_string_iff]
  simp

theorem in_suffix_append_iff {Z l : List Char} (hl : l ≠ [])
    (hZ : ∀ c ∈ Z.getLast?, c ≠ ' ' ∧ c ≠ 'i') :
    [' ', 'i', 'n'] <:+ Z ++ l ↔ [' ', 'i', 'n'] <:+ l := by
  simp only [← List.reverse_prefix, List.reverse_append]
  rw [← List.head?_reverse] at hZ
  obtain ⟨a, ls, hls⟩ := List.exists_cons_of_ne_nil (List.reverse_ne_nil_iff.mpr hl)
  rw [hls]
  -- only the last three characters matter
  generalize Z.reverse = zr at hZ ⊢
  rcases ls with _ | ⟨b, _ | ⟨d, ls⟩⟩ <;> rcases zr with _ | ⟨z, zs⟩ <;>
    simp [List.cons_prefix_cons] at hZ ⊢ <;> grind

theorem stripChars_head_not_blank (cs : List Char) :
    ∀ c ∈ (stripChars cs).head?, isBlank c = false := by
  rw [stripChars_eq]
  cases hds : cs.dropWhile isBlank with
  | nil => simp
  | cons d ds =>
    have hd := @List.head_dropWhile_not _ isBlank cs (by rw [hds]; simp)
    simp only [hds, List.head_cons] at hd
    rw [stripEnd_cons]
    simp [hd]

theorem mem_of_mem_stripChars {c : Char} {cs : List Char} (h : c ∈ stripChars cs) : c ∈ cs := by
  rw [stripChars_eq] at h
  exact (List.dropWhile_sublist _).subset (mem_of_mem_stripEnd h)

theorem singleton_suffix_append_iff {Z l : List Char} {c : Char} (hl : l ≠ []) :
    [c] <:+ Z ++ l ↔ [c] <:+ l :=
  ⟨fun h => List.suffix_of_suffix_length_le h (List.suffix_append Z l) (List.length_pos_iff.mpr hl),
    fun h => h.trans (List.suffix_append Z l)⟩

end Text

namespace Condition

open RoadWeather.Text

/-! ## Runs of pieces -/

def holdsIn (t : String) : Bool := occursIn " in " t || t.endsWith " in"

def gap (p : String) : String := if p.endsWith " in" then " " else ""

def glue : List String → String
  | [] => ""
  | [p] => p
  | p :: q :: r => p ++ gap p ++ glue (q :: r)

def throughClose : List String → List String × List String
  | [] => ([], [])
  | p :: r => if p = ")" then ([p], r) else (p :: (throughClose r).1, (throughClose r).2)

theorem throughClose_append : ∀ r : List String, (throughClose r).1 ++ (throughClose r).2 = r
  | [] => rfl
  | p :: r => by
    by_cases hp : p = ")" <;> simp [throughClose, hp, throughClose_append r]

def inRuns : List String → List (List String)
  | [] => []
  | p :: r =>
    if holdsIn p then (p :: (throughClose r).1) :: inRuns (throughClose r).2
    else [p] :: inRuns r
termination_by ps => ps.length
decreasing_by
  · have := congrArg List.length (throughClose_append r)
    simp only [List.length_append] at this
    simp only [List.length_cons]
    omega
  · simp

theorem flatten_inRuns (ps : List String) : (inRuns ps).flatten = ps := by
  fun_induction inRuns ps with
  | case1 => rfl
  | case2 p r _ ih => simp [ih, throughClose_append]
  | case3 p r _ ih => simp [ih]

theorem exists_cons_of_mem_inRuns {ps run : List String} (h : run ∈ inRuns ps) :
    ∃ p rest, run = p :: rest ∧ (holdsIn p = false → rest = []) := by
  fun_induction inRuns ps with
  | case1 => simp at h
  | case2 p r hp ih =>
    rcases List.mem_cons.mp h with rfl | h
    · exact ⟨p, _, rfl, by simp [hp]⟩
    · exact ih h
  | case3 p r hp ih =>
    rcases List.mem_cons.mp h with rfl | h
    · exact ⟨p, [], rfl, fun _ => rfl⟩
    · exact ih h

/-! ## Gluing -/

@[simp] theorem glue_singleton (p : String) : glue [p] = p := rfl

theorem glue_cons_cons (p q : String) (r : List String) :
    glue (p :: q :: r) = p ++ gap p ++ glue (q :: r) := rfl

theorem glue_snoc (p : String) (mid : List String) (q : String) :
    glue (p :: mid ++ [q]) = glue (p :: mid) ++ gap (mid.getLastD p) ++ q := by
  induction mid generalizing p with
  | nil => rfl
  | cons m mid ih =>
    rw [List.cons_append, List.cons_append, glue_cons_cons, ← List.cons_append, ih m,
      glue_cons_cons, List.getLastD_cons]
    simp only [String.append_assoc]

theorem glue_eq_append_getLastD (p : String) (mid : List String) :
    ∃ X, glue (p :: mid) = X ++ mid.getLastD p := by
  rcases List.eq_nil_or_concat' mid with rfl | ⟨mid', q, rfl⟩
  · exact ⟨"", by simp⟩
  · exact ⟨glue (p :: mid') ++ gap (mid'.getLastD p), by
      rw [← List.cons_append, glue_snoc, List.getLastD_concat]⟩

theorem glue_eq_append (p : String) (mid : List String) : ∃ Y, glue (p :: mid) = p ++ Y := by
  cases mid with
  | nil => exact ⟨"", by simp⟩
  | cons q r => exact ⟨gap p ++ glue (q :: r), by rw [glue_cons_cons, String.append_assoc]⟩

/-! ## What the cut makes -/

def cutWords : List (List Char) := [['('], [')'], ['a', 'n', 'd'], ['o', 'r'], ['n', 'o', 't']]

theorem cutWord_ends {w : List Char} (hw : w ∈ cutWords) :
    (∀ Z : List Char, ¬ [' ', 'i', 'n'] <:+ Z ++ w) ∧ ∀ c ∈ w.getLast?, c ≠ ' ' ∧ c ≠ 'i' := by
  simp only [cutWords, List.mem_cons, List.not_mem_nil, or_false] at hw
  refine ⟨fun Z h => ?_, ?_⟩
  · simp only [← List.reverse_prefix, List.reverse_append] at h
    rcases hw with rfl | rfl | rfl | rfl | rfl <;> simp [List.cons_prefix_cons] at h
  · rcases hw with rfl | rfl | rfl | rfl | rfl <;> simp

/-- What the cut of a formula gives: pieces that are not empty and do not start with a blank,
`)` only as a piece of its own, and a cut word beside every other piece. -/
structure CutShape (ps : List String) : Prop where
  ne_nil : ∀ p ∈ ps, p.toList ≠ []
  head_not_blank : ∀ p ∈ ps, ∀ c ∈ p.toList.head?, isBlank c = false
  close_alone : ∀ p ∈ ps, ')' ∈ p.toList → p = ")"
  separated : ps.IsChain fun p q => p.toList ∈ cutWords ∨ q.toList ∈ cutWords

theorem CutShape.of_contiguous {ps qs : List String} (h : CutShape ps) (hq : qs <:+: ps) :
    CutShape qs where
  ne_nil p hp := h.ne_nil p (hq.subset hp)
  head_not_blank p hp := h.head_not_blank p (hq.subset hp)
  close_alone p hp := h.close_alone p (hq.subset hp)
  separated := List.IsChain.infix h.separated hq

theorem CutShape.last_pair {p l : String} {mid : List String} (h : CutShape (p :: mid ++ [l])) :
    (mid.getLastD p).toList ∈ cutWords ∨ l.toList ∈ cutWords := by
  rcases List.eq_nil_or_concat' mid with rfl | ⟨mid', k, rfl⟩
  · simpa using h.separated
  · have hpair : [k, l] <:+: p :: (mid' ++ [k]) ++ [l] :=
      ⟨p :: mid', [], by simp⟩
    simpa using List.IsChain.infix h.separated hpair

/-! ## The glued text and its last piece -/

section Glued

variable {p : String} {mid : List String}

theorem glue_endsWith_in (h : CutShape (p :: mid)) :
    (glue (p :: mid)).endsWith " in" = (mid.getLastD p).endsWith " in" := by
  rcases List.eq_nil_or_concat' mid with rfl | ⟨mid', l, rfl⟩
  · rfl
  · have hl : l.toList ≠ [] := h.ne_nil l (by simp)
    rw [← List.cons_append, glue_snoc, List.getLastD_concat, Bool.eq_iff_iff, endsWith_iff_suffix,
      endsWith_iff_suffix, String.toList_append]
    rcases h.last_pair with hk | hw
    · -- the piece before the last is a cut word: no blank after it, and it ends the text before
      have hgap : gap (mid'.getLastD p) = "" := by
        have := (cutWord_ends hk).1 []
        rw [List.nil_append] at this
        rw [gap, if_neg (by rw [endsWith_iff_suffix]; exact this)]
      obtain ⟨X, hX⟩ := glue_eq_append_getLastD p mid'
      have hkne : (mid'.getLastD p).toList ≠ [] :=
        (h.of_contiguous (List.prefix_append (p :: mid') [l]).isInfix).ne_nil _
          List.getLastD_mem_cons
      rw [hgap, String.append_empty, hX, String.toList_append]
      refine in_suffix_append_iff hl fun c hc => (cutWord_ends hk).2 c ?_
      rwa [List.getLast?_append_of_ne_nil _ hkne] at hc
    · exact iff_of_false ((cutWord_ends hw).1 _) (by simpa using (cutWord_ends hw).1 [])

theorem three_lt_length_glue (h : CutShape (p :: mid))
    (he : (glue (p :: mid)).endsWith " in" = true) : 3 < (glue (p :: mid)).length := by
  obtain ⟨Y, hY⟩ := glue_eq_append p mid
  obtain ⟨c, cs, hc⟩ := List.exists_cons_of_ne_nil (h.ne_nil p List.mem_cons_self)
  have hcb : isBlank c = false := h.head_not_blank p List.mem_cons_self c (by simp [hc])
  rw [endsWith_iff_suffix, hY, String.toList_append, hc] at he
  rw [← String.length_toList, hY, String.toList_append, hc]
  by_contra hlt
  have heq := he.eq_of_length (by have := he.length_le; simp at this hlt ⊢; omega)
  obtain rfl : c = ' ' := (List.cons_eq_cons.mp heq).1.symm
  exact absurd hcb (by decide)

theorem glue_endsWith_close (h : CutShape (p :: mid)) :
    (glue (p :: mid)).endsWith ")" = true ↔ mid.getLastD p = ")" := by
  obtain ⟨X, hX⟩ := glue_eq_append_getLastD p mid
  have hl := h.ne_nil _ List.getLastD_mem_cons
  rw [endsWith_iff_suffix, hX, String.toList_append, show ")".toList = [')'] from rfl,
    singleton_suffix_append_iff hl]
  constructor
  · intro hs
    exact h.close_alone _ List.getLastD_mem_cons (hs.subset (List.mem_singleton_self _))
  · intro he
    rw [he]
    exact List.suffix_refl _

theorem occursIn_glue {q : String} {r : List String} (hp : holdsIn p = true) :
    occursIn " in " (glue (p :: q :: r)) = true := by
  rw [occursIn_eq_true_iff (by decide), glue_cons_cons, String.toList_append, String.toList_append]
  by_cases he : p.endsWith " in" = true
  · -- the blank after ` in` completes ` in `
    obtain ⟨u, hu⟩ := (endsWith_iff_suffix _ _).mp he
    rw [show gap p = " " from if_pos he, ← hu]
    exact ⟨u, (glue (q :: r)).toList, by simp⟩
  · have ho : occursIn " in " p = true := by simpa [holdsIn, he] using hp
    rw [List.append_assoc]
    exact ((occursIn_eq_true_iff (by decide)).mp ho).trans (List.prefix_append _ _).isInfix

end Glued

/-! ## One step and a whole run of the gluing -/

theorem takesNext_eq (t : String) :
    takesNext t = ((t.length > 3 && t.endsWith " in") || (occursIn " in " t && !t.endsWith ")")) :=
  rfl

section Steps

variable {p : String}

theorem mergeStep_open {mid : List String} {q : String} (before : List String)
    (hshape : CutShape (p :: mid ++ [q])) (hp : holdsIn p = true) (hopen : mid.getLastD p ≠ ")") :
    mergeStep (glue (p :: mid) :: before) q = glue (p :: mid ++ [q]) :: before := by
  have hs : CutShape (p :: mid) := hshape.of_contiguous (List.prefix_append _ _).isInfix
  rw [glue_snoc]
  simp only [mergeStep]
  by_cases hk : (mid.getLastD p).endsWith " in" = true
  · -- the text so far ends in ` in`: a blank, then the piece
    have he : (glue (p :: mid)).endsWith " in" = true := (glue_endsWith_in hs).trans hk
    rw [if_pos (by simp [he, three_lt_length_glue hs he]), show gap (mid.getLastD p) = " " from
      if_pos hk]
  · -- otherwise it holds ` in ` and does not end in `)`: the piece directly
    have he : (glue (p :: mid)).endsWith " in" = false := by
      rw [glue_endsWith_in hs]
      simpa using hk
    have hocc : occursIn " in " (glue (p :: mid)) = true := by
      cases mid with
      | nil =>
        have hpe : p.endsWith " in" = false := by simpa using he
        simpa [holdsIn, hpe] using hp
      | cons m r => exact occursIn_glue hp
    have hclose : (glue (p :: mid)).endsWith ")" = false := by
      simpa using (glue_endsWith_close hs).not.mpr hopen
    rw [if_neg (by simp [he]), if_pos (by simp [hocc, hclose]), show gap (mid.getLastD p) = "" from
      if_neg hk, String.append_empty]

theorem takesNext_glue_close {mid : List String} (h : CutShape (p :: mid ++ [")"])) :
    takesNext (glue (p :: mid ++ [")"])) = false := by
  rw [List.cons_append] at h ⊢
  have hin := glue_endsWith_in h
  have hclose := (glue_endsWith_close h).mpr List.getLastD_concat
  have hno : ")".endsWith " in" = false := by
    rw [Bool.eq_false_iff, ne_eq, endsWith_iff_suffix]
    decide
  rw [List.getLastD_concat, hno] at hin
  rw [takesNext_eq, hin, hclose]
  simp

theorem foldl_mergeStep_after {x : String} (hx : takesNext x = false) (before : List String) :
    ∀ r : List String, r.foldl mergeStep (x :: before) = r.foldl mergeStep [] ++ x :: before
  | [] => rfl
  | q :: r => by
    rw [List.foldl_cons, List.foldl_cons, mergeStep_of_takesNext_false before q hx]
    exact foldl_mergeStep_append r (x :: before) (List.cons_ne_nil q [])

theorem foldl_mergeStep_run (hp : holdsIn p = true) (r : List String) :
    ∀ (mid before : List String), CutShape (p :: mid ++ r) → mid.getLastD p ≠ ")" →
      r.foldl mergeStep (glue (p :: mid) :: before) =
        (throughClose r).2.foldl mergeStep [] ++ glue (p :: mid ++ (throughClose r).1) :: before := by
  induction r with
  | nil => intro mid before _ _; simp [throughClose]
  | cons q r ih =>
    intro mid before hshape hopen
    have hstep : CutShape (p :: mid ++ [q]) :=
      hshape.of_contiguous ⟨[], r, by simp⟩
    rw [List.foldl_cons, mergeStep_open before hstep hp hopen]
    by_cases hq : q = ")"
    · subst hq
      rw [throughClose, if_pos rfl]
      exact foldl_mergeStep_after (takesNext_glue_close hstep) before r
    · rw [throughClose, if_neg hq]
      have := ih (mid ++ [q]) before (by simpa using hshape) (by simpa using hq)
      simpa using this

end Steps

/-! ## The pieces of a formula have the shape -/

/-- The cut alternates: a text without `)`, a cut word, a text, and so on, ending with a text. -/
def Alternates : List (List Char) → Prop
  | [] => False
  | [t] => ')' ∉ t
  | t :: w :: rest => ')' ∉ t ∧ w ∈ cutWords ∧ Alternates rest

theorem Separator.mem_cutWords {prev : Option Char} {w : List Char} {next : Option Char}
    (h : Separator prev w next) : w ∈ cutWords := by
  rcases h with rfl | rfl | ⟨rfl | rfl, -⟩ | ⟨rfl, -⟩ <;> simp [cutWords]

theorem alternates_cutPieces (prev : Option Char) (x cur : List Char) (hcur : ')' ∉ cur) :
    Alternates (cutPieces prev x cur) := by
  -- by induction on the length: a separator is cut off the front, or one character
  induction h : x.length using Nat.strong_induction_on generalizing prev x cur with
  | _ n ih =>
    rw [cutPieces_eq]
    cases x with
    | nil => simpa [Alternates] using hcur
    | cons c l =>
      dsimp only
      cases hsep : sepAt prev (c :: l) with
      | none =>
        have hc : c ≠ ')' := by
          rintro rfl
          simp [sepAt] at hsep
        exact ih l.length (by simp [← h]) (some c) l (c :: cur)
          (by simp only [List.mem_cons, not_or]; exact ⟨Ne.symm hc, hcur⟩) rfl
      | some p =>
        obtain ⟨w, rest⟩ := p
        obtain ⟨hl, hw⟩ := sepAt_eq_some_iff.mp hsep
        have hlen : rest.length < n := by
          have := List.length_pos_iff.mpr hw.ne_nil
          rw [← h, hl, List.length_append]
          omega
        exact ⟨by simpa using hcur, hw.mem_cutWords, ih rest.length hlen _ rest [] (by simp) rfl⟩

theorem toList_ne_nil_of_kept {s : String} (h : (!s.isEmpty) = true) : s.toList ≠ [] := by
  intro h0
  rw [String.toList_inj.mp (h0.trans rfl : s.toList = "".toList)] at h
  exact absurd h (by decide)

theorem CutShape.nil : CutShape [] :=
  ⟨by simp, by simp, by simp, List.IsChain.nil⟩

theorem CutShape.cons {q : String} {ps : List String} (h : CutShape ps) (hq : q.toList ≠ [])
    (hb : ∀ c ∈ q.toList.head?, isBlank c = false) (hc : ')' ∈ q.toList → q = ")")
    (hs : ∀ r ∈ ps.head?, q.toList ∈ cutWords ∨ r.toList ∈ cutWords) : CutShape (q :: ps) where
  ne_nil := List.forall_mem_cons.mpr ⟨hq, h.ne_nil⟩
  head_not_blank := List.forall_mem_cons.mpr ⟨hb, h.head_not_blank⟩
  close_alone := List.forall_mem_cons.mpr ⟨hc, h.close_alone⟩
  separated := List.isChain_cons.mpr ⟨hs, h.separated⟩

theorem text_piece {t : List Char} (ht : ')' ∉ t) :
    (∀ c ∈ (String.ofList (stripChars t)).toList.head?, isBlank c = false) ∧
      ')' ∉ (String.ofList (stripChars t)).toList := by
  rw [String.toList_ofList]
  exact ⟨stripChars_head_not_blank t, fun hm => ht (mem_of_mem_stripChars hm)⟩

theorem word_piece {w : List Char} (hw : w ∈ cutWords) :
    (String.ofList (stripChars w)).toList = w ∧ w ≠ [] ∧ (∀ c ∈ w.head?, isBlank c = false) ∧
      (')' ∈ w → String.ofList (stripChars w) = ")") := by
  simp only [cutWords, List.mem_cons, List.not_mem_nil, or_false] at hw
  have hnb : ∀ c ∈ w, isBlank c = false := by
    rcases hw with rfl | rfl | rfl | rfl | rfl <;> simp [isBlank]
  rw [stripChars_of_not_blank hnb, String.toList_ofList]
  refine ⟨rfl, ?_, fun c hc => hnb c (List.mem_of_mem_head? hc), ?_⟩ <;>
    rcases hw with rfl | rfl | rfl | rfl | rfl <;> simp

theorem cutShape_of_alternates : ∀ {o : List (List Char)}, Alternates o →
    CutShape ((o.map fun t => String.ofList (stripChars t)).filter (!·.isEmpty))
  | [t], ht => by
    obtain ⟨hb, hc⟩ := text_piece ht
    simp only [List.map_cons, List.map_nil, List.filter_cons, List.filter_nil]
    split
    next hkeep =>
      exact CutShape.nil.cons (toList_ne_nil_of_kept hkeep) hb (fun h => absurd h hc) (by simp)
    next => exact CutShape.nil
  | t :: w :: rest, ⟨ht, hw, hrest⟩ => by
    obtain ⟨hb, hc⟩ := text_piece ht
    obtain ⟨hwl, hwne, hwb, hwc⟩ := word_piece hw
    have hword : CutShape (String.ofList (stripChars w) ::
        ((rest.map fun t => String.ofList (stripChars t)).filter (!·.isEmpty))) :=
      (cutShape_of_alternates hrest).cons (by rwa [hwl]) (by rwa [hwl])
        (fun h => hwc (by rwa [hwl] at h)) (fun _ _ => .inl (by rw [hwl]; exact hw))
    have hkeep : (!(String.ofList (stripChars w)).isEmpty) = true := by
      rw [Bool.not_eq_true', ← Bool.not_eq_true, String.isEmpty_iff, ← String.toList_inj, hwl]
      exact hwne
    simp only [List.map_cons, List.filter_cons, hkeep, if_true]
    split
    next hkeept =>
      -- the next piece is the cut word
      exact hword.cons (toList_ne_nil_of_kept hkeept) hb (fun h => absurd h hc)
        (fun _ hr => .inr (by simp at hr; rw [← hr, hwl]; exact hw))
    next => exact hword

theorem cutShape_pieces (f : String) : CutShape (pieces f) :=
  cutShape_of_alternates (alternates_cutPieces none _ [] (by simp))

theorem mergeLists_eq_inRuns {ps : List String} (h : CutShape ps) :
    mergeLists ps = (inRuns ps).map glue := by
  rw [mergeLists]
  fun_induction inRuns ps with
  | case1 => rfl
  | case2 p r hp ih =>
    have hclose : p ≠ ")" := by
      rintro rfl
      exact absurd hp (by decide)
    rw [List.foldl_cons, show mergeStep [] p = [glue (p :: [])] from rfl,
      foldl_mergeStep_run hp r [] [] (by simpa using h) hclose]
    have hrest : CutShape (throughClose r).2 :=
      h.of_contiguous ⟨p :: (throughClose r).1, [], by simp [throughClose_append]⟩
    simp [ih hrest]
  | case3 p r hp ih =>
    have hx : takesNext p = false := by
      simp only [holdsIn, Bool.not_eq_true, Bool.or_eq_false_iff] at hp
      simp [takesNext_eq, hp.1, hp.2]
    rw [List.foldl_cons, show mergeStep [] p = [p] from rfl, foldl_mergeStep_after hx [] r]
    simp [ih (h.of_contiguous (List.suffix_cons p r).isInfix)]

theorem holdsIn_glue {p : String} {rest : List String} (h : holdsIn p = false → rest = []) :
    holdsIn (glue (p :: rest)) = holdsIn p := by
  cases hp : holdsIn p
  · rw [h hp, glue_singleton, hp]
  · cases rest with
    | nil => rw [glue_singleton, hp]
    | cons q r => simp [holdsIn, occursIn_glue hp]

/-- The tokens of a formula are its pieces glued in runs. A piece that holds `in` (` in ` inside
it, or ` in` at its end) takes the pieces after it through the first `)`, or to the end when no
`)` follows, with a blank after each piece that ends in ` in` and nothing elsewhere; every other
piece is a token as it is. So a token holds `in` exactly when the first piece of its run does,
a token without it is one piece, and the tokens have the characters of the pieces that are not
blank, in order. -/
theorem tokens_glue_in_runs (f : String) :
    tokens f = (inRuns (pieces f)).map glue ∧ (inRuns (pieces f)).flatten = pieces f ∧
      (∀ run ∈ inRuns (pieces f), ∃ p rest, run = p :: rest ∧
        holdsIn (glue run) = holdsIn p ∧ (holdsIn p = false → rest = [])) ∧
      nonBlank (String.join (tokens f)).toList = nonBlank (String.join (pieces f)).toList := by
  refine ⟨mergeLists_eq_inRuns (cutShape_pieces f), flatten_inRuns _, fun run hrun => ?_, ?_⟩
  · obtain ⟨p, rest, rfl, hsingle⟩ := exists_cons_of_mem_inRuns hrun
    exact ⟨p, rest, rfl, holdsIn_glue hsingle, hsingle⟩
  · rw [nonBlank_tokens, String.toList_join, List.flatMap_def, nonBlank_pieces]

end Condition

end RoadWeather
