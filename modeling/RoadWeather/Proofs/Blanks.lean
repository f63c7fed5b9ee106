import RoadWeather.Proofs.Connectives

/-! # Reading a formula keeps what is not blank -/

namespace RoadWeather

namespace Text

def nonBlank (cs : List Char) : List Char := cs.filter fun c => !isBlank c

@[simp] theorem nonBlank_nil : nonBlank [] = [] := rfl

@[simp] theorem nonBlank_append (a b : List Char) : nonBlank (a ++ b) = nonBlank a ++ nonBlank b :=
  List.filter_append _ _

@[simp] theorem nonBlank_reverse (cs : List Char) : nonBlank cs.reverse = (nonBlank cs).reverse :=
  List.filter_reverse

theorem nonBlank_flatten (L : List (List Char)) : nonBlank L.flatten = (L.map nonBlank).flatten :=
  List.filter_flatten

theorem nonBlank_join (xs : List String) :
    nonBlank (String.join xs).toList = (xs.map fun x => nonBlank x.toList).flatten := by
  rw [String.toList_join, List.flatMap_def, nonBlank_flatten, List.map_map]
  rfl

theorem nonBlank_cons_blank {c : Char} (h : isBlank c = true) (cs : List Char) :
    nonBlank (c :: cs) = nonBlank cs := by
  simp [nonBlank, h]

theorem nonBlank_dropWhile (cs : List Char) : nonBlank (cs.dropWhile isBlank) = nonBlank cs := by
  induction cs with
  | nil => rfl
  | cons c rest ih =>
    cases h : isBlank c
    · rw [List.dropWhile_cons_of_neg (by simp [h])]
    · rw [List.dropWhile_cons_of_pos h, ih, nonBlank_cons_blank h]

theorem nonBlank_stripChars (cs : List Char) : nonBlank (stripChars cs) = nonBlank cs := by
  simp only [stripChars, nonBlank_reverse, nonBlank_dropWhile, List.reverse_reverse]

theorem nonBlank_wordsAux (l cur : List Char) :
    nonBlank (wordsAux l cur).flatten = nonBlank (cur.reverse ++ l) := by
  induction l generalizing cur with
  | nil => cases cur <;> simp [wordsAux]
  | cons c rest ih =>
    cases h : isBlank c
    · simp [wordsAux, h, ih]
    · -- a blank closes the current word and is dropped
      cases cur with
      | nil =>
        simp only [wordsAux, h, if_true, List.isEmpty_nil, ih, List.reverse_nil, List.nil_append,
          nonBlank_cons_blank h]
      | cons d ds =>
        simp only [wordsAux, h, if_true, List.isEmpty_cons, Bool.false_eq_true, if_false,
          List.flatten_cons, nonBlank_append, ih, List.reverse_nil, List.nil_append,
          nonBlank_cons_blank h]

theorem nonBlank_intercalate {sep : List Char} (hsep : nonBlank sep = []) (ls : List (List Char)) :
    nonBlank (sep.intercalate ls) = nonBlank ls.flatten := by
  induction ls with
  | nil => rfl
  | cons l rest ih =>
    cases rest with
    | nil => simp [List.intercalate_singleton]
    | cons l' rest' =>
      rw [List.intercalate_cons_cons, nonBlank_append, nonBlank_append, ih, hsep]
      simp

end Text

namespace Condition

open RoadWeather.Text

theorem nonBlank_squeeze (s : String) : nonBlank (squeeze s).toList = nonBlank s.toList := by
  have hblank : nonBlank " ".toList = [] := by decide
  rw [squeeze, String.toList_intercalate, nonBlank_intercalate hblank, words, List.map_map]
  simp only [Function.comp_def, String.toList_ofList, List.map_id']
  rw [nonBlank_wordsAux]
  rfl

theorem flatten_cutPieces (prev : Option Char) (x cur : List Char) :
    (cutPieces prev x cur).flatten = cur.reverse ++ x := by
  -- by induction on the length: a separator is cut off the front, or one character
  induction h : x.length using Nat.strong_induction_on generalizing prev x cur with
  | _ n ih =>
    rw [cutPieces_eq]
    cases x with
    | nil => simp
    | cons c l =>
      dsimp only
      cases hsep : sepAt prev (c :: l) with
      | none =>
        simp only
        rw [ih l.length (by simp [← h]) (some c) l (c :: cur) rfl]
        simp
      | some p =>
        obtain ⟨w, rest⟩ := p
        obtain ⟨hl, hw⟩ := sepAt_eq_some_iff.mp hsep
        have hlen : rest.length < n := by
          have := List.length_pos_iff.mpr hw.ne_nil
          rw [← h, hl, List.length_append]
          omega
        simp only [List.flatten_cons]
        rw [ih rest.length hlen w.getLast? rest [] rfl, hl]
        simp

theorem flatten_map_filter {α : Type} (l : List α) (q : α → Bool) (f : α → List Char)
    (h : ∀ x, q x = false → f x = []) : ((l.filter q).map f).flatten = (l.map f).flatten := by
  induction l with
  | nil => rfl
  | cons x rest ih =>
    cases hq : q x
    · simp [hq, ih, h x hq]
    · simp [hq, ih]

theorem nonBlank_pieces (s : String) :
    nonBlank ((pieces s).map String.toList).flatten = nonBlank s.toList := by
  rw [nonBlank_flatten, List.map_map, pieces,
    flatten_map_filter _ _ _ fun p hp => by simp_all [String.isEmpty_iff]]
  simp only [List.map_map, Function.comp_def, String.toList_ofList, nonBlank_stripChars]
  rw [← nonBlank_flatten, flatten_cutPieces, List.reverse_nil, List.nil_append,
    nonBlank_squeeze]

theorem nonBlank_mergeStep (acc : List String) (p : String) :
    nonBlank ((mergeStep acc p).reverse.map String.toList).flatten =
      nonBlank (acc.reverse.map String.toList).flatten ++ nonBlank p.toList := by
  have hspace : isBlank ' ' = true := by decide
  unfold mergeStep
  split
  · simp
  · split
    · simp [String.toList_append, nonBlank_cons_blank hspace]
    · split <;> simp [String.toList_append]

theorem nonBlank_foldl_mergeStep (ps acc : List String) :
    nonBlank ((ps.foldl mergeStep acc).reverse.map String.toList).flatten =
      nonBlank (acc.reverse.map String.toList).flatten ++ nonBlank (ps.map String.toList).flatten := by
  induction ps generalizing acc with
  | nil => simp
  | cons p rest ih =>
    rw [List.foldl_cons, ih, nonBlank_mergeStep, List.map_cons, List.flatten_cons, nonBlank_append,
      List.append_assoc]

theorem nonBlank_tokens (f : String) :
    nonBlank (String.join (tokens f)).toList = nonBlank f.toList := by
  rw [String.toList_join, List.flatMap_def, tokens, mergeLists, nonBlank_foldl_mergeStep,
    nonBlank_pieces]
  simp

end Condition

end RoadWeather
