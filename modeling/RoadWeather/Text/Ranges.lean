/-! # Tables of code-point intervals -/

namespace RoadWeather.Text

/-- Closed intervals `[lo, hi]` of code points, sorted and disjoint. -/
structure CodeRanges where
  spans : Array (Nat × Nat)

namespace CodeRanges

def search (spans : Array (Nat × Nat)) (c : Nat) : Nat → Nat → Nat → Bool
  | 0, _, _ => false
  | fuel + 1, lo, hi =>
    if lo < hi then
      match spans[(lo + hi) / 2]? with
      | none => false
      | some (a, b) =>
        if c < a then search spans c fuel lo ((lo + hi) / 2)
        else if b < c then search spans c fuel ((lo + hi) / 2 + 1) hi
        else true
    else false

def contains (t : CodeRanges) (c : Nat) : Bool :=
  search t.spans c 64 0 t.spans.size

theorem mem_of_search {spans : Array (Nat × Nat)} {c : Nat} :
    ∀ fuel lo hi, search spans c fuel lo hi = true →
      ∃ p ∈ spans.toList, p.1 ≤ c ∧ c ≤ p.2
  | 0, _, _, h => by simp [search] at h
  | fuel + 1, lo, hi, h => by
    unfold search at h
    split at h
    · split at h
      · simp at h
      · rename_i a b hget
        split at h
        · exact mem_of_search fuel _ _ h
        · split at h
          · exact mem_of_search fuel _ _ h
          · refine ⟨(a, b), ?_, by omega, by omega⟩
            have := Array.mem_of_getElem? hget
            simpa using this
    · simp at h

theorem mem_of_contains {t : CodeRanges} {c : Nat} (h : t.contains c = true) :
    ∃ p ∈ t.spans.toList, p.1 ≤ c ∧ c ≤ p.2 :=
  mem_of_search _ _ _ h

end CodeRanges

end RoadWeather.Text
