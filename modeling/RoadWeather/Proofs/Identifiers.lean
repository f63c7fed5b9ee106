import RoadWeather.Identifier
import Mathlib

/-! # Identifiers

When a name becomes an identifier, and why an identifier is its own identifier (`identifier_self`). -/

namespace RoadWeather

open RoadWeather.Text

namespace Text

/-! ## Lowercasing twice -/

/-- A character that lowercasing leaves as it is: neither dotted capital I nor capital sigma,
and its own one-to-one lowercase. -/
def Lowered (c : Char) : Prop := c ≠ 'İ' ∧ c ≠ 'Σ' ∧ lowerOne c = c

instance : DecidablePred Lowered := fun c =>
  inferInstanceAs (Decidable (c ≠ 'İ' ∧ c ≠ 'Σ' ∧ lowerOne c = c))

def runTarget (r : Nat × Nat × Nat × Int) (k : Nat) : Char :=
  Char.ofNat (((r.1 + k * r.2.2.1 : Nat) : Int) + r.2.2.2).toNat

def runTargetsLowered : Bool :=
  lowerRuns.toList.all fun r =>
    (List.range ((r.2.1 - r.1) / r.2.2.1 + 1)).all fun k => decide (Lowered (runTarget r k))

-- About 1,400 positions, each looked up in the table by the kernel.
set_option maxRecDepth 100000 in
theorem runTargetsLowered_eq_true : runTargetsLowered = true := by decide

theorem mem_of_findRun {runs : Array (Nat × Nat × Nat × Int)} {c : Nat}
    {r : Nat × Nat × Nat × Int} :
    ∀ fuel lo hi, findRun runs c fuel lo hi = some r → r ∈ runs.toList ∧ r.1 ≤ c ∧ c ≤ r.2.1
  | 0, _, _, h => by simp [findRun] at h
  | fuel + 1, lo, hi, h => by
    unfold findRun at h
    split at h
    · split at h
      · simp at h
      · rename_i a b step shift hget
        split at h
        · exact mem_of_findRun fuel _ _ h
        · split at h
          · exact mem_of_findRun fuel _ _ h
          · cases h
            refine ⟨by simpa using Array.mem_of_getElem? hget, ?_, ?_⟩
            · show a ≤ c
              omega
            · show c ≤ b
              omega
    · simp at h

theorem lowerOne_cases (c : Char) :
    lowerOne c = c ∨ (c.toNat < 128 ∧ lowerOne c = c.toLower) ∨
      ∃ r ∈ lowerRuns.toList, ∃ k, k < (r.2.1 - r.1) / r.2.2.1 + 1 ∧ lowerOne c = runTarget r k := by
  unfold lowerOne
  split
  · exact .inr (.inl ⟨by assumption, rfl⟩)
  · split
    · rename_i a b step shift hfind
      obtain ⟨hmem, hlo, hhi⟩ := mem_of_findRun _ _ _ hfind
      simp only at hlo hhi
      split
      · -- the position `k` of the run with `a + k * step = c`
        rename_i hstep
        have hk : (c.toNat - a) / step * step = c.toNat - a :=
          Nat.div_mul_cancel (Nat.dvd_of_mod_eq_zero hstep)
        have hpos : a + (c.toNat - a) / step * step = c.toNat := by omega
        refine .inr (.inr ⟨_, hmem, (c.toNat - a) / step, ?_, ?_⟩)
        · show (c.toNat - a) / step < (b - a) / step + 1
          exact Nat.lt_succ_of_le (Nat.div_le_div_right (by omega))
        · simp only [runTarget, hpos]
      · exact .inl rfl
    · exact .inl rfl

theorem lowered_lowerOne {c : Char} (hI : c ≠ 'İ') (hS : c ≠ 'Σ') : Lowered (lowerOne c) := by
  rcases lowerOne_cases c with h | ⟨hc, h⟩ | ⟨r, hr, k, hk, h⟩
  · rw [h]
    exact ⟨hI, hS, h⟩
  · -- ASCII lowercasing is idempotent
    have hascii : ∀ n : Fin 128, Lowered (Char.ofNat n.val).toLower := by decide
    rw [h]
    simpa [Char.ofNat_toNat] using hascii ⟨c.toNat, hc⟩
  · have htable := List.all_eq_true.mp runTargetsLowered_eq_true r hr
    rw [h]
    exact of_decide_eq_true (List.all_eq_true.mp htable k (List.mem_range.mpr hk))

set_option maxRecDepth 20000 in
theorem lowered_of_mem_lowerChars :
    ∀ {before cs : List Char} {d : Char}, d ∈ lowerChars before cs → Lowered d
  | _, [], _, h => by simp [lowerChars] at h
  | before, c :: rest, d, h => by
    simp only [lowerChars, List.mem_append] at h
    rcases h with h | h
    · -- the characters written for `c` itself
      by_cases hI : c = 'İ'
      · rw [if_pos hI] at h
        simp only [List.mem_cons, List.not_mem_nil, or_false] at h
        rcases h with rfl | rfl <;> decide
      by_cases hS : c = 'Σ'
      · rw [if_neg hI, if_pos hS] at h
        simp only [List.mem_cons, List.not_mem_nil, or_false] at h
        split at h <;> (subst h; decide)
      rw [if_neg hI, if_neg hS] at h
      simp only [List.mem_cons, List.not_mem_nil, or_false] at h
      subst h
      exact lowered_lowerOne hI hS
    · exact lowered_of_mem_lowerChars h

theorem lowerChars_of_lowered :
    ∀ {before cs : List Char}, (∀ d ∈ cs, Lowered d) → lowerChars before cs = cs
  | _, [], _ => by simp [lowerChars]
  | before, c :: rest, h => by
    obtain ⟨hI, hS, hc⟩ := h c List.mem_cons_self
    have hrest := @lowerChars_of_lowered (c :: before) rest fun d hd =>
      h d (List.mem_cons_of_mem c hd)
    simp [lowerChars, hI, hS, hc, hrest]

theorem lowerChars_eq_nil_iff : ∀ {before cs : List Char}, lowerChars before cs = [] ↔ cs = []
  | _, [] => by simp [lowerChars]
  | _, _ :: _ => by
    simp only [lowerChars, List.append_eq_nil_iff, reduceCtorEq, iff_false, not_and]
    intro h
    split at h
    · simp at h
    · split at h <;> simp at h

end Text

/-! ## Normal forms of names -/

/-- A character that normalising a name leaves as it is: lowered, no umlaut and no space. -/
def NormalChar (c : Char) : Prop := Lowered c ∧ plainVowel c = c ∧ c ≠ ' '

instance : DecidablePred NormalChar := fun c =>
  inferInstanceAs (Decidable (Lowered c ∧ plainVowel c = c ∧ c ≠ ' '))

theorem toList_normalName (s : String) :
    (normalName s).toList =
      ((lowerChars [] (stripChars s.toList)).map plainVowel).map
        fun c => if c = ' ' then '_' else c := by
  simp [normalName, eliminateUmlauts, lower, strip]

set_option maxRecDepth 20000 in
theorem normalChar_of_lowered {d : Char} (hd : Lowered d) :
    NormalChar (if plainVowel d = ' ' then '_' else plainVowel d) := by
  -- a lowered character is no capital umlaut, so only ä, ö and the space change
  have hA : d ≠ 'Ä' := by rintro rfl; exact absurd hd (by decide)
  have hO : d ≠ 'Ö' := by rintro rfl; exact absurd hd (by decide)
  by_cases ha : d = 'ä'
  · subst ha; decide
  by_cases ho : d = 'ö'
  · subst ho; decide
  have hplain : plainVowel d = d := by simp [plainVowel, ha, hA, ho, hO]
  rw [hplain]
  by_cases hsp : d = ' '
  · subst hsp; decide
  rw [if_neg hsp]
  exact ⟨hd, hplain, hsp⟩

theorem normalChar_of_mem_normalName {s : String} {c : Char} (h : c ∈ (normalName s).toList) :
    NormalChar c := by
  rw [toList_normalName, List.map_map, List.mem_map] at h
  obtain ⟨d, hd, rfl⟩ := h
  exact normalChar_of_lowered (lowered_of_mem_lowerChars hd)

theorem stripChars_of_not_blank {cs : List Char} (h : ∀ c ∈ cs, isBlank c = false) :
    stripChars cs = cs := by
  have hfront : ∀ l : List Char, (∀ c ∈ l, isBlank c = false) → l.dropWhile isBlank = l := by
    intro l hl
    cases l with
    | nil => rfl
    | cons c rest => exact List.dropWhile_cons_of_neg (by simp [hl c List.mem_cons_self])
  unfold stripChars
  rw [hfront cs h, hfront cs.reverse (by simpa using h), List.reverse_reverse]

theorem normalName_of_normal {y : String} (hn : ∀ c ∈ y.toList, NormalChar c)
    (hb : ∀ c ∈ y.toList, isBlank c = false) : normalName y = y := by
  apply String.ext
  rw [toList_normalName, stripChars_of_not_blank hb,
    lowerChars_of_lowered fun d hd => (hn d hd).1]
  conv => rhs; rw [← List.map_id y.toList]
  rw [List.map_map]
  refine List.map_congr_left fun c hc => ?_
  obtain ⟨-, hv, hsp⟩ := hn c hc
  simp [hv, hsp]

theorem normalName_eq_empty_iff (x : String) : normalName x = "" ↔ strip x = "" := by
  rw [← String.toList_inj, ← String.toList_inj, toList_normalName]
  simp [strip, lowerChars_eq_nil_iff]

/-! ## The checks of an identifier -/

set_option maxRecDepth 20000 in
theorem isBlank_eq_false_of_identChar {c : Char} (h : identChar c = true) : isBlank c = false := by
  -- the blanks are a few code points, none of them a letter, a number or an underscore
  have hnot : ∀ n ∈ [9, 10, 11, 12, 13, 28, 29, 30, 31, 32, 133, 160, 5760, 8192, 8193, 8194,
      8195, 8196, 8197, 8198, 8199, 8200, 8201, 8202, 8232, 8233, 8239, 8287, 12288],
      identChar (Char.ofNat n) = false := by decide
  cases hb : isBlank c
  · rfl
  · have hn : c.toNat ∈ [9, 10, 11, 12, 13, 28, 29, 30, 31, 32, 133, 160, 5760, 8192, 8193, 8194,
        8195, 8196, 8197, 8198, 8199, 8200, 8201, 8202, 8232, 8233, 8239, 8287, 12288] := by
      simp only [isBlank, Bool.or_eq_true, Bool.and_eq_true, decide_eq_true_eq] at hb
      simp only [List.mem_cons, List.not_mem_nil, or_false]
      omega
    have := hnot _ hn
    rw [Char.ofNat_toNat, h] at this
    exact absurd this (by decide)

/-- What the checks of an identifier ask of a normalised name. -/
structure NameOk (y : String) : Prop where
  nonempty : y ≠ ""
  not_reserved : y ∉ reservedNames
  no_leading_digit : ∀ c, y.toList.head? = some c → isDigit c = false
  short : y.length ≤ 63
  chars : ∀ c ∈ y.toList, identChar c = true

theorem firstBadChar_eq_none_iff :
    ∀ {cs : List Char} {i : Nat}, firstBadChar cs i = none ↔ ∀ c ∈ cs, identChar c = true
  | [], _ => by simp [firstBadChar]
  | c :: cs, i => by
    unfold firstBadChar
    split
    · rw [firstBadChar_eq_none_iff]
      simp [*]
    · simp [*]

theorem checkName_eq_ok_iff {y z : String} : checkName y = .ok z ↔ z = y ∧ NameOk y := by
  unfold checkName
  split
  · -- a reserved name
    rename_i hres
    simp only [reduceCtorEq, false_iff, not_and]
    exact fun _ h => h.not_reserved (by simpa using hres)
  · rename_i hres
    split
    · rename_i hnil
      simp only [reduceCtorEq, false_iff, not_and]
      exact fun _ h => h.nonempty (String.toList_eq_nil_iff.mp hnil)
    · rename_i c rest hcons
      have hne : y ≠ "" := fun h => by simp [h] at hcons
      split
      · simp only [reduceCtorEq, false_iff, not_and]
        exact fun _ h => absurd (h.no_leading_digit c (by simp [hcons])) (by simp [*])
      · split
        · simp only [reduceCtorEq, false_iff, not_and]
          exact fun _ h => absurd h.short (by omega)
        · split
          · rename_i i hbad
            simp only [reduceCtorEq, false_iff, not_and]
            intro _ h
            have := (@firstBadChar_eq_none_iff _ 0).mpr h.chars
            simp [this] at hbad
          · rename_i hgood
            simp only [Except.ok.injEq]
            refine ⟨fun h => ⟨h.symm, ?_⟩, fun h => h.1.symm⟩
            refine ⟨hne, by simpa using hres, fun d hd => ?_, by omega,
              firstBadChar_eq_none_iff.mp hgood⟩
            simp only [hcons, List.head?_cons, Option.some.injEq] at hd
            subst hd
            simpa using ‹¬isDigit c = true›

theorem toFault_of_checkName_error {y : String} {f : NameFault} (h : checkName y = .error f) :
    ∃ msg, f.toFault = ⟨if y = "" then .index else .badValue, msg⟩ := by
  unfold checkName at h
  split at h
  · -- the reserved names are not empty
    rename_i hres
    have hne : y ≠ "" := by rintro rfl; simp [reservedNames] at hres
    cases h
    exact ⟨_, by rw [if_neg hne]; rfl⟩
  · split at h
    · rename_i hnil
      cases h
      exact ⟨_, by rw [if_pos (String.toList_eq_nil_iff.mp hnil)]; rfl⟩
    · rename_i c rest hcons
      have hne : y ≠ "" := fun h => by simp [h] at hcons
      split at h
      · cases h
        exact ⟨_, by rw [if_neg hne]; rfl⟩
      · split at h
        · cases h
          exact ⟨_, by rw [if_neg hne]; rfl⟩
        · split at h
          · cases h
            exact ⟨_, by rw [if_neg hne]; rfl⟩
          · cases h

theorem identifier_text_eq_ok_iff {x y : String} :
    identifier (.text x) = .ok y ↔ checkName (normalName x) = .ok y := by
  simp only [identifier, identifier?, Except.mapError]
  split <;> simp_all

theorem identifier_self {x y : String} (h : identifier (.text x) = .ok y) :
    identifier (.text y) = .ok y := by
  obtain ⟨rfl, hok⟩ := checkName_eq_ok_iff.mp (identifier_text_eq_ok_iff.mp h)
  have hnorm : normalName (normalName x) = normalName x :=
    normalName_of_normal (fun c hc => normalChar_of_mem_normalName hc)
      (fun c hc => isBlank_eq_false_of_identChar (hok.chars c hc))
  rw [identifier_text_eq_ok_iff, hnorm, checkName_eq_ok_iff]
  exact ⟨rfl, hok⟩

/-- A name is turned into its normal form exactly when that form passes the checks of an
identifier; otherwise it fails, as an index out of range when nothing is left after stripping
and as a bad value in every other case. An identifier is its own identifier. -/
theorem identifier_text_outcome (x : String) :
    (identifier (.text x) = .ok (normalName x) ↔ NameOk (normalName x)) ∧
    (¬ NameOk (normalName x) →
      ∃ msg, identifier (.text x) = .error ⟨if strip x = "" then .index else .badValue, msg⟩) ∧
    ∀ y, identifier (.text x) = .ok y → identifier (.text y) = .ok y := by
  refine ⟨?_, fun hbad => ?_, fun _ => identifier_self⟩
  · rw [identifier_text_eq_ok_iff, checkName_eq_ok_iff]
    simp
  · cases hc : checkName (normalName x) with
    | ok z =>
      obtain ⟨rfl, hok⟩ := checkName_eq_ok_iff.mp hc
      exact absurd hok hbad
    | error f =>
      obtain ⟨msg, hf⟩ := toFault_of_checkName_error hc
      simp only [normalName_eq_empty_iff] at hf
      exact ⟨msg, by simp [identifier, identifier?, hc, Except.mapError, hf]⟩

end RoadWeather
