import RoadWeather.Proofs.TextForms
import RoadWeather.Proofs.StationNumbers
import RoadWeather.Proofs.ValueText
import RoadWeather.Service.Basic

/-! # References to other conditions

A reference names the view that the condition of its site and alias is computed in. -/

namespace RoadWeather

namespace Text

/-! ## Cutting at the one `#` -/

theorem cutAux_hash_free : ∀ {fuel : Nat} {cs cur : List Char}, '#' ∉ cs → cs.length < fuel →
    cutAux ['#'] fuel cs cur = [cur.reverse ++ cs]
  | fuel + 1, [], cur, _, _ => by simp [cutAux]
  | fuel + 1, c :: cs, cur, hcs, hlen => by
    have hc : c ≠ '#' := fun h => hcs (h ▸ List.mem_cons_self)
    have hrest : '#' ∉ cs := fun h => hcs (List.mem_cons_of_mem c h)
    rw [cutAux, if_neg (by simp [startsWith, hc]),
      cutAux_hash_free hrest (by simp at hlen; omega)]
    simp

theorem cutAux_hash_one : ∀ {fuel : Nat} {A B cur : List Char}, '#' ∉ A → '#' ∉ B →
    A.length + B.length + 1 < fuel → cutAux ['#'] fuel (A ++ '#' :: B) cur = [cur.reverse ++ A, B]
  | fuel + 1, [], B, cur, _, hB, hlen => by
    rw [List.nil_append, cutAux, if_pos (by simp [startsWith]),
      show List.drop ['#'].length ('#' :: B) = B from rfl,
      cutAux_hash_free hB (by simp at hlen; omega)]
    simp
  | fuel + 1, a :: A, B, cur, hA, hB, hlen => by
    have ha : a ≠ '#' := fun h => hA (h ▸ List.mem_cons_self)
    have hrest : '#' ∉ A := fun h => hA (List.mem_cons_of_mem a h)
    rw [List.cons_append, cutAux, if_neg (by simp [startsWith, ha]),
      cutAux_hash_one hrest hB (by simp at hlen; omega)]
    simp

theorem cut_hash_one {A B : List Char} (hA : '#' ∉ A) (hB : '#' ∉ B) :
    cut (String.ofList (A ++ '#' :: B)) "#" = [String.ofList A, String.ofList B] := by
  rw [cut, if_neg (by decide)]
  simp only [String.toList_ofList, String.length_ofList, show "#".toList = ['#'] from rfl]
  rw [cutAux_hash_one hA hB (by simp)]
  simp

end Text

open RoadWeather.Act RoadWeather.Text

/-! ## What names read from a text -/

theorem identifier_text_congr {x y : String} (h : normalName x = normalName y) :
    identifier (.text x) = identifier (.text y) := by
  simp only [identifier, identifier?, h]

theorem normalName_congr {x y : String}
    (h : (lowerChars [] (stripChars x.toList)).map plainVowel =
      (lowerChars [] (stripChars y.toList)).map plainVowel) :
    normalName x = normalName y := by
  apply String.ext
  rw [toList_normalName, toList_normalName, h]

theorem normalName_strip (x : String) : normalName (strip x) = normalName x :=
  normalName_congr (by rw [strip, String.toList_ofList, stripChars_stripChars])

theorem hash_not_mem_of_identifier {x y : String} (h : identifier (.text x) = .ok y) :
    '#' ∉ x.toList := fun hx => by
  obtain ⟨rfl, hok⟩ := checkName_eq_ok_iff.mp (identifier_text_eq_ok_iff.mp h)
  obtain ⟨hb, ⟨hI, hS, hlow⟩, hpv, hblank⟩ := hash_facts
  obtain ⟨A, B, hAB⟩ := List.append_of_mem hx
  have hmem : '#' ∈ (normalName x).toList := by
    rw [toList_normalName, hAB, stripChars_split hblank, lowerChars_split hb hI hS, hlow]
    simp [hpv]
  exact absurd (hok.chars '#' hmem) (by decide)

namespace Condition

theorem names_of_make {site masterAlias raw timeFrom timeUntil excelRow : Value}
    {s s' : Scene Unit} {c : Condition}
    (h : EStateM.run (make site masterAlias raw timeFrom timeUntil excelRow) s = .ok c s') :
    ∃ x y, identifier site = .ok x ∧ identifier masterAlias = .ok y ∧
      identifier (.text (x ++ "_" ++ y)) = .ok c.idString := by
  obtain ⟨c₀, log, s₁, total, -, hma, hsite, hid, hmb, rfl⟩ := run_make_ok h
  obtain ⟨s₂, h₂, hg, -⟩ := run_readTokens_grows (tokens c₀.formula) ⟨log, c₀⟩
  rw [run_makeBlocks, h₂] at hmb
  cases hmb
  -- reading the formula keeps the identifier
  exact ⟨_, _, hsite, hma, hg.idString ▸ hid⟩

/-! ## The text of a reference -/

def referenceText (site masterAlias : String) : String :=
  squeeze (lower (strip (eliminateUmlauts (site ++ "#" ++ masterAlias))))

theorem toList_referenceText (S M : String) :
    (referenceText S M).toList =
      collapse true (lowerChars [] ((S.toList.map plainVowel).dropWhile isBlank)) ++ '#' ::
        stripEnd (collapse false (lowerChars [] (stripEnd (M.toList.map plainVowel)))) := by
  obtain ⟨hb, ⟨hI, hS, hlow⟩, hpv, hblank⟩ := hash_facts
  have hchars : (eliminateUmlauts (S ++ "#" ++ M)).toList =
      S.toList.map plainVowel ++ '#' :: M.toList.map plainVowel := by
    rw [eliminateUmlauts, String.toList_ofList, String.toList_append, String.toList_append,
      show "#".toList = ['#'] from rfl]
    simp [hpv]
  -- the `#` is no blank and cuts the lowering, so each step splits at it
  rw [referenceText, toList_squeeze, lower, String.toList_ofList, strip, String.toList_ofList,
    hchars, stripChars_split hblank, lowerChars_split hb hI hS, hlow, squeezeChars_split hblank]

theorem hash_not_mem_collapse_lowerChars {Z W : List Char} (hZ : '#' ∉ Z)
    (hW : ∀ d ∈ W, d ∈ Z.map plainVowel) (p : Bool) : '#' ∉ collapse p (lowerChars [] W) := by
  intro h
  rcases mem_collapse h with h | h
  · obtain ⟨z, hz, hpz⟩ := List.mem_map.mp (hW _ (hash_mem_of_mem_lowerChars h))
    exact hZ (eq_hash_of_plainVowel hpz ▸ hz)
  · exact absurd h (by decide)

theorem referenceText_parts {S M : String} (hS : '#' ∉ S.toList) (hM : '#' ∉ M.toList) :
    ∃ P Q : String, cut (referenceText S M) "#" = [P, Q] ∧
      normalName P = normalName (squeeze S) ∧ normalName Q = normalName (squeeze M) := by
  have hP : '#' ∉ collapse true (lowerChars [] ((S.toList.map plainVowel).dropWhile isBlank)) :=
    hash_not_mem_collapse_lowerChars hS (fun _ hd => (List.dropWhile_sublist _).subset hd) true
  have hQ : '#' ∉ stripEnd (collapse false (lowerChars [] (stripEnd (M.toList.map plainVowel)))) :=
    fun h => hash_not_mem_collapse_lowerChars hM (fun _ hd => mem_of_mem_stripEnd hd) false
      (mem_of_mem_stripEnd h)
  refine ⟨String.ofList (collapse true (lowerChars [] ((S.toList.map plainVowel).dropWhile isBlank))),
    String.ofList (stripEnd (collapse false (lowerChars [] (stripEnd (M.toList.map plainVowel))))),
    ?_, ?_, ?_⟩
  · rw [← String.ofList_toList (s := referenceText S M), toList_referenceText, cut_hash_one hP hQ]
  · -- the side before the `#` lost its leading blanks with the whole text
    apply normalName_congr
    rw [String.toList_ofList, stripChars_collapse_true, toList_squeeze, stripChars_squeezeChars]
    exact plainVowel_lowerChars_squeezeChars (squeezeChars_dropWhile _)
  · -- the side after the `#` lost its trailing blanks with the whole text
    apply normalName_congr
    rw [String.toList_ofList, stripChars_stripEnd_collapse_false, toList_squeeze,
      stripChars_squeezeChars]
    exact plainVowel_lowerChars_squeezeChars (squeezeChars_stripEnd _)

end Condition

/-! ## Reading a reference -/

namespace Block

theorem run_readReference_site {p : String} {v : Value} {s s' : Scene Block}
    (h : EStateM.run (readReference (some p) v) s = .ok () s') :
    ∃ st a w, identifier (.text p) = .ok st ∧ identifier v = .ok a ∧
      identifier (.text (st ++ "_" ++ a)) = .ok w ∧ s'.this.sourceView = some w := by
  unfold readReference at h
  dsimp only at h
  cases hst : identifier (.text p) with
  | error f =>
    rw [run_bind_error (by rw [ident, run_identOf, hst])] at h
    cases h
  | ok st =>
  rw [run_bind_ok (show EStateM.run (ident p) s = .ok st s by rw [ident, run_identOf, hst])] at h
  rw [run_bind_ok (run_change _ _), pure_bind] at h
  cases ha : identifier v with
  | error f => rw [run_bind_error (by rw [run_identOf, ha])] at h; cases h
  | ok a =>
  rw [run_bind_ok (by rw [run_identOf, ha]), run_bind_ok (run_change _ _)] at h
  cases hw : identifier (.text (st ++ "_" ++ a)) with
  | error f => rw [run_bind_error (by rw [ident, run_identOf, hw])] at h; cases h
  | ok w =>
  rw [run_bind_ok (by rw [ident, run_identOf, hw]), run_change] at h
  cases h
  exact ⟨st, a, w, rfl, rfl, hw, rfl⟩

theorem reference_of_unpack {s s' : Scene Block} (h : EStateM.run unpack s = .ok () s')
    (hnew : s.this.kind = none) {t P Q : String} (hraw : s.this.rawLogic = .text t)
    (hcut : cut t "#" = [P, Q]) (hkind : s'.this.kind = some .secondary)
    (hclean : ¬ s'.this.Flagged) :
    ∃ u, EStateM.run (readReference (some P) (.text Q)) u = .ok () s' := by
  have hhash : countOf s.this.rawLogic "#" = 1 := by
    rw [hraw, countOf, occurrences, hcut]
    rfl
  obtain ⟨s₂, hframe, ⟨hzero, -, -⟩ | ⟨-, -, r, u, hsplit, h⟩ | ⟨-, -, h⟩ | ⟨-, -, -, log, rfl⟩⟩ :=
    unpack_cases h
  · omega
  · -- the reference with its site, read under a guard that recorded no failure
    rw [hraw, splittable, run_pure] at hsplit
    cases hsplit
    rw [hcut] at h
    exact ⟨_, run_of_guard_clean h hclean⟩
  · cases (kind_of_unpackTest h).symm.trans hkind
  · cases hkind.symm.trans ((congrArg Block.kind hframe).trans hnew)

theorem reference_of_make {m site n raw : Value} {s s' : Scene Unit} {b : Block}
    (h : EStateM.run (make m site n raw) s = .ok b s') {t P Q : String}
    (hraw : b.rawLogic = .text t) (hcut : cut t "#" = [P, Q]) (hkind : b.kind = some .secondary)
    (hclean : ¬ b.Flagged) :
    ∃ st a w, identifier (.text P) = .ok st ∧ identifier (.text Q) = .ok a ∧
      identifier (.text (st ++ "_" ++ a)) = .ok w ∧ b.sourceView = some w := by
  obtain ⟨ma, ps, u, -, -, hu, rfl⟩ := run_make_unpack h
  -- reading keeps the text it reads
  have hkeep := keeps_unpack_value raw ⟨s.log, blank ma ps n raw⟩
  rw [hu, lastObject_ok] at hkeep
  have hraw₀ : raw = .text t := (hkeep rfl).1.symm.trans hraw
  subst hraw₀
  obtain ⟨v, hv⟩ := reference_of_unpack hu rfl rfl hcut hkind hclean
  exact run_readReference_site hv

end Block

/-! ## The view a reference reads -/

/-- A reference reads the view of the condition it names, up to runs of blanks. Take a condition
made at site `S` under master alias `M`, and any block of any condition that is made whose text
is the reference `S#M` as the formula leaves it. If the block is a reference without a problem,
the view it reads is the identifier of the identifiers of the squeezed `S` and `M`, joined by
`_`; when squeezing the two names only strips them, that is the condition's identifier. -/
theorem reference_view_of_squeezed {S M : String} {raw timeFrom timeUntil excelRow : Value}
    {s s' : Scene Unit} {c : Condition}
    (hc : EStateM.run (Condition.make (.text S) (.text M) raw timeFrom timeUntil excelRow) s =
      .ok c s')
    {site' masterAlias' raw' timeFrom' timeUntil' excelRow' : Value} {u u' : Scene Unit}
    {c' : Condition}
    (hc' : EStateM.run (Condition.make site' masterAlias' raw' timeFrom' timeUntil' excelRow') u =
      .ok c' u')
    {b : Block} (hb : b ∈ c'.blocks) (hraw : b.rawLogic = .text (Condition.referenceText S M))
    (hkind : b.kind = some .secondary) (hclean : ¬ b.Flagged) :
    (∃ st a v, identifier (.text (Condition.squeeze S)) = .ok st ∧
      identifier (.text (Condition.squeeze M)) = .ok a ∧
      identifier (.text (st ++ "_" ++ a)) = .ok v ∧ b.sourceView = some v) ∧
    (Condition.squeeze S = strip S → Condition.squeeze M = strip M →
      b.sourceView = some c.idString) := by
  obtain ⟨x, y, hx, hy, hid⟩ := Condition.names_of_make hc
  obtain ⟨P, Q, hcut, hP, hQ⟩ :=
    Condition.referenceText_parts (hash_not_mem_of_identifier hx) (hash_not_mem_of_identifier hy)
  -- every block made reads a reference cut at one `#` from the identifiers of its two parts
  have hread := Condition.blocksAre_of_make (P := fun b => ∀ t P Q, b.rawLogic = .text t →
      cut t "#" = [P, Q] → b.kind = some .secondary → ¬ b.Flagged →
      ∃ st a w, identifier (.text P) = .ok st ∧ identifier (.text Q) = .ok a ∧
        identifier (.text (st ++ "_" ++ a)) = .ok w ∧ b.sourceView = some w)
    (fun h _ _ _ hraw hcut hkind hclean => Block.reference_of_make h hraw hcut hkind hclean) hc' b hb
  obtain ⟨st, a, v, hst, ha, hv, hview⟩ := hread _ P Q hraw hcut hkind hclean
  rw [identifier_text_congr hP] at hst
  rw [identifier_text_congr hQ] at ha
  refine ⟨⟨st, a, v, hst, ha, hv, hview⟩, fun hS hM => ?_⟩
  -- a name that squeezes as it strips names what it names unstripped
  rw [hS, identifier_text_congr (normalName_strip S), hx] at hst
  rw [hM, identifier_text_congr (normalName_strip M), hy] at ha
  cases hst
  cases ha
  rw [hid] at hv
  cases hv
  exact hview

/-- A condition at `Sipoo` under `x`, and a condition at `s` under `y` that refers to it by
`Sipoo#x`: its one block is a reference without a problem, and reads the view of the first. -/
theorem reference_view_of_plain_names :
    ∃ c s' c' u' b, EStateM.run (Condition.make (.text "Sipoo") (.text "x") (.text "s1120#keli_1 = 8")
        (.time ⟨2018, 2, 1, 0, 0, 0, 0⟩) (.time ⟨2018, 3, 31, 23, 59, 59, 0⟩) .nothing) ⟨#[], ()⟩ =
        .ok c s' ∧
      EStateM.run (Condition.make (.text "s") (.text "y") (.text "Sipoo#x")
        (.time ⟨2018, 2, 1, 0, 0, 0, 0⟩) (.time ⟨2018, 3, 31, 23, 59, 59, 0⟩) .nothing) ⟨#[], ()⟩ =
        .ok c' u' ∧
      b ∈ c'.blocks ∧ b.rawLogic = .text (Condition.referenceText "Sipoo" "x") ∧
      b.kind = some .secondary ∧ ¬ b.Flagged ∧
      (∃ st a v, identifier (.text (Condition.squeeze "Sipoo")) = .ok st ∧
        identifier (.text (Condition.squeeze "x")) = .ok a ∧
        identifier (.text (st ++ "_" ++ a)) = .ok v ∧ b.sourceView = some v) ∧
      (Condition.squeeze "Sipoo" = strip "Sipoo" → Condition.squeeze "x" = strip "x" →
        b.sourceView = some c.idString) := by
  obtain ⟨c, s', hc⟩ := exists_ok_of_outcome (by decide +kernel :
    (outcome (EStateM.run (Condition.make (.text "Sipoo") (.text "x") (.text "s1120#keli_1 = 8")
      (.time ⟨2018, 2, 1, 0, 0, 0, 0⟩) (.time ⟨2018, 3, 31, 23, 59, 59, 0⟩) .nothing) ⟨#[], ()⟩)).1.isOk =
      true)
  have hblocks : (outcome (EStateM.run (Condition.make (.text "s") (.text "y") (.text "Sipoo#x")
      (.time ⟨2018, 2, 1, 0, 0, 0, 0⟩) (.time ⟨2018, 3, 31, 23, 59, 59, 0⟩) .nothing) ⟨#[], ()⟩)).1.toOption.map
      (fun c' => c'.blocks.map fun b => (b.rawLogic.text?, b.kind, b.problems.entries.isEmpty)) =
      some [(some (Condition.referenceText "Sipoo" "x"), some .secondary, true)] := by
    decide +kernel
  cases hc' : EStateM.run (Condition.make (.text "s") (.text "y") (.text "Sipoo#x")
      (.time ⟨2018, 2, 1, 0, 0, 0, 0⟩) (.time ⟨2018, 3, 31, 23, 59, 59, 0⟩) .nothing) ⟨#[], ()⟩ with
  | error e u' => rw [hc'] at hblocks; cases hblocks
  | ok c' u' =>
  rw [hc'] at hblocks
  have hmap : c'.blocks.map (fun b => (b.rawLogic.text?, b.kind, b.problems.entries.isEmpty)) =
      [(some (Condition.referenceText "Sipoo" "x"), some .secondary, true)] :=
    Option.some.inj hblocks
  -- the one block of the referring condition
  cases hcb : c'.blocks with
  | nil => rw [hcb] at hmap; cases hmap
  | cons b rest =>
  rw [hcb, List.map_cons, List.cons.injEq, Prod.mk.injEq, Prod.mk.injEq] at hmap
  obtain ⟨⟨hr, hkind, hempty⟩, -⟩ := hmap
  have hraw : b.rawLogic = .text (Condition.referenceText "Sipoo" "x") := by
    cases hrl : b.rawLogic <;> rw [hrl] at hr <;> cases hr
    rfl
  have hclean : ¬ b.Flagged := by simpa [Block.Flagged] using hempty
  have hb : b ∈ c'.blocks := hcb ▸ List.mem_cons_self
  exact ⟨c, s', c', u', b, hc, rfl, hb, hraw, hkind, hclean,
    reference_view_of_squeezed hc hc' hb hraw hkind hclean⟩

/-- Two blanks inside a site: the condition at `Sipoo  itään` under `x` is named `sipoo__itaan_x`,
while a condition that refers to it by `Sipoo  itään#x` makes a reference without a problem that
reads the view `sipoo_itaan_x`. -/
theorem doubled_blank_reference_view :
    (Act.run (Condition.make (.text "Sipoo  itään") (.text "x") (.text "s1120#keli_1 = 8")
        (.time ⟨2018, 2, 1, 0, 0, 0, 0⟩) (.time ⟨2018, 3, 31, 23, 59, 59, 0⟩) .nothing) () #[]).1.toOption.map
        (·.idString) = some "sipoo__itaan_x" ∧
    (Act.run (Condition.make (.text "s") (.text "y") (.text "Sipoo  itään#x")
        (.time ⟨2018, 2, 1, 0, 0, 0, 0⟩) (.time ⟨2018, 3, 31, 23, 59, 59, 0⟩) .nothing) () #[]).1.toOption.map
        (fun c => c.blocks.map fun b => (b.rawLogic.text?, b.kind, b.problems.entries.isEmpty,
          b.sourceView)) =
      some [(some (Condition.referenceText "Sipoo  itään" "x"), some .secondary, true,
        some "sipoo_itaan_x")] := by
  decide +kernel

end RoadWeather
