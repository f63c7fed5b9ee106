import RoadWeather.Proofs.Numbering
import RoadWeather.Batch.Basic

/-! # Names that tell objects apart -/

namespace RoadWeather

namespace Text

theorem eq_of_append_stop {z : Char} : ∀ {a b x y : List Char}, z ∉ a → z ∉ b →
    a ++ z :: x = b ++ z :: y → a = b ∧ x = y
  | [], [], _, _, _, _, h => ⟨rfl, (List.cons.inj h).2⟩
  | [], c :: _, _, _, _, hb, h => absurd (List.mem_cons.mpr (.inl (List.cons.inj h).1)) hb
  | c :: _, [], _, _, ha, _, h => absurd (List.mem_cons.mpr (.inl (List.cons.inj h).1.symm)) ha
  | c :: a, d :: b, _, _, ha, hb, h => by
    obtain ⟨rfl, h'⟩ := List.cons.inj h
    obtain ⟨hab, hxy⟩ := eq_of_append_stop (fun hz => ha (List.mem_cons_of_mem c hz))
      (fun hz => hb (List.mem_cons_of_mem c hz)) h'
    exact ⟨hab ▸ rfl, hxy⟩

theorem not_mem_toDigits {n : Nat} {z : Char} (hz : z.isDigit = false) :
    z ∉ Nat.toDigits 10 n := fun h => by
  rw [Nat.isDigit_of_mem_toDigits (show 0 < 10 by decide) (show 10 ≤ 10 by decide) h] at hz
  cases hz

theorem toDigits_injective : Function.Injective (Nat.toDigits 10) := by
  intro i j h
  calc i = Nat.ofDigitChars 10 (Nat.toDigits 10 i) 0 := Nat.ofDigitChars_ten_toDigits.symm
    _ = Nat.ofDigitChars 10 (Nat.toDigits 10 j) 0 := by rw [h]
    _ = j := Nat.ofDigitChars_ten_toDigits

theorem nodup_map_of_key {α β γ : Type} {l : List α} (key : α → β) (name : α → γ)
    (hkey : (l.map key).Nodup) (hname : ∀ x ∈ l, ∀ y ∈ l, name x = name y → key x = key y) :
    (l.map name).Nodup :=
  (List.Nodup.of_map key hkey).map_on fun x hx y hy h =>
    List.inj_on_of_nodup_map hkey hx hy (hname x hx y hy h)

end Text

open RoadWeather.Text

/-! ## Each level of the tree -/

theorem Condition.aliasOf_injective (ma : String) : Function.Injective (Condition.aliasOf ma) := by
  intro i j h
  apply toDigits_injective
  simpa [Condition.aliasOf] using congrArg String.toList h

theorem Block.eq_of_text_eq {b b' : Block} {ma : String} {i j : Nat}
    (hb : b.aliasName = Condition.aliasOf ma i) (hb' : b'.aliasName = Condition.aliasOf ma j)
    (h : b.text = b'.text) : i = j := by
  have hlist := congrArg String.toList h
  have hstop : '>'.isDigit = false := by decide
  -- a kind shows in the first letters; with the kinds alike, the numbers end at `>`
  rcases hk : b.kind with _ | _ | _ <;> rcases hk' : b'.kind with _ | _ | _ <;>
    simp [Block.text, hk, hk', hb, hb', Condition.aliasOf] at hlist
  all_goals
    exact toDigits_injective (eq_of_append_stop (not_mem_toDigits hstop) (not_mem_toDigits hstop)
      hlist).1

theorem Condition.idString_eq_of_text_eq {c d : Condition} (hc : ' ' ∉ c.idString.toList)
    (hd : ' ' ∉ d.idString.toList) (h : c.text = d.text) : c.idString = d.idString := by
  have hlist := congrArg String.toList h
  -- the kind shows in the first letters; with the kinds alike, the identifiers end at a blank
  cases hs : c.secondary <;> cases hs' : d.secondary <;>
    simp [Condition.text, hs, hs'] at hlist
  all_goals exact String.toList_inj.mp (eq_of_append_stop hc hd hlist).1

theorem Collection.title_eq_of_text_eq {c d : Collection} (h : c.text = d.text) :
    c.title.plain = d.title.plain := by
  unfold Collection.text at h
  have hlist := congrArg String.toList h
  simp only [String.toList_append] at hlist
  -- drop the common end, then read the rest backwards up to the blank before the count
  have hback := congrArg List.reverse (List.append_cancel_right hlist)
  have hwith : " with ".toList.reverse = ' ' :: "htiw ".toList := by simp
  have hblank : (' ').isDigit = false := by decide
  simp only [List.reverse_append, hwith, List.cons_append] at hback
  have hdigits := eq_of_append_stop (by simpa using not_mem_toDigits hblank)
    (by simpa using not_mem_toDigits hblank) hback
  have htitle := List.append_cancel_right (List.append_cancel_left hdigits.2)
  exact String.toList_inj.mp (List.reverse_inj.mp htitle)

/-! ## The tree -/

/-- No two collections of the tree, no two conditions of one collection and no two blocks of
one condition share a name. -/
def ProblemTree.NamesDistinct (t : ProblemTree) : Prop :=
  (t.collections.map (·.name)).Nodup ∧ ∀ c ∈ t.collections,
    (c.conditions.map (·.name)).Nodup ∧ ∀ d ∈ c.conditions, (d.blocks.map (·.name)).Nodup

/-- What tells the conditions of a collection apart: distinct identifiers without blanks, and
in each condition, aliases numbered from 0 under one master alias. -/
structure Collection.Distinct (c : Collection) : Prop where
  ids : (c.conditions.map (·.idString)).Nodup
  noBlank : ∀ d ∈ c.conditions, ' ' ∉ d.idString.toList
  numbered : ∀ d ∈ c.conditions, ∃ ma,
    d.blocks.map (·.aliasName) = (List.range d.blocks.length).map (Condition.aliasOf ma)

/-- What tells the collections of a batch apart: distinct keys, each the title of its
collection. -/
structure Batch.Distinct (b : Batch) : Prop where
  keys : (b.collections.map (·.1)).Nodup
  titles : ∀ kc ∈ b.collections, kc.2.title = .text kc.1
  collections : ∀ kc ∈ b.collections, kc.2.Distinct

theorem Condition.names_nodup {d : Condition} {ma : String}
    (hnum : d.blocks.map (·.aliasName) = (List.range d.blocks.length).map (aliasOf ma)) :
    (d.blocks.map Block.text).Nodup := by
  have hkeys : (d.blocks.map (·.aliasName)).Nodup := by
    rw [hnum]
    exact List.Nodup.map (aliasOf_injective ma) List.nodup_range
  refine nodup_map_of_key (·.aliasName) Block.text hkeys fun x hx y hy h => ?_
  -- each block is at a place, and its alias is the alias of that place
  have hnum' : ∀ b ∈ d.blocks, ∃ i, b.aliasName = aliasOf ma i := fun b hb => by
    have : b.aliasName ∈ (List.range d.blocks.length).map (aliasOf ma) :=
      hnum ▸ List.mem_map_of_mem hb
    obtain ⟨i, -, hi⟩ := List.mem_map.mp this
    exact ⟨i, hi.symm⟩
  obtain ⟨i, hi⟩ := hnum' x hx
  obtain ⟨j, hj⟩ := hnum' y hy
  rw [hi, hj, Block.eq_of_text_eq hi hj h]

theorem Collection.Distinct.names_nodup {c : Collection} (h : c.Distinct) :
    (c.conditions.map Condition.text).Nodup :=
  nodup_map_of_key (·.idString) Condition.text h.ids fun x hx y hy hxy =>
    Condition.idString_eq_of_text_eq (h.noBlank x hx) (h.noBlank y hy) hxy

theorem Batch.Distinct.names {b : Batch} (h : b.Distinct) : b.problemTree.NamesDistinct := by
  refine ⟨?_, ?_⟩
  · have hmap : (b.problemTree.collections.map (·.name)) = b.collections.map (·.2.text) := by
      simp [Batch.problemTree]
    rw [hmap]
    refine nodup_map_of_key (fun kc : String × Collection => kc.1) (·.2.text) h.keys
      fun x hx y hy hxy => ?_
    have htitle := Collection.title_eq_of_text_eq hxy
    rwa [h.titles x hx, h.titles y hy] at htitle
  · intro t ht
    obtain ⟨kc, hkc, rfl⟩ := List.mem_map.mp ht
    have hc := h.collections kc hkc
    refine ⟨by simpa [Function.comp_def] using hc.names_nodup, fun u hu => ?_⟩
    obtain ⟨d, hd, rfl⟩ := List.mem_map.mp hu
    obtain ⟨ma, hnum⟩ := hc.numbered d hd
    simpa [Function.comp_def] using Condition.names_nodup hnum

end RoadWeather
