import RoadWeather.Condition.Order
import Mathlib

/-! # The grammar of a formula

The formulas that pass the order check are exactly those whose parentheses balance
(`derives_iff_balanced`). -/

namespace RoadWeather.Condition

/-- `E ::= block | not E | ( E ) | E and/or E`. -/
inductive Derives : List Role → Prop
  | block : Derives [.block]
  | negation {e : List Role} : Derives e → Derives (.negation :: e)
  | paren {e : List Role} : Derives e → Derives (.openPar :: e ++ [.closePar])
  | andOr {e₁ e₂ : List Role} : Derives e₁ → Derives e₂ → Derives (e₁ ++ .andOr :: e₂)

def Role.weight : Role → Int
  | .openPar => 1
  | .closePar => -1
  | _ => 0

def depth (rs : List Role) : Int := (rs.map Role.weight).sum

@[simp] theorem depth_nil : depth [] = 0 := rfl

@[simp] theorem depth_cons (r : Role) (rs : List Role) : depth (r :: rs) = r.weight + depth rs := by
  simp [depth]

@[simp] theorem depth_append (l r : List Role) : depth (l ++ r) = depth l + depth r := by
  simp [depth]

/-- Balanced parentheses: no prefix closes more than it opened, and the whole closes them all. -/
structure Balanced (rs : List Role) : Prop where
  prefixes : ∀ p, p <+: rs → 0 ≤ depth p
  closed : depth rs = 0

section Prefixes

variable {α : Type} {P : List α → Prop}

theorem forall_prefix_nil : (∀ p, p <+: ([] : List α) → P p) ↔ P [] :=
  ⟨fun h => h [] List.nil_prefix, fun h _ hp => List.prefix_nil.mp hp ▸ h⟩

theorem forall_prefix_cons {r : α} {t : List α} :
    (∀ p, p <+: r :: t → P p) ↔ P [] ∧ ∀ q, q <+: t → P (r :: q) := by
  constructor
  · intro h
    exact ⟨h [] List.nil_prefix, fun q hq => h _ (List.cons_prefix_cons.mpr ⟨rfl, hq⟩)⟩
  · rintro ⟨hnil, hcons⟩ p hp
    rcases List.prefix_cons_iff.mp hp with rfl | ⟨q, rfl, hq⟩
    · exact hnil
    · exact hcons q hq

theorem forall_prefix_append {l r : List α} :
    (∀ p, p <+: l ++ r → P p) ↔ (∀ p, p <+: l → P p) ∧ ∀ q, q <+: r → P (l ++ q) := by
  constructor
  · intro h
    exact ⟨fun p hp => h p (hp.trans (List.prefix_append l r)),
      fun q hq => h _ ((List.prefix_append_right_inj l).mpr hq)⟩
  · rintro ⟨hl, hr⟩ p hp
    obtain hp | ⟨q, rfl⟩ := List.prefix_or_prefix_of_prefix hp (List.prefix_append l r)
    · exact hl p hp
    · exact hr q ((List.prefix_append_right_inj l).mp hp)

end Prefixes

/-! ## Every formula is balanced -/

theorem Balanced.block : Balanced [.block] :=
  ⟨by simp [forall_prefix_cons, Role.weight], rfl⟩

theorem Balanced.negation {e : List Role} (h : Balanced e) : Balanced (.negation :: e) where
  prefixes := by
    rw [forall_prefix_cons]
    simpa [Role.weight] using h.prefixes
  closed := by simp [Role.weight, h.closed]

theorem Balanced.paren {e : List Role} (h : Balanced e) :
    Balanced (.openPar :: (e ++ [.closePar])) where
  prefixes := by
    rw [forall_prefix_cons, forall_prefix_append, forall_prefix_cons, forall_prefix_nil]
    refine ⟨by simp, fun q hq => ?_, ?_, ?_⟩
    · have := h.prefixes q hq
      simp [Role.weight]; omega
    all_goals simp [Role.weight, h.closed]
  closed := by simp [Role.weight, h.closed]

theorem Balanced.andOr {e₁ e₂ : List Role} (h₁ : Balanced e₁) (h₂ : Balanced e₂) :
    Balanced (e₁ ++ .andOr :: e₂) where
  prefixes := by
    rw [forall_prefix_append, forall_prefix_cons]
    refine ⟨h₁.prefixes, by simp [h₁.closed], fun q hq => ?_⟩
    simpa [Role.weight, h₁.closed] using h₂.prefixes q hq
  closed := by simp [Role.weight, h₁.closed, h₂.closed]

theorem Balanced.of_derives {rs : List Role} (h : Derives rs) : Balanced rs := by
  induction h with
  | block => exact .block
  | negation _ ih => exact ih.negation
  | paren _ ih => exact ih.paren
  | andOr _ _ ih₁ ih₂ => exact ih₁.andOr ih₂

/-! ## Neighbours -/

theorem canStart_of_follows {a b : Role} (ha : a ≠ .closePar ∧ a ≠ .block)
    (h : a.canFollow b = true) : b.canStart = true := by
  cases a <;> cases b <;> simp_all [Role.canFollow, Role.canStart]

theorem canEnd_of_precedes {a b : Role} (hb : b = .andOr ∨ b = .closePar)
    (h : a.canFollow b = true) : a.canEnd = true := by
  cases a <;> cases b <;> simp_all [Role.canFollow, Role.canEnd]

theorem eq_of_follows_close {a b : Role} (ha : a = .closePar ∨ a = .block)
    (h : a.canFollow b = true) : b = .closePar ∨ b = .andOr := by
  cases a <;> cases b <;> simp_all [Role.canFollow]

/-- The shape the order rules give a whole formula: not empty, a fitting first and last part,
and every part allowed after the one before. -/
structure Shape (rs : List Role) : Prop where
  ne_nil : rs ≠ []
  start : ∀ r ∈ rs.head?, r.canStart = true
  finish : ∀ r ∈ rs.getLast?, r.canEnd = true
  chain : rs.IsChain fun a b => a.canFollow b = true

theorem exists_first_close (t : List Role) (k : Int) (hk : 0 ≤ k) (h : k + depth t < 0) :
    ∃ m z, t = m ++ .closePar :: z ∧ k + depth m = 0 ∧ ∀ q, q <+: m → 0 ≤ k + depth q := by
  induction t generalizing k with
  | nil => simp at h; omega
  | cons r t ih =>
    by_cases hr : r = .closePar ∧ k = 0
    · obtain ⟨rfl, rfl⟩ := hr
      refine ⟨[], t, rfl, rfl, fun q hq => ?_⟩
      rw [List.prefix_nil.mp hq]; simp
    · have hw : 0 ≤ k + r.weight := by
        cases r <;> simp_all [Role.weight] <;> omega
      obtain ⟨m, z, rfl, hm, hpre⟩ := ih (k + r.weight) hw (by simp at h; omega)
      refine ⟨r :: m, z, rfl, by simp; omega, fun q hq => ?_⟩
      rcases List.prefix_cons_iff.mp hq with rfl | ⟨u, rfl, hu⟩
      · simpa using hk
      · have := hpre u hu
        simp; omega

theorem Balanced.split {l r : List Role} (h : Balanced (l ++ .andOr :: r)) (hl : depth l = 0) :
    Balanced l ∧ Balanced r := by
  obtain ⟨hpl, -, hpr⟩ := by simpa only [forall_prefix_append, forall_prefix_cons] using h.prefixes
  have hc := h.closed
  exact ⟨⟨hpl, hl⟩, ⟨fun q hq => by simpa [Role.weight, hl] using hpr q hq,
    by simpa [Role.weight, hl] using hc⟩⟩

theorem Balanced.of_negation {t : List Role} (h : Balanced (.negation :: t)) : Balanced t := by
  obtain ⟨-, hpt⟩ := forall_prefix_cons.mp h.prefixes
  exact ⟨fun q hq => by simpa [Role.weight] using hpt q hq,
    by simpa [Role.weight] using h.closed⟩

theorem Shape.split {l r : List Role} (h : Shape (l ++ .andOr :: r)) : Shape l ∧ Shape r := by
  obtain ⟨hl, hr, hlast⟩ := List.isChain_append.mp h.chain
  have hl0 : l ≠ [] := by
    rintro rfl
    simpa [Role.canStart] using h.start
  have hr0 : r ≠ [] := by
    rintro rfl
    simpa [Role.canEnd] using h.finish
  refine ⟨⟨hl0, fun x hx => ?_, fun x hx => ?_, hl⟩, ⟨hr0, fun y hy => ?_, fun y hy => ?_, hr.tail⟩⟩
  · exact h.start x (by simpa [List.head?_append_of_ne_nil _ hl0] using hx)
  · exact canEnd_of_precedes (.inl rfl) (hlast x hx .andOr rfl)
  · exact canStart_of_follows (by decide) ((List.isChain_cons.mp hr).1 y hy)
  · have hlast' : (l ++ .andOr :: r).getLast? = r.getLast? := by
      rw [← List.singleton_append, ← List.append_assoc, List.getLast?_append_of_ne_nil _ hr0]
    exact h.finish y (hlast' ▸ hy)

theorem Shape.of_negation {t : List Role} (h : Shape (.negation :: t)) : Shape t := by
  have ht : t ≠ [] := by
    rintro rfl
    simpa [Role.canEnd] using h.finish
  refine ⟨ht, fun y hy => ?_, fun y hy => ?_, h.chain.tail⟩
  · exact canStart_of_follows (by decide) ((List.isChain_cons.mp h.chain).1 y hy)
  · have hlast : (.negation :: t).getLast? = t.getLast? := by
      rw [← List.singleton_append, List.getLast?_append_of_ne_nil _ ht]
    exact h.finish y (hlast ▸ hy)

theorem Shape.of_paren {m : List Role} (h : Shape (.openPar :: (m ++ [.closePar]))) : Shape m := by
  obtain ⟨hfirst, hchain⟩ := List.isChain_cons.mp h.chain
  obtain ⟨hm, -, hlast⟩ := List.isChain_append.mp hchain
  have hm0 : m ≠ [] := by
    rintro rfl
    simp [Role.canFollow] at hfirst
  refine ⟨hm0, fun y hy => ?_, fun x hx => ?_, hm⟩
  · exact canStart_of_follows (by decide)
      (hfirst y (by simpa [List.head?_append_of_ne_nil _ hm0] using hy))
  · exact canEnd_of_precedes (.inr rfl) (hlast x hx .closePar rfl)

theorem Derives.of_balanced (rs : List Role) (hs : Shape rs) (hb : Balanced rs) :
    Derives rs := by
  by_cases htop : ∃ l r, rs = l ++ .andOr :: r ∧ depth l = 0
  · obtain ⟨l, r, rfl, hl⟩ := htop
    obtain ⟨hsl, hsr⟩ := hs.split
    obtain ⟨hbl, hbr⟩ := hb.split hl
    exact .andOr (of_balanced l hsl hbl) (of_balanced r hsr hbr)
  obtain ⟨a, t, rfl⟩ := List.exists_cons_of_ne_nil hs.ne_nil
  cases a with
  | closePar | andOr => exact absurd (hs.start _ rfl) (by decide)
  | block =>
    cases t with
    | nil => exact .block
    | cons b t =>
      -- after a block only `)` or `and`/`or` may come, and neither can stand here
      rcases eq_of_follows_close (.inr rfl) (List.isChain_cons_cons.mp hs.chain).1 with rfl | rfl
      · have := hb.prefixes [.block, .closePar] (by simp)
        simp [Role.weight] at this
      · exact absurd ⟨[.block], t, rfl, rfl⟩ htop
  | negation => exact .negation (of_balanced t hs.of_negation hb.of_negation)
  | openPar =>
    -- the `(` is closed by the first `)` that takes the depth back to zero
    have hneg : 0 + depth t < 0 := by
      have := hb.closed
      simp [Role.weight] at this; omega
    obtain ⟨m, z, rfl, hm, hpre⟩ := exists_first_close t 0 (Int.le_refl 0) hneg
    have hz : z = [] := by
      cases z with
      | nil => rfl
      | cons b z =>
        exfalso
        have hc : Role.canFollow .closePar b = true := by
          simpa using (List.isChain_cons_append_cons_cons.mp hs.chain).2.1
        rcases eq_of_follows_close (.inl rfl) hc with rfl | rfl
        · have := hb.prefixes (.openPar :: (m ++ [.closePar, .closePar])) (by simp)
          simp [Role.weight] at this; omega
        · exact htop ⟨.openPar :: (m ++ [.closePar]), z, by simp, by simp [Role.weight]; omega⟩
    subst hz
    exact .paren (of_balanced m hs.of_paren
      ⟨fun q hq => by simpa using hpre q hq, by simpa using hm⟩)
termination_by rs.length
decreasing_by all_goals (subst_vars; simp <;> omega)

/-! ## The order rules -/

/-- What the order rules ask of a sequence of roles: a fitting first part, a fitting last part
when there are at least two, and every part allowed after the one before. -/
structure OrderOk (rs : List Role) : Prop where
  start : ∀ r ∈ rs.head?, r.canStart = true
  finish : 2 ≤ rs.length → ∀ r ∈ rs.getLast?, r.canEnd = true
  chain : rs.IsChain fun a b => a.canFollow b = true

theorem orderProblems_go_eq_nil_iff (n i : Nat) (l : List (Role × String))
    (hn : n = i + l.length) :
    orderProblems.go n i l = [] ↔
      (i = 0 → ∀ r ∈ (l.map Prod.fst).head?, r.canStart = true) ∧
      (i + l.length ≠ 1 → ∀ r ∈ (l.map Prod.fst).getLast?, r.canEnd = true) ∧
      (l.map Prod.fst).IsChain fun a b => a.canFollow b = true := by
  induction l generalizing i with
  | nil => simp [orderProblems.go]
  | cons p rest ih =>
    obtain ⟨r, t⟩ := p
    simp only [orderProblems.go, List.append_eq_nil_iff]
    rw [ih (i + 1) (by simp at hn; omega)]
    cases rest with
    | nil =>
      simp at hn
      by_cases hi : i = 0 <;> simp [hi, hn]
    | cons q rest =>
      obtain ⟨r', t'⟩ := q
      simp at hn
      -- the last part is not the first, so it is checked as an end
      have hlen : i + 1 + (rest.length + 1) ≠ 1 := by omega
      have hlen' : i + (rest.length + 1 + 1) ≠ 1 := by omega
      by_cases hi : i = 0 <;> simp [hi, hn, hlen, hlen', List.isChain_cons_cons] <;> tauto

theorem orderProblems_eq_nil_iff (parts : List (Role × String)) :
    orderProblems parts = [] ↔ OrderOk (parts.map Prod.fst) := by
  rw [orderProblems, orderProblems_go_eq_nil_iff _ 0 parts (by simp)]
  constructor
  · rintro ⟨hs, he, hc⟩
    exact ⟨hs rfl, fun h2 => he (by simp at h2 ⊢; omega), hc⟩
  · rintro ⟨hs, he, hc⟩
    refine ⟨fun _ => hs, fun h1 r hr => ?_, hc⟩
    have hne : parts ≠ [] := by rintro rfl; simp at hr
    exact he (by simp at h1 ⊢; have := List.length_pos_iff.mpr hne; omega) r hr

/-- The order check of a sequence that is not empty: the first part must be able to start,
each part must be allowed after the one before, and the last must be able to end unless it is
also the first; a single part is checked as a start only. -/
theorem orderProblems_cons_eq_nil_iff (p : Role × String) (rest : List (Role × String)) :
    orderProblems (p :: rest) = [] ↔
      p.1.canStart = true ∧ (rest = [] ∨ (rest.getLastD p).1.canEnd = true) ∧
        ((p :: rest).map Prod.fst).IsChain fun a b => a.canFollow b = true := by
  have hlast : ((p :: rest).map Prod.fst).getLast? = some (rest.getLastD p).1 := by
    simp [List.getLast?_cons]
  rw [orderProblems_eq_nil_iff]
  constructor
  · rintro ⟨hs, he, hc⟩
    refine ⟨hs p.1 rfl, ?_, hc⟩
    cases rest with
    | nil => exact .inl rfl
    | cons q r => exact .inr (he (by simp) _ hlast)
  · rintro ⟨hs, he, hc⟩
    refine ⟨fun r hr => ?_, fun h2 r hr => ?_, hc⟩
    · cases hr
      exact hs
    · -- two parts or more: the last is not the first
      have hne : rest ≠ [] := by
        rintro rfl
        simp at h2
      rw [hlast, Option.mem_some_iff] at hr
      subst hr
      exact he.resolve_left hne

/-- A lone `not` or `(` passes the order check, though neither may end a formula. -/
theorem lone_opening_passes_order :
    orderProblems [(.negation, "not")] = [] ∧ orderProblems [(.openPar, "(")] = [] ∧
      Role.canEnd .negation = false ∧ Role.canEnd .openPar = false := by
  decide

theorem OrderOk.shape {rs : List Role} (h : OrderOk rs) (h2 : 2 ≤ rs.length) : Shape rs :=
  ⟨by rintro rfl; simp at h2, h.start, h.finish h2, h.chain⟩

theorem derives_iff_balanced {rs : List Role} (ho : OrderOk rs) (hb : Role.block ∈ rs) :
    Derives rs ↔ Balanced rs := by
  refine ⟨Balanced.of_derives, fun hbal => ?_⟩
  by_cases h2 : 2 ≤ rs.length
  · exact Derives.of_balanced rs (ho.shape h2) hbal
  · -- a single part, which must be the block
    obtain ⟨x, rfl⟩ : ∃ x, rs = [x] := by
      rcases rs with _ | ⟨x, _ | ⟨y, t⟩⟩
      · simp at hb
      · exact ⟨x, rfl⟩
      · simp at h2
    rw [← List.mem_singleton.mp hb]
    exact .block

end RoadWeather.Condition
