import RoadWeather.Proofs.Steps

/-! # What additions leave in a problem list -/

namespace RoadWeather

namespace Problems

/-! ## One addition -/

theorem record_ne_nil (p : Problems) (msg : Value) : (p.record msg).entries ≠ [] := by
  unfold record
  split <;> simp

@[simp] theorem record_context (p : Problems) (msg : Value) : (p.record msg).context = p.context := by
  unfold record
  split <;> rfl

theorem record_of_nil {p : Problems} (h : p.entries = []) (msg : Value) :
    (p.record msg).entries = [{ message := msg }] := by
  simp [record, h]

theorem record_of_cons {p : Problems} {e : Entry} {rest : List Entry} (h : p.entries = e :: rest)
    (msg : Value) : (p.record msg).entries = { e with more := e.more + 1 } :: rest := by
  simp [record, h]

/-! ## A sequence of additions -/

def recordAll (p : Problems) (adds : List (Value × Notice)) : Problems :=
  adds.foldl (fun q a => q.record a.1) p

@[simp] theorem recordAll_nil (p : Problems) : recordAll p [] = p := rfl

@[simp] theorem recordAll_cons (p : Problems) (a : Value × Notice) (rest : List (Value × Notice)) :
    recordAll p (a :: rest) = recordAll (p.record a.1) rest := rfl

@[simp] theorem recordAll_context (p : Problems) (adds : List (Value × Notice)) :
    (recordAll p adds).context = p.context := by
  induction adds generalizing p with
  | nil => rfl
  | cons a rest ih => simp [ih]

theorem run_addEach (adds : List (Value × Notice)) (s : Scene Problems) :
    ∃ log, EStateM.run (adds.forM fun a => Problems.add a.1 a.2) s =
      .ok () ⟨log, recordAll s.this adds⟩ := by
  induction adds generalizing s with
  | nil => exact ⟨s.log, rfl⟩
  | cons a rest ih =>
    obtain ⟨log₁, h₁⟩ := Problems.run_add a.1 a.2 s
    obtain ⟨log₂, h₂⟩ := ih ⟨log₁, s.this.record a.1⟩
    refine ⟨log₂, ?_⟩
    simp only [List.forM_eq_forM, List.forM_cons, EStateM.run_bind, h₁]
    exact h₂

theorem recordAll_of_cons {p : Problems} {e : Entry} {rest : List Entry}
    (h : p.entries = e :: rest) (adds : List (Value × Notice)) :
    (recordAll p adds).entries = { e with more := e.more + adds.length } :: rest := by
  induction adds generalizing p e with
  | nil => rw [recordAll_nil, h]; rfl
  | cons a more ih =>
    rw [recordAll_cons, ih (record_of_cons h a.1), List.length_cons, Nat.add_assoc,
      Nat.add_comm 1]

theorem recordAll_of_nil {p : Problems} (h : p.entries = []) (adds : List (Value × Notice)) :
    (recordAll p adds).entries =
      match adds with
      | [] => []
      | a :: rest => [{ message := a.1, more := rest.length }] := by
  cases adds with
  | nil => exact h
  | cons a rest =>
    rw [recordAll_cons, recordAll_of_cons (record_of_nil h a.1) rest]
    simp

/-- Whatever the context and the additions, a new problem list ends with no entry when nothing
was added, and otherwise with exactly one: the first message, whose count of more similar
problems is the number of all later additions, whatever their messages. -/
theorem addEach_keeps_first (context : String) (adds : List (Value × Notice))
    (log : Array Record) :
    ∃ log' p, EStateM.run (adds.forM fun a => Problems.add a.1 a.2) ⟨log, { context }⟩ =
        .ok () ⟨log', p⟩ ∧ p.context = context ∧
      p.entries = match adds with
        | [] => []
        | a :: rest => [{ message := a.1, more := rest.length }] := by
  obtain ⟨log', h⟩ := run_addEach adds ⟨log, { context }⟩
  exact ⟨log', _, h, recordAll_context _ _, recordAll_of_nil rfl adds⟩

/-- Two different messages added to a new list leave one entry, for the first message: the
second is counted as more of the first and never kept. -/
theorem distinct_messages_merged :
    ∃ log p, EStateM.run ([(Value.text "a", Notice.silent), (Value.text "b", Notice.silent)].forM
        fun a => Problems.add a.1 a.2) ⟨#[], { context := "c" }⟩ = .ok () ⟨log, p⟩ ∧
      p.entries.length = 1 ∧ ∀ e ∈ p.entries, e.message.plain = "a" ∧ e.more = 1 := by
  obtain ⟨log, h⟩ := run_addEach [(Value.text "a", Notice.silent), (Value.text "b", Notice.silent)]
    ⟨#[], { context := "c" }⟩
  have hp := recordAll_of_nil (show ({ context := "c" } : Problems).entries = [] from rfl)
    [(Value.text "a", Notice.silent), (Value.text "b", Notice.silent)]
  refine ⟨log, _, h, ?_⟩
  simp only [hp]
  simp [Value.plain]

end Problems

end RoadWeather
