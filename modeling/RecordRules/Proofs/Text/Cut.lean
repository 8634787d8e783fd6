import Mathlib.Data.List.TakeWhile

/-!
# Cutting text

Where `takeWhile` and `dropWhile` cut a text that is given in two pieces: at the first
occurrence of a character (`cut_at`, and `eq_append_of_dropWhile` for the converse), not
behind the place where the pieces meet (`cut_append`), or right there (`cut_between`, and
`run_of_dropWhile` for the converse).
-/

namespace RecordRules.Text

theorem cut_at {stop : Char} {before : List Char} (h : stop ∉ before) (after : List Char) :
    (before ++ stop :: after).takeWhile (· ≠ stop) = before ∧
      (before ++ stop :: after).dropWhile (· ≠ stop) = stop :: after := by
  have hall : ∀ c ∈ before, decide (c ≠ stop) = true := fun c hc =>
    decide_eq_true fun heq => h (heq ▸ hc)
  constructor
  · rw [List.takeWhile_append_of_pos hall]
    simp
  · rw [List.dropWhile_append_of_pos hall]
    simp

theorem eq_append_of_dropWhile {stop c : Char} {cs after : List Char}
    (h : cs.dropWhile (· ≠ stop) = c :: after) :
    stop ∉ cs.takeWhile (· ≠ stop) ∧ cs = cs.takeWhile (· ≠ stop) ++ stop :: after := by
  have hc := List.head?_dropWhile_not (fun c => decide (c ≠ stop)) cs
  rw [h] at hc
  have hstop : c = stop := by simpa using hc
  constructor
  · intro hmem
    have hne := List.mem_takeWhile_imp hmem
    simp at hne
  · rw [← hstop, ← h, hstop, List.takeWhile_append_dropWhile]

theorem cut_append {p : Char → Bool} {right : List Char} (left : List Char)
    (h : ∀ c ∈ right.head?, p c = false) :
    (left ++ right).takeWhile p = left.takeWhile p ∧
      (left ++ right).dropWhile p = left.dropWhile p ++ right := by
  induction left with
  | nil =>
    cases right with
    | nil => exact ⟨rfl, rfl⟩
    | cons first right =>
      have hfirst := h first rfl
      simp [hfirst]
  | cons c left ih =>
    by_cases hc : p c
    · simp [hc, ih]
    · simp [hc]

theorem cut_of_forall {p : Char → Bool} {cs : List Char} (h : ∀ c ∈ cs, p c) :
    cs.takeWhile p = cs ∧ cs.dropWhile p = [] :=
  ⟨List.takeWhile_eq_self_iff.2 h, List.dropWhile_eq_nil_iff.2 h⟩

theorem cut_between {p : Char → Bool} {run after : List Char} (hrun : ∀ c ∈ run, p c)
    (hafter : ∀ c ∈ after.head?, p c = false) :
    (run ++ after).takeWhile p = run ∧ (run ++ after).dropWhile p = after := by
  obtain ⟨htake, hdrop⟩ := cut_append run hafter
  obtain ⟨hall, hnone⟩ := cut_of_forall hrun
  rw [htake, hdrop, hall, hnone]
  exact ⟨rfl, rfl⟩

theorem run_of_dropWhile {p : Char → Bool} {run after : List Char}
    (h : (run ++ after).dropWhile p = after) :
    (∀ c ∈ run, p c) ∧ ∀ c ∈ after.head?, p c = false := by
  have htake : (run ++ after).takeWhile p = run := by
    have hboth := List.takeWhile_append_dropWhile (p := p) (l := run ++ after)
    rw [h] at hboth
    exact List.append_cancel_right hboth
  constructor
  · intro c hc
    rw [← htake] at hc
    exact List.mem_takeWhile_imp hc
  · intro c hc
    have hnot := List.head?_dropWhile_not p (run ++ after)
    rw [h, Option.mem_def.1 hc] at hnot
    simpa using hnot

end RecordRules.Text
