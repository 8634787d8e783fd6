import Mathlib.Data.List.Nodup
import RecordRules.Lint

/-!
# Entries without repetitions

`distinct` keeps the first occurrence of every entry of a list.  It is known by
`mem_distinct`, `nodup_distinct` and `pairwise_idxOf_distinct`: the same entries, each once,
in the order in which they come first.

The first few of them are what a list holds in which entries move to the front and fall out
at the end (`take_cons_filter_take`).
-/

namespace RecordRules

section

variable {α : Type} [DecidableEq α] {entry : α} {entries : List α}

theorem distinct_go (seen entries : List α) :
    distinct.go seen entries = (distinct entries).filter (· ∉ seen) := by
  induction entries generalizing seen with
  | nil => rfl
  | cons entry rest ih =>
    have hcons : distinct (entry :: rest) = entry :: (distinct rest).filter (· ∉ [entry]) := by
      rw [← ih]
      rfl
    rw [distinct.go, hcons, ih, ih]
    split
    · next hseen =>
      have hne (other : α) (hother : other ∉ seen) : other ≠ entry := by
        rintro rfl
        exact hother hseen
      rw [List.filter_cons_of_neg (by simpa using hseen), List.filter_filter]
      exact List.filter_congr fun other _ => by simpa using hne other
    · next hnew =>
      rw [List.filter_cons_of_pos (by simpa using hnew), List.filter_filter]
      exact congrArg _ (List.filter_congr fun other _ => by simp [Bool.and_comm])

theorem distinct_nil : distinct ([] : List α) = [] := rfl

theorem distinct_cons (entry : α) (entries : List α) :
    distinct (entry :: entries) = entry :: (distinct entries).filter (· ≠ entry) := by
  have hgo : distinct (entry :: entries) = entry :: distinct.go [entry] entries := rfl
  rw [hgo, distinct_go]
  simp

theorem mem_distinct : entry ∈ distinct entries ↔ entry ∈ entries := by
  induction entries with
  | nil => rfl
  | cons first entries ih =>
    rw [distinct_cons, List.mem_cons, List.mem_cons, List.mem_filter, ih]
    by_cases heq : entry = first <;> simp [heq]

theorem nodup_distinct (entries : List α) : (distinct entries).Nodup := by
  induction entries with
  | nil => exact List.nodup_nil
  | cons first entries ih =>
    rw [distinct_cons, List.nodup_cons]
    exact ⟨by simp, ih.filter _⟩

theorem pairwise_idxOf_distinct (entries : List α) :
    (distinct entries).Pairwise fun a b => entries.idxOf a < entries.idxOf b := by
  induction entries with
  | nil => exact List.Pairwise.nil
  | cons first entries ih =>
    rw [distinct_cons, List.pairwise_cons]
    constructor
    · intro other hmem
      have hne : other ≠ first := by simpa using (List.mem_filter.1 hmem).2
      rw [List.idxOf_cons_self, List.idxOf_cons_ne _ hne.symm]
      exact Nat.succ_pos _
    · refine (ih.filter _).imp_of_mem fun {a b} ha hb hlt => ?_
      have hne {c : α} (hc : c ∈ (distinct entries).filter (· ≠ first)) : c ≠ first := by
        simpa using (List.mem_filter.1 hc).2
      rw [List.idxOf_cons_ne _ (hne ha).symm, List.idxOf_cons_ne _ (hne hb).symm]
      exact Nat.succ_lt_succ hlt

theorem head?_distinct (entries : List α) : (distinct entries).head? = entries.head? := by
  cases entries with
  | nil => rfl
  | cons first entries => rw [distinct_cons, List.head?_cons, List.head?_cons]

theorem distinct_filter (p : α → Bool) (entries : List α) :
    distinct (entries.filter p) = (distinct entries).filter p := by
  induction entries with
  | nil => rfl
  | cons first entries ih =>
    rw [distinct_cons]
    by_cases hfirst : p first
    · rw [List.filter_cons_of_pos hfirst, distinct_cons, ih, List.filter_cons_of_pos hfirst,
        List.filter_comm]
    · have hne (other : α) (hother : p other) : other ≠ first := by
        rintro rfl
        exact hfirst hother
      rw [List.filter_cons_of_neg hfirst, ih, List.filter_cons_of_neg hfirst, List.filter_filter]
      exact List.filter_congr fun other _ => by simpa using hne other

theorem distinct_append (left right : List α) :
    distinct (left ++ right) = distinct left ++ (distinct right).filter (· ∉ left) := by
  induction left with
  | nil => simp [distinct_nil, List.filter_true]
  | cons entry left ih =>
    rw [List.cons_append, distinct_cons, ih, distinct_cons, List.filter_append, List.filter_filter,
      List.cons_append]
    simp

/-! ## The first distinct entries -/

theorem filter_ne_of_notMem (h : entry ∉ entries) :
    entries.filter (· ≠ entry) = entries := by
  rw [List.filter_eq_self]
  rintro other hmem
  simpa using ne_of_mem_of_not_mem hmem h

/-- One entry more makes up for the one that is left out. -/
theorem take_filter_take (h : entries.Nodup) (entry : α) (n : Nat) :
    ((entries.take (n + 1)).filter (· ≠ entry)).take n = (entries.filter (· ≠ entry)).take n := by
  induction entries generalizing n with
  | nil => rw [List.take_nil]
  | cons first entries ih =>
    obtain ⟨hnot, hrest⟩ := List.nodup_cons.1 h
    rw [List.take_succ_cons]
    by_cases heq : first = entry
    · subst heq
      have hnot' : first ∉ entries.take n := fun hmem => hnot (List.mem_of_mem_take hmem)
      rw [List.filter_cons_of_neg (by simp), List.filter_cons_of_neg (by simp),
        filter_ne_of_notMem hnot, filter_ne_of_notMem hnot', List.take_take, Nat.min_self]
    · rw [List.filter_cons_of_pos (by simpa using heq),
        List.filter_cons_of_pos (by simpa using heq)]
      cases n with
      | zero => rfl
      | succ n => rw [List.take_succ_cons, List.take_succ_cons, ih hrest]

/-- Putting an entry in front of the first distinct ones gives the first distinct ones again. -/
theorem take_cons_filter_take (entry : α) (entries : List α) (n : Nat) :
    (entry :: ((distinct entries).take n).filter (· ≠ entry)).take n =
      (distinct (entry :: entries)).take n := by
  cases n with
  | zero => rfl
  | succ n =>
    rw [distinct_cons, List.take_succ_cons, List.take_succ_cons,
      take_filter_take (nodup_distinct entries)]

/-- An entry is one of the first `n` distinct ones if fewer than `n` distinct ones stand before
its first occurrence. -/
theorem mem_take_distinct_iff {n : Nat} :
    entry ∈ (distinct entries).take n ↔
      ∃ before after, entries = before ++ entry :: after ∧ entry ∉ before ∧
        (distinct before).length < n := by
  constructor
  · intro hmem
    obtain ⟨before, after, rfl, hnot⟩ :=
      List.eq_append_cons_of_mem (mem_distinct.1 (List.mem_of_mem_take hmem))
    refine ⟨before, after, rfl, hnot, ?_⟩
    by_contra hge
    rw [distinct_append, List.take_append_of_le_length (Nat.not_lt.1 hge)] at hmem
    exact hnot (mem_distinct.1 (List.mem_of_mem_take hmem))
  · rintro ⟨before, after, rfl, hnot, hlt⟩
    obtain ⟨m, hm⟩ := Nat.exists_eq_succ_of_ne_zero (Nat.sub_ne_zero_of_lt hlt)
    rw [distinct_append, distinct_cons, List.filter_cons_of_pos (by simpa using hnot),
      List.take_append, hm, List.take_succ_cons]
    exact List.mem_append_right _ List.mem_cons_self

end

end RecordRules
