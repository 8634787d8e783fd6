import Mathlib.Data.List.DropRight
import RecordRules.Text.Blank
import RecordRules.Text.Split

/-!
# Pieces of text

Cutting a text at a separator and joining the pieces again undo each other, and no piece holds
the separator.  Trimming takes all blanks off both ends, however many were put there
(`trim_pad`), and nothing else (`exists_padding`).
-/

namespace RecordRules.Text

/-! ## Cutting and joining -/

section

variable {separator : Char} {cs : List Char} {pieces : List (List Char)}

theorem exists_split_cons (separator c : Char) (cs : List Char) :
    ∃ piece more, split separator cs = piece :: more ∧
      split separator (c :: cs) =
        if c = separator then [] :: piece :: more else (c :: piece) :: more := by
  have hne : split separator cs ≠ [] := by
    rw [← List.length_pos_iff, length_split]
    exact Nat.succ_pos _
  obtain ⟨piece, more, hsplit⟩ := List.exists_cons_of_ne_nil hne
  refine ⟨piece, more, hsplit, ?_⟩
  rw [split, List.foldr_cons, ← split, hsplit]

theorem split_eq_splitOn (separator : Char) (cs : List Char) :
    split separator cs = cs.splitOn separator := by
  induction cs with
  | nil => rfl
  | cons c rest ih =>
    obtain ⟨piece, more, hrest, hsplit⟩ := exists_split_cons separator c rest
    rw [hsplit, List.splitOn, List.splitOnP_cons_eq_if_modifyHead, ← List.splitOn, ← ih, hrest]
    simp

theorem intercalate_split (separator : Char) (cs : List Char) :
    [separator].intercalate (split separator cs) = cs := by
  rw [split_eq_splitOn]
  exact List.intercalate_splitOn separator

theorem split_intercalate (hne : pieces ≠ []) (h : ∀ piece ∈ pieces, separator ∉ piece) :
    split separator ([separator].intercalate pieces) = pieces := by
  rw [split_eq_splitOn]
  exact List.splitOn_intercalate separator h hne

theorem notMem_of_mem_split {piece : List Char} (h : piece ∈ split separator cs) :
    separator ∉ piece := by
  induction cs generalizing piece with
  | nil =>
    obtain rfl : piece = [] := List.mem_singleton.1 h
    exact List.not_mem_nil
  | cons c rest ih =>
    obtain ⟨first, more, hrest, hsplit⟩ := exists_split_cons separator c rest
    rw [hsplit] at h
    split at h
    · rcases List.mem_cons.1 h with rfl | hmem
      · exact List.not_mem_nil
      · exact ih (hrest ▸ hmem)
    · next hc =>
      rcases List.mem_cons.1 h with rfl | hmem
      · exact List.not_mem_cons_of_ne_of_not_mem (Ne.symm hc) (ih (hrest ▸ List.mem_cons_self))
      · exact ih (hrest ▸ List.mem_cons_of_mem _ hmem)

end

/-! ## Trimming -/

def IsTrimmed (text : String) : Prop :=
  (∀ c ∈ text.toList.head?, isBlank c = false) ∧ ∀ c ∈ text.toList.getLast?, isBlank c = false

section

variable {cs : List Char} {text left right : String}

theorem isBlank_of_mem_head?_dropBlank {c : Char} (h : c ∈ (dropBlank cs).head?) :
    isBlank c = false := by
  have hnot := List.head?_dropWhile_not isBlank cs
  rw [← dropBlank, Option.mem_def.1 h] at hnot
  simpa using hnot

theorem dropBlank_eq_self (h : ∀ c ∈ cs.head?, isBlank c = false) : dropBlank cs = cs := by
  cases cs with
  | nil => rfl
  | cons c rest => exact List.dropWhile_cons_of_neg (by simp [h c rfl])

theorem toList_trim (text : String) :
    (trim text).toList = (dropBlank (dropBlank text.toList).reverse).reverse :=
  String.toList_ofList

theorem isTrimmed_trim (text : String) : IsTrimmed (trim text) := by
  rw [IsTrimmed, toList_trim]
  constructor
  · intro c hc
    have hprefix : (dropBlank (dropBlank text.toList).reverse).reverse <+: dropBlank text.toList :=
      List.rdropWhile_prefix isBlank _
    obtain ⟨rest, hrest⟩ := hprefix
    have hhead : c ∈ (dropBlank text.toList).head? := by
      rw [← hrest, List.head?_append, Option.mem_def.1 hc]
      rfl
    exact isBlank_of_mem_head?_dropBlank hhead
  · intro c hc
    rw [List.getLast?_reverse] at hc
    exact isBlank_of_mem_head?_dropBlank hc

theorem trim_eq_self (h : IsTrimmed text) : trim text = text := by
  obtain ⟨hhead, hlast⟩ := h
  rw [← List.head?_reverse] at hlast
  rw [trim, dropBlank_eq_self hhead, dropBlank_eq_self hlast, List.reverse_reverse,
    String.ofList_toList]

theorem trim_pad (text : String) (hleft : ∀ c ∈ left.toList, isBlank c)
    (hright : ∀ c ∈ right.toList, isBlank c) : trim (left ++ text ++ right) = trim text := by
  have hreverse : ∀ c ∈ right.toList.reverse, isBlank c := by simpa using hright
  unfold trim dropBlank
  rw [String.toList_append, String.toList_append, List.append_assoc,
    List.dropWhile_append_of_pos hleft, List.dropWhile_append]
  split
  · next hempty => rw [List.isEmpty_iff.1 hempty, List.dropWhile_eq_nil_iff.2 hright]
  · rw [List.reverse_append, List.dropWhile_append_of_pos hreverse]

/-- Nothing but blanks is taken off. -/
theorem exists_padding (text : String) :
    ∃ left right : String, (∀ c ∈ left.toList, isBlank c) ∧ (∀ c ∈ right.toList, isBlank c) ∧
      text = left ++ trim text ++ right := by
  let left := text.toList.takeWhile isBlank
  let right := (dropBlank text.toList).rtakeWhile isBlank
  refine ⟨.ofList left, .ofList right, ?_, ?_, ?_⟩
  · rw [String.toList_ofList]
    exact fun c => List.mem_takeWhile_imp
  · rw [String.toList_ofList]
    exact fun c => List.mem_rtakeWhile_imp
  · have htrim : (trim text).toList = (dropBlank text.toList).rdropWhile isBlank := toList_trim text
    rw [← String.toList_inj, String.toList_append, String.toList_append, String.toList_ofList,
      String.toList_ofList, htrim, List.append_assoc, List.rdropWhile_append_rtakeWhile]
    exact List.takeWhile_append_dropWhile.symm

end

end RecordRules.Text
