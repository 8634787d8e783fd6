/-!
# Splitting text

A text is cut at every separator; `length_split` counts the pieces, of which there is
one more than there are separators.
-/

namespace RecordRules.Text

def split (separator : Char) (cs : List Char) : List (List Char) :=
  cs.foldr (fun c rest =>
    match rest with
    | [] => [[c]]
    | piece :: more =>
      if c = separator then [] :: piece :: more else (c :: piece) :: more) [[]]

theorem length_split (separator : Char) (cs : List Char) :
    (split separator cs).length = cs.count separator + 1 := by
  induction cs with
  | nil => rfl
  | cons c rest ih =>
    unfold split at ih ⊢
    rw [List.foldr_cons]
    split
    · next heq => simp [heq] at ih
    · next piece more heq =>
      rw [heq, List.length_cons] at ih
      split
      · next h => simp [h, ih]
      · next h =>
        rw [List.count_cons_of_ne h, List.length_cons]
        exact ih

end RecordRules.Text
