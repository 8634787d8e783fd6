import RecordRules.Json.Token
import RecordRules.Json.Writer

/-!
# Strings in JSON

A string is written with its quotes, backslashes and control characters escaped.  The reader
takes it apart into pieces, one for each character, and puts the same characters together again
(`string?_quoted`).  Characters beyond U+FFFF stand for themselves, so no surrogates are written.
-/

namespace RecordRules.Json.Token

/-- The piece is put together as this character, whatever comes after it. -/
def Piece.Denotes (piece : Piece) (c : Char) : Prop :=
  ∀ pieces, join? (piece :: pieces) = (join? pieces).map (c :: ·)

theorem Piece.denotes_char (c : Char) : (Piece.char c).Denotes c := fun _ => rfl

theorem Piece.denotes_unit {c : Char} (h : c.toNat < 0xD800) : (Piece.unit c.toNat).Denotes c := by
  intro pieces
  have hleading : isLeading c.toNat = false := by
    simp only [isLeading, Bool.and_eq_false_iff, decide_eq_false_iff_not]
    omega
  have htrailing : isTrailing c.toNat = false := by
    simp only [isTrailing, Bool.and_eq_false_iff, decide_eq_false_iff_not]
    omega
  rw [join?.eq_def]
  simp [hleading, htrailing]

theorem hexUnit?_digitChar : ∀ n < 0x20,
    hexUnit? '0' '0' (Nat.digitChar (n / 16)) (Nat.digitChar (n % 16)) = some n := by
  decide

section

variable (cs : List Char)

theorem pieces?_short {mark c : Char} (h : escape? mark = some c) :
    pieces? ('\\' :: mark :: cs) =
      (pieces? cs).map fun (pieces, rest) => (.char c :: pieces, rest) := by
  have hmark : mark ≠ 'u' := by
    rintro rfl
    cases h
  rw [pieces?, h, Option.map_eq_bind]
  · rfl
  · exact fun _ _ _ _ _ heq _ => hmark heq

theorem pieces?_unit {a b c d : Char} {unit : Nat} (h : hexUnit? a b c d = some unit) :
    pieces? ('\\' :: 'u' :: a :: b :: c :: d :: cs) =
      (pieces? cs).map fun (pieces, rest) => (.unit unit :: pieces, rest) := by
  rw [pieces?, h, Option.map_eq_bind]
  rfl

theorem pieces?_plain {c : Char} (hquote : c ≠ '"') (hslash : c ≠ '\\')
    (hcontrol : ¬c.toNat < 0x20) :
    pieces? (c :: cs) = (pieces? cs).map fun (pieces, rest) => (.char c :: pieces, rest) := by
  rw [pieces?, if_neg (not_or.2 ⟨hslash, hcontrol⟩), Option.map_eq_bind]
  · rfl
  · exact hquote
  · exact fun _ _ _ _ _ heq _ => hslash heq
  · exact fun _ _ heq _ => hslash heq

end

theorem exists_pieces?_escaped (c : Char) : ∃ piece : Piece, piece.Denotes c ∧ ∀ cs,
    pieces? (escaped c ++ cs) = (pieces? cs).map fun (pieces, rest) => (piece :: pieces, rest) := by
  unfold escaped
  split
  · next h =>
    refine ⟨.char c, Piece.denotes_char c, fun cs => pieces?_short cs ?_⟩
    rcases h with rfl | rfl <;> rfl
  next hplain =>
  iterate 5
    split
    · next h => exact ⟨.char c, Piece.denotes_char c, fun cs => pieces?_short cs (h ▸ rfl)⟩
  obtain ⟨hquote, hslash⟩ := not_or.1 hplain
  split
  · next h =>
    exact ⟨.unit c.toNat, Piece.denotes_unit (by omega), fun cs =>
      pieces?_unit cs (hexUnit?_digitChar _ h)⟩
  · next h =>
    exact ⟨.char c, Piece.denotes_char c, fun cs =>
      pieces?_plain cs hquote hslash h⟩

/-- A text is read back from its escaped form, up to the closing quote. -/
theorem exists_pieces?_flatMap_escaped (cs rest : List Char) : ∃ pieces,
    pieces? (cs.flatMap escaped ++ '"' :: rest) = some (pieces, rest) ∧ join? pieces = some cs := by
  induction cs with
  | nil => exact ⟨[], rfl, rfl⟩
  | cons c cs ih =>
    obtain ⟨pieces, hpieces, hjoin⟩ := ih
    obtain ⟨piece, hdenotes, hread⟩ := exists_pieces?_escaped c
    refine ⟨piece :: pieces, ?_, ?_⟩
    · rw [List.flatMap_cons, List.append_assoc, hread, hpieces, Option.map_some]
    · rw [hdenotes, hjoin, Option.map_some]

theorem string?_quoted (text : String) (rest : List Char) :
    string? (text.toList.flatMap escaped ++ '"' :: rest) = some (.text (some text), rest) := by
  obtain ⟨pieces, hpieces, hjoin⟩ := exists_pieces?_flatMap_escaped text.toList rest
  rw [string?, hpieces]
  simp [hjoin]

end RecordRules.Json.Token
