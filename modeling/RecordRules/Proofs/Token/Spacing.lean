import RecordRules.Proofs.Text.Classes
import RecordRules.Proofs.Token.Boundary

/-!
# Texts with blanks between them

No lexeme runs over a blank, whichever blank it is, unless it is a quoted text.  So what a
reading has made of a text stays the same when blanks and more text come behind it: its tokens
come first (`scan_append_blanks`), and a stray character that a strict reading has stopped at
stops it again.
-/

namespace RecordRules

open Text

namespace Lexeme

theorem continuesNumber_of_isBlank {c : Char} (h : isBlank c) : continuesNumber c = false := by
  have hunderscore : c ≠ '_' := by
    rintro rfl
    exact absurd h (by decide)
  have hpoint : c ≠ '.' := by
    rintro rfl
    exact absurd h (by decide)
  simp [continuesNumber, continuesWord, isAlphabetic_eq_false_of_isBlank h,
    isNumeric_eq_false_of_isBlank h, hunderscore, hpoint]

theorem separate_of_isBlank {c : Char} (h : isBlank c) (cs : List Char) : Separate (c :: cs) := by
  refine separate_cons (continuesNumber_of_isBlank h) ?_
  rintro rfl
  exact absurd h (by decide)

end Lexeme

theorem lexemes_append_left_of_isBlank {blanks : List Char} (h : ∀ c ∈ blanks, isBlank c)
    (right : List Char) : lexemes (blanks ++ right) = lexemes right := by
  rw [← lexemes_dropBlank (blanks ++ right), dropBlank, List.dropWhile_append_of_pos h]
  exact lexemes_dropBlank right

namespace Token

theorem exists_prefix_of_ofLexemes_stray {lenient : Bool} {lexemes : List Lexeme} {c : Char}
    (h : ofLexemes lenient lexemes = .error (.stray c)) :
    ∃ before, before <+: lexemes ∧ (∀ lexeme ∈ before, lexeme.Complete) ∧
      ∀ more, ofLexemes lenient (before ++ more) = .error (.stray c) := by
  induction lexemes with
  | nil => cases h
  | cons lexeme lexemes ih =>
    have hpass (hlexeme : lexeme.Complete)
        (hrest : ofLexemes lenient lexemes = .error (.stray c))
        (hcons : ∀ more, ofLexemes lenient more = .error (.stray c) →
          ofLexemes lenient (lexeme :: more) = .error (.stray c)) :
        ∃ before, before <+: lexeme :: lexemes ∧ (∀ lexeme ∈ before, lexeme.Complete) ∧
          ∀ more, ofLexemes lenient (before ++ more) = .error (.stray c) := by
      obtain ⟨before, hbefore, hcomplete, herror⟩ := ih hrest
      exact ⟨lexeme :: before, List.cons_prefix_cons.2 ⟨rfl, hbefore⟩,
        List.forall_mem_cons.2 ⟨hlexeme, hcomplete⟩, fun more => hcons _ (herror more)⟩
    cases lexeme with
    | token token =>
      rw [ofLexemes] at h
      cases hrest : ofLexemes lenient lexemes with
      | ok tokens =>
        rw [hrest] at h
        cases h
      | error error =>
        rw [hrest] at h
        cases h
        refine hpass (by simp [Lexeme.Complete]) hrest fun more hmore => ?_
        rw [ofLexemes, hmore]
        rfl
    | stray d =>
      rw [ofLexemes] at h
      split at h
      · next hlenient =>
        refine hpass (by simp [Lexeme.Complete]) h fun more hmore => ?_
        rw [ofLexemes, if_pos hlenient, hmore]
      · next hstrict =>
        cases h
        refine ⟨[.stray c], by simp, by simp [Lexeme.Complete], fun more => ?_⟩
        rw [List.singleton_append, ofLexemes, if_neg hstrict]
    | unclosed content => cases h

/-- Blanks between two texts keep their tokens apart, in a strict and in a lenient reading: the
tokens of the first come before those of the second, or before its error.  A stray character in
the first one is reported whatever comes behind it. -/
theorem scan_append_blanks (lenient : Bool) (left blanks right : String) (hne : blanks ≠ "")
    (hblank : ∀ c ∈ blanks.toList, isBlank c) :
    (∀ tokens, scan lenient left = .ok tokens →
      scan lenient (left ++ blanks ++ right) = (scan lenient right).map (tokens ++ ·)) ∧
    ∀ c, scan lenient left = .error (.stray c) →
      scan lenient (left ++ blanks ++ right) = .error (.stray c) := by
  have hseparate : Lexeme.Separate (blanks.toList ++ right.toList) := by
    obtain ⟨c, rest, hcons⟩ := List.exists_cons_of_ne_nil (mt String.toList_eq_nil_iff.1 hne)
    rw [hcons] at hblank ⊢
    exact Lexeme.separate_of_isBlank (hblank c List.mem_cons_self) _
  have hwhole : (left ++ blanks ++ right).toList =
      left.toList ++ (blanks.toList ++ right.toList) := by
    rw [String.toList_append, String.toList_append, List.append_assoc]
  constructor
  · intro tokens htokens
    rw [scan, hwhole, lexemes_append (complete_of_ofLexemes htokens) hseparate,
      ofLexemes_append htokens, lexemes_append_left_of_isBlank hblank, scan]
  · intro c hstray
    obtain ⟨before, hbefore, hcomplete, herror⟩ := exists_prefix_of_ofLexemes_stray hstray
    obtain ⟨more, hmore⟩ := prefix_lexemes_append hbefore hcomplete hseparate
    rw [scan, hwhole, ← hmore]
    exact herror more

theorem scan_append_blanks_unequal :
    let blanks := "\t\u3000"
    let right := "= 1.5"
    blanks ≠ "" ∧ (∀ c ∈ blanks.toList, isBlank c) ∧
      scan true "a !" = .ok [.word "a"] ∧
      scan true ("a !" ++ blanks ++ right) = .ok [.word "a", .comparator .eq, .number "1.5"] ∧
      scan false "a !" = .error (.stray '!') ∧
      scan false ("a !" ++ blanks ++ right) = .error (.stray '!') := by
  intro blanks right
  have hne : blanks ≠ "" := by decide
  have hblank : ∀ c ∈ blanks.toList, isBlank c := List.all_eq_true.1 (by decide +kernel)
  have hlenient : scan true "a !" = .ok [.word "a"] := by decide +kernel
  have hstrict : scan false "a !" = .error (.stray '!') := by decide +kernel
  have hright : scan true right = .ok [.comparator .eq, .number "1.5"] := by decide +kernel
  refine ⟨hne, hblank, hlenient, ?_, hstrict, ?_⟩
  · rw [(scan_append_blanks true "a !" blanks right hne hblank).1 _ hlenient, hright]
    rfl
  · exact (scan_append_blanks false "a !" blanks right hne hblank).2 _ hstrict

end Token

end RecordRules
