import RecordRules.Proofs.Token.Shape

/-!
# What stands behind a lexeme

The first character of a lexeme decides by which rule it is taken (`take_cases`), and the
rest of the text matters no further than where the lexeme ends.  So another text may stand
behind it if it starts alike, or with a blank (`take_of_resumes`).

`lexeme_induction` goes through a text by its blanks and lexemes.
-/

namespace RecordRules

open Text

namespace Lexeme

/-! ## Taking a lexeme -/

theorem take_cases (c : Char) : (∀ rest, take c rest = takeText rest) ∨
    (c.isDigit ∧ ∀ rest, take c rest = takeNumber (c :: rest)) ∨
    (startsWord c ∧ ∀ rest, take c rest = takeWord (c :: rest)) ∨
    ∀ rest, take c rest = takeSymbol c rest := by
  by_cases hquote : c = '\x27'
  · exact .inl fun rest => by rw [take, if_pos hquote]
  by_cases hdigit : c.isDigit
  · exact .inr (.inl ⟨hdigit, fun rest => take_of_isDigit hdigit⟩)
  by_cases hstart : startsWord c
  · exact .inr (.inr (.inl ⟨hstart, fun rest => take_of_startsWord hstart⟩))
  · exact .inr (.inr (.inr fun rest => by
      rw [take, if_neg hquote, if_neg hdigit, if_neg hstart]))

section

variable {c : Char} {rest : List Char}

theorem take_suffix (c : Char) (rest : List Char) : (take c rest).2 <:+ rest := by
  rcases take_cases c with htext | ⟨hdigit, hnumber⟩ | ⟨hstart, hword⟩ | hsymbol
  · rw [htext, takeText]
    have hsuffix : rest.dropWhile (· ≠ '\x27') <:+ rest := List.dropWhile_suffix _
    split
    · exact List.nil_suffix
    · next heq =>
      rw [heq] at hsuffix
      exact (List.suffix_cons _ _).trans hsuffix
  · rw [hnumber, takeNumber, List.dropWhile_cons_of_pos (continuesNumber_of_isDigit hdigit)]
    exact List.dropWhile_suffix _
  · rw [hword, takeWord, List.dropWhile_cons_of_pos (continuesWord_of_startsWord hstart)]
    exact List.dropWhile_suffix _
  · rw [hsymbol]
    unfold takeSymbol
    split <;> first | exact List.suffix_rfl | exact List.suffix_cons _ _

theorem eq_of_take_stray {d : Char} (h : (take c rest).1 = .stray d) :
    d = c ∧ (take c rest).2 = rest := by
  rcases take_cases c with htext | ⟨-, hnumber⟩ | ⟨-, hword⟩ | hsymbol
  · rw [htext, takeText] at h
    split at h <;> cases h
  · rw [hnumber] at h
    cases h
  · rw [hword] at h
    cases h
  · rw [hsymbol] at h ⊢
    unfold takeSymbol at h ⊢
    split at h <;> cases h
    exact ⟨rfl, rfl⟩

theorem eq_nil_of_take_unclosed {content : String} (h : (take c rest).1 = .unclosed content) :
    (take c rest).2 = [] := by
  rcases take_cases c with htext | ⟨-, hnumber⟩ | ⟨-, hword⟩ | hsymbol
  · rw [htext] at h ⊢
    unfold takeText at h ⊢
    split at h <;> cases h
    rfl
  · rw [hnumber] at h
    cases h
  · rw [hword] at h
    cases h
  · rw [hsymbol] at h
    unfold takeSymbol at h
    split at h <;> cases h

end

/-! ## Another text behind it -/

/-- What may stand behind a lexeme in the place of another text: it starts alike, or with a
blank unless the other text is at its end. -/
def Resumes (cs' cs : List Char) : Prop :=
  cs'.head? = cs.head? ∨ cs ≠ [] ∧ cs'.head? = some ' '

section

variable {c : Char} {read after after' : List Char} {lexeme : Lexeme}

theorem Resumes.head {p : Char → Bool} (h : Resumes after' after) (hblank : p ' ' = false)
    (hp : ∀ c ∈ after.head?, p c = false) : ∀ c ∈ after'.head?, p c = false := by
  rcases h with heq | ⟨-, heq⟩
  · rwa [heq]
  · rw [heq]
    intro c hc
    cases hc
    exact hblank

theorem Resumes.eq_nil (h : Resumes after' []) : after' = [] := by
  rcases h with heq | ⟨hne, -⟩
  · exact List.head?_eq_none_iff.1 heq
  · exact absurd rfl hne

theorem takeText_of_resumes (h : takeText (read ++ after) = (lexeme, after))
    (hresumes : Resumes after' after) : takeText (read ++ after') = (lexeme, after') := by
  cases hdrop : (read ++ after).dropWhile (· ≠ '\x27') with
  | nil =>
    have hnil : after = [] := by
      rw [takeText, hdrop] at h
      cases h
      rfl
    subst hnil
    rw [hresumes.eq_nil, h]
  | cons quote tail =>
    obtain ⟨hnot, heq⟩ := eq_append_of_dropWhile hdrop
    rw [takeText, hdrop] at h
    cases h
    generalize (read ++ after).takeWhile (· ≠ '\x27') = before at *
    have hread : read = before ++ ['\x27'] := by
      rw [← List.append_cancel_right_eq, heq, List.append_assoc, List.singleton_append]
    obtain ⟨htake, hafter⟩ := cut_at hnot after'
    rw [hread, List.append_assoc, List.singleton_append, takeText, htake, hafter]

theorem takeSymbol_of_head_ne (h : ∀ d ∈ after.head?, decide (d = '=') = false) :
    takeSymbol c after = ((takeSymbol c []).1, after) := by
  unfold takeSymbol
  split <;> simp_all

theorem takeSymbol_cases (c : Char) :
    (∃ symbol, ∀ rest, takeSymbol c rest = (symbol, rest)) ∨
      ∃ joined, ∀ rest, takeSymbol c ('=' :: rest) = (joined, rest) := by
  by_cases hjoins : c = '>' ∨ c = '<' ∨ c = '!'
  · right
    rcases hjoins with rfl | rfl | rfl <;> exact ⟨_, fun _ => rfl⟩
  · refine .inl ⟨(takeSymbol c []).1, fun rest => ?_⟩
    unfold takeSymbol
    split <;> simp_all

theorem takeSymbol_of_resumes (h : takeSymbol c (read ++ after) = (lexeme, after))
    (hresumes : Resumes after' after) : takeSymbol c (read ++ after') = (lexeme, after') := by
  have hread {symbol : Lexeme} (heq : (symbol, read ++ after) = (lexeme, after)) :
      symbol = lexeme ∧ read = [] := by
    rw [Prod.mk.injEq, List.append_left_eq_self] at heq
    exact heq
  rcases takeSymbol_cases c with ⟨symbol, hsymbol⟩ | ⟨joined, hjoined⟩
  · rw [hsymbol] at h ⊢
    obtain ⟨rfl, rfl⟩ := hread h
    rfl
  by_cases hhead : (read ++ after).head? = some '='
  · obtain ⟨tail, htail⟩ := List.head?_eq_some_iff.1 hhead
    rw [htail, hjoined] at h
    cases h
    have hread : read = ['='] := by
      rw [← List.append_cancel_right_eq, htail, List.singleton_append]
    rw [hread, List.singleton_append, hjoined]
  · have hne : ∀ d ∈ (read ++ after).head?, decide (d = '=') = false := by
      intro d hd
      rw [decide_eq_false_iff_not]
      rintro rfl
      exact hhead hd
    rw [takeSymbol_of_head_ne hne] at h
    obtain ⟨rfl, rfl⟩ := hread h
    exact takeSymbol_of_head_ne (hresumes.head rfl hne)

theorem cut_of_resumes {p : Char → Bool} {run : List Char} (hblank : p ' ' = false)
    (h : (run ++ after).dropWhile p = after) (hresumes : Resumes after' after) :
    (run ++ after').takeWhile p = (run ++ after).takeWhile p ∧
      (run ++ after').dropWhile p = after' := by
  obtain ⟨hrun, hafter⟩ := run_of_dropWhile h
  obtain ⟨htake, hdrop⟩ := cut_between hrun (hresumes.head hblank hafter)
  rw [htake, hdrop, (cut_between hrun hafter).1]
  exact ⟨rfl, rfl⟩

/-- A lexeme is the same whichever of two texts stands behind it. -/
theorem take_of_resumes (h : take c (read ++ after) = (lexeme, after))
    (hresumes : Resumes after' after) : take c (read ++ after') = (lexeme, after') := by
  rcases take_cases c with htext | ⟨-, hnumber⟩ | ⟨-, hword⟩ | hsymbol
  · rw [htext] at h ⊢
    exact takeText_of_resumes h hresumes
  · rw [hnumber, takeNumber, ← List.cons_append] at h ⊢
    obtain ⟨hlexeme, hdrop⟩ := Prod.mk.inj h
    obtain ⟨htake, hdrop'⟩ := cut_of_resumes (by decide) hdrop hresumes
    rw [htake, hdrop', hlexeme]
  · rw [hword, takeWord, ← List.cons_append] at h ⊢
    obtain ⟨hlexeme, hdrop⟩ := Prod.mk.inj h
    obtain ⟨htake, hdrop'⟩ := cut_of_resumes (by decide) hdrop hresumes
    rw [htake, hdrop', hlexeme]
  · rw [hsymbol] at h ⊢
    exact takeSymbol_of_resumes h hresumes

end

end Lexeme

/-! ## Texts lexeme by lexeme -/

theorem lexeme_induction {motive : List Char → Prop} (nil : motive [])
    (blank : ∀ c rest, isBlank c → motive rest → motive (c :: rest))
    (lexeme : ∀ c read after lexeme, isBlank c = false →
      Lexeme.take c (read ++ after) = (lexeme, after) → motive after →
      motive (c :: (read ++ after))) (cs : List Char) : motive cs := by
  match cs with
  | [] => exact nil
  | c :: rest =>
    by_cases hc : isBlank c
    · exact blank c rest hc (lexeme_induction nil blank lexeme rest)
    · obtain ⟨read, hread⟩ := Lexeme.take_suffix c rest
      have hshort := Lexeme.length_take_le c rest
      have hafter := lexeme_induction nil blank lexeme (Lexeme.take c rest).2
      have hall := lexeme c read (Lexeme.take c rest).2 (Lexeme.take c rest).1
        (Bool.not_eq_true _ ▸ hc) (by rw [hread]) hafter
      rwa [hread] at hall
termination_by cs.length

end RecordRules
