import RecordRules.Proofs.Text.Classes
import RecordRules.Proofs.Token.Boundary

/-!
# Shapes of tokens

`Token.WellFormed` says which words, numbers and texts a token may carry.  The tokens of
a text are well-formed (`wellFormed_of_mem_lexemes`), and a well-formed token alone is
read back from how it is written (`lexemes_shown`).  A space stops every one of them, so
that many are read back as one is (`lexemes_spaced`).
-/

namespace RecordRules

open Text

def IsWord (name : String) : Prop :=
  ∃ c rest, name.toList = c :: rest ∧ Lexeme.startsWord c ∧ ∀ d ∈ rest, Lexeme.continuesWord d

def IsName (name : String) : Prop := IsWord name ∧ name ≠ "AND" ∧ name ≠ "OR"

/-- Read as one number, be it well written or not. -/
def IsNumeral (digits : String) : Prop :=
  ∃ c rest, digits.toList = c :: rest ∧ c.isDigit ∧ ∀ d ∈ rest, Lexeme.continuesNumber d

def IsQuotable (content : String) : Prop := '\x27' ∉ content.toList

def Token.WellFormed : Token → Prop
  | .word name => IsName name
  | .number digits => IsNumeral digits
  | .text content => IsQuotable content
  | _ => True

namespace Lexeme

section

variable {c : Char} {rest : List Char} {token : Token}

theorem isBlank_of_startsWord (h : startsWord c) : isBlank c = false := by
  rw [Bool.eq_false_iff]
  intro hblank
  rcases Bool.or_eq_true_iff.1 h with halpha | hunderscore
  · rw [isAlphabetic_eq_false_of_isBlank hblank] at halpha
    cases halpha
  · rw [of_decide_eq_true hunderscore] at hblank
    exact absurd hblank (by decide)

theorem isDigit_of_startsWord (h : startsWord c) : c.isDigit = false := by
  rw [Bool.eq_false_iff]
  intro hdigit
  rcases Bool.or_eq_true_iff.1 h with halpha | hunderscore
  · rw [isAlphabetic_eq_false_of_isDigit hdigit] at halpha
    cases halpha
  · rw [of_decide_eq_true hunderscore] at hdigit
    exact absurd hdigit (by decide)

theorem take_of_isDigit (h : c.isDigit) : take c rest = takeNumber (c :: rest) := by
  have hquote : c ≠ '\x27' := by
    rintro rfl
    exact absurd h (by decide)
  rw [take, if_neg hquote, if_pos h]

theorem take_of_startsWord (h : startsWord c) : take c rest = takeWord (c :: rest) := by
  have hquote : c ≠ '\x27' := by
    rintro rfl
    exact absurd h (by decide)
  rw [take, if_neg hquote, isDigit_of_startsWord h, if_neg Bool.false_ne_true, if_pos h]

/-! ## Tokens of a text -/

theorem wellFormed_ofWord {name : String} (h : IsWord name) : (ofWord name).WellFormed := by
  unfold ofWord
  split
  · trivial
  split
  · trivial
  · next hand hor => exact ⟨h, hand, hor⟩

theorem wellFormed_of_takeSymbol (h : (takeSymbol c rest).1 = .token token) :
    token.WellFormed := by
  unfold takeSymbol at h
  split at h <;> cases h <;> trivial

theorem wellFormed_of_take (h : (take c rest).1 = .token token) : token.WellFormed := by
  unfold take at h
  split at h
  · unfold takeText at h
    dsimp only at h
    split at h
    · cases h
    · next quote after hdrop =>
      cases h
      have hnot := (eq_append_of_dropWhile hdrop).1
      rwa [← String.toList_ofList (l := rest.takeWhile (· ≠ '\x27'))] at hnot
  split at h
  · next hdigit =>
    cases h
    refine ⟨c, rest.takeWhile continuesNumber, ?_, hdigit, fun d => List.mem_takeWhile_imp⟩
    rw [String.toList_ofList, List.takeWhile_cons_of_pos (continuesNumber_of_isDigit hdigit)]
  split at h
  · next hstart =>
    cases h
    apply wellFormed_ofWord
    refine ⟨c, rest.takeWhile continuesWord, ?_, hstart, fun d => List.mem_takeWhile_imp⟩
    rw [String.toList_ofList, List.takeWhile_cons_of_pos (continuesWord_of_startsWord hstart)]
  · exact wellFormed_of_takeSymbol h

end

end Lexeme

theorem wellFormed_of_mem_lexemes {cs : List Char} {token : Token}
    (h : .token token ∈ lexemes cs) : token.WellFormed := by
  induction cs using lexemes.induct with
  | case1 cs hnil =>
    rw [lexemes_of_dropBlank_nil hnil] at h
    cases h
  | case2 cs c rest hcons taken ih =>
    rw [lexemes_of_dropBlank_cons hcons, List.mem_cons] at h
    rcases h with hfirst | hrest
    · exact Lexeme.wellFormed_of_take hfirst.symm
    · exact ih hrest

namespace Token

theorem wellFormed_of_scan {lenient : Bool} {text : String} {tokens : List Token}
    (h : scan lenient text = .ok tokens) {token : Token} (hmem : token ∈ tokens) :
    token.WellFormed :=
  wellFormed_of_mem_lexemes (mem_of_ofLexemes h hmem)

end Token

/-! ## Reading a token back -/

theorem lexemes_nil : lexemes [] = [] := lexemes_of_dropBlank_nil rfl

theorem lexemes_numeral {digits : String} (h : IsNumeral digits) :
    lexemes digits.toList = [.token (.number digits)] := by
  obtain ⟨c, rest, hdigits, hc, hrest⟩ := h
  have hall : ∀ d ∈ c :: rest, Lexeme.continuesNumber d :=
    List.forall_mem_cons.2 ⟨Lexeme.continuesNumber_of_isDigit hc, hrest⟩
  obtain ⟨htake, hdrop⟩ := cut_of_forall hall
  rw [hdigits, lexemes_cons (isBlank_eq_false_of_isDigit hc), Lexeme.take_of_isDigit hc,
    Lexeme.takeNumber, htake, hdrop, lexemes_nil, ← hdigits, String.ofList_toList]

theorem lexemes_word {name : String} (h : IsWord name) :
    lexemes name.toList = [.token (Lexeme.ofWord name)] := by
  obtain ⟨c, rest, hname, hc, hrest⟩ := h
  have hall : ∀ d ∈ c :: rest, Lexeme.continuesWord d :=
    List.forall_mem_cons.2 ⟨Lexeme.continuesWord_of_startsWord hc, hrest⟩
  obtain ⟨htake, hdrop⟩ := cut_of_forall hall
  rw [hname, lexemes_cons (Lexeme.isBlank_of_startsWord hc), Lexeme.take_of_startsWord hc,
    Lexeme.takeWord, htake, hdrop, lexemes_nil, ← hname, String.ofList_toList]

theorem lexemes_name {name : String} (h : IsName name) :
    lexemes name.toList = [.token (.word name)] := by
  rw [lexemes_word h.1, Lexeme.ofWord, if_neg h.2.1, if_neg h.2.2]

theorem lexemes_quoted {content : String} (h : IsQuotable content) :
    lexemes (quotedText content).toList = [.token (.text content)] := by
  have hquoted : (quotedText content).toList = '\x27' :: (content.toList ++ ['\x27']) := by
    simp [quotedText]
  obtain ⟨htake, hdrop⟩ := cut_at h []
  have htaken : Lexeme.take '\x27' (content.toList ++ ['\x27']) =
      (.token (.text content), []) := by
    rw [Lexeme.take, if_pos rfl, Lexeme.takeText, htake, hdrop, String.ofList_toList]
  rw [hquoted, lexemes_cons (by decide), htaken, lexemes_nil]

theorem lexemes_connective (connective : Connective) :
    lexemes connective.text.toList = [.token (.connective connective)] := by
  cases connective
  · exact lexemes_word ⟨'A', ['N', 'D'], rfl, by decide, List.all_eq_true.1 rfl⟩
  · exact lexemes_word ⟨'O', ['R'], rfl, by decide, List.all_eq_true.1 rfl⟩

theorem lexemes_comparator (comparator : Comparator) :
    lexemes comparator.text.toList = [.token (.comparator comparator)] := by
  cases comparator <;> exact (lexemes_cons rfl).trans (congrArg _ lexemes_nil)

theorem lexemes_opening (rest : List Char) :
    lexemes ('(' :: rest) = .token .opening :: lexemes rest := lexemes_cons rfl

theorem lexemes_closing (rest : List Char) :
    lexemes (')' :: rest) = .token .closing :: lexemes rest := lexemes_cons rfl

theorem lexemes_shown {token : Token} (h : token.WellFormed) :
    lexemes token.shown.toList = [.token token] := by
  cases token with
  | connective connective => exact lexemes_connective connective
  | comparator comparator => exact lexemes_comparator comparator
  | text content => exact lexemes_quoted h
  | number digits => exact lexemes_numeral h
  | word name => exact lexemes_name h
  | opening => exact (lexemes_opening []).trans (congrArg _ lexemes_nil)
  | closing => exact (lexemes_closing []).trans (congrArg _ lexemes_nil)

namespace Token

def spaced (tokens : List Token) : String := " ".intercalate (tokens.map shown)

theorem lexemes_spaced {tokens : List Token} (h : ∀ token ∈ tokens, token.WellFormed) :
    lexemes (spaced tokens).toList = tokens.map .token := by
  rw [spaced, String.toList_intercalate, List.map_map]
  induction tokens with
  | nil => exact lexemes_nil
  | cons token tokens ih =>
    obtain ⟨htoken, hrest⟩ := List.forall_mem_cons.1 h
    cases tokens with
    | nil =>
      rw [List.map_singleton, List.intercalate_singleton]
      exact lexemes_shown htoken
    | cons next tokens =>
      have hspace := lexemes_append_blank [token] (lexemes_shown htoken)
        ([' '].intercalate ((next :: tokens).map (String.toList ∘ shown)))
      rw [List.map_cons, List.map_cons, List.intercalate_cons_cons, List.append_assoc]
      exact hspace.trans (congrArg (Lexeme.token token :: ·) (ih hrest))

/-- Tokens are read back from how they are written, with single spaces between them, exactly
if they are well-formed.  So they are whenever a text has been read as these tokens, be it
strictly or leniently. -/
theorem scan_spaced (tokens : List Token) :
    (scan false (spaced tokens) = .ok tokens ↔ ∀ token ∈ tokens, token.WellFormed) ∧
      ∀ lenient text, scan lenient text = .ok tokens → scan false (spaced tokens) = .ok tokens := by
  have hback (h : ∀ token ∈ tokens, token.WellFormed) :
      scan false (spaced tokens) = .ok tokens := by
    rw [scan, lexemes_spaced h, ofLexemes_map_token]
  exact ⟨⟨fun h _ => wellFormed_of_scan h, hback⟩,
    fun _ _ h => hback fun _ => wellFormed_of_scan h⟩

example : scan false (spaced [.number "1.2.3", .word "or", .comparator .lt, .comparator .eq]) =
    .ok [.number "1.2.3", .word "or", .comparator .lt, .comparator .eq] := by decide +kernel

end Token

end RecordRules
