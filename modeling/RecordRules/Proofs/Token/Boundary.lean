import RecordRules.Proofs.Text.Cut
import RecordRules.Proofs.Text.Pieces
import RecordRules.Token.Lexer

/-!
# Boundaries between lexemes

A text may be cut into lexemes piece by piece wherever no lexeme runs over the place
where the pieces meet: the piece before it leaves no quoted text open, and what follows
starts with a character that continues neither a word, nor a number, nor an operator.

* `lexemes_append`: the lexemes of two pieces that meet at such a place;
* `ofLexemes_append`: the tokens of two lists of lexemes.
-/

namespace RecordRules

open Text

namespace Lexeme

/-- Every lexeme but a quoted text that is never closed. -/
def Complete (lexeme : Lexeme) : Prop := ∀ content, lexeme ≠ .unclosed content

/-- A text that no complete lexeme before it runs into. -/
def Separate (cs : List Char) : Prop := ∀ c ∈ cs.head?, continuesNumber c = false ∧ c ≠ '='

theorem separate_cons {c : Char} {cs : List Char} (hc : continuesNumber c = false)
    (heq : c ≠ '=') : Separate (c :: cs) := by
  intro first hfirst
  cases hfirst
  exact ⟨hc, heq⟩

theorem separate_blank (cs : List Char) : Separate (' ' :: cs) :=
  separate_cons (by decide) (by decide)

theorem separate_closing (cs : List Char) : Separate (')' :: cs) :=
  separate_cons (by decide) (by decide)

theorem continuesWord_eq_false {c : Char} (h : continuesNumber c = false) :
    continuesWord c = false := (Bool.or_eq_false_iff.1 h).1

section

variable {c : Char} {rest right : List Char}

theorem takeText_append (hcomplete : (takeText rest).1.Complete) :
    takeText (rest ++ right) = ((takeText rest).1, (takeText rest).2 ++ right) := by
  cases hdrop : rest.dropWhile (· ≠ '\x27') with
  | nil =>
    have hopen : (takeText rest).1 = .unclosed (.ofList (rest.takeWhile (· ≠ '\x27'))) := by
      rw [takeText, hdrop]
    exact absurd hopen (hcomplete _)
  | cons quote after =>
    obtain ⟨hnot, hrest⟩ := eq_append_of_dropWhile hdrop
    rw [hrest]
    generalize rest.takeWhile (· ≠ '\x27') = before at *
    obtain ⟨htake, hafter⟩ := cut_at hnot after
    obtain ⟨htake', hafter'⟩ := cut_at hnot (after ++ right)
    rw [List.append_assoc, List.cons_append, takeText, htake', hafter', takeText, htake, hafter]

theorem takeSymbol_append (hright : Separate right) :
    takeSymbol c (rest ++ right) = ((takeSymbol c rest).1, (takeSymbol c rest).2 ++ right) := by
  have hne : ∀ tail, right ≠ '=' :: tail := by
    rintro tail rfl
    exact (hright '=' rfl).2 rfl
  cases rest with
  | nil =>
    cases right with
    | nil => rw [List.append_nil, List.append_nil]
    | cons first right =>
      rw [List.nil_append]
      unfold takeSymbol
      split <;> simp_all
  | cons second rest =>
    rw [List.cons_append]
    unfold takeSymbol
    split <;> simp_all

/-- What follows a complete lexeme does not change it. -/
theorem take_append (hcomplete : (take c rest).1.Complete) (hright : Separate right) :
    take c (rest ++ right) = ((take c rest).1, (take c rest).2 ++ right) := by
  have hnumber (c) (hc : c ∈ right.head?) : continuesNumber c = false := (hright c hc).1
  have hword (c) (hc : c ∈ right.head?) : continuesWord c = false :=
    continuesWord_eq_false (hnumber c hc)
  unfold take at hcomplete ⊢
  split
  · next hquote =>
    rw [if_pos hquote] at hcomplete
    exact takeText_append hcomplete
  split
  · obtain ⟨htake, hdrop⟩ := cut_append (c :: rest) hnumber
    rw [takeNumber, ← List.cons_append, htake, hdrop]
    rfl
  split
  · obtain ⟨htake, hdrop⟩ := cut_append (c :: rest) hword
    rw [takeWord, ← List.cons_append, htake, hdrop]
    rfl
  · exact takeSymbol_append hright

end

end Lexeme

/-! ## Lexemes of a text in pieces -/

section

variable {cs left right rest : List Char} {c : Char}

theorem lexemes_of_dropBlank_nil (h : dropBlank cs = []) : lexemes cs = [] := by
  rw [lexemes]
  split
  · rfl
  · next hcons =>
    rw [h] at hcons
    cases hcons

theorem lexemes_of_dropBlank_cons (h : dropBlank cs = c :: rest) :
    lexemes cs = (Lexeme.take c rest).1 :: lexemes (Lexeme.take c rest).2 := by
  rw [lexemes]
  split
  · next hnil =>
    rw [h] at hnil
    cases hnil
  · next hcons =>
    rw [h] at hcons
    cases hcons
    rfl

theorem isBlank_of_dropBlank_cons (h : dropBlank cs = c :: rest) : isBlank c = false := by
  have hc : c ∈ (dropBlank cs).head? := by rw [h]; rfl
  exact isBlank_of_mem_head?_dropBlank hc

theorem lexemes_cons (h : isBlank c = false) :
    lexemes (c :: rest) = (Lexeme.take c rest).1 :: lexemes (Lexeme.take c rest).2 := by
  apply lexemes_of_dropBlank_cons
  rw [dropBlank, List.dropWhile_cons_of_neg (by simp [h])]

theorem lexemes_dropBlank (cs : List Char) : lexemes (dropBlank cs) = lexemes cs := by
  cases h : dropBlank cs with
  | nil => rw [lexemes_of_dropBlank_nil h, lexemes_of_dropBlank_nil rfl]
  | cons c rest =>
    rw [lexemes_of_dropBlank_cons h, lexemes_cons (isBlank_of_dropBlank_cons h)]

theorem lexemes_cons_of_isBlank (h : isBlank c) : lexemes (c :: rest) = lexemes rest := by
  rw [← lexemes_dropBlank (c :: rest), ← lexemes_dropBlank rest]
  congr 1
  exact List.dropWhile_cons_of_pos h

theorem lexemes_append_of_cons (h : dropBlank left = c :: rest)
    (hcomplete : (Lexeme.take c rest).1.Complete) (hright : Lexeme.Separate right) :
    lexemes (left ++ right) =
      (Lexeme.take c rest).1 :: lexemes ((Lexeme.take c rest).2 ++ right) := by
  have happend : dropBlank (left ++ right) = c :: (rest ++ right) := by
    rw [dropBlank, List.dropWhile_append, ← dropBlank, h]
    rfl
  rw [lexemes_of_dropBlank_cons happend, Lexeme.take_append hcomplete hright]

/-- The lexemes of two pieces, if no lexeme runs over the place where they meet. -/
theorem lexemes_append (hleft : ∀ lexeme ∈ lexemes left, lexeme.Complete)
    (hright : Lexeme.Separate right) :
    lexemes (left ++ right) = lexemes left ++ lexemes right := by
  induction left using lexemes.induct with
  | case1 left hnil =>
    have hall : ∀ c ∈ left, isBlank c := List.dropWhile_eq_nil_iff.1 hnil
    rw [lexemes_of_dropBlank_nil hnil, List.nil_append, ← lexemes_dropBlank (left ++ right),
      dropBlank, List.dropWhile_append_of_pos hall]
    exact lexemes_dropBlank right
  | case2 left c rest hcons taken ih =>
    rw [lexemes_of_dropBlank_cons hcons] at hleft ⊢
    have htaken : (Lexeme.take c rest).1.Complete := hleft _ List.mem_cons_self
    have hrest := ih fun lexeme hmem => hleft lexeme (List.mem_cons_of_mem _ hmem)
    rw [lexemes_append_of_cons hcons htaken hright, List.cons_append]
    exact congrArg _ hrest

theorem prefix_lexemes_append {before : List Lexeme} (hbefore : before <+: lexemes left)
    (hcomplete : ∀ lexeme ∈ before, lexeme.Complete) (hright : Lexeme.Separate right) :
    before <+: lexemes (left ++ right) := by
  induction before generalizing left with
  | nil => exact List.nil_prefix
  | cons first before ih =>
    cases hdrop : dropBlank left with
    | nil =>
      rw [lexemes_of_dropBlank_nil hdrop, List.prefix_nil] at hbefore
      cases hbefore
    | cons c rest =>
      rw [lexemes_of_dropBlank_cons hdrop] at hbefore
      obtain ⟨rfl, hrest⟩ := List.cons_prefix_cons.1 hbefore
      obtain ⟨hfirst, hmore⟩ := List.forall_mem_cons.1 hcomplete
      rw [lexemes_append_of_cons hdrop hfirst hright]
      exact List.cons_prefix_cons.2 ⟨rfl, ih hrest hmore⟩

theorem lexemes_append_of_eq_map {tokens : List Token} (hleft : lexemes left = tokens.map .token)
    (hright : Lexeme.Separate right) :
    lexemes (left ++ right) = tokens.map .token ++ lexemes right := by
  have hcomplete : ∀ lexeme ∈ lexemes left, lexeme.Complete := by
    rw [hleft]
    intro lexeme hmem
    obtain ⟨token, -, rfl⟩ := List.mem_map.1 hmem
    exact nofun
  rw [lexemes_append hcomplete hright, hleft]

theorem lexemes_append_blank (tokens : List Token) (hleft : lexemes left = tokens.map .token)
    (right : List Char) : lexemes (left ++ ' ' :: right) = tokens.map .token ++ lexemes right := by
  rw [lexemes_append_of_eq_map hleft (Lexeme.separate_blank right),
    lexemes_cons_of_isBlank (by decide)]

end

/-! ## Tokens of lexemes -/

namespace Token

section

variable {lenient : Bool} {lexeme : Lexeme} {lexemes left : List Lexeme} {tokens : List Token}

theorem ofLexemes_cons (h : ofLexemes lenient (lexeme :: lexemes) = .ok tokens) :
    (∃ token more, lexeme = .token token ∧ ofLexemes lenient lexemes = .ok more ∧
        tokens = token :: more) ∨
      ∃ c, lexeme = .stray c ∧ lenient = true ∧ ofLexemes lenient lexemes = .ok tokens := by
  cases lexeme with
  | token token =>
    rw [ofLexemes] at h
    cases hmore : ofLexemes lenient lexemes with
    | error e =>
      rw [hmore] at h
      cases h
    | ok more =>
      rw [hmore] at h
      cases h
      exact .inl ⟨token, more, rfl, rfl, rfl⟩
  | stray c =>
    rw [ofLexemes] at h
    split at h
    · next hlenient => exact .inr ⟨c, rfl, hlenient, h⟩
    · cases h
  | unclosed content => cases h

theorem ofLexemes_append (h : ofLexemes lenient left = .ok tokens) (right : List Lexeme) :
    ofLexemes lenient (left ++ right) = (ofLexemes lenient right).map (tokens ++ ·) := by
  induction left generalizing tokens with
  | nil =>
    cases h
    rw [List.nil_append]
    cases ofLexemes lenient right <;> rfl
  | cons lexeme left ih =>
    rcases ofLexemes_cons h with ⟨token, more, rfl, hmore, rfl⟩ | ⟨c, rfl, hlenient, hrest⟩
    · rw [List.cons_append, ofLexemes, ih hmore]
      cases ofLexemes lenient right <;> rfl
    · rw [List.cons_append, ofLexemes, if_pos hlenient]
      exact ih hrest

theorem complete_of_ofLexemes (h : ofLexemes lenient lexemes = .ok tokens) :
    ∀ lexeme ∈ lexemes, lexeme.Complete := by
  induction lexemes generalizing tokens with
  | nil => simp
  | cons lexeme lexemes ih =>
    rcases ofLexemes_cons h with ⟨token, more, rfl, hmore, -⟩ | ⟨c, rfl, -, hrest⟩
    · exact List.forall_mem_cons.2 ⟨nofun, ih hmore⟩
    · exact List.forall_mem_cons.2 ⟨nofun, ih hrest⟩

theorem mem_of_ofLexemes (h : ofLexemes lenient lexemes = .ok tokens) {token : Token}
    (hmem : token ∈ tokens) : .token token ∈ lexemes := by
  induction lexemes generalizing tokens with
  | nil =>
    cases h
    cases hmem
  | cons lexeme lexemes ih =>
    rcases ofLexemes_cons h with ⟨first, more, rfl, hmore, rfl⟩ | ⟨c, rfl, -, hrest⟩
    · rcases List.mem_cons.1 hmem with rfl | hmem
      · exact List.mem_cons_self
      · exact List.mem_cons_of_mem _ (ih hmore hmem)
    · exact List.mem_cons_of_mem _ (ih hrest hmem)

end

theorem ofLexemes_map_token (lenient : Bool) (tokens : List Token) :
    ofLexemes lenient (tokens.map .token) = .ok tokens := by
  induction tokens with
  | nil => rfl
  | cons token tokens ih =>
    rw [List.map_cons, ofLexemes, ih]
    rfl

end Token

end RecordRules
