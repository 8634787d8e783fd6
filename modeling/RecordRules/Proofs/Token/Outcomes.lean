import RecordRules.Proofs.Results
import RecordRules.Proofs.Token.Boundary

/-!
# Asking for tokens one by one

Whoever asks for one token after the other gets an outcome for every lexeme that the reading
does not pass over (`outcomes_eq_filterMap`), so that reading a text as a whole is asking
until the first error (`scan_eq_mapM_trace`).
-/

namespace RecordRules

open Text

namespace Token

def outcome? (lenient : Bool) : Lexeme → Option (Except LexicalError Token)
  | .token token => some (.ok token)
  | .stray c => if lenient then none else some (.error (.stray c))
  | .unclosed content => some (.error (.unclosed content))

theorem filterMap_lexemes (lenient : Bool) (cs : List Char) :
    (lexemes cs).filterMap (outcome? lenient) =
      match next? lenient cs with
      | none => []
      | some (outcome, after) => outcome :: (lexemes after).filterMap (outcome? lenient) := by
  fun_induction next? lenient cs with
  | case1 cs hnil => rw [lexemes_of_dropBlank_nil hnil, List.filterMap_nil]
  | case3 cs c rest hcons taken d hstray hlenient ih =>
    rw [lexemes_of_dropBlank_cons hcons, List.filterMap_cons, hstray, outcome?, if_pos hlenient]
    exact ih
  | case4 cs c rest hcons taken d hstray hstrict =>
    rw [lexemes_of_dropBlank_cons hcons, List.filterMap_cons, hstray, outcome?, if_neg hstrict]
  | case2 cs c rest hcons taken _ hlexeme | case5 cs c rest hcons taken _ hlexeme =>
    rw [lexemes_of_dropBlank_cons hcons, List.filterMap_cons, hlexeme, outcome?]

theorem outcomes_eq_filterMap (lenient : Bool) (cs : List Char) :
    outcomes lenient cs = (lexemes cs).filterMap (outcome? lenient) := by
  fun_induction outcomes lenient cs with
  | case1 cs hnone => rw [filterMap_lexemes, hnone]
  | case2 cs outcome after hsome ih => rw [filterMap_lexemes, hsome, ih]

theorem ofLexemes_eq_mapM (lenient : Bool) (lexemes : List Lexeme) :
    ofLexemes lenient lexemes = (lexemes.filterMap (outcome? lenient)).mapM id := by
  induction lexemes with
  | nil => rfl
  | cons lexeme lexemes ih =>
    cases lexeme with
    | token token =>
      rw [ofLexemes, ih, List.filterMap_cons, outcome?]
      dsimp only
      rw [List.mapM_cons]
      rfl
    | stray c =>
      rw [ofLexemes, List.filterMap_cons, outcome?]
      cases lenient with
      | true => exact ih
      | false => rfl
    | unclosed content => rfl

/-- To read a text is to ask for tokens until the end or the first error. -/
theorem scan_eq_mapM_trace (lenient : Bool) (text : String) :
    scan lenient text = (trace lenient text).mapM id := by
  rw [scan, trace, ofLexemes_eq_mapM, outcomes_eq_filterMap]

end Token

end RecordRules
