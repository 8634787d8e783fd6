import RecordRules.Proofs.Token.Continuation
import RecordRules.Proofs.Token.Outcomes

/-!
# Lenient readings

A lenient reading drops the characters that start no token, as if blanks stood there.  Which
these are depends on what stands around them: an exclamation mark is one unless an equality
sign follows, a point unless it is inside a number, and within quotes there is none.

* `marked`: the characters of a text, those that are dropped told apart;
* `lexemes_blanked`: no lexeme changes where a blank takes the place of a character that is
  dropped;
* `dropped_eq_filterMap`, `filter_outcomes`: what a strict reading reports besides the
  outcomes of the lenient one.
-/

namespace RecordRules

open Text

def Lexeme.isStray : Lexeme → Bool
  | .stray _ => true
  | _ => false

/-! ## Characters that are dropped -/

/-- The characters of a text, each with whether a lenient reading drops it. -/
def marked : List Char → List (Char × Bool)
  | [] => []
  | c :: rest =>
    if isBlank c then (c, false) :: marked rest
    else
      let taken := Lexeme.take c rest
      let inside := rest.take (rest.length - taken.2.length)
      (c, taken.1.isStray) :: (inside.map (·, false) ++ marked taken.2)
termination_by cs => cs.length
decreasing_by
  · exact Nat.lt_succ_self _
  · exact Nat.lt_succ_of_le (Lexeme.length_take_le c rest)

def blanked (cs : List Char) : List Char :=
  (marked cs).map fun mark => if mark.2 then ' ' else mark.1

def dropped (cs : List Char) : List Char :=
  (marked cs).filterMap fun mark => if mark.2 then some mark.1 else none

section

variable {c : Char} {read after : List Char} {lexeme : Lexeme}

theorem marked_of_isBlank (h : isBlank c) : marked (c :: after) = (c, false) :: marked after := by
  rw [marked, if_pos h]

theorem marked_of_take (hc : isBlank c = false)
    (h : Lexeme.take c (read ++ after) = (lexeme, after)) :
    marked (c :: (read ++ after)) =
      (c, lexeme.isStray) :: (read.map (·, false) ++ marked after) := by
  rw [marked, if_neg (Bool.eq_false_iff.1 hc), h]
  simp

theorem map_fst_marked (cs : List Char) : (marked cs).map Prod.fst = cs := by
  induction cs using lexeme_induction with
  | nil => rw [marked, List.map_nil]
  | blank c rest hc ih => rw [marked_of_isBlank hc, List.map_cons, ih]
  | lexeme c read after lexeme hc htake ih =>
    rw [marked_of_take hc htake, List.map_cons, List.map_append, ih, List.map_map]
    simp [Function.comp_def]

theorem blanked_of_isBlank (h : isBlank c) : blanked (c :: after) = c :: blanked after := by
  rw [blanked, marked_of_isBlank h]
  rfl

theorem blanked_of_take (hc : isBlank c = false)
    (h : Lexeme.take c (read ++ after) = (lexeme, after)) :
    blanked (c :: (read ++ after)) =
      (if lexeme.isStray then ' ' else c) :: (read ++ blanked after) := by
  rw [blanked, marked_of_take hc h]
  simp [blanked, Function.comp_def]

theorem resumes_blanked (cs : List Char) : Lexeme.Resumes (blanked cs) cs := by
  cases cs using lexeme_induction with
  | nil => exact .inl (by rw [blanked, marked, List.map_nil])
  | blank c rest hc => exact .inl (by rw [blanked_of_isBlank hc]; rfl)
  | lexeme c read after lexeme hc htake =>
    rw [blanked_of_take hc htake]
    split
    · exact .inr ⟨nofun, rfl⟩
    · exact .inl rfl

/-! ## What the lexer makes of them -/

theorem eq_nil_of_take_stray (h : Lexeme.take c (read ++ after) = (lexeme, after))
    (hstray : lexeme.isStray) : lexeme = .stray c ∧ read = [] := by
  cases lexeme with
  | stray d =>
    obtain ⟨rfl, hafter⟩ := Lexeme.eq_of_take_stray (congrArg Prod.fst h)
    rw [h] at hafter
    exact ⟨rfl, List.append_left_eq_self.1 hafter.symm⟩
  | _ => cases hstray

/-- The lexemes that a lenient reading keeps are those of the text in which what it drops
is blank. -/
theorem lexemes_blanked (cs : List Char) :
    lexemes (blanked cs) = (lexemes cs).filter fun lexeme => !lexeme.isStray := by
  induction cs using lexeme_induction with
  | nil =>
    rw [blanked, marked, List.map_nil, lexemes_nil, List.filter_nil]
  | blank c rest hc ih =>
    rw [blanked_of_isBlank hc, lexemes_cons_of_isBlank hc, lexemes_cons_of_isBlank hc, ih]
  | lexeme c read after lexeme hc htake ih =>
    rw [blanked_of_take hc htake, lexemes_cons hc, htake, List.filter_cons, ← ih]
    cases hstray : lexeme.isStray with
    | true =>
      obtain ⟨rfl, rfl⟩ := eq_nil_of_take_stray htake hstray
      rw [if_pos rfl]
      exact lexemes_cons_of_isBlank (by decide)
    | false =>
      have htake' := Lexeme.take_of_resumes htake (resumes_blanked after)
      exact (lexemes_cons hc).trans (by rw [htake']; rfl)

end

namespace Token

def stray? : Except LexicalError Token → Option Char
  | .error (.stray c) => some c
  | _ => none

theorem dropped_eq_filterMap (cs : List Char) :
    dropped cs = (outcomes false cs).filterMap stray? := by
  induction cs using lexeme_induction with
  | nil => rw [dropped, marked, outcomes_eq_filterMap, lexemes_nil]; rfl
  | blank c rest hc ih =>
    rw [outcomes_eq_filterMap] at ih ⊢
    rw [dropped, marked_of_isBlank hc, lexemes_cons_of_isBlank hc, ← ih]
    rfl
  | lexeme c read after lexeme hc htake ih =>
    rw [outcomes_eq_filterMap] at ih ⊢
    have hinside : (read.map (·, false)).filterMap
        (fun mark : Char × Bool => if mark.2 then some mark.1 else none) = [] := by simp
    rw [dropped, marked_of_take hc htake, lexemes_cons hc, htake, List.filterMap_cons,
      List.filterMap_cons, List.filterMap_append, hinside, List.nil_append, ← dropped, ih]
    cases lexeme with
    | stray d =>
      obtain ⟨heq, -⟩ := eq_nil_of_take_stray htake rfl
      cases heq
      rfl
    | _ => rfl

theorem filter_outcomes (cs : List Char) :
    (outcomes false cs).filter (fun outcome => (stray? outcome).isNone) = outcomes true cs := by
  rw [outcomes_eq_filterMap, outcomes_eq_filterMap]
  induction lexemes cs with
  | nil => rfl
  | cons lexeme lexemes ih =>
    cases lexeme with
    | token token => exact congrArg (Except.ok token :: ·) ih
    | stray c => exact ih
    | unclosed content => exact congrArg (Except.error (.unclosed content) :: ·) ih

theorem ofLexemes_filter (lexemes : List Lexeme) :
    ofLexemes false (lexemes.filter fun lexeme => !lexeme.isStray) = ofLexemes true lexemes := by
  induction lexemes with
  | nil => rfl
  | cons lexeme lexemes ih =>
    cases lexeme with
    | token token => exact congrArg (Except.map (token :: ·)) ih
    | stray c => exact ih
    | unclosed content => rfl

theorem outcomes_lenient (cs : List Char) :
    ∃ tokens : List Token, outcomes true cs = tokens.map .ok ∨
      ∃ content, outcomes true cs = tokens.map .ok ++ [.error (.unclosed content)] := by
  rw [outcomes_eq_filterMap]
  induction cs using lexeme_induction with
  | nil => exact ⟨[], .inl (by rw [lexemes_nil]; rfl)⟩
  | blank c rest hc ih =>
    rw [lexemes_cons_of_isBlank hc]
    exact ih
  | lexeme c read after lexeme hc htake ih =>
    rw [lexemes_cons hc, htake, List.filterMap_cons]
    cases lexeme with
    | token token =>
      obtain ⟨tokens, htokens | ⟨content, hunclosed⟩⟩ := ih
      · exact ⟨token :: tokens, .inl (congrArg (Except.ok token :: ·) htokens)⟩
      · exact ⟨token :: tokens, .inr ⟨content, congrArg (Except.ok token :: ·) hunclosed⟩⟩
    | stray d => exact ih
    | unclosed content =>
      have hafter := Lexeme.eq_nil_of_take_unclosed (congrArg Prod.fst htake)
      rw [htake] at hafter
      dsimp only at hafter
      rw [hafter, lexemes_nil]
      exact ⟨[], .inr ⟨content, rfl⟩⟩

theorem mapM_id_eq_ok_iff {outcomes : List (Except LexicalError Token)} {tokens : List Token} :
    outcomes.mapM id = .ok tokens ↔ outcomes = tokens.map .ok := by
  rw [mapM_eq_ok_iff]
  constructor
  · intro h
    induction h with
    | nil => rfl
    | cons hfirst _ ih => exact congr (congrArg List.cons hfirst) ih
  · rintro rfl
    exact List.forall₂_map_left_iff.2 (List.forall₂_same.2 fun _ _ => rfl)

/-- A lenient reading takes what it drops for blanks: the text with a blank in the place of
every character that is dropped reads the same strictly.  Asking for the tokens one by one
in a strict reading reports just these characters, and else what a lenient reading gives,
which fails on a text that is never closed only. -/
theorem lenient_reads_strays_as_blanks (text : String) :
    let blank := String.ofList (blanked text.toList)
    (marked text.toList).map Prod.fst = text.toList ∧
      scan false blank = scan true text ∧
      (trace false text).filterMap stray? = dropped text.toList ∧
      (trace false text).filter (fun outcome => (stray? outcome).isNone) = trace true text ∧
      (∃ tokens : List Token, (trace true text = tokens.map .ok ∧ scan true text = .ok tokens) ∨
        ∃ content, trace true text = tokens.map .ok ++ [.error (.unclosed content)] ∧
          scan true text = .error (.unclosed content)) ∧
      ∀ tokens, scan false text = .ok tokens → scan true text = .ok tokens := by
  refine ⟨map_fst_marked _, ?_, (dropped_eq_filterMap _).symm, filter_outcomes _, ?_,
    fun tokens h => ?_⟩
  · rw [scan, String.toList_ofList, lexemes_blanked, ofLexemes_filter, scan]
  · obtain ⟨tokens, htokens | ⟨content, hunclosed⟩⟩ := outcomes_lenient text.toList
    · have hok := mapM_id_eq_ok_iff.2 htokens
      exact ⟨tokens, .inl ⟨htokens, (scan_eq_mapM_trace true text).trans hok⟩⟩
    · have htokens : ∀ outcome ∈ tokens.map Except.ok,
          ∃ token, id outcome = (.ok token : Except LexicalError Token) :=
        List.forall_mem_map.2 fun token _ => ⟨token, rfl⟩
      have herror : (trace true text).mapM id = .error (.unclosed content) := by
        rw [trace, hunclosed]
        exact mapM_eq_error htokens rfl []
      exact ⟨tokens, .inr ⟨content, hunclosed, (scan_eq_mapM_trace true text).trans herror⟩⟩
  · rw [scan_eq_mapM_trace, mapM_id_eq_ok_iff] at h ⊢
    rw [trace, ← filter_outcomes, ← trace, h, List.filter_eq_self]
    exact List.forall_mem_map.2 fun _ _ => rfl

example : dropped "a! != '!' . 1.5".toList = ['!', '.'] := by decide +kernel

end Token

end RecordRules
