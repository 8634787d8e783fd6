import RecordRules.Proofs.Rule.RefusedToken

/-!
# Raising the limit on nesting

A higher limit lets the parser take opening parentheses that it would refuse as too deep, and
has no other influence.

* `Path.raise`: a path under a limit is a path under a higher one;
* `Refusal.raise`: a token that is not too deep is refused under both, with the same error;
* `ofTokens_raise`: so the answers differ only where the lower limit is exceeded.
-/

namespace RecordRules.Rule

namespace Parser

section

variable {maxDepth deeper count count' : Nat} {state state' : State} {token : Token}
  {tokens : List Token} {error : SyntaxError}

theorem Move.raise (h : Move maxDepth state count token state' count')
    (hle : maxDepth ≤ deeper) : Move deeper state count token state' count' := by
  cases h with
  | opening hdepth => exact .opening (hdepth.trans hle)
  | field hcount => exact .field hcount
  | comparator => exact .comparator
  | literal hspelling => exact .literal hspelling
  | connective => exact .connective
  | closing => exact .closing

theorem Path.raise (h : Path maxDepth state count tokens state' count')
    (hle : maxDepth ≤ deeper) : Path deeper state count tokens state' count' := by
  induction h with
  | nil => exact .nil
  | cons hmove _ ih => exact .cons (hmove.raise hle) ih

theorem Refusal.raise (h : Refusal maxDepth state count token error) (deeper : Nat) :
    error = .tooDeep maxDepth ∨ Refusal deeper state count token error := by
  cases h with
  | operand hopening hword => exact .inr (.operand hopening hword)
  | tooDeep => exact .inl rfl
  | tooLong hcount => exact .inr (.tooLong hcount)
  | comparator hcomparator => exact .inr (.comparator hcomparator)
  | literal hliteral => exact .inr (.literal hliteral)
  | malformed hspelling => exact .inr (.malformed hspelling)
  | closing hclosing hconnective => exact .inr (.closing hclosing hconnective)
  | trailing hconnective => exact .inr (.trailing hconnective)

theorem Refusal.limit_eq {limit : Nat} (h : Refusal maxDepth state count token (.tooDeep limit)) :
    limit = maxDepth := by
  cases h
  rfl

end

end Parser

open Rule.Parser

section

variable {maxDepth deeper limit : Nat} {tokens : List Token} {options : ParseOptions}
  {text : String}

theorem ofTokens_raise (hle : maxDepth ≤ deeper) (tokens : List Token) :
    ofTokens maxDepth tokens = .error (.tooDeep maxDepth) ∨
      ofTokens deeper tokens = ofTokens maxDepth tokens := by
  rcases exists_path_or_refusal maxDepth .start 0 tokens with ⟨state, count, hpath⟩ |
    ⟨read, token, rest, rfl, state, count, error, hpath, hrefusal⟩
  · rw [ofTokens_of_path hpath, ofTokens_of_path (hpath.raise hle)]
    exact .inr rfl
  · rw [ofTokens_of_refusal hpath hrefusal]
    rcases hrefusal.raise deeper with rfl | hrefusal
    · exact .inl rfl
    · exact .inr (ofTokens_of_refusal (hpath.raise hle) hrefusal rest)

theorem limit_eq_of_ofTokens (h : ofTokens maxDepth tokens = .error (.tooDeep limit)) :
    limit = maxDepth := by
  rcases exists_path_or_refusal maxDepth .start 0 tokens with ⟨state, count, hpath⟩ |
    ⟨read, token, rest, rfl, state, count, error, hpath, hrefusal⟩
  · rw [ofTokens_of_path hpath] at h
    rcases atEnd_cases state with ⟨rule, hok⟩ | ⟨expected, hended⟩
    · cases hok.symm.trans h
    · cases hended.symm.trans h
  · rw [ofTokens_of_refusal hpath hrefusal] at h
    cases h
    exact hrefusal.limit_eq

theorem parse_raise (hle : maxDepth ≤ deeper) (lenient : Bool) (text : String) :
    parse ⟨maxDepth, lenient⟩ text = .error (.tooDeep maxDepth) ∨
      parse ⟨deeper, lenient⟩ text = parse ⟨maxDepth, lenient⟩ text := by
  cases hscan : Token.scan lenient text with
  | error error =>
    rw [parse, parse, hscan]
    exact .inr rfl
  | ok tokens =>
    have hanswer : parse ⟨maxDepth, lenient⟩ text = ofTokens maxDepth tokens := parse_of_scan hscan
    have hraised : parse ⟨deeper, lenient⟩ text = ofTokens deeper tokens := parse_of_scan hscan
    rw [hanswer, hraised]
    exact ofTokens_raise hle tokens

theorem limit_eq_of_parse (h : parse options text = .error (.tooDeep limit)) :
    limit = options.maxDepth := by
  cases hscan : Token.scan options.lenient text with
  | error error =>
    rw [parse, hscan] at h
    cases error <;> cases h
  | ok tokens =>
    rw [parse_of_scan hscan] at h
    exact limit_eq_of_ofTokens h

end

/-- Under a higher limit on nesting a text has the same answer, unless it is too deeply nested
for the lower limit, as it is if it is too deeply nested for the higher one. -/
theorem parse_of_raised_maxDepth (lenient : Bool) (text : String) (maxDepth deeper : Nat)
    (h : maxDepth ≤ deeper) :
    let answer := parse ⟨maxDepth, lenient⟩ text
    let raised := parse ⟨deeper, lenient⟩ text
    (answer ≠ .error (.tooDeep maxDepth) → raised = answer) ∧
      (raised = .error (.tooDeep deeper) → answer = .error (.tooDeep maxDepth)) := by
  intro answer raised
  rcases parse_raise h lenient text with hdeep | heq
  · exact ⟨fun hne => absurd hdeep hne, fun _ => hdeep⟩
  · refine ⟨fun _ => heq, fun hraised => ?_⟩
    have hanswer : answer = .error (.tooDeep deeper) := heq.symm.trans hraised
    rw [hanswer, limit_eq_of_parse hanswer]

/-- A missing comparator behind two parentheses is reported under a limit of two and of
three, three parentheses are too many for one and for two. -/
theorem parse_of_raised_maxDepth_two :
    parse ⟨2, false⟩ "((a = 1) OR b 2)" = .error (.unexpected .comparator (.number "2")) ∧
      parse ⟨3, false⟩ "((a = 1) OR b 2)" = .error (.unexpected .comparator (.number "2")) ∧
      parse ⟨2, true⟩ "(((a = 1) OR b 2))#" = .error (.tooDeep 2) ∧
      parse ⟨1, true⟩ "(((a = 1) OR b 2))#" = .error (.tooDeep 1) := by
  have hlow : parse ⟨2, false⟩ "((a = 1) OR b 2)" =
      .error (.unexpected .comparator (.number "2")) := by decide +kernel
  have hhigh : parse ⟨2, true⟩ "(((a = 1) OR b 2))#" = .error (.tooDeep 2) := by decide +kernel
  have hsame := (parse_of_raised_maxDepth false "((a = 1) OR b 2)" 2 3 (by decide)).1
    (by rw [hlow]; nofun)
  have hdeep := (parse_of_raised_maxDepth true "(((a = 1) OR b 2))#" 1 2 (by decide)).2 hhigh
  exact ⟨hlow, hsame.trans hlow, hhigh, hdeep⟩

end RecordRules.Rule
