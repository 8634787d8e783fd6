import RecordRules.Error
import RecordRules.Rule.Parser
import RecordRules.Whitelist

/-!
# Creating and combining rules

A rule is created by parsing its text and checking its fields against a whitelist.
Several texts are combined by joining them, each in parentheses, with `AND` and
creating the rule of the whole, so that a combined rule obeys the same limits as one
written by hand. A single text is taken as it is.
-/

namespace RecordRules.Rule

def create (whitelist : Whitelist) (options : ParseOptions) (text : String) :
    Except RuleError Rule :=
  match parse options text with
  | .error error => .error (.invalidSyntax error)
  | .ok rule =>
    match whitelist.firstUnknown? rule with
    | some field => .error (.unknownAttribute field)
    | none => .ok rule

section

variable {whitelist : Whitelist} {options : ParseOptions} {text : String}

theorem create_eq_ok_iff {rule : Rule} : create whitelist options text = .ok rule ↔
    parse options text = .ok rule ∧ whitelist.firstUnknown? rule = none := by
  unfold create
  cases hparse : parse options text with
  | error e => simp
  | ok found =>
    dsimp only
    cases hunknown : whitelist.firstUnknown? found with
    | some field =>
      simp only [reduceCtorEq, Except.ok.injEq, false_iff, not_and]
      rintro rfl
      rw [hunknown]
      exact nofun
    | none =>
      simp only [Except.ok.injEq, iff_self_and]
      rintro rfl
      exact hunknown

theorem create_eq_error_iff {error : RuleError} :
    create whitelist options text = .error error ↔
      (∃ cause, parse options text = .error cause ∧ error = .invalidSyntax cause) ∨
        ∃ rule field, parse options text = .ok rule ∧ whitelist.firstUnknown? rule = some field ∧
          error = .unknownAttribute field := by
  unfold create
  cases hparse : parse options text with
  | error cause => simp [eq_comm]
  | ok rule => cases hunknown : whitelist.firstUnknown? rule <;> simp [hunknown, eq_comm]

end

def conjunction (texts : List String) : String :=
  " AND ".intercalate (texts.map fun text => "(" ++ text ++ ")")

def combine (whitelist : Whitelist) (options : ParseOptions) :
    List String → Except RuleError Rule
  | [] => .error .nothingToCombine
  | [text] => create whitelist options text
  | texts => create whitelist options (conjunction texts)

end RecordRules.Rule
