import Mathlib.Data.List.Induction
import RecordRules.Proofs.Rule.Refusal
import RecordRules.Proofs.Session

/-!
# Calls on one cursor

Expressions may be read from the same tokens one behind the other.  Each call goes on where
the one before it has stopped, be that behind an expression or in the middle of one that has
failed, and the comparisons of all of them are counted together.

* `run_suffix`, `le_count_run`: however a run ends, it has only gone forward;
* `expression_eq_ok_iff`, `longest_of_expression`: which tokens are read as a rule, and that
  they are the longest sentence there;
* `total_session_le`: all rules of a session together keep to the limit for one rule.
-/

namespace RecordRules.Rule

namespace Parser

/-! ## Runs go forward -/

section

variable {maxDepth count count' : Nat} {state state' : State} {token : Token}
  {tokens : List Token}

theorem le_count_of_fail {error : SyntaxError} {taken : Bool}
    (h : state.step maxDepth count token = .fail error count' taken) : count ≤ count' := by
  unfold State.step at h
  grind

theorem Move.le_count (h : Move maxDepth state count token state' count') : count ≤ count' := by
  cases h with
  | field => exact Nat.le_succ count
  | _ => exact Nat.le_refl count

theorem run_suffix (maxDepth : Nat) (state : State) (count : Nat) (tokens : List Token) :
    (state.run maxDepth count tokens).2.tokens <:+ tokens := by
  induction tokens generalizing state count with
  | nil => exact List.nil_suffix
  | cons token tokens ih =>
    rw [State.run]
    split
    · exact (ih _ _).trans (List.suffix_cons token tokens)
    · exact List.suffix_rfl
    · dsimp only
      split
      · exact List.suffix_cons token tokens
      · exact List.suffix_rfl

theorem le_count_run (maxDepth : Nat) (state : State) (count : Nat) (tokens : List Token) :
    count ≤ (state.run maxDepth count tokens).2.count := by
  induction tokens generalizing state count with
  | nil => exact Nat.le_refl count
  | cons token tokens ih =>
    rw [State.run]
    split
    · next hstep => exact (move_of_step hstep).le_count.trans (ih _ _)
    · exact Nat.le_refl count
    · next hstep => exact le_count_of_fail hstep

/-! ## Runs that succeed -/

/-- Behind a whole expression a run stops at once unless a connective follows. -/
theorem run_complete {rule : Rule} (h : ∀ c, tokens.head? ≠ some (.connective c)) :
    (State.complete rule []).run maxDepth count tokens = (.ok rule, ⟨tokens, count⟩) := by
  cases tokens with
  | nil => rfl
  | cons token tokens =>
    cases token with
    | connective c => exact absurd rfl (h c)
    | _ => rfl

end

/-! ## Calls -/

inductive Call where
  | expression
  /-- An expression that must reach the end of the tokens. -/
  | whole
  deriving DecidableEq

namespace Cursor

def handle (maxDepth : Nat) (cursor : Cursor) : Call → Except SyntaxError Rule × Cursor
  | .expression => cursor.expression maxDepth
  | .whole => cursor.whole maxDepth

def session (maxDepth : Nat) (tokens : List Token) (calls : List Call) :
    List (Except SyntaxError Rule) × Cursor :=
  serve (handle maxDepth) (ofTokens tokens) calls

def total (answers : List (Except SyntaxError Rule)) : Nat :=
  ((answers.filterMap Except.toOption).map comparisonCount).sum

section

variable {maxDepth : Nat} {cursor after : Cursor} {call : Call} {rule : Rule}
  {read : List Token}

/-- An expression is read exactly if a sentence is there that no connective follows, and that
is within the limits. -/
theorem expression_eq_ok_iff : cursor.expression maxDepth = (.ok rule, after) ↔
    ∃ read, cursor.tokens = read ++ after.tokens ∧ Derives .expression read rule ∧
      NestedWithin maxDepth read ∧ (∀ c, after.tokens.head? ≠ some (.connective c)) ∧
      after.count = cursor.count + rule.comparisonCount ∧ after.count ≤ maxComparisons := by
  constructor
  · intro h
    obtain ⟨read, htokens, hpath, hended⟩ := exists_path_of_run_eq_ok h
    exact ⟨read, htokens, hpath.derives, nestedFrom_zero_iff.1 (hpath.nestedFrom (Nat.zero_le _)),
      hended, hpath.count_complete⟩
  · rintro ⟨read, htokens, hrule, hnested, hended, hcount, hle⟩
    have hpath := hrule.path none [] cursor.count (fun _ => rfl)
      (nestedFrom_zero_iff.2 hnested) (hcount ▸ hle)
    rw [expression, htokens, State.start, run_append_of_path hpath, ← hcount]
    exact run_complete hended

theorem longest_of_expression (h : cursor.expression maxDepth = (.ok rule, after))
    (hread : cursor.tokens = read ++ after.tokens) {longer : List Token} {other : Rule}
    (hlonger : longer <+: cursor.tokens) (hother : Derives .expression longer other) :
    longer <+: read := by
  obtain ⟨before, htokens, hpath, hended⟩ := exists_path_of_run_eq_ok h
  obtain rfl : read = before := List.append_cancel_right (hread.symm.trans htokens)
  rcases List.prefix_or_prefix_of_prefix hlonger ⟨_, hread.symm⟩ with hprefix | ⟨more, rfl⟩
  · exact hprefix
  -- a run on the longer sentence stops where this one has, behind the shorter sentence
  have hmore : ∀ c, more.head? ≠ some (.connective c) := by
    rw [hread, List.prefix_append_right_inj] at hlonger
    obtain ⟨rest, hrest⟩ := hlonger
    intro c hc
    apply hended c
    rw [← hrest, List.head?_append, hc]
    rfl
  have hstop := run_append_of_path hpath more
  rw [run_complete hmore] at hstop
  rcases hother.path_or_limit none [] cursor.count (fun _ => rfl) with hwhole | ⟨error, -, hrun⟩
  · have hend := run_append_of_path hwhole []
    rw [List.append_nil] at hend
    have hnil : more = [] := congrArg (·.2.tokens) (hstop.symm.trans hend)
    exact ⟨[], by rw [hnil, List.append_nil, List.append_nil]⟩
  · have herror := hrun []
    rw [List.append_nil] at herror
    cases (congrArg Prod.fst hstop).symm.trans herror

theorem handle_snd (maxDepth : Nat) (cursor : Cursor) (call : Call) :
    (cursor.handle maxDepth call).2 = (cursor.expression maxDepth).2 := by
  cases call with
  | expression => rfl
  | whole =>
    rw [handle, whole]
    split
    · next hrun => split <;> rw [hrun]
    · rfl

theorem expression_of_handle (h : (cursor.handle maxDepth call).1 = .ok rule) :
    cursor.expression maxDepth = (.ok rule, (cursor.handle maxDepth call).2) ∧
      (call = .whole → (cursor.handle maxDepth call).2.tokens = []) := by
  cases call with
  | expression => exact ⟨Prod.ext h rfl, nofun⟩
  | whole =>
    rw [handle, whole] at h ⊢
    split at h
    · next found left hrun =>
      split at h
      · next hnil =>
        cases h
        exact ⟨hrun, fun _ => hnil⟩
      · cases h
    · next hfail => exact (hfail rule _ (Prod.ext h rfl)).elim

theorem handle_suffix (maxDepth : Nat) (cursor : Cursor) (call : Call) :
    (cursor.handle maxDepth call).2.tokens <:+ cursor.tokens := by
  rw [handle_snd]
  exact run_suffix maxDepth .start cursor.count cursor.tokens

theorem le_count_handle (maxDepth : Nat) (cursor : Cursor) (call : Call) :
    cursor.count ≤ (cursor.handle maxDepth call).2.count := by
  rw [handle_snd]
  exact le_count_run maxDepth .start cursor.count cursor.tokens

/-! ## Sessions -/

theorem total_concat (answers : List (Except SyntaxError Rule)) (answer : Except SyntaxError Rule) :
    total (answers ++ [answer]) =
      total answers + (answer.toOption.elim 0 comparisonCount) := by
  rw [total, filterMap_concat, List.map_append, List.sum_append, total]
  cases answer <;> rfl

theorem session_suffix (maxDepth : Nat) (tokens : List Token) (calls : List Call) :
    (session maxDepth tokens calls).2.tokens <:+ tokens :=
  serve_invariant (·.tokens <:+ tokens)
    (fun cursor call h => (handle_suffix maxDepth cursor call).trans h) List.suffix_rfl calls

/-- What is counted covers the rules that were answered, and these stay within the limit even
when more has been counted. -/
theorem total_session_le (maxDepth : Nat) (tokens : List Token) (calls : List Call) :
    total (session maxDepth tokens calls).1 ≤ (session maxDepth tokens calls).2.count ∧
      total (session maxDepth tokens calls).1 ≤ maxComparisons := by
  induction calls using List.reverseRecOn with
  | nil => exact ⟨Nat.zero_le _, Nat.zero_le _⟩
  | append_singleton calls call ih =>
    rw [session, serve_concat, ← session]
    generalize session maxDepth tokens calls = before at ih ⊢
    obtain ⟨answers, cursor⟩ := before
    obtain ⟨htotal, hlimit⟩ := ih
    dsimp only at htotal hlimit ⊢
    rw [total_concat]
    cases hanswer : (cursor.handle maxDepth call).1 with
    | error error =>
      have hcount := le_count_handle maxDepth cursor call
      exact ⟨htotal.trans hcount, hlimit⟩
    | ok rule =>
      obtain ⟨-, -, -, -, -, hcount, hle⟩ :=
        expression_eq_ok_iff.1 (expression_of_handle hanswer).1
      have hrule : total answers + rule.comparisonCount ≤
          (cursor.handle maxDepth call).2.count := by omega
      exact ⟨hrule, hrule.trans hle⟩

/-- Whatever calls were made on a cursor before, and whether they failed or not, a further call
goes forward and not past the end.  If it gives a rule, the tokens that it has gone past are a
sentence for it, and the longest one there; no connective follows them, and nothing at all if
the whole was asked for.  All rules given have no more comparisons than one rule may have. -/
theorem session_reads_sentences (maxDepth : Nat) (tokens : List Token) (calls : List Call)
    (call : Call) :
    let cursor := (session maxDepth tokens calls).2
    let after := (cursor.handle maxDepth call).2
    (after.tokens <:+ cursor.tokens ∧ cursor.tokens <:+ tokens) ∧
      (∀ rule, (cursor.handle maxDepth call).1 = .ok rule →
        (∃ read, cursor.tokens = read ++ after.tokens ∧ Derives .expression read rule ∧
          NestedWithin maxDepth read ∧
          ∀ longer other, longer <+: cursor.tokens → Derives .expression longer other →
            longer <+: read) ∧
        (∀ c, after.tokens.head? ≠ some (.connective c)) ∧
        (call = .whole → after.tokens = [])) ∧
      total (session maxDepth tokens calls).1 ≤ 4096 := by
  intro cursor after
  refine ⟨⟨handle_suffix maxDepth cursor call, session_suffix maxDepth tokens calls⟩, ?_,
    (total_session_le maxDepth tokens calls).2⟩
  intro rule hrule
  obtain ⟨hexpression, hwhole⟩ := expression_of_handle hrule
  obtain ⟨read, hread, hderives, hnested, hended, -⟩ := expression_eq_ok_iff.1 hexpression
  exact ⟨⟨read, hread, hderives, hnested,
    fun longer other => longest_of_expression hexpression hread⟩, hended, hwhole⟩

example :
    session 0 [.word "a", .comparator .lt, .comparator .eq, .word "b", .comparator .eq, .word "c"]
        [.expression, .whole] =
      ([.error (.unexpected .literal (.comparator .eq)), .ok (comparison "b" .eq (.text "c"))],
        ⟨[], 2⟩) := by
  decide +kernel

end

end Cursor

end Parser

end RecordRules.Rule
