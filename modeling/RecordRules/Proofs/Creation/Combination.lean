import RecordRules.Proofs.Creation.Conjunction
import RecordRules.Proofs.Rule.Refusal

/-!
# Combining rules that are accepted alone

The tokens of the joined text derive the conjunction of the rules (`derives_conjoined`),
so that only a limit can keep it from being read (`combine_of_create`).
-/

namespace RecordRules.Rule

open Rule.Parser

theorem derives_conjoined {tokens : List Token} {groups : List (List Token)} {rule : Rule}
    {rules : List Rule} (hrule : Derives .expression tokens rule)
    (hrules : List.Forall₂ (Derives .expression) groups rules) :
    Derives .expression (tokens ++ conjoined groups) (rules.foldl (operator .and) rule) := by
  induction hrules generalizing tokens rule with
  | nil => rwa [conjoined, List.flatMap_nil, List.append_nil]
  | cons hfirst _ ih =>
    rw [conjoined, List.flatMap_cons, ← List.append_assoc]
    exact ih (.chained hrule (.grouped hfirst))

section

variable {whitelist : Whitelist} {options : ParseOptions} {text : String} {rule : Rule}

theorem exists_derives_of_parse (h : parse options text = .ok rule) :
    ∃ tokens, Token.scan options.lenient text = .ok tokens ∧ Derives .expression tokens rule := by
  obtain ⟨tokens, count, hscan, hpath⟩ := exists_path_of_parse h
  exact ⟨tokens, hscan, hpath.derives⟩

theorem parse_conjunction_of_parse {texts : List String} {rules : List Rule}
    (hrule : parse options text = .ok rule)
    (hrules : List.Forall₂ (fun text rule => parse options text = .ok rule) texts rules) :
    parse options (conjunction (text :: texts)) = .ok (rules.foldl (operator .and) rule) ∨
      ∃ error, error.IsLimit options.maxDepth ∧
        parse options (conjunction (text :: texts)) = .error error := by
  obtain ⟨tokens, hscan, hderives⟩ := exists_derives_of_parse hrule
  obtain ⟨groups, hscans, hgroups⟩ :=
    exists_forall₂_between (hrules.imp fun _ _ => exists_derives_of_parse)
  have hall : Derives .expression (group tokens ++ conjoined groups) _ :=
    derives_conjoined (.single (.grouped hderives)) hgroups
  rw [parse_of_scan (scan_conjunction hscan hscans)]
  exact ofTokens_of_derives hall

/-- Texts that create rules by themselves create their conjunction, if no limit is in the
way. -/
theorem combine_of_create {texts : List String} {rules : List Rule}
    (h : List.Forall₂ (fun text rule => create whitelist options text = .ok rule) (text :: texts)
      (rule :: rules)) :
    combine whitelist options (text :: texts) = .ok (rules.foldl (operator .and) rule) ∨
      ∃ error, error.IsLimit options.maxDepth ∧
        combine whitelist options (text :: texts) = .error (.invalidSyntax error) := by
  have hfields : ∀ r ∈ rule :: rules, whitelist.firstUnknown? r = none :=
    forall_mem_right_of_forall₂ h fun _ _ hcreate => (create_eq_ok_iff.1 hcreate).2
  obtain ⟨hfirst, hrest⟩ := List.forall₂_cons.1 h
  cases texts with
  | nil =>
    cases hrest
    exact .inl hfirst
  | cons second texts =>
    have hparse := hrest.imp fun _ _ hcreate => (create_eq_ok_iff.1 hcreate).1
    rcases parse_conjunction_of_parse (create_eq_ok_iff.1 hfirst).1 hparse with
      hok | ⟨error, hlimit, herror⟩
    · exact .inl (create_eq_ok_iff.2 ⟨hok, firstUnknown?_foldl_eq_none_iff.2 hfields⟩)
    · refine .inr ⟨error, hlimit, ?_⟩
      change create whitelist options (conjunction (text :: second :: texts)) = _
      rw [create, herror]

end

end RecordRules.Rule
