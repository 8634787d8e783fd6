import RecordRules.Creation
import RecordRules.Proofs.Results
import RecordRules.Proofs.Rule.Frame
import RecordRules.Proofs.Token.Shape

/-!
# Combined rules

Rules are combined as text, so the parentheses around a text hold it together only if
its own parentheses pair up and its quotes are closed: `SelfContained` says so.

* `scan_conjunction`: the tokens of the joined text are those of the texts in
  parentheses, if every text is self-contained;
* `Path.conjoined`: a parser that gets through them has read one rule for each text;
* `combine_eq_fold_iff`: a combined rule is the conjunction of the rules of its texts
  exactly if the texts are self-contained.
-/

namespace RecordRules.Rule

open Rule.Parser

/-- Cut into tokens by itself, and with parentheses that pair up among themselves. -/
def SelfContained (lenient : Bool) (text : String) : Prop :=
  ∃ tokens, Token.scan lenient text = .ok tokens ∧ Balanced tokens

/-! ## Lists in step -/

theorem exists_forall₂ {α β : Type} {r : α → β → Prop} {as : List α}
    (h : ∀ a ∈ as, ∃ b, r a b) : ∃ bs, List.Forall₂ r as bs := by
  induction as with
  | nil => exact ⟨[], .nil⟩
  | cons a as ih =>
    obtain ⟨hfirst, hrest⟩ := List.forall_mem_cons.1 h
    obtain ⟨b, hb⟩ := hfirst
    obtain ⟨bs, hbs⟩ := ih hrest
    exact ⟨b :: bs, .cons hb hbs⟩

theorem exists_forall₂_between {α β γ : Type} {r : α → β → Prop} {s : β → γ → Prop} {as : List α}
    {cs : List γ} (h : List.Forall₂ (fun a c => ∃ b, r a b ∧ s b c) as cs) :
    ∃ bs, List.Forall₂ r as bs ∧ List.Forall₂ s bs cs := by
  induction h with
  | nil => exact ⟨[], .nil, .nil⟩
  | cons hfirst _ ih =>
    obtain ⟨b, hb, hc⟩ := hfirst
    obtain ⟨bs, hbs, hcs⟩ := ih
    exact ⟨b :: bs, .cons hb hbs, .cons hc hcs⟩

theorem forall_mem_right_of_forall₂ {α β : Type} {r : α → β → Prop} {p : β → Prop} {as : List α}
    {bs : List β} (h : List.Forall₂ r as bs) (hr : ∀ a b, r a b → p b) : ∀ b ∈ bs, p b := by
  induction h with
  | nil => exact List.forall_mem_nil _
  | cons hfirst _ ih => exact List.forall_mem_cons.2 ⟨hr _ _ hfirst, ih⟩

theorem forall_mem_iff_of_forall₂ {α β : Type} {p : α → Prop} {q : β → Prop} {as : List α}
    {bs : List β} (h : List.Forall₂ (fun a b => p a ↔ q b) as bs) :
    (∀ a ∈ as, p a) ↔ ∀ b ∈ bs, q b := by
  induction h with
  | nil => simp
  | cons hfirst _ ih => rw [List.forall_mem_cons, List.forall_mem_cons, hfirst, ih]

/-! ## The joined text -/

def conjoined (groups : List (List Token)) : List Token :=
  groups.flatMap fun tokens => .connective .and :: group tokens

def joined (texts : List String) : List Char :=
  texts.flatMap fun text => ' ' :: 'A' :: 'N' :: 'D' :: ' ' :: '(' :: (text.toList ++ [')'])

theorem toList_conjunction (text : String) (texts : List String) :
    (conjunction (text :: texts)).toList = '(' :: (text.toList ++ ')' :: joined texts) := by
  rw [conjunction, List.map_cons]
  induction texts generalizing text with
  | nil => simp [joined]
  | cons next texts ih =>
    rw [List.map_cons, String.intercalate_cons_cons, String.toList_append, String.toList_append,
      ih next]
    simp [joined]

section

variable {lenient : Bool} {text : String} {tokens : List Token}

theorem ofLexemes_group (h : Token.scan lenient text = .ok tokens) (rest : List Char) :
    Token.ofLexemes lenient (lexemes ('(' :: (text.toList ++ ')' :: rest))) =
      (Token.ofLexemes lenient (lexemes rest)).map (group tokens ++ ·) := by
  have hcomplete := Token.complete_of_ofLexemes h
  rw [lexemes_opening, lexemes_append hcomplete (Lexeme.separate_closing rest), lexemes_closing,
    Token.ofLexemes, Token.ofLexemes_append h, Token.ofLexemes]
  cases Token.ofLexemes lenient (lexemes rest) with
  | error e => rfl
  | ok more => simp [Except.map, group]

theorem lexemes_and (rest : List Char) :
    lexemes (' ' :: 'A' :: 'N' :: 'D' :: ' ' :: rest) =
      .token (.connective .and) :: lexemes rest := by
  rw [lexemes_cons_of_isBlank (by decide)]
  exact lexemes_append_blank [.connective .and] (lexemes_connective .and) rest

theorem ofLexemes_joined {texts : List String} {groups : List (List Token)}
    (h : List.Forall₂ (fun text tokens => Token.scan lenient text = .ok tokens) texts groups) :
    Token.ofLexemes lenient (lexemes (joined texts)) = .ok (conjoined groups) := by
  induction h with
  | nil =>
    rw [joined, List.flatMap_nil, lexemes_nil]
    rfl
  | @cons text tokens texts groups hfirst _ ih =>
    have hjoined : joined (text :: texts) =
        ' ' :: 'A' :: 'N' :: 'D' :: ' ' :: '(' :: (text.toList ++ ')' :: joined texts) := by
      simp [joined]
    rw [hjoined, lexemes_and, Token.ofLexemes, ofLexemes_group hfirst, ih]
    rfl

theorem scan_conjunction {texts : List String} {groups : List (List Token)}
    (hfirst : Token.scan lenient text = .ok tokens)
    (hrest : List.Forall₂ (fun text tokens => Token.scan lenient text = .ok tokens) texts groups) :
    Token.scan lenient (conjunction (text :: texts)) = .ok (group tokens ++ conjoined groups) := by
  rw [Token.scan, toList_conjunction, ofLexemes_group hfirst, ofLexemes_joined hrest]
  rfl

end

/-! ## The parser on the joined text -/

section

variable {options : ParseOptions} {text : String} {texts : List String} {rule tree : Rule}

theorem Path.conjoined {count count' : Nat} {groups : List (List Token)}
    (hgroups : List.Forall₂ (fun text tokens => Balanced tokens ∧
      Token.scan options.lenient text = .ok tokens) texts groups)
    (h : Path options.maxDepth (.complete rule []) count (Rule.conjoined groups)
      (.complete tree []) count') :
    ∃ rules, List.Forall₂ (fun text rule => parse options text = .ok rule) texts rules ∧
      tree = rules.foldl (operator .and) rule := by
  induction hgroups generalizing rule count with
  | nil =>
    cases h
    exact ⟨[], .nil, rfl⟩
  | cons hfirst _ ih =>
    obtain ⟨hbalanced, hscan⟩ := hfirst
    rw [Rule.conjoined, List.flatMap_cons, List.cons_append] at h
    cases h with
    | cons hand hgroup =>
      cases hand
      obtain ⟨next, between, hnext, hmore⟩ := Path.group hbalanced hgroup
      obtain ⟨rules, hrules, htree⟩ := ih hmore
      rw [← parse_of_scan hscan] at hnext
      exact ⟨next :: rules, .cons hnext hrules, htree⟩

theorem selfContained_of_parse (h : parse options text = .ok rule) :
    SelfContained options.lenient text := by
  obtain ⟨tokens, count, hscan, hpath⟩ := exists_path_of_parse h
  exact ⟨tokens, hscan, hpath.balanced⟩

/-- A joined text that is a rule stands for the conjunction of its texts, if these are
self-contained. -/
theorem exists_parse_of_parse_conjunction
    (hcontained : ∀ t ∈ text :: texts, SelfContained options.lenient t)
    (h : parse options (conjunction (text :: texts)) = .ok tree) :
    ∃ first rest, List.Forall₂ (fun t rule => parse options t = .ok rule) (text :: texts)
      (first :: rest) ∧ tree = rest.foldl (operator .and) first := by
  obtain ⟨⟨tokens, hscan, hbalanced⟩, hrest⟩ := List.forall_mem_cons.1 hcontained
  obtain ⟨groups, hgroups⟩ := exists_forall₂ hrest
  have hscans := hgroups.imp fun _ _ => And.left
  rw [parse_of_scan (scan_conjunction hscan hscans)] at h
  obtain ⟨count, hpath⟩ := ofTokens_eq_ok_iff_exists_path.1 h
  obtain ⟨first, between, hfirst, hmore⟩ := Path.group hbalanced hpath
  obtain ⟨rest, hrules, htree⟩ := Path.conjoined (hgroups.imp fun _ _ => And.symm) hmore
  rw [← parse_of_scan hscan] at hfirst
  exact ⟨first, rest, .cons hfirst hrules, htree⟩

end

/-! ## Whitelists -/

section

variable {whitelist : Whitelist} {rule : Rule}

theorem firstUnknown?_operator_eq_none_iff {connective : Connective} {left right : Rule} :
    whitelist.firstUnknown? (operator connective left right) = none ↔
      whitelist.firstUnknown? left = none ∧ whitelist.firstUnknown? right = none := by
  rw [Whitelist.firstUnknown?]
  cases whitelist.firstUnknown? left <;> simp

theorem firstUnknown?_foldl_eq_none_iff {rules : List Rule} :
    whitelist.firstUnknown? (rules.foldl (operator .and) rule) = none ↔
      ∀ r ∈ rule :: rules, whitelist.firstUnknown? r = none := by
  induction rules generalizing rule with
  | nil => simp
  | cons next rules ih =>
    rw [List.foldl_cons, ih, List.forall_mem_cons, List.forall_mem_cons, List.forall_mem_cons,
      firstUnknown?_operator_eq_none_iff, and_assoc]

end

/-- A combined rule is the conjunction of the rules that its texts stand for by
themselves exactly if the texts are self-contained. -/
theorem combine_eq_fold_iff (whitelist : Whitelist) (options : ParseOptions) (texts : List String)
    (tree : Rule) (hlength : 2 ≤ texts.length) (h : combine whitelist options texts = .ok tree) :
    (∃ first rest, texts.mapM (create whitelist options) = .ok (first :: rest) ∧
        tree = rest.foldl (operator .and) first) ↔
      ∀ text ∈ texts, SelfContained options.lenient text := by
  constructor
  · rintro ⟨first, rest, hrules, -⟩
    have hcontained := (mapM_eq_ok_iff.1 hrules).imp fun text rule (hcreate : _ = Except.ok _) =>
      And.intro (selfContained_of_parse (create_eq_ok_iff.1 hcreate).1) hcreate
    exact ((List.forall₂_and_left _ _).1 hcontained).1
  · intro hcontained
    obtain ⟨text, next, texts, rfl⟩ : ∃ text next more, texts = text :: next :: more := by
      match texts, hlength with
      | text :: next :: more, _ => exact ⟨text, next, more, rfl⟩
    obtain ⟨hparse, hknown⟩ := create_eq_ok_iff.1 h
    obtain ⟨first, rest, hrules, rfl⟩ := exists_parse_of_parse_conjunction hcontained hparse
    have hfields := firstUnknown?_foldl_eq_none_iff.1 hknown
    have hboth := (List.forall₂_and_left _ _).2 ⟨hfields, hrules.flip⟩
    refine ⟨first, rest, mapM_eq_ok_iff.2 (hboth.flip.imp ?_), rfl⟩
    rintro text rule ⟨hknown, hparse⟩
    exact create_eq_ok_iff.2 ⟨hparse, hknown⟩

theorem combine_eq_fold_iff_grouped :
    let texts := ["age > 30 OR experience > 5", "department = 'Sales'"]
    let first := operator .or (comparison "age" .gt (.int 30))
      (comparison "experience" .gt (.int 5))
    let second := comparison "department" .eq (.text "Sales")
    combine (.ofNames defaultAttributes) {} texts = .ok (operator .and first second) ∧
      ∀ text ∈ texts, SelfContained false text := by
  intro texts first second
  have hcombine : combine (.ofNames defaultAttributes) {} texts =
      .ok (operator .and first second) := by decide +kernel
  have hcreate : texts.mapM (create (.ofNames defaultAttributes) {}) = .ok [first, second] := by
    decide +kernel
  have hlength : 2 ≤ texts.length := by decide
  exact ⟨hcombine, (combine_eq_fold_iff _ {} texts _ hlength hcombine).1
    ⟨first, [second], hcreate, rfl⟩⟩

/-- A text that closes the parenthesis around it turns the conjunction into a disjunction,
though it is no rule by itself. -/
theorem combine_unbalanced :
    let texts := ["department = 'Sales'", "age > 30) OR (experience > 5"]
    combine (.ofNames defaultAttributes) {} texts =
        .ok (operator .or
          (operator .and (comparison "department" .eq (.text "Sales"))
            (comparison "age" .gt (.int 30)))
          (comparison "experience" .gt (.int 5))) ∧
      create (.ofNames defaultAttributes) {} "age > 30) OR (experience > 5" =
        .error (.invalidSyntax (.trailing .closing)) ∧
      ¬∃ first rest, texts.mapM (create (.ofNames defaultAttributes) {}) = .ok (first :: rest) := by
  intro texts
  have hcreate : texts.mapM (create (.ofNames defaultAttributes) {}) =
      .error (.invalidSyntax (.trailing .closing)) := by decide +kernel
  refine ⟨by decide +kernel, by decide +kernel, ?_⟩
  rintro ⟨first, rest, hok⟩
  rw [hcreate] at hok
  cases hok

end RecordRules.Rule
