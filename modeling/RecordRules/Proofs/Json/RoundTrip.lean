import RecordRules.Json.Reader
import RecordRules.Proofs.Json.Spelling

/-!
# JSON read back

A value is read back from what it is written as, on one line or indented, if it has content and
its numbers are within the reach of the doubles (`Exact`).  Its `tokens` stand between the two:
the text spells them, and the reader builds the value of them.

* `spells_compact`, `spells_pretty`: what is written spells the tokens of the value;
* `run_tokens`: the reader makes the value of its tokens, wherever a value is due;
* `read?_compact`, `read?_pretty`: a value is read back.
-/

namespace RecordRules.Json

open Number

mutual

/-- Whether the text of a value tells all of it. -/
def Exact : Json → Prop
  | .integer value => (Double.ofNat value.natAbs).isFinite
  | .real value => value.isFinite
  | .array items => ItemsExact items
  | .object members => MembersExact members
  | .unreadable => False
  | .null | .bool _ | .string _ => True

def ItemsExact : List Json → Prop
  | [] => True
  | item :: rest => item.Exact ∧ ItemsExact rest

def MembersExact : List (String × Json) → Prop
  | [] => True
  | (_, value) :: rest => value.Exact ∧ MembersExact rest

end

theorem exact_array_iff {items : List Json} :
    (array items).Exact ↔ ∀ item ∈ items, item.Exact := by
  rw [Exact]
  induction items with
  | nil => simp [ItemsExact]
  | cons item items ih => rw [ItemsExact, ih, List.forall_mem_cons]

theorem exact_object_iff {members : List (String × Json)} :
    (object members).Exact ↔ ∀ member ∈ members, member.2.Exact := by
  rw [Exact]
  induction members with
  | nil => simp [MembersExact]
  | cons member members ih => rw [MembersExact, ih, List.forall_mem_cons]

theorem exact_int64 (value : Int64) : (integer value.toInt).Exact := by
  have hlow := value.le_toInt
  have hhigh := value.toInt_lt
  rw [Exact]
  exact Double.isFinite_ofNat (by omega)

/-! ## Tokens of a value -/

mutual

def tokens : Json → List Token
  | .string text => [.text (some text)]
  | .array items => .openArray :: ([Token.comma].intercalate (itemTokens items) ++ [.closeArray])
  | .object members =>
    .openObject :: ([Token.comma].intercalate (memberTokens members) ++ [.closeObject])
  | value => [.scalar value]

def itemTokens : List Json → List (List Token)
  | [] => []
  | item :: rest => item.tokens :: itemTokens rest

def memberTokens : List (String × Json) → List (List Token)
  | [] => []
  | (key, value) :: rest => (.text (some key) :: .colon :: value.tokens) :: memberTokens rest

end

/-! ## Building -/

namespace Build

theorem run_cons {build next : Build} {token : Token} (h : build.step token = some next)
    (rest : List Token) : run build (token :: rest) = run next rest := by
  rw [run, h]
  rfl

theorem finish_reverse_map (members : List (String × Json)) :
    finish (members.map (Prod.map some id)).reverse = .object members := by
  have hmembers : (members.map (Prod.map some id)).mapM
      (fun member : Option String × Json => member.1.map (·, member.2)) = some members := by
    induction members with
    | nil => rfl
    | cons member members ih =>
      rw [List.map_cons, List.mapM_cons, ih]
      rfl
  rw [finish, List.reverse_reverse, hmembers]

end Build

open Build (run run_cons finish_reverse_map)

mutual

/-- The reader makes a value of its tokens and goes on behind it. -/
theorem run_tokens : ∀ (json : Json) (closable : Bool) (frames : List Frame) (rest : List Token),
    run (.value closable frames) (json.tokens ++ rest) = run (.complete json frames) rest
  | .null, _, _, _ | .bool _, _, _, _ | .integer _, _, _, _ | .real _, _, _, _
  | .unreadable, _, _, _ => run_cons rfl _
  | .string _, _, _, _ => run_cons rfl _
  | .array items, closable, frames, rest => by
    rw [tokens, List.cons_append, List.append_assoc, run_cons rfl]
    by_cases hitems : items = []
    · subst hitems
      exact run_cons rfl rest
    · exact run_itemTokens items hitems [] true frames rest
  | .object members, closable, frames, rest => by
    rw [tokens, List.cons_append, List.append_assoc, run_cons rfl]
    by_cases hmembers : members = []
    · subst hmembers
      exact run_cons rfl rest
    · exact run_memberTokens members hmembers [] true frames rest

theorem run_itemTokens : ∀ (items : List Json), items ≠ [] → ∀ (before : List Json)
    (closable : Bool) (frames : List Frame) (rest : List Token),
    run (.value closable (.array before.reverse :: frames))
        ([Token.comma].intercalate (itemTokens items) ++ ([.closeArray] ++ rest)) =
      run (.complete (.array (before ++ items)) frames) rest
  | [], hne, _, _, _, _ => absurd rfl hne
  | [item], _, before, closable, frames, rest => by
    have hlast : (item :: before.reverse).reverse = before ++ [item] := by simp
    rw [itemTokens, itemTokens, List.intercalate_singleton, run_tokens item, ← hlast]
    exact run_cons rfl rest
  | item :: next :: items, _, before, closable, frames, rest => by
    have hmore := run_itemTokens (next :: items) (List.cons_ne_nil _ _) (before ++ [item]) false
      frames rest
    rw [List.reverse_append, List.append_assoc] at hmore
    rw [itemTokens, itemTokens, List.intercalate_cons_cons, List.append_assoc, List.append_assoc,
      run_tokens item]
    exact (run_cons rfl _).trans hmore

theorem run_memberTokens : ∀ (members : List (String × Json)), members ≠ [] →
    ∀ (before : List (String × Json)) (closable : Bool) (frames : List Frame)
    (rest : List Token),
    run (.key closable (before.map (Prod.map some id)).reverse frames)
        ([Token.comma].intercalate (memberTokens members) ++ ([.closeObject] ++ rest)) =
      run (.complete (.object (before ++ members)) frames) rest
  | [], hne, _, _, _, _ => absurd rfl hne
  | [(name, value)], _, before, closable, frames, rest => by
    have hlast := finish_reverse_map (before ++ [(name, value)])
    rw [List.map_append, List.reverse_append] at hlast
    rw [memberTokens, memberTokens, List.intercalate_singleton, List.cons_append, run_cons rfl,
      List.cons_append, run_cons rfl, run_tokens value, ← hlast]
    exact run_cons rfl rest
  | (name, value) :: next :: members, _, before, closable, frames, rest => by
    have hmore := run_memberTokens (next :: members) (List.cons_ne_nil _ _)
      (before ++ [(name, value)]) false frames rest
    rw [List.map_append, List.reverse_append, List.append_assoc] at hmore
    rw [memberTokens, memberTokens, List.intercalate_cons_cons, List.append_assoc,
      List.append_assoc, List.cons_append, run_cons rfl, List.cons_append, run_cons rfl,
      run_tokens value]
    exact (run_cons rfl _).trans hmore

end

/-! ## Writing -/

section

variable {opening closing : String} {first last : Token} {lines : List String}
  {spelled : List (List Token)}

theorem spells_line (hopening : Delimits opening.toList [first])
    (hclosing : Delimits closing.toList [last]) (hends : Numeral.Ends closing.toList)
    (h : List.Forall₂ Spells (lines.map String.toList) spelled) :
    Spells (opening ++ ",".intercalate lines ++ closing).toList
      (first :: ([Token.comma].intercalate spelled ++ [last])) := by
  have hblanks : ∀ c ∈ ([] : List Char), Token.isBlank c := nofun
  rw [String.toList_append, String.toList_append, String.toList_intercalate, List.append_assoc]
  exact spells_enclosed hopening hclosing hends hblanks hblanks h

theorem isBlank_of_mem_pushn {c : Char} {n : Nat} (h : c ∈ ("\n".pushn ' ' n).toList) :
    Token.isBlank c := by
  rw [String.pushn_eq_repeat_push] at h
  induction n with
  | zero =>
    obtain rfl := List.mem_singleton.1 h
    rfl
  | succ n ih =>
    rw [Nat.repeat, String.toList_push] at h
    rcases List.mem_append.1 h with h | h
    · exact ih h
    · obtain rfl := List.mem_singleton.1 h
      rfl

theorem spells_block (hopening : Delimits opening.toList [first])
    (hclosing : Delimits closing.toList [last]) (hends : Numeral.Ends closing.toList)
    (h : List.Forall₂ Spells (lines.map String.toList) spelled) (level : Nat) :
    Spells (block level opening closing lines).toList
      (first :: ([Token.comma].intercalate spelled ++ [last])) := by
  unfold block
  split
  · next hempty =>
    rw [List.isEmpty_iff] at hempty
    subst hempty
    cases h
    rw [String.toList_append]
    exact hopening.append_spells hclosing.spells
  · simp only [String.toList_append, String.toList_intercalate, List.append_assoc]
    exact spells_enclosed hopening hclosing hends (fun _ => isBlank_of_mem_pushn)
      (fun _ => isBlank_of_mem_pushn) h

theorem delimits_openArray : Delimits "[".toList [.openArray] := delimits_of_next? rfl fun _ => rfl

theorem delimits_closeArray : Delimits "]".toList [.closeArray] :=
  delimits_of_next? rfl fun _ => rfl

theorem delimits_openObject : Delimits "\x7b".toList [.openObject] :=
  delimits_of_next? rfl fun _ => rfl

theorem delimits_closeObject : Delimits "\x7d".toList [.closeObject] :=
  delimits_of_next? rfl fun _ => rfl

theorem ends_closeArray : Numeral.Ends "]".toList := by
  rintro c ⟨⟩
  decide

theorem ends_closeObject : Numeral.Ends "\x7d".toList := by
  rintro c ⟨⟩
  decide

theorem spells_member (name : String) {text separator : String} {tokens : List Token}
    (hseparator : Delimits separator.toList [.colon]) (h : Spells text.toList tokens) :
    Spells (quoted name ++ separator ++ text).toList (.text (some name) :: .colon :: tokens) := by
  rw [String.toList_append, String.toList_append, List.append_assoc]
  exact (delimits_quoted name).append_spells (hseparator.append_spells h)

end

mutual

theorem spells_compact : ∀ json : Json, json.Exact → Spells json.compact.toList json.tokens
  | .null, _ | .bool true, _ | .bool false, _ => (delimits_of_next? rfl fun _ => rfl).spells
  | .integer _, h => by
    rw [compact, tokens]
    · exact spells_integerText (by rwa [Exact] at h)
    all_goals exact nofun
  | .real value, h => by
    rw [Exact, Double.isFinite_iff] at h
    obtain ⟨negative, x, rfl⟩ := h
    rw [compact, tokens]
    · exact spells_real negative x
    all_goals exact nofun
  | .string text, _ => by
    rw [compact, tokens]
    exact (delimits_quoted text).spells
  | .array items, h => by
    rw [compact, tokens]
    rw [Exact] at h
    exact spells_line delimits_openArray delimits_closeArray ends_closeArray
      (spells_compactItems items h)
  | .object members, h => by
    rw [compact, tokens]
    rw [Exact] at h
    exact spells_line delimits_openObject delimits_closeObject ends_closeObject
      (spells_compactMembers members h)
  | .unreadable, h => by
    rw [Exact] at h
    exact h.elim

theorem spells_compactItems : ∀ items : List Json, ItemsExact items →
    List.Forall₂ Spells ((compactItems items).map String.toList) (itemTokens items)
  | [], _ => by
    rw [compactItems, itemTokens]
    exact .nil
  | item :: items, h => by
    rw [ItemsExact] at h
    rw [compactItems, itemTokens]
    exact .cons (spells_compact item h.1) (spells_compactItems items h.2)

theorem spells_compactMembers : ∀ members : List (String × Json), MembersExact members →
    List.Forall₂ Spells ((compactMembers members).map String.toList) (memberTokens members)
  | [], _ => by
    rw [compactMembers, memberTokens]
    exact .nil
  | (name, value) :: members, h => by
    rw [MembersExact] at h
    rw [compactMembers, memberTokens]
    have hvalue := spells_compact value h.1
    exact .cons (spells_member name (delimits_of_next? rfl fun _ => rfl) hvalue)
      (spells_compactMembers members h.2)

end

mutual

theorem spells_pretty : ∀ (level : Nat) (json : Json), json.Exact →
    Spells (json.pretty level).toList json.tokens
  | level, .array items, h => by
    rw [pretty, tokens]
    rw [Exact] at h
    exact spells_block delimits_openArray delimits_closeArray ends_closeArray
      (spells_prettyItems (level + 1) items h) level
  | level, .object members, h => by
    rw [pretty, tokens]
    rw [Exact] at h
    exact spells_block delimits_openObject delimits_closeObject ends_closeObject
      (spells_prettyMembers (level + 1) members h) level
  | _, .null, h | _, .bool _, h | _, .integer _, h | _, .real _, h | _, .string _, h
  | _, .unreadable, h => by
    rw [pretty]
    · exact spells_compact _ h
    all_goals exact nofun

theorem spells_prettyItems : ∀ (level : Nat) (items : List Json), ItemsExact items →
    List.Forall₂ Spells ((prettyItems level items).map String.toList) (itemTokens items)
  | _, [], _ => by
    rw [prettyItems, itemTokens]
    exact .nil
  | level, item :: items, h => by
    rw [ItemsExact] at h
    rw [prettyItems, itemTokens]
    exact .cons (spells_pretty level item h.1) (spells_prettyItems level items h.2)

theorem spells_prettyMembers : ∀ (level : Nat) (members : List (String × Json)),
    MembersExact members →
    List.Forall₂ Spells ((prettyMembers level members).map String.toList) (memberTokens members)
  | _, [], _ => by
    rw [prettyMembers, memberTokens]
    exact .nil
  | level, (name, value) :: members, h => by
    rw [MembersExact] at h
    rw [prettyMembers, memberTokens]
    have hcolon : Delimits ": ".toList [.colon] :=
      (delimits_of_next? rfl fun _ => rfl : Delimits [':'] [.colon]).append
        (delimits_blanks (by simp [Token.isBlank]) : Delimits [' '] [])
    exact .cons (spells_member name hcolon (spells_pretty level value h.1))
      (spells_prettyMembers level members h.2)

end

theorem read?_of_spells {json : Json} {text : String} (h : Spells text.toList json.tokens) :
    read? text = some json := by
  have hrun := run_tokens json false [] []
  rw [List.append_nil] at hrun
  rw [read?, h.scan_eq, Option.bind_eq_bind, Option.bind_some, hrun]
  rfl

theorem read?_compact {json : Json} (h : json.Exact) : read? json.compact = some json :=
  read?_of_spells (spells_compact json h)

theorem read?_pretty {json : Json} (h : json.Exact) (level : Nat) :
    read? (json.pretty level) = some json :=
  read?_of_spells (spells_pretty level json h)

end RecordRules.Json
