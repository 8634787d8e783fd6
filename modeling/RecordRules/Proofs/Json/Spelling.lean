import RecordRules.Proofs.Json.Numeral
import RecordRules.Proofs.Json.Text

/-!
# Spelling JSON tokens

A text spells some tokens if the reader finds these first and goes on behind it, in any place
where a number would end (`Spells`).  Texts that spell tokens may be put together wherever the
second one does not run on the first (`Spells.append`), and from there one gets to the strings
and numbers of a value, to its containers and to the blanks around its parts.
-/

namespace RecordRules.Json

open Number Token Numeral

attribute [local irreducible] unitsInOne Magnitude.nearest

/-! ## Scanning -/

theorem scan_eq (cs : List Char) : scan cs =
    match cs.dropWhile isBlank with
    | [] => some []
    | c :: tail => (next? (c :: tail)).bind fun (token, rest) => (scan rest).map (token :: ·) := by
  rw [scan]
  split
  · next hnil => rw [hnil]
  · next hcons =>
    rw [hcons]
    dsimp only
    split
    · next hnone => rw [hnone, Option.bind_none]
    · next hsome => rw [hsome, Option.bind_some]

theorem scan_append_of_isBlank {blanks : List Char} (h : ∀ c ∈ blanks, isBlank c)
    (rest : List Char) : scan (blanks ++ rest) = scan rest := by
  rw [scan_eq, List.dropWhile_append_of_pos h, ← scan_eq]

theorem scan_cons {c : Char} {tail rest : List Char} {token : Token} (hc : isBlank c = false)
    (h : next? (c :: tail) = some (token, rest)) :
    scan (c :: tail) = (scan rest).map (token :: ·) := by
  rw [scan_eq, List.dropWhile_cons_of_neg (by simp [hc])]
  dsimp only
  rw [h, Option.bind_some]

/-! ## Spelling -/

/-- The reader finds these tokens in the text whatever comes behind it. -/
def Delimits (text : List Char) (tokens : List Token) : Prop :=
  ∀ rest, scan (text ++ rest) = (scan rest).map (tokens ++ ·)

/-- The reader finds these tokens in the text wherever a number would end behind it. -/
def Spells (text : List Char) (tokens : List Token) : Prop :=
  ∀ rest, Ends rest → scan (text ++ rest) = (scan rest).map (tokens ++ ·)

theorem ends_nil : Ends [] := nofun

theorem ends_append {text rest : List Char} (htext : Ends text) (hrest : Ends rest) :
    Ends (text ++ rest) := by
  cases text with
  | nil => exact hrest
  | cons c text => exact htext

theorem delimits_blanks {blanks : List Char} (h : ∀ c ∈ blanks, isBlank c) : Delimits blanks [] :=
  fun rest => (scan_append_of_isBlank h rest).trans (Option.map_id' ..).symm

theorem delimits_of_next? {c : Char} {text : List Char} {token : Token} (hc : isBlank c = false)
    (h : ∀ rest, next? (c :: (text ++ rest)) = some (token, rest)) : Delimits (c :: text) [token] :=
  fun rest => scan_cons hc (h rest)

section

variable {text more : List Char} {tokens next : List Token}

theorem scan_append_append {rest : List Char}
    (h : scan (text ++ (more ++ rest)) = (scan (more ++ rest)).map (tokens ++ ·))
    (hmore : scan (more ++ rest) = (scan rest).map (next ++ ·)) :
    scan (text ++ more ++ rest) = (scan rest).map (tokens ++ next ++ ·) := by
  rw [List.append_assoc, h, hmore, Option.map_map]
  exact Option.map_congr fun _ _ => (List.append_assoc ..).symm

theorem Delimits.spells (h : Delimits text tokens) : Spells text tokens := fun rest _ => h rest

theorem Delimits.append (h : Delimits text tokens) (hmore : Delimits more next) :
    Delimits (text ++ more) (tokens ++ next) :=
  fun rest => scan_append_append (h _) (hmore rest)

theorem Delimits.append_spells (h : Delimits text tokens) (hmore : Spells more next) :
    Spells (text ++ more) (tokens ++ next) :=
  fun rest hrest => scan_append_append (h _) (hmore rest hrest)

theorem Spells.append (h : Spells text tokens) (hmore : Spells more next) (hends : Ends more) :
    Spells (text ++ more) (tokens ++ next) :=
  fun rest hrest => scan_append_append (h _ (ends_append hends hrest)) (hmore rest hrest)

theorem Spells.scan_eq (h : Spells text tokens) : scan text = some tokens := by
  have hscan := h [] ends_nil
  rw [List.append_nil, Json.scan_eq []] at hscan
  rw [hscan]
  exact congrArg some (List.append_nil tokens)

theorem spells_intercalate {blanks : List Char} (hblanks : ∀ c ∈ blanks, isBlank c)
    {parts : List (List Char)} {spelled : List (List Token)}
    (h : List.Forall₂ Spells parts spelled) :
    Spells ((',' :: blanks).intercalate parts) ([Token.comma].intercalate spelled) := by
  have hcomma : Delimits (',' :: blanks) [.comma] :=
    (delimits_of_next? rfl fun _ => rfl : Delimits [','] [.comma]).append (delimits_blanks hblanks)
  induction h with
  | nil => exact (delimits_blanks (nofun : ∀ c ∈ [], isBlank c)).spells
  | @cons part spelled parts spelledParts hpart hparts ih =>
    cases hparts with
    | nil => simpa using hpart
    | cons =>
      rw [List.intercalate_cons_cons, List.intercalate_cons_cons, List.append_assoc,
        List.append_assoc]
      refine hpart.append (hcomma.append_spells ih) ?_
      rintro c ⟨⟩
      decide

theorem not_continues_of_isBlank {c : Char} (h : isBlank c) : ¬Continues c := by
  simp only [isBlank, Bool.or_eq_true, decide_eq_true_eq] at h
  rcases h with ((rfl | rfl) | rfl) | rfl <;> decide

theorem spells_enclosed {opening closing indent dedent : List Char} {first last : Token}
    {parts : List (List Char)} {spelled : List (List Token)}
    (hopening : Delimits opening [first]) (hclosing : Delimits closing [last])
    (hends : Ends closing) (hindent : ∀ c ∈ indent, isBlank c)
    (hdedent : ∀ c ∈ dedent, isBlank c) (h : List.Forall₂ Spells parts spelled) :
    Spells (opening ++ (indent ++ ((',' :: indent).intercalate parts ++ (dedent ++ closing))))
      (first :: ([Token.comma].intercalate spelled ++ [last])) := by
  have hend : Delimits (dedent ++ closing) [last] := (delimits_blanks hdedent).append hclosing
  have hhead : Ends (dedent ++ closing) := by
    cases dedent with
    | nil => exact hends
    | cons blank dedent =>
      rintro c ⟨⟩
      exact not_continues_of_isBlank (hdedent _ List.mem_cons_self)
  have hparts := (spells_intercalate hindent h).append hend.spells hhead
  exact hopening.append_spells ((delimits_blanks hindent).append_spells hparts)

end

/-! ## Strings and numbers -/

theorem delimits_quoted (text : String) : Delimits (quoted text).toList [.text (some text)] := by
  rw [quoted, String.toList_ofList]
  refine delimits_of_next? rfl fun rest => ?_
  rw [List.append_assoc]
  exact string?_quoted text rest

theorem next?_of_isDigit {c : Char} (h : c.isDigit) (rest : List Char) :
    next? (c :: rest) = number? false (c :: rest) := by
  unfold next?
  split <;> simp_all +decide

theorem spells_numeral (numeral : Numeral) (negative : Bool) :
    Spells ((if negative then ['-'] else []) ++ numeral.text)
      [.scalar (numeral.value negative)] := by
  intro rest hrest
  have hnumber := number?_numeral negative numeral hrest
  cases negative with
  | true => exact scan_cons rfl hnumber
  | false =>
    obtain ⟨c, whole, hwhole⟩ := List.exists_cons_of_ne_nil numeral.isDigits_whole.1
    have hdigit : c.isDigit := numeral.isDigits_whole.2 c (hwhole ▸ List.mem_cons_self)
    have hblank : isBlank c = false :=
      Bool.eq_false_iff.2 fun h => not_continues_of_isBlank h (.inl hdigit)
    have htext : numeral.text = c :: (whole ++ (fractionText numeral.fraction ++
        powerText numeral.power)) := by
      rw [Numeral.text, hwhole, List.cons_append]
    simp only [Bool.false_eq_true, if_false, List.nil_append]
    rw [htext, List.cons_append] at hnumber ⊢
    exact scan_cons hblank ((next?_of_isDigit hdigit _).trans hnumber)

theorem spells_integerText {value : Int} (h : (Double.ofNat value.natAbs).isFinite) :
    Spells (integerText value).toList [.scalar (.integer value)] := by
  have htext : (integerText value).toList =
      (if decide (value < 0) then ['-'] else []) ++ (ofNat value.natAbs).text := by
    rw [text_ofNat, integerText]
    simp only [decide_eq_true_eq]
    split <;> simp
  have hvalue : (ofNat value.natAbs).value (decide (value < 0)) = .integer value := by
    rw [value_ofNat, ofInteger, if_neg, if_pos h]
    · simp only [decide_eq_true_eq]
      split <;> congr <;> omega
    · simp only [Bool.and_eq_true, decide_eq_true_eq]
      omega
  rw [htext, ← hvalue]
  exact spells_numeral _ _

theorem spells_real (negative : Bool) (x : Magnitude) :
    Spells (realLayout.format (.finite negative x)).toList
      [.scalar (.real (.finite negative x))] := by
  obtain ⟨numeral, htext, hvalue⟩ := exists_magnitude x
  have hformat : (realLayout.format (.finite negative x)).toList =
      (if negative then ['-'] else []) ++ numeral.text := by
    rw [htext, Layout.format, String.toList_append]
    cases negative <;> rfl
  rw [hformat, ← hvalue negative]
  exact spells_numeral numeral negative

end RecordRules.Json
