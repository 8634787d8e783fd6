import Mathlib.Data.List.Induction
import RecordRules.Proofs.Json.Reach
import RecordRules.Record

/-!
# Records read back from JSON

The kind of a value is told by its spelling alone, and it is told in every case but for the
floats that have no number in JSON.  So a record whose floats are finite is read back from its
JSON text, whatever order its members have there (`Record.json_tells_record`), and no text stands
for any other record (`Record.isFinite_of_read?`).
-/

namespace RecordRules

open Number

/-! ## Values -/

namespace Value

/-- Has a number to be written, if it has one at all. -/
def IsFinite : Value → Prop
  | .float value => value.isFinite
  | _ => True

theorem ofJson?_toJson (value : Value) : ofJson? value.toJson = some value := by
  cases value with
  | int value => rw [toJson, ofJson?, int64?_eq_some_iff.2 rfl]
  | float value => rfl
  | text content => rfl
  | bool value => rfl

theorem exact_toJson {value : Value} (h : value.IsFinite) : value.toJson.Exact := by
  cases value with
  | int value => exact Json.exact_int64 value
  | float value => exact h
  | text content => trivial
  | bool value => trivial

variable {json : Json} {value : Value}

theorem readable_of_ofJson? (h : ofJson? json = some value) : json.readable := by
  cases json with
  | null | array | object | unreadable => cases h
  | _ => rfl

theorem isFinite_of_ofJson? (hexact : json.Exact) (h : ofJson? json = some value) :
    value.IsFinite := by
  cases json with
  | null | array | object | unreadable => cases h
  | string | bool =>
    cases h
    trivial
  | real x =>
    cases h
    exact hexact
  | integer n =>
    rw [ofJson?] at h
    split at h <;> cases h
    · trivial
    · exact (Double.isFinite_ofInt n).trans hexact

end Value

/-! ## Records -/

namespace Record

def IsFinite (record : Record) : Prop :=
  ∀ field value, record.lookup field = some value → value.IsFinite

def written (members : List (String × Value)) : Json :=
  .object (members.map fun (name, value) => (name, value.toJson))

variable {record : Record} {members : List (String × Value)}

theorem ofList_of_perm (h : members.Perm record.toList) :
    Std.ExtTreeMap.ofList members = record := by
  have hdistinct : members.Pairwise fun a b => ¬compare a.1 b.1 = .eq :=
    h.symm.pairwise Std.ExtTreeMap.distinct_keys_toList fun hne heq =>
      hne (Std.OrientedCmp.eq_symm heq)
  apply Std.ExtTreeMap.ext_getElem?
  intro field
  cases hfield : record[field]? with
  | some value =>
    have hmem : (field, value) ∈ members :=
      h.mem_iff.2 (Std.ExtTreeMap.mem_toList_iff_getElem?_eq_some.2 hfield)
    exact Std.ExtTreeMap.getElem?_ofList_of_mem Std.ReflCmp.compare_self hdistinct hmem
  | none =>
    apply Std.ExtTreeMap.getElem?_ofList_of_contains_eq_false
    rw [List.contains_eq_mem, decide_eq_false_iff_not, List.mem_map]
    rintro ⟨⟨_, value⟩, hmem, rfl⟩
    rw [h.mem_iff, Std.ExtTreeMap.mem_toList_iff_getElem?_eq_some, hfield] at hmem
    cases hmem

/-- The last of several members of one name is the one that counts, but it is one of them. -/
theorem mem_of_lookup_ofList {field : String} {value : Value}
    (h : lookup (.ofList members) field = some value) : (field, value) ∈ members := by
  rw [lookup, Std.ExtTreeMap.ofList_eq_foldl] at h
  induction members using List.reverseRecOn with
  | nil => simp at h
  | append_singleton members member ih =>
    rw [List.foldl_append, List.foldl_cons, List.foldl_nil, Std.ExtTreeMap.getElem?_insert] at h
    split at h
    · next heq =>
      obtain rfl := Std.LawfulEqCmp.eq_of_compare heq
      cases h
      exact List.mem_append_right _ List.mem_cons_self
    · exact List.mem_append_left _ (ih h)

/-! ## Reading what is written -/

theorem ofJson?_written (h : members.Perm record.toList) :
    ofJson? (written members) = some record := by
  have hread : (fun member : String × Json => (Value.ofJson? member.2).map (member.1, ·)) ∘
      (fun member : String × Value => (member.1, member.2.toJson)) = some := by
    funext member
    exact congrArg (Option.map _) (Value.ofJson?_toJson member.2)
  have hvalues : members.mapM some = some members :=
    List.mapM_pure.trans (congrArg some (List.map_id members))
  rw [written, ofJson?, List.mapM_map, hread, hvalues, ← ofList_of_perm h]
  rfl

theorem exact_written (h : ∀ member ∈ members, member.2.IsFinite) : (written members).Exact := by
  refine Json.exact_object_iff.2 fun member hmember => ?_
  obtain ⟨⟨name, value⟩, hvalue, rfl⟩ := List.mem_map.1 hmember
  exact Value.exact_toJson (h _ hvalue)

theorem isFinite_of_read? {text : String} (h : read? text = some record) : record.IsFinite := by
  obtain ⟨json, hjson, h⟩ := Option.bind_eq_some_iff.1 h
  cases json with
  | object members =>
    obtain ⟨values, hvalues, h⟩ := Option.bind_eq_some_iff.1 h
    cases h
    rw [mapM_eq_some_iff] at hvalues
    have hreadable : (Json.object members).readable := by
      refine Json.readable_object_iff.2 fun member hmember => ?_
      obtain ⟨value, -, hvalue⟩ := exists_mem_of_forall₂ hvalues.flip hmember
      obtain ⟨_, hvalue, -⟩ := Option.map_eq_some_iff.1 hvalue
      exact Value.readable_of_ofJson? hvalue
    have hexact := Json.exact_object_iff.1 (Json.exact_of_read? hjson hreadable)
    intro field value hfield
    obtain ⟨member, hmember, hvalue⟩ := exists_mem_of_forall₂ hvalues (mem_of_lookup_ofList hfield)
    obtain ⟨_, hvalue, heq⟩ := Option.map_eq_some_iff.1 hvalue
    cases heq
    exact Value.isFinite_of_ofJson? (hexact member hmember) hvalue
  | _ => cases h

/-- A record with finite floats is told by its JSON text, on one line or on many and with its
members in any order, and so is every record that a text stands for. -/
theorem json_tells_record (record : Record) (members : List (String × Value))
    (hmembers : members.Perm record.toList) (level : Nat) :
    let told := read? (written members).compact = some record ∧
      read? ((written members).pretty level) = some record
    (record.IsFinite → told) ∧ ∀ text, read? text = some record → told := by
  intro told
  have htold (hfinite : record.IsFinite) : told := by
    have hexact : (written members).Exact := exact_written fun member hmember =>
      hfinite member.1 member.2
        (Std.ExtTreeMap.mem_toList_iff_getElem?_eq_some.1 (hmembers.mem_iff.1 hmember))
    constructor
    · rw [read?, Json.read?_compact hexact]
      exact ofJson?_written hmembers
    · rw [read?, Json.read?_pretty hexact level]
      exact ofJson?_written hmembers
  exact ⟨htold, fun text htext => htold (isFinite_of_read? htext)⟩

theorem json_tells_record_mixed :
    let one : Double := .finite false ⟨2 ^ 52, 1022, by decide⟩
    let members : List (String × Value) := [("whole", .float one), ("", .float (.finite true .zero)),
      ("least", .int Int64.minValue), ("\"30\"", .text "30"), ("\u00e9", .text "\x00\\\u2028")]
    let record : Record := .ofList members
    let text := " \x7b\"n\" : 1e2 , \"n\" : -0\x7d\n"
    let last : Record := .ofList [("n", Value.float (.finite true .zero))]
    members.Perm record.toList ∧ record.IsFinite ∧
      read? (written members).compact = some record ∧
      read? text = some last ∧ read? last.toJson.compact = some last := by
  intro one members record text last
  have hperm : members.Perm record.toList := by decide +kernel
  have hfinite : record.IsFinite := by
    intro field value hfield
    have hmem := mem_of_lookup_ofList hfield
    simp only [members, List.mem_cons, Prod.mk.injEq, List.not_mem_nil, or_false] at hmem
    rcases hmem with ⟨-, rfl⟩ | ⟨-, rfl⟩ | ⟨-, rfl⟩ | ⟨-, rfl⟩ | ⟨-, rfl⟩ <;> trivial
  have htext : read? text = some last := by decide +kernel
  exact ⟨hperm, hfinite, ((json_tells_record record members hperm 0).1 hfinite).1, htext,
    ((json_tells_record last last.toList (List.Perm.refl _) 0).2 text htext).1⟩

end Record

end RecordRules
