import RecordRules.Proofs.Config.RoundTrip
import RecordRules.Proofs.Text.Pieces

/-!
# Comma-separated whitelists

A text names a whitelist by the items between its commas, trimmed, and an item of nothing but
blanks is none.  So only some whitelists can be named at all, those of `Listable` names, and
many texts name the same one: those whose items are `Rearranged`.

* `ofCommaSeparated_eq`, `ofCommaSeparated_join`: the whitelist of a text and of given items;
* `listable_of_mem`, `ofCommaSeparated_join_toList`: which whitelists have a text, and which one;
* `named_eq_iff`: which items name the same whitelist.
-/

namespace RecordRules.Whitelist

open Text

def items (text : String) : List String := (split ',' text.toList).map .ofList

def join (items : List String) : String := ",".intercalate items

/-- The names that items stand for; one of nothing but blanks stands for none. -/
def names (items : List String) : List String := (items.map trim).filter (· ≠ "")

def named (items : List String) : Whitelist := ofNames (names items)

structure Listable (name : String) : Prop where
  nonempty : name ≠ ""
  unbroken : ',' ∉ name.toList
  trimmed : IsTrimmed name

/-- Items changed in ways that do not matter to the names.  What is done to the first item may be
done to any other one, as the items may be permuted. -/
inductive Rearranged : List String → List String → Prop
  | permuted {items items'} : items.Perm items' → Rearranged items items'
  | repeated {item items} : item ∈ items → Rearranged items (item :: items)
  | inserted {items} : Rearranged items ("" :: items)
  | padded {left right item items} : (∀ c ∈ left.toList, isBlank c) →
      (∀ c ∈ right.toList, isBlank c) →
      Rearranged (item :: items) ((left ++ item ++ right) :: items)
  | symm {items items'} : Rearranged items items' → Rearranged items' items
  | trans {items items' items''} : Rearranged items items' → Rearranged items' items'' →
      Rearranged items items''

section

variable {name item text : String} {list list' : List String} {whitelist : Whitelist}

/-! ## Items of a text -/

theorem ofCommaSeparated_eq (text : String) : ofCommaSeparated text = named (items text) := by
  rw [ofCommaSeparated, named, names, items, List.map_map]
  rfl

theorem comma_notMem_of_mem_items (h : item ∈ items text) : ',' ∉ item.toList := by
  obtain ⟨piece, hpiece, rfl⟩ := List.mem_map.1 h
  rw [String.toList_ofList]
  exact notMem_of_mem_split hpiece

theorem join_items (text : String) : join (items text) = text := by
  have hid : String.toList ∘ String.ofList = id := funext fun _ => String.toList_ofList
  rw [← String.toList_inj, join, String.toList_intercalate, items, List.map_map, hid, List.map_id]
  exact intercalate_split ',' text.toList

theorem items_join (hne : list ≠ []) (h : ∀ item ∈ list, ',' ∉ item.toList) :
    items (join list) = list := by
  have hsplit : split ',' ([','].intercalate (list.map String.toList)) = list.map String.toList :=
    split_intercalate (mt List.map_eq_nil_iff.1 hne) (List.forall_mem_map.2 h)
  have hid : String.ofList ∘ String.toList = id := funext fun _ => String.ofList_toList
  calc items (join list) = (list.map String.toList).map String.ofList := by
        rw [items, join, String.toList_intercalate]
        exact congrArg (List.map String.ofList) hsplit
    _ = list := by rw [List.map_map, hid, List.map_id]

theorem mem_named : name ∈ named list ↔ name ∈ names list := by
  rw [named, ofNames, Std.ExtTreeSet.mem_ofList, List.contains_iff_mem]

theorem mem_named_iff : name ∈ named list ↔ name ≠ "" ∧ ∃ item ∈ list, trim item = name := by
  rw [mem_named, names, List.mem_filter, List.mem_map, decide_eq_true_eq, and_comm]

theorem ofCommaSeparated_join (h : ∀ item ∈ list, ',' ∉ item.toList) :
    ofCommaSeparated (join list) = named list := by
  by_cases hnil : list = []
  · subst hnil
    rfl
  · rw [ofCommaSeparated_eq, items_join hnil h]

/-! ## Whitelists with a text -/

theorem listable_of_mem (h : name ∈ ofCommaSeparated text) : Listable name := by
  rw [ofCommaSeparated_eq, mem_named_iff] at h
  obtain ⟨hne, item, hitem, rfl⟩ := h
  obtain ⟨left, right, -, -, hpadded⟩ := exists_padding item
  have hcomma := comma_notMem_of_mem_items hitem
  rw [hpadded, String.toList_append, String.toList_append] at hcomma
  exact ⟨hne, fun h => hcomma (List.mem_append_left _ (List.mem_append_right _ h)),
    isTrimmed_trim item⟩

theorem named_toList (h : ∀ name ∈ whitelist, Listable name) :
    named whitelist.toList = whitelist := by
  refine Std.ExtTreeSet.ext_mem fun name => ?_
  rw [mem_named_iff]
  constructor
  · rintro ⟨-, item, hitem, rfl⟩
    have hmem := Std.ExtTreeSet.mem_toList.1 hitem
    rwa [trim_eq_self (h item hmem).trimmed]
  · intro hmem
    exact ⟨(h name hmem).nonempty, name, Std.ExtTreeSet.mem_toList.2 hmem,
      trim_eq_self (h name hmem).trimmed⟩

theorem ofCommaSeparated_join_toList (h : ∀ name ∈ whitelist, Listable name) :
    ofCommaSeparated (join whitelist.toList) = whitelist := by
  rw [ofCommaSeparated_join, named_toList h]
  exact fun item hitem => (h item (Std.ExtTreeSet.mem_toList.1 hitem)).unbroken

/-! ## Texts of one whitelist -/

theorem Rearranged.named_eq (h : Rearranged list list') : named list = named list' := by
  induction h with
  | permuted hperm =>
    refine Std.ExtTreeSet.ext_mem fun name => ?_
    simp only [mem_named_iff, hperm.mem_iff]
  | repeated hitem =>
    refine Std.ExtTreeSet.ext_mem fun name => ?_
    rw [mem_named_iff, mem_named_iff]
    refine and_congr_right fun _ => ?_
    constructor
    · rintro ⟨other, hother, htrim⟩
      exact ⟨other, List.mem_cons_of_mem _ hother, htrim⟩
    · rintro ⟨other, hother, htrim⟩
      rcases List.mem_cons.1 hother with rfl | hother
      · exact ⟨other, hitem, htrim⟩
      · exact ⟨other, hother, htrim⟩
  | inserted => rfl
  | padded hleft hright =>
    rw [named, named, names, names, List.map_cons, List.map_cons, trim_pad _ hleft hright]
  | symm _ ih => exact ih.symm
  | trans _ _ ih ih' => exact ih.trans ih'

theorem Rearranged.unbroken_iff (h : Rearranged list list') :
    (∀ item ∈ list, ',' ∉ item.toList) ↔ ∀ item ∈ list', ',' ∉ item.toList := by
  have hblank {blanks : String} (h : ∀ c ∈ blanks.toList, isBlank c) : ',' ∉ blanks.toList :=
    fun hmem => absurd (h ',' hmem) (by decide)
  induction h with
  | permuted hperm => simp only [hperm.mem_iff]
  | repeated hitem =>
    rw [List.forall_mem_cons]
    exact ⟨fun h => ⟨h _ hitem, h⟩, fun h => h.2⟩
  | inserted => simp
  | padded hleft hright => simp [hblank hleft, hblank hright]
  | symm _ ih => exact ih.symm
  | trans _ _ ih ih' => exact ih.trans ih'

theorem Rearranged.cons (h : Rearranged list list') (item : String) :
    Rearranged (item :: list) (item :: list') := by
  induction h with
  | permuted hperm => exact .permuted (hperm.cons item)
  | repeated hother =>
    exact .trans (.repeated (List.mem_cons_of_mem _ hother)) (.permuted (.swap ..))
  | inserted => exact .trans .inserted (.permuted (.swap ..))
  | padded hleft hright =>
    exact .trans (.permuted (.swap ..)) (.trans (.padded hleft hright) (.permuted (.swap ..)))
  | symm _ ih => exact ih.symm
  | trans _ _ ih ih' => exact ih.trans ih'

theorem rearranged_names (list : List String) : Rearranged list (names list) := by
  induction list with
  | nil => exact .permuted .rfl
  | cons item list ih =>
    have htrim : Rearranged (item :: list) (trim item :: list) := by
      obtain ⟨left, right, hleft, hright, hpadded⟩ := exists_padding item
      have hpad : Rearranged (trim item :: list) ((left ++ trim item ++ right) :: list) :=
        .padded hleft hright
      rw [← hpadded] at hpad
      exact hpad.symm
    rw [names, List.map_cons, List.filter_cons, ← names]
    split
    · exact htrim.trans (ih.cons _)
    · next hempty =>
      have hempty : trim item = "" := by simpa using hempty
      rw [hempty] at htrim
      exact htrim.trans (.trans (.symm .inserted) ih)

theorem rearranged_append {more : List String} (h : ∀ item ∈ more, item ∈ list) :
    Rearranged list (more ++ list) := by
  induction more with
  | nil => exact .permuted .rfl
  | cons item more ih =>
    obtain ⟨hitem, hmore⟩ := List.forall_mem_cons.1 h
    exact (ih hmore).trans (.repeated (List.mem_append_right _ hitem))

theorem named_eq_iff : named list = named list' ↔ Rearranged list list' := by
  refine ⟨fun h => ?_, Rearranged.named_eq⟩
  have hmem (name : String) : name ∈ names list ↔ name ∈ names list' := by
    rw [← mem_named, ← mem_named, h]
  have hleft : Rearranged (names list) (names list' ++ names list) :=
    rearranged_append fun name => (hmem name).2
  have hright : Rearranged (names list') (names list ++ names list') :=
    rearranged_append fun name => (hmem name).1
  have hboth : Rearranged (names list) (names list') :=
    hleft.trans (.trans (.permuted List.perm_append_comm) hright.symm)
  exact (rearranged_names list).trans (hboth.trans (rearranged_names list').symm)

end

/-- A whitelist has a comma-separated text exactly if every name in it is not empty, holds no
comma and neither begins nor ends with a blank, and then its names with commas between them are
such a text.  A text keeps its whitelist when its items are permuted or repeated, padded with
blanks, or empty ones are put between them; two texts with the same whitelist differ in no
other way. -/
theorem comma_separated_tells_names (whitelist : Whitelist) :
    ((∃ text, ofCommaSeparated text = whitelist) ↔ ∀ name ∈ whitelist, Listable name) ∧
      (ofCommaSeparated (join whitelist.toList) = whitelist ↔
        ∀ name ∈ whitelist, Listable name) ∧
      (∀ text, join (items text) = text ∧ ∀ changed, Rearranged (items text) changed →
        ofCommaSeparated (join changed) = ofCommaSeparated text) ∧
      ∀ text other, ofCommaSeparated text = ofCommaSeparated other ↔
        Rearranged (items text) (items other) := by
  have hlistable {text : String} (h : ofCommaSeparated text = whitelist) :
      ∀ name ∈ whitelist, Listable name := fun name hname => listable_of_mem (h ▸ hname)
  refine ⟨⟨fun ⟨text, htext⟩ => hlistable htext, fun h => ⟨_, ofCommaSeparated_join_toList h⟩⟩,
    ⟨hlistable, ofCommaSeparated_join_toList⟩, fun text => ⟨join_items text, fun changed h => ?_⟩,
    fun text other => ?_⟩
  · have hunbroken := h.unbroken_iff.1 fun item => comma_notMem_of_mem_items
    rw [ofCommaSeparated_join hunbroken, ofCommaSeparated_eq, h.named_eq]
  · rw [ofCommaSeparated_eq, ofCommaSeparated_eq, named_eq_iff]

example : (ofCommaSeparated " age, salary ,,department ").toList =
    ["age", "department", "salary"] := by
  decide +kernel

end RecordRules.Whitelist
