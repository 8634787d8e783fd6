/-!
# Machine words

Integers and naturals as words of 64 bits, where they fit.
-/

namespace RecordRules.Number

def int64? (value : Int) : Option Int64 :=
  if Int64.minValue.toInt ≤ value ∧ value ≤ Int64.maxValue.toInt then some (.ofInt value)
  else none

def uint64? (value : Nat) : Option UInt64 :=
  if value < UInt64.size then some (.ofNat value) else none

theorem toInt_of_int64? {value : Int} {word : Int64} (h : int64? value = some word) :
    word.toInt = value := by
  unfold int64? at h
  split at h
  · next hrange =>
    cases h
    exact Int64.toInt_ofInt_of_le hrange.1 (Int.lt_add_one_of_le hrange.2)
  · cases h

theorem int64?_eq_some_iff {value : Int} {word : Int64} :
    int64? value = some word ↔ word.toInt = value := by
  constructor
  · exact toInt_of_int64?
  · intro h
    subst h
    unfold int64?
    rw [if_pos ⟨Int64.minValue_le_toInt word, Int64.toInt_le word⟩, Int64.ofInt_toInt]

theorem toNat_of_uint64? {value : Nat} {word : UInt64} (h : uint64? value = some word) :
    word.toNat = value := by
  unfold uint64? at h
  split at h
  · next hrange =>
    cases h
    exact UInt64.toNat_ofNat_of_lt hrange
  · cases h

theorem uint64?_eq_some_iff {value : Nat} {word : UInt64} :
    uint64? value = some word ↔ word.toNat = value := by
  constructor
  · exact toNat_of_uint64?
  · intro h
    subst h
    rw [uint64?, if_pos word.toNat_lt_size, UInt64.ofNat_toNat]

end RecordRules.Number
