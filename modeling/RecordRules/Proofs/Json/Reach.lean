import RecordRules.Proofs.Json.RoundTrip
import RecordRules.Proofs.Results

/-!
# Values that are read

A value that comes from a text can be told by a text: if all of its parts have content, its
numbers are within the reach of the doubles (`exact_of_read?`).  A number beyond them has no
content as soon as its token is read (`Token.sure_of_next?`), and what is built of such values
stays as it is (`Build.Sure`).
-/

namespace RecordRules.Json

open Number

attribute [local irreducible] unitsInOne Magnitude.nearest

/-- The value is told by its text, if it has content. -/
def Sure (json : Json) : Prop := json.readable → json.Exact

theorem sure_string (text : String) : (string text).Sure := fun _ => trivial

theorem sure_unreadable : unreadable.Sure := nofun

/-! ## Containers -/

theorem readable_array_iff {items : List Json} :
    (array items).readable ↔ ∀ item ∈ items, item.readable := by
  rw [readable]
  induction items with
  | nil => simp [itemsReadable]
  | cons item items ih => rw [itemsReadable, Bool.and_eq_true, ih, List.forall_mem_cons]

theorem readable_object_iff {members : List (String × Json)} :
    (object members).readable ↔ ∀ member ∈ members, member.2.readable := by
  rw [readable]
  induction members with
  | nil => simp [membersReadable]
  | cons member members ih => rw [membersReadable, Bool.and_eq_true, ih, List.forall_mem_cons]

theorem sure_array {items : List Json} (h : ∀ item ∈ items, item.Sure) : (array items).Sure :=
  fun hreadable => exact_array_iff.2 fun item hitem =>
    h item hitem (readable_array_iff.1 hreadable item hitem)

theorem sure_object {members : List (String × Json)} (h : ∀ member ∈ members, member.2.Sure) :
    (object members).Sure :=
  fun hreadable => exact_object_iff.2 fun member hmember =>
    h member hmember (readable_object_iff.1 hreadable member hmember)

/-! ## Tokens -/

namespace Token

def Sure : Token → Prop
  | .scalar value => value.Sure
  | _ => True

theorem sure_ofDouble (x : Double) : (ofDouble x).Sure := by
  unfold ofDouble
  split
  · next hfinite => exact fun _ => hfinite
  · exact nofun

theorem sure_ofInteger (negative : Bool) (n : Nat) : (ofInteger negative n).Sure := by
  unfold ofInteger
  split
  · exact fun _ => rfl
  split
  · next hfinite =>
    intro _
    cases negative <;> simpa [Exact] using hfinite
  · exact nofun

variable {cs rest : List Char} {token : Token}

theorem sure_of_number? {negative : Bool} (h : number? negative cs = some (token, rest)) :
    token.Sure := by
  unfold number? at h
  dsimp only at h
  split at h
  · cases h
  · simp only [bind, Option.bind_eq_some_iff, pure, Option.some.injEq, Prod.mk.injEq] at h
    obtain ⟨⟨fraction, _⟩, -, ⟨power, _⟩, -, rfl, -⟩ := h
    dsimp only
    split
    · exact sure_ofInteger negative _
    · exact sure_ofDouble _

theorem sure_of_next? (h : next? cs = some (token, rest)) : token.Sure := by
  unfold next? at h
  split at h
  case h_7 =>
    simp only [string?, bind, Option.bind_eq_some_iff, pure, Option.some.injEq,
      Prod.mk.injEq] at h
    obtain ⟨_, -, rfl, -⟩ := h
    trivial
  case h_8 | h_12 => exact sure_of_number? h
  case h_9 | h_10 | h_11 =>
    cases h
    exact fun _ => trivial
  all_goals
    cases h
    trivial

theorem sure_of_scan {tokens : List Token} (h : scan cs = some tokens) :
    ∀ token ∈ tokens, token.Sure := by
  fun_induction scan cs generalizing tokens with
  | case1 =>
    cases h
    exact nofun
  | case2 => cases h
  | case3 cs c tail hcs token rest hnext ih =>
    obtain ⟨more, hmore, rfl⟩ := Option.map_eq_some_iff.1 h
    exact List.forall_mem_cons.2 ⟨sure_of_next? hnext, ih hmore⟩

end Token

/-! ## Building -/

def Frame.values : Frame → List Json
  | .array items => items
  | .object members _ => members.map Prod.snd

namespace Build

/-- The values that have been read and are not yet part of another one. -/
def values : Build → List Json
  | value _ frames => frames.flatMap Frame.values
  | key _ members frames | colon members _ frames =>
    members.map Prod.snd ++ frames.flatMap Frame.values
  | complete json frames => json :: frames.flatMap Frame.values

def Sure (build : Build) : Prop := ∀ json ∈ build.values, json.Sure

theorem sure_finish {members : List (Option String × Json)}
    (h : ∀ json ∈ members.map Prod.snd, json.Sure) : (finish members).Sure := by
  unfold finish
  split
  · next named hnamed =>
    refine sure_object fun member hmember => ?_
    obtain ⟨⟨key, json⟩, hjson, hkey⟩ := exists_mem_of_forall₂ (mapM_eq_some_iff.1 hnamed) hmember
    obtain ⟨name, -, rfl⟩ := Option.map_eq_some_iff.1 hkey
    exact h json (List.mem_map_of_mem (List.mem_reverse.1 hjson))
  · exact sure_unreadable

theorem sure_of_step {build next : Build} {token : Token} (hbuild : build.Sure)
    (htoken : token.Sure) (h : build.step token = some next) : next.Sure := by
  unfold step at h
  split at h <;> simp only [Option.some.injEq, reduceCtorEq] at h
  all_goals subst h
  case h_1 => exact List.forall_mem_cons.2 ⟨htoken, hbuild⟩
  case h_2 => exact List.forall_mem_cons.2 ⟨sure_string _, hbuild⟩
  case h_3 => exact List.forall_mem_cons.2 ⟨sure_unreadable, hbuild⟩
  case h_6 => exact List.forall_mem_cons.2 ⟨sure_array (List.forall_mem_nil _), hbuild⟩
  case h_8 members frames =>
    obtain ⟨hmembers, hframes⟩ := List.forall_mem_append.1 hbuild
    exact List.forall_mem_cons.2 ⟨sure_finish hmembers, hframes⟩
  case h_11 value items frames =>
    have hall : ∀ json ∈ (value :: items) ++ frames.flatMap Frame.values, json.Sure := hbuild
    obtain ⟨hitems, hframes⟩ := List.forall_mem_append.1 hall
    refine List.forall_mem_cons.2 ⟨sure_array fun item hitem => ?_, hframes⟩
    exact hitems item (List.mem_reverse.1 hitem)
  case h_13 value members key frames =>
    have hall : ∀ json ∈ ((key, value) :: members).map Prod.snd ++ frames.flatMap Frame.values,
        json.Sure := hbuild
    obtain ⟨hmembers, hframes⟩ := List.forall_mem_append.1 hall
    exact List.forall_mem_cons.2 ⟨sure_finish hmembers, hframes⟩
  all_goals exact hbuild

theorem sure_of_run {build : Build} {tokens : List Token} {json : Json} (hbuild : build.Sure)
    (htokens : ∀ token ∈ tokens, token.Sure) (h : run build tokens = some json) : json.Sure := by
  induction tokens generalizing build with
  | nil =>
    cases build with
    | complete value frames =>
      cases frames with
      | nil =>
        cases h
        exact hbuild _ List.mem_cons_self
      | cons => cases h
    | _ => cases h
  | cons token tokens ih =>
    obtain ⟨htoken, htokens⟩ := List.forall_mem_cons.1 htokens
    rw [run] at h
    obtain ⟨next, hnext, h⟩ := Option.bind_eq_some_iff.1 h
    exact ih (sure_of_step hbuild htoken hnext) htokens h

end Build

theorem exact_of_read? {text : String} {json : Json} (h : read? text = some json)
    (hreadable : json.readable) : json.Exact := by
  obtain ⟨tokens, htokens, hrun⟩ := Option.bind_eq_some_iff.1 h
  have hstart : (Build.value false []).Sure := List.forall_mem_nil _
  exact Build.sure_of_run hstart (Token.sure_of_scan htokens) hrun hreadable

end RecordRules.Json
