import HostNet.Document.Record
import HostNet.Proofs.DocumentText
import Mathlib.Data.Nat.Digits.Defs

namespace HostNet.Document
open Json (Plain)

-- The fields of a record in their order. One that is not written has no value.
abbrev Slots := List (String × Option Document)

namespace Slots

def members (slots : Slots) : List (Option String × Document) :=
  slots.filterMap fun s => s.2.map fun d => (some s.1,d)

def value? (slots : Slots) (name : String) : Option Document := (slots.lookup name).join

variable {slots : Slots} {name : String}

theorem members_cons (key : String) (value : Option Document) (rest : Slots) :
    members ((key,value) :: rest) = (value.map fun d => (some key,d)).toList ++ members rest := by
  cases value <;> rfl

theorem valuesOf_append (name : String) (one two : List (Option String × Document)) :
    valuesOf name (one ++ two) = valuesOf name one ++ valuesOf name two := by
  simp [valuesOf]

theorem valuesOf_absent (absent : name ∉ slots.map Prod.fst) : valuesOf name slots.members = [] := by
  induction slots with
  | nil => rfl
  | cons s rest ih =>
    obtain ⟨key,value⟩ := s
    obtain ⟨other,later⟩ := not_or.mp (mt List.mem_cons.mpr absent)
    rw [members_cons,valuesOf_append,ih later,List.append_nil]
    cases value with
    | none => rfl
    | some d => simp [valuesOf,Ne.symm other]

-- Where no key stands twice each has the value of its slot, if there is one.
theorem valuesOf_members (distinct : (slots.map Prod.fst).Nodup) (name : String) :
    valuesOf name slots.members = (slots.value? name).toList := by
  induction slots with
  | nil => rfl
  | cons s rest ih =>
    obtain ⟨key,value⟩ := s
    obtain ⟨fresh,others⟩ := List.nodup_cons.mp distinct
    rw [members_cons,valuesOf_append,value?,List.lookup_cons]
    by_cases asked : name = key
    · subst asked
      rw [valuesOf_absent fresh]
      cases value <;> simp [valuesOf]
    · rw [beq_eq_false_iff_ne.mpr asked,ih others]
      cases value <;> simp [valuesOf,value?,Ne.symm asked]

theorem fields_members (distinct : (slots.map Prod.fst).Nodup) (names : List String) :
    fieldsOfObject? names slots.members = some slots.value? := by
  have keys : slots.members.all (·.1.isSome) = true := by
    simp only [members,List.all_eq_true,List.mem_filterMap]
    rintro m ⟨s,_,shown⟩
    obtain ⟨d,_,rfl⟩ := Option.map_eq_some_iff.mp shown
    rfl
  have single : ∀ name, (valuesOf name slots.members).length ≤ 1 := by
    intro name
    rw [valuesOf_members distinct]
    cases slots.value? name <;> simp
  have shown : ∀ name, (valuesOf name slots.members).head? = slots.value? name := by
    intro name
    rw [valuesOf_members distinct]
    cases slots.value? name <;> rfl
  rw [fieldsOfObject?,if_pos (by simp [keys,single])]
  exact congrArg some (funext shown)

theorem ofPresent_members (slots : Slots) :
    ofPresent (slots.map fun s => s.2.map fun d => (s.1,d)) = .object slots.members := by
  rw [ofPresent,ofMembers,List.filterMap_map,members,List.map_filterMap]
  refine congrArg object (congrArg (List.filterMap · slots) (funext fun s => ?_))
  exact Option.map_map ..

theorem members_plain (values : ∀ s ∈ slots, ∀ d ∈ s.2, Plain d) : Plain (.object slots.members) := by
  refine .object ?_ ?_ <;> simp only [members,List.mem_filterMap]
  · rintro m ⟨s,_,shown⟩
    obtain ⟨d,_,rfl⟩ := Option.map_eq_some_iff.mp shown
    rfl
  · rintro m ⟨s,among,shown⟩
    obtain ⟨d,held,rfl⟩ := Option.map_eq_some_iff.mp shown
    exact values s among d held

end Slots

section Values

theorem asInt64_ofInt64 (n : Int64) : (Document.ofInt64 n).asInt64? = some n := by
  have inside : Int64.minValue.toInt ≤ n.toInt ∧ n.toInt ≤ Int64.maxValue.toInt :=
    ⟨Int64.minValue_le_toInt n,Int64.toInt_le n⟩
  rw [ofInt64,asInt64?,asInt?,if_pos inside,Option.map_some,Int64.ofInt_toInt]

theorem asUInt32_ofUInt32 (n : UInt32) : (Document.ofUInt32 n).asUInt32? = some n := by
  have inside : (0 : Int) ≤ n.toNat ∧ (n.toNat : Int) ≤ ((1 <<< 32 : Nat) - 1 : Nat) := by
    have below := n.toNat_lt
    omega
  have value : asInt? 0 ((1 <<< 32 : Nat) - 1 : Nat) (.ofUInt32 n) = some (n.toNat : Int) := if_pos inside
  rw [asUInt32?,asNat?,value,Option.map_some,Option.map_some,Int.toNat_natCast,UInt32.ofNat_toNat]

theorem asText_ofString (s : String) : (Document.ofString s).asText? = some s := rfl

theorem asList_ofList {read : Document → Option α} {write : α → Document} (back : ∀ a, read (write a) = some a)
    (items : List α) : (Document.ofList write items).asList? read = some items := by
  rw [ofList,asList?,List.mapM_map]
  induction items with
  | nil => rfl
  | cons a rest ih => simp [List.mapM_cons,back,ih]

theorem asOption_ofOption {read : Document → Option α} {write : α → Document}
    (back : ∀ a, (write a).asOption? read = some (some a)) (value : Option α) :
    (Document.ofOption write value).asOption? read = some value := by
  cases value with
  | none => rfl
  | some a => exact back a

theorem small_integer (n : Nat) (small : n < 10 ^ 20) : exceedsDouble n 0 = false := by
  have length := Nat.toDigits_length 10 n 20 (by decide) small
  have short : ((Nat.toDigits 10 n).length : Int) + 0 < 300 := by omega
  unfold exceedsDouble
  rw [if_pos (.inr short)]

theorem int64_plain (n : Int64) : Plain (.ofInt64 n) := by
  have low : Int64.minValue.toInt ≤ n.toInt := Int64.minValue_le_toInt n
  have high : n.toInt ≤ Int64.maxValue.toInt := Int64.toInt_le n
  have ends : Int64.minValue.toInt = -2 ^ 63 ∧ Int64.maxValue.toInt = 2 ^ 63 - 1 := by decide
  exact .integer (small_integer _ (by omega))

theorem uint32_plain (n : UInt32) : Plain (.ofUInt32 n) := by
  have below := n.toNat_lt
  exact .integer (small_integer _ (by omega))

theorem list_plain {write : α → Document} (each : ∀ a, Plain (write a)) (items : List α) :
    Plain (.ofList write items) := by
  refine .list fun d member => ?_
  obtain ⟨a,_,rfl⟩ := List.mem_map.mp member
  exact each a

-- Where a field is written only in some cases.
theorem optional_plain {write : α → Document} (each : ∀ a, Plain (write a)) (value : Option α) :
    ∀ d ∈ value.map write, Plain d := by
  intro d written
  obtain ⟨a,_,rfl⟩ := Option.map_eq_some_iff.mp written
  exact each a

theorem skipped_plain {c : Prop} [Decidable c] (plain : Plain d) : ∀ e ∈ if c then none else some d, Plain e := by
  intro e written
  split at written <;> cases written
  exact plain

theorem written_plain (plain : Plain d) : ∀ e ∈ some d, Plain e := by
  intro e written
  cases written
  exact plain

end Values

section Legible

theorem areLegible_all (depth : Nat) (items : List Document) :
    areLegible depth items = items.all (·.isLegible depth) := by
  induction items with
  | nil => rfl
  | cons d rest ih => rw [areLegible,ih,List.all_cons]

theorem membersAreLegible_all (depth : Nat) (members : List (Option String × Document)) :
    membersAreLegible depth members = members.all fun m => m.1.isSome && m.2.isLegible depth := by
  induction members with
  | nil => rfl
  | cons m rest ih => rw [membersAreLegible,ih,List.all_cons]

theorem list_legible {write : α → Document} {depth : Nat} (each : ∀ a, (write a).isLegible depth = true)
    (items : List α) : (Document.ofList write items).isLegible (depth + 1) = true := by
  rw [ofList,isLegible,Nat.add_sub_cancel,areLegible_all]
  simp [each]

theorem members_legible {slots : Slots} {depth : Nat} (values : ∀ s ∈ slots, ∀ d ∈ s.2, d.isLegible depth = true) :
    (Document.object slots.members).isLegible (depth + 1) = true := by
  rw [isLegible,Nat.add_sub_cancel,membersAreLegible_all]
  simp only [Slots.members,Nat.succ_ne_zero,bne_iff_ne,ne_eq,not_false_eq_true,Bool.and_eq_true,List.all_eq_true,
    List.mem_filterMap,true_and]
  rintro m ⟨s,among,shown⟩
  obtain ⟨d,held,rfl⟩ := Option.map_eq_some_iff.mp shown
  exact ⟨rfl,values s among d held⟩

end Legible

namespace Fields
variable {fields : Fields} {key : String} {read : Document → Option α} {d : Document} {value default : α}

theorem required_written (shown : fields key = some d) (back : read d = some value) :
    fields.required key read = some value := by
  rw [required,shown,Option.bind_some,back]

theorem withDefault_written (shown : fields key = some d) (back : read d = some value) :
    fields.withDefault key default read = some value := by
  rw [withDefault,shown]
  exact back

-- A field may be left out where it is what its absence stands for.
theorem withDefault_skipped {c : Prop} [Decidable c] (shown : fields key = if c then none else some d)
    (idle : c → value = default) (back : read d = some value) : fields.withDefault key default read = some value := by
  rw [withDefault,shown]
  by_cases skipped : c
  · rw [if_pos skipped]
    exact congrArg some (idle skipped).symm
  · rw [if_neg skipped]
    exact back

theorem optional_written {write : α → Document} {value : Option α} (shown : fields key = value.map write)
    (back : ∀ a, (write a).asOption? read = some (some a)) : fields.optional key read = some value := by
  rw [optional,withDefault,shown]
  cases value with
  | none => rfl
  | some a => exact back a

end Fields

-- Fields are read one after the other, each as soon as those before it were.
theorem read_next {x : Option α} {f : α → Option β} (first : x = some a) (rest : f a = some b) :
    (x >>= f) = some b := by
  rw [first]
  exact rest

end HostNet.Document
