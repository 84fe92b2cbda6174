import HostNet.Proofs.NetworkPlans
import Mathlib.Data.Finset.Basic
import Mathlib.Data.Int.Range

namespace HostNet.Config

-- What is asked of an entry.
inductive Demand where
  | ends
  | lowest
  | highest
  | order
  | single
deriving DecidableEq, Repr

namespace TrunkEntry

def Meets (e : TrunkEntry) : Demand → Prop
  | .ends => e.lowest = none ↔ e.highest = none
  | .lowest => ∀ low, e.lowest = some low → 1 ≤ low.toInt ∧ low.toInt ≤ 4094
  | .highest => ∀ high, e.highest = some high → 1 ≤ high.toInt ∧ high.toInt ≤ 4094
  | .order => ∀ low high, e.lowest = some low → e.highest = some high → low.toInt ≤ high.toInt
  | .single => ∀ n, e.single = some n → 1 ≤ n.toInt ∧ n.toInt ≤ 4094

def Valid (e : TrunkEntry) : Prop := ∀ d, e.Meets d

-- The words for a demand that an entry does not meet.
def words (e : TrunkEntry) : Demand → String
  | .ends =>
    if e.lowest = none then "minID and maxID should be configured simultaneously, minID is missing"
    else "minID and maxID should be configured simultaneously, maxID is missing"
  | .lowest => "incorrect trunk minID parameter"
  | .highest => "incorrect trunk maxID parameter"
  | .order => "minID is greater than maxID in trunk parameter"
  | .single => "incorrect trunk id parameter"

-- The text is about the first of the demands that the entry does not meet.
def FirstUnmet (e : TrunkEntry) (text : String) : List Demand → Prop
  | [] => False
  | d :: later => ¬e.Meets d ∧ text = e.words d ∨ e.Meets d ∧ e.FirstUnmet text later

-- An entry is refused over the demands in this order.
def Refused (e : TrunkEntry) (text : String) : Prop :=
  e.FirstUnmet text [.ends,.lowest,.highest,.order,.single]

-- An entry names what lies between its two ends, and its single id.
def Names (e : TrunkEntry) (n : Int) : Prop :=
  (∃ low high, e.lowest = some low ∧ e.highest = some high ∧ low.toInt ≤ n ∧ n ≤ high.toInt) ∨
    ∃ single, e.single = some single ∧ single.toInt = n

variable {e : TrunkEntry} {d : Demand} {demands more : List Demand} {text other : String}
  {fault : TrunkFault} {found rest : Option TrunkFault}

theorem FirstUnmet.unique (one : e.FirstUnmet text demands) (two : e.FirstUnmet other demands) : text = other := by
  induction demands with
  | nil => exact one.elim
  | cons d later ih =>
    rcases one with ⟨unmet,words⟩ | ⟨met,one⟩ <;> rcases two with ⟨unmet',words'⟩ | ⟨met',two⟩
    · exact words.trans words'.symm
    · exact absurd met' unmet
    · exact absurd met unmet'
    · exact ih one two

theorem FirstUnmet.invalid (first : e.FirstUnmet text demands) : ¬e.Valid := by
  intro valid
  induction demands with
  | nil => exact first
  | cons d later ih =>
    rcases first with ⟨unmet,-⟩ | ⟨-,first⟩
    · exact unmet (valid d)
    · exact ih first

theorem FirstUnmet.behind (met : ∀ d ∈ demands, e.Meets d) (first : e.FirstUnmet text more) :
    e.FirstUnmet text (demands ++ more) := by
  induction demands with
  | nil => exact first
  | cons d later ih =>
    obtain ⟨here,others⟩ := List.forall_mem_cons.mp met
    exact .inr ⟨here,ih others⟩

theorem FirstUnmet.before (first : e.FirstUnmet text demands) : e.FirstUnmet text (demands ++ more) := by
  induction demands with
  | nil => exact first.elim
  | cons d later ih =>
    rcases first with unmet | ⟨met,first⟩
    · exact .inl unmet
    · exact .inr ⟨met,ih first⟩

-- What has been found out from some demands: no fault only if they are all met, else the first fault.
def Decided (e : TrunkEntry) (demands : List Demand) : Option TrunkFault → Prop
  | none => ∀ d ∈ demands, e.Meets d
  | some fault => e.FirstUnmet fault.message demands

theorem decided_nil : e.Decided [] none := fun _ absent => nomatch absent

theorem decided_met (met : e.Meets d) (later : e.Decided demands found) : e.Decided (d :: demands) found := by
  cases found with
  | none => exact List.forall_mem_cons.mpr ⟨met,later⟩
  | some fault => exact .inr ⟨met,later⟩

theorem decided_if {refused : Bool} (fails : refused = true ↔ ¬e.Meets d) (worded : fault.message = e.words d)
    (later : e.Decided demands rest) : e.Decided (d :: demands) (if refused then some fault else rest) := by
  cases refused with
  | true => exact .inl ⟨fails.mp rfl,worded⟩
  | false => exact decided_met (Classical.not_not.mp fun unmet => nomatch fails.mpr unmet) later

theorem decided_or (first : e.Decided demands found) (second : e.Decided more rest) :
    e.Decided (demands ++ more) (found.or rest) := by
  cases found with
  | some fault => exact FirstUnmet.before first
  | none =>
    cases rest with
    | some fault => exact FirstUnmet.behind first second
    | none => exact List.forall_mem_append.mpr ⟨first,second⟩

theorem isId_iff (n : Int64) : isId n = true ↔ 1 ≤ n.toInt ∧ n.toInt ≤ 4094 := by
  rw [isId,Bool.and_eq_true,decide_eq_true_iff,decide_eq_true_iff]
  rfl

-- The range is looked at in full only if both of its ends are there.
theorem rangeFault_decided (e : TrunkEntry) : e.Decided [.ends,.lowest,.highest,.order] e.rangeFault? := by
  obtain ⟨lowest,highest,single⟩ := e
  cases lowest with
  | none =>
    cases highest with
    | none =>
      apply decided_met (by simp [Meets])
      apply decided_met (by simp [Meets])
      apply decided_met (by simp [Meets])
      apply decided_met (by simp [Meets])
      exact decided_nil
    | some high => exact .inl ⟨by simp [Meets],rfl⟩
  | some low =>
    cases highest with
    | none => exact .inl ⟨by simp [Meets],rfl⟩
    | some high =>
      have order : decide (high < low) = true ↔ ¬Meets ⟨some low,some high,single⟩ .order := by
        rw [decide_eq_true_iff,Int64.lt_iff_toInt_lt]
        simp [Meets]
      apply decided_met (by simp [Meets])
      apply decided_if (by simp [Meets,← isId_iff]) rfl
      apply decided_if (by simp [Meets,← isId_iff]) rfl
      have last : Decided ⟨some low,some high,single⟩ [.order] (if decide (high < low) then some .order else none) :=
        decided_if order rfl decided_nil
      simpa only [decide_eq_true_iff] using last

theorem singleFault_decided (e : TrunkEntry) : e.Decided [.single] e.singleFault? := by
  obtain ⟨lowest,highest,single⟩ := e
  cases single with
  | none =>
    apply decided_met (by simp [Meets])
    exact decided_nil
  | some n =>
    by_cases inside : isId n = true
    · have known : singleFault? ⟨lowest,highest,some n⟩ = none := by simp [singleFault?,inside]
      rw [known]
      apply decided_met (by simpa [Meets] using (isId_iff n).mp inside)
      exact decided_nil
    · have known : singleFault? ⟨lowest,highest,some n⟩ = some .single := by simp [singleFault?,inside]
      rw [known]
      exact .inl ⟨fun met => inside ((isId_iff n).mpr (met n rfl)),rfl⟩

theorem fault_decided (e : TrunkEntry) : e.Decided [.ends,.lowest,.highest,.order,.single] e.fault? :=
  decided_or (rangeFault_decided e) (singleFault_decided e)

theorem fault_none : e.fault? = none ↔ e.Valid := by
  have decided := fault_decided e
  constructor
  · intro known
    rw [known] at decided
    intro d
    apply decided
    cases d <;> decide
  · intro valid
    cases known : e.fault? with
    | none => rfl
    | some fault =>
      rw [known] at decided
      exact absurd valid (FirstUnmet.invalid decided)

theorem fault_refused : e.fault?.map TrunkFault.message = some text ↔ e.Refused text := by
  have decided := fault_decided e
  cases known : e.fault? with
  | none => exact ⟨nofun,fun refused => absurd (fault_none.mp known) refused.invalid⟩
  | some fault =>
    rw [known] at decided
    have refused : e.Refused fault.message := decided
    constructor
    · intro same
      cases same
      exact refused
    · intro refused'
      exact congrArg some (refused.unique refused')

theorem covers_iff {id : Nat} : e.covers id = true ↔ e.Names id := by
  obtain ⟨lowest,highest,single⟩ := e
  cases lowest <;> cases highest <;> cases single <;> simp [covers,Names]

-- A valid entry names ids only.
theorem Valid.names {n : Int} (valid : e.Valid) (named : e.Names n) : 1 ≤ n ∧ n ≤ 4094 := by
  rcases named with ⟨low,high,first,last,above,below⟩ | ⟨single,one,rfl⟩
  · have lowest := valid .lowest low first
    have highest := valid .highest high last
    omega
  · exact valid .single single one

-- The numbers of an entry as a set.
def numbers (e : TrunkEntry) : Finset Int :=
  (match e.lowest, e.highest with
    | some low, some high => (Int.range low.toInt (high.toInt + 1)).toFinset
    | _, _ => ∅) ∪ e.single.elim ∅ fun n => {n.toInt}

theorem mem_numbers {n : Int} : n ∈ e.numbers ↔ e.Names n := by
  obtain ⟨lowest,highest,single⟩ := e
  have range (low high : Int64) :
      n ∈ (Int.range low.toInt (high.toInt + 1)).toFinset ↔ low.toInt ≤ n ∧ n ≤ high.toInt := by
    rw [List.mem_toFinset,Int.mem_range_iff,Int.lt_add_one_iff]
  cases lowest <;> cases highest <;> cases single <;> simp [numbers,Names,range,eq_comm,or_comm]

-- Adds the numbers of an entry to those of the entries before it.
def gather (gathered : Finset Int) (e : TrunkEntry) : Except TrunkFault (Finset Int) :=
  match e.fault? with
  | some fault => .error fault
  | none => .ok (gathered ∪ e.numbers)

theorem gather_valid (valid : e.Valid) (gathered : Finset Int) : gather gathered e = .ok (gathered ∪ e.numbers) := by
  rw [gather,fault_none.mpr valid]

theorem gather_faulty (known : e.fault? = some fault) (gathered : Finset Int) : gather gathered e = .error fault := by
  rw [gather,known]

end TrunkEntry

open TrunkEntry

def gatherAll (entries : List TrunkEntry) : Except TrunkFault (Finset Int) := entries.foldlM gather ∅

-- The number in sixteen bits, if it has room in them.
def narrow? (n : Int) : Option UInt16 :=
  if 0 ≤ n ∧ n < 65536 then some (.ofNat n.toNat) else none

-- The text is about the first entry that is not valid.
def FirstRefused (entries : List TrunkEntry) (text : String) : Prop :=
  ∃ before e after, entries = before ++ e :: after ∧ (∀ earlier ∈ before, earlier.Valid) ∧ e.Refused text

-- The list is the expansion of the entries: of the numbers that they name none is left out, and none is changed
-- or lost where the gathered numbers are narrowed to sixteen bits.
structure Expansion (entries : List TrunkEntry) (ids : List Nat) : Prop where
  ascending : ids.Pairwise (· < ·)
  named : ∀ n : Int, (∃ id ∈ ids, (id : Int) = n) ↔ ∃ e ∈ entries, e.Names n
  narrowed : ∃ sorted : List Int, sorted.Pairwise (· < ·) ∧ gatherAll entries = .ok sorted.toFinset ∧
    ids = (sorted.filterMap narrow?).map UInt16.toNat ∧
      ∀ n ∈ sorted, ∃ short, narrow? n = some short ∧ (short.toNat : Int) = n

variable {entries others : List TrunkEntry} {ids : List Nat} {text : String} {fault : TrunkFault}

theorem faultless_iff : entries.findSome? fault? = none ↔ ∀ e ∈ entries, e.Valid := by
  rw [List.findSome?_eq_none_iff]
  exact forall₂_congr fun _ _ => fault_none

theorem expandTrunk_valid (valid : ∀ e ∈ entries, e.Valid) : expandTrunk entries =
    .ok ((List.range' 1 largestVlan).filter fun id => entries.any (·.covers id)) := by
  rw [expandTrunk,faultless_iff.mpr valid]

theorem expandTrunk_faulty (first : entries.findSome? fault? = some fault) : expandTrunk entries = .error fault := by
  rw [expandTrunk,first]

theorem expandTrunk_error : expandTrunk entries = .error fault ↔ entries.findSome? fault? = some fault := by
  constructor
  · intro refused
    cases first : entries.findSome? fault? with
    | none => cases refused.symm.trans (expandTrunk_valid (faultless_iff.mp first))
    | some fault' => rw [Except.error.inj (refused.symm.trans (expandTrunk_faulty first))]
  · exact expandTrunk_faulty

theorem expandTrunk_ok : (∃ ids, expandTrunk entries = .ok ids) ↔ ∀ e ∈ entries, e.Valid := by
  constructor
  · rintro ⟨ids,expanded⟩
    cases first : entries.findSome? fault? with
    | none => exact faultless_iff.mp first
    | some fault => cases expanded.symm.trans (expandTrunk_faulty first)
  · intro valid
    exact ⟨_,expandTrunk_valid valid⟩

theorem expandTrunk_refused : (expandTrunk entries).mapError TrunkFault.message = .error text ↔
    FirstRefused entries text := by
  constructor
  · intro refused
    cases expanded : expandTrunk entries with
    | ok ids =>
      rw [expanded] at refused
      cases refused
    | error fault =>
      rw [expanded] at refused
      cases refused
      have first := expandTrunk_error.mp expanded
      obtain ⟨before,e,after,split,known,faultless⟩ := List.findSome?_eq_some_iff.mp first
      refine ⟨before,e,after,split,fun earlier among => fault_none.mp (faultless earlier among),?_⟩
      exact fault_refused.mp (congrArg (Option.map TrunkFault.message) known)
  · rintro ⟨before,e,after,split,valid,refused⟩
    obtain ⟨fault,known,rfl⟩ := Option.map_eq_some_iff.mp (fault_refused.mpr refused)
    have first : entries.findSome? fault? = some fault :=
      List.findSome?_eq_some_iff.mpr ⟨before,e,after,split,known,fun earlier among => fault_none.mpr (valid earlier among)⟩
    rw [expandTrunk_faulty first]
    rfl

-- The first fault also ends the gathering, at whatever was gathered before.
theorem gather_stops (gathered : Finset Int) :
    entries.foldlM gather gathered = .error fault ↔ entries.findSome? fault? = some fault := by
  induction entries generalizing gathered with
  | nil => exact ⟨nofun,nofun⟩
  | cons e later ih =>
    rw [List.foldlM_cons,List.findSome?_cons]
    cases known : e.fault? with
    | none =>
      rw [gather_valid (fault_none.mp known)]
      exact ih _
    | some other =>
      rw [gather_faulty known]
      exact ⟨fun ends => congrArg some (Except.error.inj ends),fun same => congrArg Except.error (Option.some.inj same)⟩

-- After each entry the gathered numbers are those of the entries so far.
theorem gathers (valid : ∀ e ∈ entries, e.Valid) (gathered : Finset Int) :
    ∃ numbers, entries.foldlM gather gathered = .ok numbers ∧
      ∀ n, n ∈ numbers ↔ n ∈ gathered ∨ ∃ e ∈ entries, e.Names n := by
  induction entries generalizing gathered with
  | nil => exact ⟨gathered,rfl,by simp⟩
  | cons e later ih =>
    obtain ⟨here,others⟩ := List.forall_mem_cons.mp valid
    obtain ⟨numbers,folded,members⟩ := ih others (gathered ∪ e.numbers)
    refine ⟨numbers,?_,fun n => ?_⟩
    · rw [List.foldlM_cons,gather_valid here]
      exact folded
    · rw [members,Finset.mem_union,mem_numbers,or_assoc]
      simp only [List.mem_cons,exists_eq_or_imp]

theorem narrow_small {id : Nat} (small : id < 65536) :
    ∃ short, narrow? id = some short ∧ short.toNat = id := by
  refine ⟨.ofNat id,?_,UInt16.toNat_ofNat_of_lt' small⟩
  rw [narrow?,if_pos ⟨by omega,by omega⟩,Int.toNat_natCast]

-- Numbers in ascending order that all have room are the same after they are narrowed.
theorem narrowed_ids (small : ∀ id ∈ ids, id < 65536) :
    ((ids.map Nat.cast).filterMap narrow?).map UInt16.toNat = ids := by
  induction ids with
  | nil => rfl
  | cons id later ih =>
    obtain ⟨here,others⟩ := List.forall_mem_cons.mp small
    obtain ⟨short,narrowed,same⟩ := narrow_small here
    rw [List.map_cons,List.filterMap_cons_some narrowed,List.map_cons,ih others,same]

theorem valid_expansion (valid : ∀ e ∈ entries, e.Valid) (expanded : expandTrunk entries = .ok ids) :
    Expansion entries ids := by
  have listed := Except.ok.inj ((expandTrunk_valid valid).symm.trans expanded)
  obtain ⟨ascending,within⟩ := expandTrunk_ascending expanded
  have member (id : Nat) : id ∈ ids ↔ (1 ≤ id ∧ id ≤ 4094) ∧ ∃ e ∈ entries, e.Names id := by
    rw [← listed,List.mem_filter,List.mem_range'_1,List.any_eq_true]
    simp only [covers_iff,largestVlan]
    exact and_congr_left fun _ => by omega
  have named (n : Int) : (∃ id ∈ ids, (id : Int) = n) ↔ ∃ e ∈ entries, e.Names n := by
    constructor
    · rintro ⟨id,among,rfl⟩
      exact ((member id).mp among).2
    · rintro ⟨e,among,names⟩
      have inside := (valid e among).names names
      have same : (n.toNat : Int) = n := Int.toNat_of_nonneg (by omega)
      refine ⟨n.toNat,(member _).mpr ⟨by omega,e,among,?_⟩,same⟩
      rwa [same]
  have small : ∀ id ∈ ids, id < 65536 := fun id among => by
    have inside := within id among
    omega
  refine ⟨ascending,named,?_⟩
  obtain ⟨numbers,gathered,members⟩ := gathers valid ∅
  have same : numbers = (ids.map (Nat.cast : Nat → Int)).toFinset := by
    ext n
    rw [members,List.mem_toFinset,List.mem_map,named]
    simp
  refine ⟨ids.map Nat.cast,?_,?_,(narrowed_ids small).symm,?_⟩
  · exact ascending.map _ fun _ _ less => Int.ofNat_lt.mpr less
  · rw [← same]
    exact gathered
  · intro n among
    obtain ⟨id,listed,rfl⟩ := List.mem_map.mp among
    obtain ⟨short,narrowed,value⟩ := narrow_small (small id listed)
    exact ⟨short,narrowed,by rw [value]⟩

-- Neither the order of the entries nor how often one is repeated matters.
theorem expandTrunk_members (same : ∀ e, e ∈ others ↔ e ∈ entries) (ids : List Nat) :
    expandTrunk others = .ok ids ↔ expandTrunk entries = .ok ids := by
  by_cases valid : ∀ e ∈ entries, e.Valid
  · have valid' : ∀ e ∈ others, e.Valid := fun e among => valid e ((same e).mp among)
    have covered (id : Nat) : others.any (·.covers id) = entries.any (·.covers id) := by
      rw [Bool.eq_iff_iff,List.any_eq_true,List.any_eq_true]
      exact exists_congr fun e => and_congr_left fun _ => same e
    rw [expandTrunk_valid valid,expandTrunk_valid valid']
    simp only [covered]
  · have invalid : ¬∀ e ∈ others, e.Valid := fun valid' => valid fun e among => valid' e ((same e).mpr among)
    exact ⟨fun expanded => absurd (expandTrunk_ok.mp ⟨ids,expanded⟩) invalid,
      fun expanded => absurd (expandTrunk_ok.mp ⟨ids,expanded⟩) valid⟩

-- A trunk is expanded if and only if all its entries are valid, and then to what they name; else it is refused where the
-- gathering stops, with a text about the first demand that the first invalid entry does not meet. Only which entries
-- there are counts for the ids.
theorem trunk_expanded_exactly (entries : List TrunkEntry) :
    ((∃ ids, expandTrunk entries = .ok ids) ↔ ∀ e ∈ entries, e.Valid) ∧
    (∀ ids, expandTrunk entries = .ok ids → Expansion entries ids) ∧
    (∀ fault, expandTrunk entries = .error fault ↔ gatherAll entries = .error fault) ∧
    (∀ text, (expandTrunk entries).mapError TrunkFault.message = .error text ↔ FirstRefused entries text) ∧
    ∀ others : List TrunkEntry, (∀ e, e ∈ others ↔ e ∈ entries) →
      ∀ ids, expandTrunk others = .ok ids ↔ expandTrunk entries = .ok ids := by
  refine ⟨expandTrunk_ok,?expanded,?stopped,fun _ => expandTrunk_refused,fun _ same => expandTrunk_members same⟩
  case expanded =>
    intro ids expanded
    exact valid_expansion (expandTrunk_ok.mp ⟨ids,expanded⟩) expanded
  case stopped =>
    intro fault
    exact expandTrunk_error.trans (gather_stops ∅).symm

end HostNet.Config
