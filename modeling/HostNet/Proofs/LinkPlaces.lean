import HostNet.Proofs.KernelTables

namespace HostNet.Kernel.Table

variable {t u : Table} {links before after : List Link} {link : Link} {test : Link → Bool} {f : Link → Link}
  {name : String}

theorem changeFirst_at (passed : ∀ other ∈ before, test other = false) (here : test link = true) :
    changeFirstLink test f (before ++ link :: after) = before ++ f link :: after := by
  induction before with
  | nil => exact if_pos here
  | cons head rest ih =>
    have later := ih fun other among => passed other (List.mem_cons_of_mem _ among)
    rw [List.cons_append,changeFirstLink,if_neg (by rw [passed head List.mem_cons_self]; nofun),later,List.cons_append]

theorem altered_part {others : List Link} (part : Nat × String → α) (places : links.map place = others.map place) :
    links.map (fun link => part (place link)) = others.map fun link => part (place link) := by
  have parts := congrArg (List.map part) places
  rwa [List.map_map,List.map_map] at parts

theorem altered_indices {others : List Link} (places : links.map place = others.map place) :
    links.map Link.index = others.map Link.index := altered_part Prod.fst places

theorem altered_names {others : List Link} (places : links.map place = others.map place) :
    links.map Link.name = others.map Link.name := altered_part Prod.snd places

theorem Orderly.insert_ascending (orderly : t.Orderly) (ascending : (t.links.map Link.index).Pairwise (· < ·))
    (link : Link) : ((t.insert link).links.map Link.index).Pairwise (· < ·) := by
  rw [insert_indices]
  refine List.pairwise_append.mpr ⟨ascending,List.pairwise_singleton _ _,fun index known new given => ?_⟩
  obtain ⟨other,among,rfl⟩ := List.mem_map.mp known
  cases List.mem_singleton.mp given
  exact Nat.lt_succ_of_le (orderly.links other among)

theorem Effect.ascending (effect : Effect t u) (orderly : t.Orderly)
    (ascending : (t.links.map Link.index).Pairwise (· < ·)) : (u.links.map Link.index).Pairwise (· < ·) := by
  cases effect with
  | none links addresses last => rwa [links]
  | inserted link unknown => exact orderly.insert_ascending ascending link
  | altered links places => exact altered_indices places ▸ ascending
  | deleted index => exact ascending.sublist (List.filter_sublist.map _)
  | given link there net new => exact ascending

-- Links stand in the order of their indices, because a new link has a new one.
theorem Reached.ascending (reached : t.Reached) : (t.links.map Link.index).Pairwise (· < ·) := by
  induction reached with
  | empty => exact List.Pairwise.nil
  | device reached name mtu ih => exact reached.orderly.insert_ascending ih _
  | change reached c ih => exact (change_effect c _).ascending reached.orderly ih
  | beside reached links addresses last ih => rwa [links]

theorem ascending_distinct (ascending : (t.links.map Link.index).Pairwise (· < ·)) : (t.links.map Link.index).Nodup :=
  ascending.imp fun less => Nat.ne_of_lt less

theorem Reached.distinct (reached : t.Reached) : (t.links.map Link.index).Nodup := ascending_distinct reached.ascending

theorem indexed_own (distinct : (t.links.map Link.index).Nodup) (among : link ∈ t.links) :
    t.indexed? link.index = some link := by
  obtain ⟨first,found⟩ : ∃ first, t.indexed? link.index = some first :=
    Option.isSome_iff_exists.mp (List.find?_isSome.mpr ⟨link,among,beq_self_eq_true _⟩)
  have same := List.inj_on_of_nodup_map distinct (List.mem_of_find?_eq_some found) among (indexed_index found)
  rwa [same] at found

-- The only link of a name, between others that have other names and other indices.
structure Sits (name : String) (before after : List Link) (link : Link) (t : Table) : Prop where
  links : t.links = before ++ link :: after
  called : link.name = name
  names : ∀ other ∈ before ++ after, other.name ≠ name
  indices : ∀ other ∈ before ++ after, other.index ≠ link.index

namespace Sits
variable {index : Nat}

theorem of_named (unique : (t.links.map Link.name).Nodup) (distinct : (t.links.map Link.index).Nodup)
    (there : t.named? name = some link) : ∃ before after, Sits name before after link t := by
  obtain ⟨called,before,after,links,_⟩ := List.find?_eq_some_iff_append.mp there
  rw [links,List.map_append,List.map_cons,List.nodup_middle,← List.map_append] at unique distinct
  refine ⟨before,after,links,by simpa using called,fun other among same => ?_,fun other among same => ?_⟩
  · have own : link.name = name := by simpa using called
    exact (List.nodup_cons.mp unique).1 (List.mem_map.mpr ⟨other,among,same.trans own.symm⟩)
  · exact (List.nodup_cons.mp distinct).1 (List.mem_map.mpr ⟨other,among,same⟩)

theorem inserted (orderly : t.Orderly) (link : Link) (absent : t.named? link.name = none) :
    Sits link.name t.links [] { link with index := t.lastIndex + 1 } (t.insert link) := by
  refine ⟨rfl,rfl,fun other among same => ?_,fun other among same => ?_⟩
  · rw [List.append_nil] at among
    exact List.find?_eq_none.mp absent other among (beq_iff_eq.mpr same)
  · rw [List.append_nil] at among
    have late : other.index = t.lastIndex + 1 := same
    exact absurd (orderly.links other among) (by omega)

variable (sits : Sits name before after link t)
include sits

theorem passed_names : ∀ other ∈ before, (other.name == name) = false := fun other among =>
  beq_false_of_ne (sits.names other (List.mem_append_left _ among))

theorem passed_indices : ∀ other ∈ before, (other.index == link.index) = false := fun other among =>
  beq_false_of_ne (sits.indices other (List.mem_append_left _ among))

theorem named : t.named? name = some link :=
  List.find?_eq_some_iff_append.mpr ⟨beq_iff_eq.mpr sits.called,before,after,sits.links,fun other among => by
    rw [sits.passed_names other among]
    rfl⟩

theorem own : t.links.filter (·.name == name) = [link] := by
  have others : (before ++ after).filter (·.name == name) = [] :=
    List.filter_eq_nil_iff.mpr fun other among => by simpa using sits.names other among
  rw [List.filter_append,List.append_eq_nil_iff] at others
  rw [sits.links,List.filter_append,List.filter_cons_of_pos (by simp [sits.called]),others.1,others.2,List.nil_append]

theorem filtered {keep : Link → Bool} (kept : ∀ other ∈ before ++ after, keep other = true)
    (dropped : keep link = false) : t.links.filter keep = before ++ after := by
  rw [sits.links,List.filter_append,List.filter_cons_of_neg (by simp [dropped]),← List.filter_append]
  exact List.filter_eq_self.mpr kept

theorem others : t.links.filter (·.name != name) = before ++ after :=
  sits.filtered (fun other among => bne_iff_ne.mpr (sits.names other among)) (by simp [sits.called])

theorem rest : t.links.filter (·.index != link.index) = before ++ after :=
  sits.filtered (fun other among => bne_iff_ne.mpr (sits.indices other among)) (by simp)

-- The link is changed where it is, whether it is found by its name or by its index.
theorem changed (f : Link → Link) (called : (f link).name = link.name) (numbered : (f link).index = link.index) :
    Sits name before after (f link) (t.changeFirst (·.name == name) f) ∧
      Sits name before after (f link) (t.changeFirst (·.index == link.index) f) := by
  have indices : ∀ other ∈ before ++ after, other.index ≠ (f link).index := by
    rw [numbered]
    exact sits.indices
  constructor
  · refine ⟨?_,called.trans sits.called,sits.names,indices⟩
    rw [changeFirst,sits.links,changeFirst_at sits.passed_names (beq_iff_eq.mpr sits.called)]
  · refine ⟨?_,called.trans sits.called,sits.names,indices⟩
    rw [changeFirst,sits.links,changeFirst_at sits.passed_indices (beq_self_eq_true _)]

end Sits

end HostNet.Kernel.Table
