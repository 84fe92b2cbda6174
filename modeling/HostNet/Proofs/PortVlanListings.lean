import HostNet.Proofs.Entries
import HostNet.Proofs.ReplyStreams
import Mathlib.Data.List.TakeWhile

namespace HostNet.Kernel

namespace PortVlans

-- The indices of the ports are in ascending order, so each is there once.
def Ascending (vlans : PortVlans) : Prop := vlans.Pairwise fun one other => one.1 < other.1

variable {vlans : PortVlans} {port : Nat × List Nat} {ports : List (Nat × List Nat)} {index : Nat} {ids : List Nat}

theorem lookup_put (vlans : PortVlans) (index other : Nat) (ids : List Nat) :
    (vlans.put index ids).lookup other = if other = index then some ids else vlans.lookup other := by
  have parts : vlans.lookup other =
      ((vlans.takeWhile (·.1 < index)).lookup other).or ((vlans.dropWhile (·.1 < index)).lookup other) := by
    rw [← List.lookup_append,List.takeWhile_append_dropWhile]
  rw [put,List.lookup_append,List.lookup_append,Entries.lookup_dropped]
  by_cases same : other = index
  · subst same
    have absent : (vlans.takeWhile (·.1 < other)).lookup other = none := by
      refine List.lookup_eq_none_iff.mpr fun port among => ?_
      have below : port.1 < other := by simpa using List.mem_takeWhile_imp among
      exact bne_iff_ne.mpr (Nat.ne_of_gt below)
    rw [absent,if_pos rfl,if_pos rfl,List.lookup_cons_self]
    rfl
  · have beside : List.lookup other [(index,ids)] = none := by simp [List.lookup_cons,beq_eq_false_iff_ne.mpr same]
    rw [beside,if_neg same,if_neg same,Option.or_none,parts]

theorem put_ascending (ascending : Ascending vlans) (index : Nat) (ids : List Nat) :
    Ascending (vlans.put index ids) := by
  have parts : Ascending (vlans.takeWhile (·.1 < index) ++ vlans.dropWhile (·.1 < index)) := by
    rw [List.takeWhile_append_dropWhile]
    exact ascending
  obtain ⟨before,after,across⟩ := List.pairwise_append.mp parts
  have below : ∀ port ∈ vlans.takeWhile (·.1 < index), port.1 < index := fun port among => by
    simpa using List.mem_takeWhile_imp among
  have above : ∀ port ∈ vlans.dropWhile (·.1 < index), index ≤ port.1 := by
    cases rest : vlans.dropWhile (·.1 < index) with
    | nil => simp
    | cons first later =>
      have stopped : ¬first.1 < index := by
        have refused := List.dropWhile_get_zero_not (fun port : Nat × List Nat => decide (port.1 < index)) vlans
        simpa [rest] using refused
      rw [rest] at after
      refine List.forall_mem_cons.mpr ⟨Nat.le_of_not_lt stopped,fun port among => ?_⟩
      exact Nat.le_trans (Nat.le_of_not_lt stopped) (Nat.le_of_lt ((List.pairwise_cons.mp after).1 port among))
  rw [put,Ascending,List.append_assoc,List.singleton_append,List.pairwise_append,List.pairwise_cons]
  refine ⟨before,⟨fun port among => ?_,after.filter _⟩,fun one early other late => ?_⟩
  · obtain ⟨later,different⟩ := List.mem_filter.mp among
    have different : port.1 ≠ index := by simpa using different
    have bound := above port later
    change index < port.1
    omega
  · rcases List.mem_cons.mp late with rfl | late
    · exact below one early
    · exact across one early other (List.mem_of_mem_filter late)

theorem mem_put (among : port ∈ vlans.put index ids) : port = (index,ids) ∨ port ∈ vlans := by
  simp only [put,List.mem_append,List.mem_singleton] at among
  rcases among with (early | here) | late
  · exact .inr ((List.takeWhile_sublist _).subset early)
  · exact .inl here
  · exact .inr ((List.dropWhile_sublist _).subset (List.mem_of_mem_filter late))

-- Ports that are put in one after the other.
def gather (vlans : PortVlans) (ports : List (Nat × List Nat)) : PortVlans :=
  ports.foldl (fun vlans port => vlans.put port.1 port.2) vlans

-- Of several entries for one port the last one is left.
theorem lookup_gather (vlans : PortVlans) (ports : List (Nat × List Nat)) (index : Nat) :
    (vlans.gather ports).lookup index =
      ((ports.filter (·.1 == index)).map Prod.snd).getLast?.or (vlans.lookup index) := by
  induction ports generalizing vlans with
  | nil => rfl
  | cons port rest ih =>
    have later := ih (vlans.put port.1 port.2)
    rw [lookup_put] at later
    by_cases same : index = port.1
    · subst same
      rw [if_pos rfl] at later
      rw [List.filter_cons_of_pos (by simp),List.map_cons,List.getLast?_cons]
      refine Eq.trans later ?_
      cases ((rest.filter (·.1 == port.1)).map Prod.snd).getLast? <;> rfl
    · rw [if_neg same] at later
      rw [List.filter_cons_of_neg (by simpa using Ne.symm same)]
      exact later

theorem gather_ascending (ascending : Ascending vlans) (ports : List (Nat × List Nat)) :
    Ascending (vlans.gather ports) := by
  induction ports generalizing vlans with
  | nil => exact ascending
  | cons port rest ih => exact ih (put_ascending ascending port.1 port.2)

theorem mem_gather (among : port ∈ vlans.gather ports) : port ∈ ports ∨ port ∈ vlans := by
  induction ports generalizing vlans with
  | nil => exact .inr among
  | cons first rest ih =>
    rcases ih among with later | earlier
    · exact .inl (List.mem_cons_of_mem _ later)
    · rcases mem_put earlier with rfl | old
      · exact .inl List.mem_cons_self
      · exact .inr old

end PortVlans

-- All VLANs that a message names, from all its attributes and their entries.
def LinkMessage.vlans (m : LinkMessage) : List Nat := m.attributes.flatMap LinkAttribute.portVlans

def messagesAbout (index : Nat) (replies : List Reply) : List LinkMessage :=
  (messages Content.linkMessage? replies).filter (·.index == index)

-- All VLANs that a stream reports of a port.
def reported (index : Nat) (replies : List Reply) : List Nat := (messagesAbout index replies).flatMap LinkMessage.vlans

-- The same by messages, without those that name none.
def reports (index : Nat) (replies : List Reply) : List (List Nat) :=
  ((messagesAbout index replies).map LinkMessage.vlans).filter fun ids => !ids.isEmpty

-- What stands under the index of a port where these are its VLANs. A port without any has no place.
def place (ids : List Nat) : Option (List Nat) := if ids = [] then none else some ids

-- What the VLANs of all ports come to from the replies to a request for them.
def gathered (replies : List Reply) : Except Error (Listing PortVlans) :=
  (collect Content.portVlans? replies).map fun found => { found with value := PortVlans.gather [] found.value }

variable {replies : List Reply}

theorem portVlans_message (c : Content) : c.portVlans? = c.linkMessage?.bind LinkMessage.portVlans? := by
  cases c <;> rfl

theorem portVlans_place (m : LinkMessage) : m.portVlans? = (place m.vlans).map fun ids => (m.index,ids) := by
  rw [LinkMessage.portVlans?,LinkMessage.vlans,place]
  cases m.attributes.flatMap LinkAttribute.portVlans <;> rfl

theorem reported_flatten (index : Nat) (replies : List Reply) :
    reported index replies = (reports index replies).flatten := by
  rw [reports,List.flatten_filter_not_isEmpty,← List.flatMap_def,reported]

theorem ports_reports (index : Nat) (replies : List Reply) :
    ((messages Content.portVlans? replies).filter (·.1 == index)).map Prod.snd = reports index replies := by
  rw [messages_bind portVlans_message,reports,messagesAbout]
  induction messages Content.linkMessage? replies with
  | nil => rfl
  | cons m rest ih =>
    have told := portVlans_place m
    by_cases about : m.index = index
    · rw [List.filter_cons_of_pos (by simpa using about),List.map_cons]
      by_cases without : m.vlans = []
      · rw [place,if_pos without] at told
        rw [List.filterMap_cons_none told,ih,List.filter_cons_of_neg (by simp [without])]
      · rw [place,if_neg without] at told
        rw [List.filterMap_cons_some told,List.filter_cons_of_pos (by simpa using about),List.map_cons,ih,
          List.filter_cons_of_pos (by simpa using without)]
    · rw [List.filter_cons_of_neg (by simpa using about)]
      by_cases without : m.vlans = []
      · rw [place,if_pos without] at told
        rw [List.filterMap_cons_none told,ih]
      · rw [place,if_neg without] at told
        rw [List.filterMap_cons_some told,List.filter_cons_of_neg (by simpa using about),ih]

-- The last of several parts, none of which is empty, is never all of them.
theorem last_whole_iff {parts : List (List Nat)} (full : ∀ part ∈ parts, part ≠ []) :
    parts.getLast? = place parts.flatten ↔ parts.length ≤ 1 := by
  rcases List.eq_nil_or_concat parts with rfl | ⟨earlier,last,rfl⟩
  · exact iff_of_true rfl (Nat.zero_le 1)
  · rw [List.concat_eq_append] at full ⊢
    have there : last ≠ [] := full last (by simp)
    rw [List.getLast?_concat,List.flatten_concat,place,if_neg (by simp [there]),List.length_append]
    constructor
    · intro same
      have nothing : earlier.flatten = [] := List.self_eq_append_left.mp (Option.some.inj same)
      have none : earlier = [] := by
        refine List.eq_nil_iff_forall_not_mem.mpr fun part among => ?_
        exact full part (List.mem_append_left _ among) (List.flatten_eq_nil_iff.mp nothing part among)
      rw [none]
      exact Nat.le_refl 1
    · intro short
      have none : earlier = [] := List.eq_nil_of_length_eq_zero (by simpa using short)
      rw [none]
      rfl

theorem portVlans_gathered {s u : Socket} (exchanged : Socket.exchange (.listLinks .portListing) s = .ok replies u) :
    Socket.driver.portVlans s = Step.ofExcept (gathered replies) u := by
  have listed : Socket.list (.listLinks .portListing) Content.portVlans? s =
      Step.ofExcept (collect Content.portVlans? replies) u := Step.bind_ok exchanged
  change Socket.portVlans s = _
  cases collected : collect Content.portVlans? replies with
  | error e =>
    rw [collected] at listed
    refine (Step.bind_error listed).trans ?_
    rw [gathered,collected]
    rfl
  | ok found =>
    rw [collected] at listed
    refine (Step.bind_ok listed).trans ?_
    rw [gathered,collected]
    rfl

-- Of a stream that does not fail, each port gets the VLANs of the last message that names any. These are all that were
-- reported of it just if no other message names any.
theorem port_vlans_kept_exactly (harmless : ∀ r ∈ replies, ¬r.Fatal) : ∃ listing, gathered replies = .ok listing ∧
    (∀ s u, Socket.exchange (.listLinks .portListing) s = .ok replies u →
      Socket.driver.portVlans s = .ok listing u) ∧
    (listing.interrupted = true ↔ ∃ r ∈ replies, r.Interrupts) ∧ listing.value.Ascending ∧
    (∀ port ∈ listing.value, port.2 ≠ []) ∧
    (∀ index, listing.value.lookup index = (reports index replies).getLast?) ∧
    ∀ index, listing.value.lookup index = place (reported index replies) ↔ (reports index replies).length ≤ 1 := by
  have reflects : Reflects replies (messages Content.portVlans? replies) (collect Content.portVlans? replies) :=
    collect_reflects (fun _ => rfl) replies
  obtain ⟨found,collected,value,marked⟩ := reflects.answers harmless
  have answered : gathered replies = .ok { found with value := PortVlans.gather [] found.value } := by
    rw [gathered,collected]
    rfl
  have kept : ∀ index, (PortVlans.gather [] found.value).lookup index = (reports index replies).getLast? := by
    intro index
    rw [PortVlans.lookup_gather,value,ports_reports]
    exact Option.or_none
  refine ⟨_,answered,fun s u exchanged => ?_,marked,PortVlans.gather_ascending List.Pairwise.nil _,fun port among => ?_,
    kept,fun index => ?_⟩
  · rw [portVlans_gathered exchanged,answered]
    rfl
  · have told := (PortVlans.mem_gather among).resolve_right List.not_mem_nil
    rw [value,messages_bind portVlans_message] at told
    obtain ⟨m,_,named⟩ := List.mem_filterMap.mp told
    rw [portVlans_place,place] at named
    split at named
    · cases named
    · rename_i some
      cases named
      exact some
  · rw [kept,reported_flatten]
    refine last_whole_iff fun part among => ?_
    simpa using (List.mem_filter.mp among).2

-- A message about a bridge port in these VLANs.
def portReply (index : Nat) (ids : List Nat) : Reply :=
  ⟨.link ⟨true,index,0,0,[.port (ids.map .vlan)]⟩,false⟩

theorem distinct_ports_kept : ∃ listing, gathered [portReply 3 [1,7],portReply 4 [7]] = .ok listing ∧
    listing.value.lookup 3 = place [1,7] ∧ listing.value.lookup 4 = place [7] ∧ listing.value.lookup 5 = place [] := by
  have harmless : ∀ r ∈ [portReply 3 [1,7],portReply 4 [7]], ¬r.Fatal := by decide
  obtain ⟨listing,answered,_,_,_,_,_,kept⟩ := port_vlans_kept_exactly harmless
  exact ⟨listing,answered,(kept 3).mpr (by decide),(kept 4).mpr (by decide),(kept 5).mpr (by decide)⟩

-- The port is in two VLANs, which are told of in two messages.
theorem first_vlan_lost : ∃ replies index, (∀ r ∈ replies, ¬r.Fatal) ∧ reported index replies = [1,2] ∧
    (Socket.driver.portVlans.outcome { Socket.opened with replies := [some replies] }).1 =
      .ok (.complete [(index,[2])]) :=
  ⟨[portReply 3 [1],portReply 3 [2]],3,by decide,by decide,by decide⟩

end HostNet.Kernel
