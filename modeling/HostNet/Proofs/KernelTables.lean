import HostNet.Proofs.BridgeStages
import HostNet.Proofs.KernelRequests
import Mathlib.Data.List.Nodup

namespace HostNet.Kernel.Table

-- What can be asked of a kernel to change it.
inductive Change where
  | addLink (request : LinkRequest)
  | modifyLink (request : LinkRequest)
  | setUp (index : Nat)
  | setPromiscuous (index : Nat)
  | deleteLink (index : Nat)
  | addAddress (index : Nat) (net : Subnet)

def Change.request : Change → Step Table Error Unit
  | .addLink r => driver.addLink r
  | .modifyLink r => driver.modifyLink r
  | .setUp index => driver.setUp index
  | .setPromiscuous index => driver.setPromiscuous index
  | .deleteLink index => driver.deleteLink index
  | .addAddress index net => driver.addAddress index net

-- Tables that come about from the empty one. Routes, port VLANs and troubles may be any at any time.
inductive Reached : Table → Prop where
  | empty : Reached .empty
  | device (reached : Reached t) (name : String) (mtu : Nat) : Reached (t.insertDevice name mtu)
  | change (reached : Reached t) (c : Change) : Reached (c.request.outcome t).2
  | beside (reached : Reached t) (links : u.links = t.links) (addresses : u.addresses = t.addresses)
      (last : u.lastIndex = t.lastIndex) : Reached u

-- A table after changes are asked for, one after the other.
def requestAll (changes : List Change) (t : Table) : Table := changes.foldl (fun t c => (c.request.outcome t).2) t

-- Indices are given out in ascending order, and a link has no address twice.
structure Orderly (t : Table) : Prop where
  links : ∀ link ∈ t.links, link.index ≤ t.lastIndex
  addresses : ∀ a ∈ t.addresses, a.index ≤ t.lastIndex
  once : t.addresses.Nodup

variable {t u : Table}

theorem Orderly.insert (orderly : t.Orderly) (link : Link) : (t.insert link).Orderly := by
  refine ⟨fun other among => ?_,fun a among => Nat.le_succ_of_le (orderly.addresses a among),orderly.once⟩
  rcases List.mem_append.mp among with among | among
  · exact Nat.le_succ_of_le (orderly.links other among)
  · cases List.mem_singleton.mp among
    exact Nat.le_refl _

theorem insert_indices (t : Table) (link : Link) :
    (t.insert link).links.map Link.index = t.links.map Link.index ++ [t.lastIndex + 1] := by
  rw [Table.insert,List.map_append,List.map_singleton]

theorem Orderly.fresh (orderly : t.Orderly) : t.lastIndex + 1 ∉ t.links.map Link.index := by
  intro known
  obtain ⟨other,among,same⟩ := List.mem_map.mp known
  exact absurd (orderly.links other among) (by omega)

-- What holds of a table and of what a request makes of it holds whether or not the request is refused.
theorem changed_holds {P : Table → Prop} {kind : RequestKind} {f : Table → Except Error Table} (held : P t)
    (kept : ∀ u, f t = .ok u → P u) : P ((change kind f).outcome t).2 := by
  cases ran : Table.change kind f t with
  | ok _ u => rw [Step.outcome_ok ran]; exact kept u (change_ok ran)
  | error e u =>
    rw [Step.outcome_error ran,(change_error ran).1]
    exact held

-- The index and the name of a link, which no request changes.
def place (link : Link) : Nat × String := (link.index,link.name)

-- All that can be done to the links and addresses of a table.
inductive Effect (t : Table) : Table → Prop where
  | none {v : Table} (links : v.links = t.links) (addresses : v.addresses = t.addresses)
      (last : v.lastIndex = t.lastIndex) : Effect t v
  | inserted (link : Link) (unknown : t.named? link.name = none) : Effect t (t.insert link)
  | altered (links : List Link) (places : links.map place = t.links.map place) : Effect t { t with links := links }
  | deleted (index : Nat) : Effect t { t with
      links := t.links.filter (·.index != index)
      addresses := t.addresses.filter (·.index != index)
      portVlans := t.portVlans.filter (·.1 != index) }
  | given (link : Link) (there : link ∈ t.links) (net : Subnet) (new : ⟨link.index,net⟩ ∉ t.addresses) :
      Effect t { t with addresses := t.addresses ++ [⟨link.index,net⟩] }

theorem requested_name (asked : t.requested r = .ok link) : link.name = r.name := by
  cases r with
  | bridge b => cases asked; rfl
  | vlan v =>
    rw [requested] at asked
    split at asked
    · cases asked
    · split at asked
      · cases asked
      · cases asked
        rfl

theorem changeFirst_kept {key : Link → α} {test : Link → Bool} {f : Link → Link} {links : List Link}
    (kept : ∀ link, links.find? test = some link → key (f link) = key link) :
    (changeFirstLink test f links).map key = links.map key := by
  induction links with
  | nil => rfl
  | cons head rest ih =>
    unfold changeFirstLink
    by_cases found : test head = true
    · rw [if_pos found,List.map_cons,List.map_cons,kept head (List.find?_cons_of_pos found)]
    · rw [if_neg found,List.map_cons,List.map_cons,ih fun link there => kept link ?_]
      rw [List.find?_cons_of_neg found,there]

theorem changeLink_effect (kind : RequestKind) (index : Nat) {f : Link → Link}
    (kept : ∀ link, place (f link) = place link) (t : Table) :
    Effect t ((changeLink kind index f).outcome t).2 := by
  refine changed_holds (P := Effect t) (.none rfl rfl rfl) fun u made => ?_
  split at made
  · cases made
  · cases made
    exact .altered _ (changeFirst_kept fun link _ => kept link)

theorem change_effect (c : Change) (t : Table) : Effect t (c.request.outcome t).2 := by
  cases c with
  | addLink r =>
    refine changed_holds (P := Effect t) (.none rfl rfl rfl) fun u made => ?_
    split at made
    · cases made
    · rename_i unknown
      cases asked : t.requested r with
      | error e => rw [asked] at made; cases made
      | ok link =>
        rw [asked] at made
        cases made
        refine .inserted link ?_
        rw [requested_name asked]
        simpa using unknown
  | modifyLink r =>
    refine changed_holds (P := Effect t) (.none rfl rfl rfl) fun u made => ?_
    split at made
    · cases made
    · rename_i link there
      split at made
      · cases made
      · rename_i changed asked
        cases made
        refine .altered _ (changeFirst_kept fun other found => ?_)
        cases there.symm.trans found
        rw [place,place,modified_index asked,(Bridge.modified_kept asked).1]
  | setUp index =>
    refine changeLink_effect _ _ (fun _ => ?_) t
    rfl
  | setPromiscuous index =>
    refine changeLink_effect _ _ (fun _ => ?_) t
    rfl
  | deleteLink index =>
    refine changed_holds (P := Effect t) (.none rfl rfl rfl) fun u made => ?_
    split at made
    · cases made
    · cases made
      exact .deleted index
  | addAddress index net =>
    refine changed_holds (P := Effect t) (.none rfl rfl rfl) fun u made => ?_
    split at made
    · cases made
    · rename_i link there
      split at made
      · cases made
      · rename_i new
        cases made
        cases indexed_index there
        exact .given link (List.mem_of_find?_eq_some there) net (by simpa using new)

theorem placed_before {links others : List Link} (places : links.map place = others.map place)
    (among : link ∈ links) : ∃ old ∈ others, place old = place link := by
  have placed := List.mem_map_of_mem (f := place) among
  rw [places] at placed
  exact List.mem_map.mp placed

theorem Orderly.effect (orderly : t.Orderly) (effect : Effect t u) : u.Orderly := by
  cases effect with
  | none links addresses last =>
    exact ⟨links ▸ last ▸ orderly.links,addresses ▸ last ▸ orderly.addresses,addresses ▸ orderly.once⟩
  | inserted link _ => exact orderly.insert link
  | altered links places =>
    refine ⟨fun link among => ?_,orderly.addresses,orderly.once⟩
    obtain ⟨old,there,same⟩ := placed_before places among
    have index : old.index = link.index := congrArg Prod.fst same
    exact index ▸ orderly.links old there
  | deleted index =>
    exact ⟨fun link among => orderly.links link (List.mem_of_mem_filter among),
      fun a among => orderly.addresses a (List.mem_of_mem_filter among),orderly.once.filter _⟩
  | given link there net new =>
    refine ⟨orderly.links,fun a among => ?_,orderly.once.append (List.nodup_singleton _) (by simpa using new)⟩
    rcases List.mem_append.mp among with old | given
    · exact orderly.addresses a old
    · cases List.mem_singleton.mp given
      exact orderly.links link there

theorem Reached.orderly (reached : t.Reached) : t.Orderly := by
  induction reached with
  | empty => exact ⟨by simp [Table.empty],by simp [Table.empty],List.nodup_nil⟩
  | device reached name mtu ih => exact ih.insert _
  | change reached c ih => exact ih.effect (change_effect c _)
  | beside reached links addresses last ih =>
    refine ⟨?_,?_,?_⟩
    · rw [links,last]; exact ih.links
    · rw [addresses,last]; exact ih.addresses
    · rw [addresses]; exact ih.once

theorem Reached.requestAll (changes : List Change) (reached : t.Reached) : (requestAll changes t).Reached := by
  induction changes generalizing t with
  | nil => exact reached
  | cons c changes ih => exact ih (reached.change c)

end HostNet.Kernel.Table
