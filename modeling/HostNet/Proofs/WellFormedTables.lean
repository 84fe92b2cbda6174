import HostNet.Proofs.LinkPlaces
import Mathlib.Algebra.Group.Nat.Defs

namespace HostNet.Kernel.Table

-- What a kernel can be asked for without changing it.
inductive Question where
  | linkByName (name : String)
  | links
  | addresses (index : Option Nat)
  | routes (family : Family)
  | portVlans

def Question.step : Question → Step Table Error Unit
  | .linkByName name => driver.linkByName name >>= fun _ => pure ()
  | .links => driver.links >>= fun _ => pure ()
  | .addresses index => driver.addresses index >>= fun _ => pure ()
  | .routes family => driver.routes family >>= fun _ => pure ()
  | .portVlans => driver.portVlans >>= fun _ => pure ()

-- What can happen to a kernel in memory: requests, and what is arranged beside them.
inductive Event where
  | ask (q : Question)
  | change (c : Change)
  | device (name : String) (mtu : Nat)
  | route (r : Route)
  | port (index : Nat) (ids : List Nat)
  | interrupt (listings : Nat)
  | fail (kind : RequestKind) (e : OsError)

def Event.step : Event → Step Table Error Unit
  | .ask q => q.step
  | .change c => c.request
  | .device name mtu => modify (·.insertDevice name mtu)
  | .route r => modify fun t => { t with routes := t.routes ++ [r] }
  | .port index ids => modify fun t => { t with portVlans := t.portVlans.put index ids }
  | .interrupt listings => modify fun t => { t with interruptions := listings }
  | .fail kind e => modify fun t => { t with refusals := (kind,e) :: t.refusals }

def Event.after (t : Table) (e : Event) : Table := (e.step.outcome t).2

-- A device appears under a name that no link has. Anything else may happen at any time.
def Event.Allowed (t : Table) : Event → Prop
  | .device name _ => t.named? name = none
  | _ => True

def after : Table → List Event → Table
  | t,[] => t
  | t,e :: rest => after (e.after t) rest

def Allowed : Table → List Event → Prop
  | _,[] => True
  | t,e :: rest => e.Allowed t ∧ Allowed (e.after t) rest

-- Besides, links have names and indices of their own and stand in the order of their indices, and an address is one of
-- a link that is there.
structure WellFormed (t : Table) : Prop extends t.Orderly where
  names : (t.links.map Link.name).Nodup
  ascending : (t.links.map Link.index).Pairwise (· < ·)
  housed : ∀ a ∈ t.addresses, ∃ link ∈ t.links, link.index = a.index

-- The indices that links have and that no link had before.
def newIndices (before t : Table) : List Nat :=
  (t.links.map Link.index).filter fun index => index ∉ before.links.map Link.index

-- The indices that links get along a run, one after another.
def givenOut : Table → List Event → List Nat
  | _,[] => []
  | t,e :: rest => newIndices t (e.after t) ++ givenOut (e.after t) rest

variable {t u : Table} {e : Event} {events : List Event}

theorem listed_quiet (kind : RequestKind) (read : Table → Except Error α) :
    ((list kind read >>= fun _ => pure ()).outcome t).2.quiet = t.quiet := by
  rw [Step.outcome_then_pure]
  exact list_quiet kind read t.quiet t rfl

theorem asked_quiet (q : Question) (t : Table) : (q.step.outcome t).2.quiet = t.quiet := by
  cases q with
  | linkByName name => exact listed_quiet .linkByName (linkNamed name)
  | links => exact listed_quiet .links fun t => .ok t.links
  | addresses index =>
    cases index with
    | none => exact listed_quiet .addresses fun t => .ok (t.addresses.filter fun _ => true)
    | some i => exact listed_quiet .addresses (addressesAt i)
  | routes family => exact listed_quiet .routes fun t => .ok (t.routes.filter fun r => routeFamily r == family)
  | portVlans => exact listed_quiet .portVlans fun t => .ok t.portVlans

theorem event_effect (allowed : e.Allowed t) : Effect t (e.after t) := by
  cases e with
  | ask q =>
    obtain ⟨links,addresses,_,_,last⟩ := quiet_parts (asked_quiet q t)
    exact .none links addresses last
  | change c => exact change_effect c t
  | device name mtu => exact .inserted _ allowed
  | route r => exact .none rfl rfl rfl
  | port index ids => exact .none rfl rfl rfl
  | interrupt listings => exact .none rfl rfl rfl
  | fail kind e => exact .none rfl rfl rfl

theorem request_change (c : Change) : ∃ kind f, c.request = change kind f := by
  cases c with
  | addLink r => exact ⟨.addLink,_,rfl⟩
  | modifyLink r => exact ⟨.modifyLink,_,rfl⟩
  | setUp index => exact ⟨.setUp,_,rfl⟩
  | setPromiscuous index => exact ⟨.setPromiscuous,_,rfl⟩
  | deleteLink index => exact ⟨.deleteLink,_,rfl⟩
  | addAddress index net => exact ⟨.addAddress,_,rfl⟩

theorem refused_same (c : Change) (refused : (c.request.outcome t).1 = .error reason) :
    (c.request.outcome t).2 = t := by
  obtain ⟨kind,f,request⟩ := request_change c
  rw [request] at refused ⊢
  cases ran : Table.change kind f t with
  | ok _ u => rw [Step.outcome_ok ran] at refused; cases refused
  | error e u => rw [Step.outcome_error ran]; exact (change_error ran).1

theorem failed_quiet (failed : (e.step.outcome t).1 = .error reason) : (e.after t).quiet = t.quiet := by
  cases e with
  | ask q => exact asked_quiet q t
  | change c => exact congrArg quiet (refused_same c failed)
  | _ => cases failed

theorem Effect.names (effect : Effect t u) (names : (t.links.map Link.name).Nodup) : (u.links.map Link.name).Nodup := by
  cases effect with
  | none links addresses last => rwa [links]
  | inserted link unknown =>
    rw [Table.insert,List.map_append,List.map_singleton]
    refine names.append (List.nodup_singleton _) ?_
    rw [List.disjoint_singleton]
    intro known
    obtain ⟨other,among,same⟩ := List.mem_map.mp known
    exact List.find?_eq_none.mp unknown other among (beq_iff_eq.mpr same)
  | altered links places => exact altered_names places ▸ names
  | deleted index => exact names.sublist (List.filter_sublist.map _)
  | given link there net new => exact names

theorem Effect.housed (effect : Effect t u) (housed : ∀ a ∈ t.addresses, ∃ link ∈ t.links, link.index = a.index) :
    ∀ a ∈ u.addresses, ∃ link ∈ u.links, link.index = a.index := by
  intro a among
  cases effect with
  | none links addresses last => exact links ▸ housed a (addresses ▸ among)
  | inserted link unknown =>
    obtain ⟨home,there,same⟩ := housed a among
    exact ⟨home,List.mem_append_left _ there,same⟩
  | altered links places =>
    obtain ⟨home,there,same⟩ := housed a among
    obtain ⟨now,here,kept⟩ := placed_before places.symm there
    have index : now.index = home.index := congrArg Prod.fst kept
    exact ⟨now,here,index.trans same⟩
  | deleted index =>
    obtain ⟨old,other⟩ := List.mem_filter.mp among
    obtain ⟨home,there,same⟩ := housed a old
    exact ⟨home,List.mem_filter.mpr ⟨there,same.symm ▸ other⟩,same⟩
  | given link there net new =>
    rcases List.mem_append.mp among with old | given
    · exact housed a old
    · cases List.mem_singleton.mp given
      exact ⟨link,there,rfl⟩

theorem Effect.wellFormed (effect : Effect t u) (formed : t.WellFormed) : u.WellFormed where
  toOrderly := formed.toOrderly.effect effect
  names := effect.names formed.names
  ascending := effect.ascending formed.toOrderly formed.ascending
  housed := effect.housed formed.housed

theorem WellFormed.stored (formed : t.WellFormed) (index : Nat) (link : Link) :
    t.indexed? index = some link ↔ link ∈ t.links ∧ link.index = index := by
  constructor
  · exact fun there => ⟨List.mem_of_find?_eq_some there,indexed_index there⟩
  · rintro ⟨among,rfl⟩
    exact indexed_own (ascending_distinct formed.ascending) among

theorem newIndices_known (known : ∀ index ∈ u.links.map Link.index, index ∈ t.links.map Link.index) :
    newIndices t u = [] :=
  List.filter_eq_nil_iff.mpr fun index among => by simpa using known index among

theorem counted_known (known : ∀ index ∈ u.links.map Link.index, index ∈ t.links.map Link.index)
    (last : u.lastIndex = t.lastIndex) : List.range' 1 t.lastIndex ++ newIndices t u = List.range' 1 u.lastIndex := by
  rw [newIndices_known known,List.append_nil,last]

theorem newIndices_insert (orderly : t.Orderly) (link : Link) : newIndices t (t.insert link) = [t.lastIndex + 1] := by
  have old : (t.links.map Link.index).filter (fun index => index ∉ t.links.map Link.index) = [] :=
    newIndices_known fun _ known => known
  rw [newIndices,insert_indices,List.filter_append,old,List.nil_append]
  exact List.filter_cons_of_pos (by simpa using orderly.fresh)

-- An event gives out the next index or none.
theorem Effect.counted (effect : Effect t u) (orderly : t.Orderly) :
    List.range' 1 t.lastIndex ++ newIndices t u = List.range' 1 u.lastIndex := by
  cases effect with
  | none links addresses last => exact counted_known (links ▸ fun _ known => known) last
  | inserted link unknown =>
    rw [newIndices_insert orderly,Nat.add_comm]
    exact List.range'_1_concat.symm
  | altered links places => exact counted_known ((altered_indices places).symm ▸ fun _ known => known) rfl
  | deleted index => exact counted_known (fun _ known => (List.filter_sublist.map Link.index).subset known) rfl
  | given link there net new => exact counted_known (fun _ known => known) rfl

theorem Effect.later (effect : Effect t u) (among : link ∈ u.links) :
    (∃ old ∈ t.links, place old = place link) ∨ t.lastIndex < link.index := by
  cases effect with
  | none links addresses last => exact Or.inl ⟨link,links ▸ among,rfl⟩
  | inserted new unknown =>
    rcases List.mem_append.mp among with old | new
    · exact Or.inl ⟨link,old,rfl⟩
    · cases List.mem_singleton.mp new
      exact Or.inr (Nat.lt_succ_self _)
  | altered links places => exact Or.inl (placed_before places among)
  | deleted index => exact Or.inl ⟨link,List.mem_of_mem_filter among,rfl⟩
  | given _ there net new => exact Or.inl ⟨link,among,rfl⟩

theorem Effect.last (effect : Effect t u) : t.lastIndex ≤ u.lastIndex := by
  cases effect with
  | none links addresses last => exact Nat.le_of_eq last.symm
  | inserted link unknown => exact Nat.le_succ _
  | _ => exact Nat.le_refl _

theorem after_wellFormed (formed : t.WellFormed) (allowed : Allowed t events) : (after t events).WellFormed := by
  induction events generalizing t with
  | nil => exact formed
  | cons e rest ih => exact ih ((event_effect allowed.1).wellFormed formed) allowed.2

theorem after_counted (formed : t.WellFormed) (allowed : Allowed t events) :
    List.range' 1 t.lastIndex ++ givenOut t events = List.range' 1 (after t events).lastIndex := by
  induction events generalizing t with
  | nil => exact List.append_nil _
  | cons e rest ih =>
    have effect := event_effect allowed.1
    rw [givenOut,← List.append_assoc,effect.counted formed.toOrderly]
    exact ih (effect.wellFormed formed) allowed.2

-- A link with an index that is given out is that link ever after.
theorem after_later (allowed : Allowed t events) (among : link ∈ (after t events).links)
    (early : link.index ≤ t.lastIndex) : ∃ old ∈ t.links, place old = place link := by
  induction events generalizing t with
  | nil => exact ⟨link,among,rfl⟩
  | cons e rest ih =>
    have effect := event_effect allowed.1
    obtain ⟨between,there,same⟩ := ih allowed.2 among (Nat.le_trans early effect.last)
    have index : between.index = link.index := congrArg Prod.fst same
    rcases effect.later there with ⟨old,known,kept⟩ | new
    · exact ⟨old,known,kept.trans same⟩
    · omega

theorem empty_wellFormed : empty.WellFormed where
  links := nofun
  addresses := nofun
  once := List.nodup_nil
  names := List.nodup_nil
  ascending := List.Pairwise.nil
  housed := nofun

-- Whatever happens to an empty kernel, names and indices tell its links apart, each is found under its own index,
-- addresses are those of links and none is there twice. The indices that are given out are 1, 2 and so on, so that
-- 32 bits are enough for fewer than 2³² links, and none is ever given to another link. What fails changes nothing.
theorem stays_well_formed (events : List Event) (allowed : Allowed .empty events) :
    let t := after .empty events
    t.WellFormed ∧ (∀ index link, t.indexed? index = some link ↔ link ∈ t.links ∧ link.index = index) ∧
      givenOut .empty events = List.range' 1 t.lastIndex ∧
      ((givenOut .empty events).length < 2 ^ 32 → t.lastIndex < 2 ^ 32) ∧
      (∀ more, Allowed t more → ∀ link ∈ (after t more).links, link.index ≤ t.lastIndex →
        ∃ old ∈ t.links, old.index = link.index ∧ old.name = link.name) ∧
      ∀ (e : Event) reason, (e.step.outcome t).1 = .error reason → (e.after t).links = t.links ∧
        (e.after t).addresses = t.addresses ∧ (e.after t).routes = t.routes ∧ (e.after t).portVlans = t.portVlans := by
  intro t
  have formed : t.WellFormed := after_wellFormed empty_wellFormed allowed
  have counted : givenOut .empty events = List.range' 1 t.lastIndex := after_counted empty_wellFormed allowed
  refine ⟨formed,formed.stored,counted,fun few => ?_,fun more further link among early => ?_,fun e reason failed => ?_⟩
  · rwa [counted,List.length_range'] at few
  · obtain ⟨old,there,same⟩ := after_later further among early
    exact ⟨old,there,congrArg Prod.fst same,congrArg Prod.snd same⟩
  · obtain ⟨links,addresses,routes,portVlans,_⟩ := quiet_parts (failed_quiet failed)
    exact ⟨links,addresses,routes,portVlans⟩

-- A bridge gets an address once, a second link of its name is refused, and it is deleted and made again.
def remade : List Event :=
  let gateway := Subnet.ofAddress (.ofNat .v4 0x0A160001) 24
  [.device "eth0" 1500,.interrupt 1,.ask (.linkByName "cni0"),.change (.addLink (.bridge ⟨"cni0",0,none⟩)),
    .change (.addLink (.vlan ⟨"cni0",1,7,0⟩)),.change (.addAddress 2 gateway),.change (.addAddress 2 gateway),
    .change (.deleteLink 2),.change (.addLink (.bridge ⟨"cni0",0,none⟩))]

theorem remade_well_formed : Allowed .empty remade ∧ (after .empty remade).WellFormed ∧
    (after .empty remade).links.map place = [(1,"eth0"),(3,"cni0")] ∧ givenOut .empty remade = [1,2,3] := by
  have allowed : Allowed .empty remade := ⟨rfl,⟨⟩,⟨⟩,⟨⟩,⟨⟩,⟨⟩,⟨⟩,⟨⟩,⟨⟩,⟨⟩⟩
  have links : (after .empty remade).links.map place = [(1,"eth0"),(3,"cni0")] := by decide
  obtain ⟨formed,_,counted,_⟩ := stays_well_formed remade allowed
  exact ⟨allowed,formed,links,counted⟩

end HostNet.Kernel.Table
