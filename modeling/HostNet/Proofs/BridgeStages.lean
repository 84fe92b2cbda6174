import HostNet.Proofs.ParameterFiles

namespace HostNet

namespace Kernel.Table

section Changes
variable {links : List Link} {test p : Link → Bool} {f : Link → Link} {link : Link}

-- A link that is changed is found as before, as it was or changed.
theorem find_changed (kept : ∀ link, p (f link) = p link) (there : links.find? p = some link) :
    ∃ link', (changeFirstLink test f links).find? p = some link' ∧ (link' = link ∨ link' = f link) := by
  induction links with
  | nil => cases there
  | cons head rest ih =>
    unfold changeFirstLink
    by_cases found : p head = true
    · rw [List.find?_cons_of_pos found] at there
      cases there
      split
      · exact ⟨f link,by rw [List.find?_cons_of_pos (by rw [kept]; exact found)],Or.inr rfl⟩
      · exact ⟨link,by rw [List.find?_cons_of_pos found],Or.inl rfl⟩
    · rw [List.find?_cons_of_neg found] at there
      split
      · exact ⟨link,by rw [List.find?_cons_of_neg (by rw [kept]; exact found),there],Or.inl rfl⟩
      · rw [List.find?_cons_of_neg found]
        exact ih there

theorem find_first (kept : test (f link) = true) (there : links.find? test = some link) :
    (changeFirstLink test f links).find? test = some (f link) := by
  induction links with
  | nil => cases there
  | cons head rest ih =>
    unfold changeFirstLink
    by_cases found : test head = true
    · rw [List.find?_cons_of_pos found] at there
      cases there
      rw [if_pos found,List.find?_cons_of_pos kept]
    · rw [List.find?_cons_of_neg found] at there
      rw [if_neg found,List.find?_cons_of_neg found]
      exact ih there

theorem unchanged_iff (there : links.find? test = some link) :
    changeFirstLink test f links = links ↔ f link = link := by
  induction links with
  | nil => cases there
  | cons head rest ih =>
    unfold changeFirstLink
    by_cases found : test head = true
    · rw [List.find?_cons_of_pos found] at there
      cases there
      rw [if_pos found]
      exact ⟨fun same => (List.cons.inj same).1,fun same => by rw [same]⟩
    · rw [List.find?_cons_of_neg found] at there
      rw [if_neg found,← ih there]
      exact ⟨fun same => (List.cons.inj same).2,fun same => by rw [same]⟩

end Changes

-- What a set-up switches on at its link.
inductive Mark where
  | up
  | promiscuous

def Mark.on : Mark → Link → Link
  | .up, link => { link with up := true }
  | .promiscuous, link => { link with promiscuous := true }

namespace Mark

@[simp] theorem on_name (m : Mark) (link : Link) : (m.on link).name = link.name := by cases m <;> rfl

@[simp] theorem on_index (m : Mark) (link : Link) : (m.on link).index = link.index := by cases m <;> rfl

@[simp] theorem on_kind (m : Mark) (link : Link) : (m.on link).kind = link.kind := by cases m <;> rfl

theorem on_again (m : Mark) (link : Link) : m.on (m.on link) = m.on link := by cases m <;> rfl

theorem on_still (m other : Mark) (on : m.on link = link) : m.on (other.on link) = other.on link := by
  obtain ⟨index,name,mtu,kind,up,promiscuous,parent⟩ := link
  cases m <;> cases other <;> simp_all [Mark.on]

end Mark

theorem indexed_named {t : Table} (there : t.named? name = some link) : ∃ first, t.indexed? link.index = some first :=
  Option.isSome_iff_exists.mp (List.find?_isSome.mpr ⟨link,List.mem_of_find?_eq_some there,beq_self_eq_true _⟩)

theorem named_name {t : Table} (there : t.named? name = some link) : link.name = name := by
  simpa using List.find?_some there

theorem indexed_index {t : Table} (there : t.indexed? index = some link) : link.index = index := by
  simpa using List.find?_some there

theorem modified_index (asked : modified? link r = some changed) : changed.index = link.index := by
  cases r <;>
    simp only [modified?] at asked <;> split at asked <;> cases asked <;> rfl

theorem named_inserted {t : Table} (absent : t.named? link.name = none) :
    (t.insert link).named? link.name = some { link with index := t.lastIndex + 1 } := by
  rw [named?] at absent
  rw [named?,insert,List.find?_append,absent,Option.none_or]
  exact List.find?_cons_of_pos (beq_self_eq_true link.name)

theorem mem_addressesAt (addresses : List LinkAddress) (index : Nat) (net : Subnet) :
    net ∈ (addresses.filter (·.index == index)).map LinkAddress.net ↔ ⟨index,net⟩ ∈ addresses := by
  simp only [List.mem_map,List.mem_filter,beq_iff_eq]
  constructor
  · rintro ⟨⟨index,net⟩,⟨among,rfl⟩,rfl⟩
    exact among
  · exact fun among => ⟨_,⟨among,rfl⟩,rfl⟩

theorem mem_addressesOf {t : Table} {net : Subnet} : net ∈ t.addressesOf name ↔
    ∃ link, t.named? name = some link ∧ ⟨link.index,net⟩ ∈ t.addresses := by
  unfold addressesOf
  cases there : t.named? name with
  | none => simp
  | some link => simp only [mem_addressesAt,Option.some.injEq,exists_eq_left']

end Kernel.Table

namespace Bridge
open Kernel (Table Link)
open Kernel.Table (Mark)
open Config (Plan)
open Stage (Settles Withstands)

def gatewaysOf (nets : List Subnet) : List Subnet := nets.filterMap fun net => net.gateway.toOption

-- The gateways of subnets that are not among the addresses that a link has.
def lacking (held nets : List Subnet) : List Subnet := (gatewaysOf nets).filter fun gateway => !held.contains gateway

theorem gatewaysOf_cons (rest : List Subnet) (known : net.gateway = .ok gateway) :
    gatewaysOf (net :: rest) = gateway :: gatewaysOf rest :=
  List.filterMap_cons_some (by rw [known]; rfl)

theorem lacking_cons (held rest : List Subnet) (known : net.gateway = .ok gateway) : lacking held (net :: rest) =
    if gateway ∈ held then lacking held rest else gateway :: lacking held rest := by
  unfold lacking
  rw [gatewaysOf_cons rest known]
  by_cases among : gateway ∈ held
  · rw [if_pos among,List.filter_cons_of_neg (by simpa using among)]
  · rw [if_neg among,List.filter_cons_of_pos (by simpa using among)]

theorem not_held (lacked : a ∈ lacking held nets) : a ∉ held := by simpa using (List.mem_filter.mp lacked).2

theorem lacking_sublist (nets : List Subnet) (more : ∀ a ∈ held, a ∈ held') :
    List.Sublist (lacking held' nets) (lacking held nets) := by
  refine List.monotone_filter_right _ fun a fresh => ?_
  simp only [Bool.not_eq_true',List.contains_eq_mem,decide_eq_false_iff_not] at fresh ⊢
  exact fun known => fresh (more a known)

-- The link that is made where there is none.
def fresh (p : Plan) : Link :=
  ⟨0,p.bridge,if 0 < p.mtu then p.mtu else Table.defaultMtu,.bridge (some p.filtering),false,false,none⟩

-- The bridge is there as it is asked for.
def placed (p : Plan) : Stage Table := fun t =>
  match t.named? p.bridge with
  | none => some (t.insert (fresh p))
  | some link => (Table.modified? link (request p)).map fun changed =>
    t.changeFirst (·.name == p.bridge) fun _ => changed

def marked (name : String) (m : Mark) : Stage Table := fun t =>
  (t.named? name).map fun link => t.changeFirst (·.index == link.index) m.on

-- No gateway that a link lacks is asked for twice.
def distinct (name : String) (nets : List Subnet) : Stage Table := fun t =>
  if (lacking (t.addressesOf name) nets).Nodup then some t else none

def assigned (name : String) (net : Subnet) : Stage Table := fun t =>
  match net.gateway, t.named? name with
  | .ok gateway, some link => some (if t.addresses.contains ⟨link.index,gateway⟩ then t
      else { t with addresses := t.addresses ++ [⟨link.index,gateway⟩] })
  | _, _ => none

variable {t t' : Table} {p : Plan} {name : String} {net : Subnet} {nets : List Subnet} {m : Mark} {link : Link}

theorem requested_fresh (t : Table) (p : Plan) : t.requested (request p) = .ok (fresh p) := by
  cases filtering : p.filtering <;> simp [Table.requested,request,fresh,filtering]

theorem fresh_asked (p : Plan) (index : Nat) :
    Table.modified? { fresh p with index } (request p) = some { fresh p with index } := by
  simp only [Table.modified?,fresh,request]
  congr 2
  · split <;> rfl
  · cases p.filtering <;> rfl

-- A link with what is asked for is changed to itself.
theorem modified_kept (asked : Table.modified? link r = some changed) :
    changed.name = link.name ∧ Table.modified? changed r = some changed := by
  cases r with
  | bridge b =>
    simp only [Table.modified?] at asked ⊢
    split at asked
    · cases asked
      refine ⟨rfl,?_⟩
      dsimp only
      congr 2
      · split <;> rfl
      · cases b.filtering <;> rfl
    · cases asked
  | vlan v =>
    simp only [Table.modified?] at asked ⊢
    split at asked
    · rename_i kind
      cases asked
      refine ⟨rfl,?_⟩
      simp only [kind]
      congr 2
      split <;> rfl
    · cases asked

theorem modified_on (asked : Table.modified? link (request p) = some link) :
    Table.modified? (m.on link) (request p) = some (m.on link) := by
  obtain ⟨index,name,mtu,kind,up,promiscuous,parent⟩ := link
  cases kind with
  | bridge filtering => cases m <;> simpa [Table.modified?,request,Mark.on] using asked
  | _ => cases asked

theorem unchanged_table {test : Link → Bool} {f : Link → Link} (there : t.links.find? test = some link) :
    t.changeFirst test f = t ↔ f link = link := by
  rw [← Table.unchanged_iff there]
  exact ⟨fun same => congrArg Table.links same,fun same => by rw [Table.changeFirst,same]⟩

theorem placed_fixed : placed p t = some t ↔
    ∃ link, t.named? p.bridge = some link ∧ Table.modified? link (request p) = some link := by
  unfold placed
  cases there : t.named? p.bridge with
  | none =>
    -- An inserted link uses up an index.
    have grown : ∀ link, t.insert link ≠ t := fun link same => Nat.succ_ne_self _ (congrArg Table.lastIndex same)
    simp [grown]
  | some link =>
    cases asked : Table.modified? link (request p) with
    | none => simp [asked]
    | some changed => simp [asked,unchanged_table there]

theorem marked_fixed : marked name m t = some t ↔
    ∃ link first, t.named? name = some link ∧ t.indexed? link.index = some first ∧ m.on first = first := by
  unfold marked
  cases there : t.named? name with
  | none => simp
  | some link =>
    obtain ⟨first,found⟩ := Table.indexed_named there
    simp [unchanged_table found,found]

theorem assigned_fixed : assigned name net t = some t ↔ ∃ gateway link, net.gateway = .ok gateway ∧
    t.named? name = some link ∧ ⟨link.index,gateway⟩ ∈ t.addresses := by
  unfold assigned
  cases known : net.gateway with
  | error e => simp
  | ok gateway =>
    cases there : t.named? name with
    | none => simp
    | some link =>
      by_cases held : ⟨link.index,gateway⟩ ∈ t.addresses
      · simp [held]
      · have grown : { t with addresses := t.addresses ++ [⟨link.index,gateway⟩] } ≠ t := by
          intro same
          have longer := congrArg (fun t => t.addresses.length) same
          simp at longer
        simp [held,grown]

theorem distinct_some : distinct name nets t = some t' ↔ (lacking (t.addressesOf name) nets).Nodup ∧ t = t' := by
  unfold distinct
  split <;> simp_all

theorem marked_some (ran : marked name m t = some t') : ∃ link first, t.named? name = some link ∧
    t.indexed? link.index = some first ∧ t'.indexed? link.index = some (m.on first) ∧ t'.addresses = t.addresses ∧
    ∀ {other link}, t.named? other = some link →
      ∃ link', t'.named? other = some link' ∧ (link' = link ∨ link' = m.on link) := by
  obtain ⟨link,there,rfl⟩ := Option.map_eq_some_iff.mp ran
  obtain ⟨first,found⟩ := Table.indexed_named there
  refine ⟨link,first,there,found,?_,rfl,?_⟩
  · exact Table.find_first (by simpa using Table.indexed_index found) found
  · intro other held before
    exact Table.find_changed (fun link => by simp) before

theorem assigned_some (ran : assigned name net t = some t') : ∃ gateway link, net.gateway = .ok gateway ∧
    t.named? name = some link ∧ t'.links = t.links ∧ ⟨link.index,gateway⟩ ∈ t'.addresses ∧
    ∀ a, a ∈ t'.addresses ↔ a ∈ t.addresses ∨ a = ⟨link.index,gateway⟩ := by
  unfold assigned at ran
  split at ran
  · rename_i gateway link known there
    refine ⟨gateway,link,known,there,?_⟩
    cases ran
    split
    · rename_i held
      have held : ⟨link.index,gateway⟩ ∈ t.addresses := by simpa using held
      refine ⟨rfl,held,fun a => ⟨Or.inl,fun either => either.elim id fun same => same ▸ held⟩⟩
    · exact ⟨rfl,by simp,by simp⟩
  · cases ran

theorem placed_settles (p : Plan) : Settles (placed p) := by
  intro t t' ran
  rw [placed_fixed]
  unfold placed at ran
  cases there : t.named? p.bridge with
  | none =>
    simp only [there] at ran
    cases ran
    exact ⟨_,Table.named_inserted there,fresh_asked p _⟩
  | some link =>
    simp only [there] at ran
    obtain ⟨changed,asked,rfl⟩ := Option.map_eq_some_iff.mp ran
    obtain ⟨called,again⟩ := modified_kept asked
    have kept : (changed.name == p.bridge) = true := by rw [called,Table.named_name there]; exact beq_self_eq_true _
    exact ⟨changed,Table.find_first kept there,again⟩

theorem placed_withstands_marked (p : Plan) (name : String) (m : Mark) : Withstands (placed p) (marked name m) := by
  intro t t' fixed ran
  obtain ⟨link,there,asked⟩ := placed_fixed.mp fixed
  obtain ⟨_,_,_,_,_,_,others⟩ := marked_some ran
  obtain ⟨link',found,rfl | rfl⟩ := others there
  · exact placed_fixed.mpr ⟨_,found,asked⟩
  · exact placed_fixed.mpr ⟨_,found,modified_on asked⟩

theorem marked_settles (name : String) (m : Mark) : Settles (marked name m) := by
  intro t t' ran
  obtain ⟨link,first,there,found,now,_,others⟩ := marked_some ran
  obtain ⟨link',found',either⟩ := others there
  have index : link'.index = link.index := by rcases either with rfl | rfl <;> simp
  exact marked_fixed.mpr ⟨link',_,found',index ▸ now,m.on_again first⟩

theorem marked_withstands (name : String) (m other : Mark) : Withstands (marked name m) (marked name other) := by
  intro t t' fixed ran
  obtain ⟨link,first,there,found,still⟩ := marked_fixed.mp fixed
  obtain ⟨again,first',there',found',now,_,others⟩ := marked_some ran
  obtain rfl := Option.some.inj (there.symm.trans there')
  obtain rfl := Option.some.inj (found.symm.trans found')
  obtain ⟨link',known,either⟩ := others there
  have index : link'.index = link.index := by rcases either with rfl | rfl <;> simp
  exact marked_fixed.mpr ⟨link',_,known,index ▸ now,m.on_still other still⟩

-- Stages that look at links alone do not notice new addresses.
theorem withstands_assigned {stage : Stage Table}
    (linked : ∀ t t' : Table, t'.links = t.links → stage t = some t → stage t' = some t') (name : String)
    (net : Subnet) : Withstands stage (assigned name net) := by
  intro t t' fixed ran
  obtain ⟨_,_,_,_,links,_⟩ := assigned_some ran
  exact linked t t' links fixed

theorem placed_linked (p : Plan) (t t' : Table) (links : t'.links = t.links) (fixed : placed p t = some t) :
    placed p t' = some t' := by
  rw [placed_fixed] at fixed ⊢
  simpa only [Table.named?,links] using fixed

theorem marked_linked (name : String) (m : Mark) (t t' : Table) (links : t'.links = t.links)
    (fixed : marked name m t = some t) : marked name m t' = some t' := by
  rw [marked_fixed] at fixed ⊢
  simpa only [Table.named?,Table.indexed?,links] using fixed

theorem withstands_distinct (stage : Stage Table) (name : String) (nets : List Subnet) :
    Withstands stage (distinct name nets) := by
  intro t t' fixed ran
  obtain ⟨_,rfl⟩ := distinct_some.mp ran
  exact fixed

theorem assigned_settles (name : String) (net : Subnet) : Settles (assigned name net) := by
  intro t t' ran
  obtain ⟨gateway,link,known,there,links,held,_⟩ := assigned_some ran
  exact assigned_fixed.mpr ⟨gateway,link,known,by rw [Table.named?,links]; exact there,held⟩

theorem assigned_withstands (name : String) (net other : Subnet) :
    Withstands (assigned name net) (assigned name other) := by
  intro t t' fixed ran
  obtain ⟨gateway,link,known,there,held⟩ := assigned_fixed.mp fixed
  obtain ⟨_,_,_,_,links,_,members⟩ := assigned_some ran
  exact assigned_fixed.mpr ⟨gateway,link,known,by rw [Table.named?,links]; exact there,(members _).mpr (Or.inl held)⟩

-- The more addresses a link has, the fewer gateways it lacks.
theorem distinct_withstands_assigned (name : String) (nets : List Subnet) (net : Subnet) :
    Withstands (distinct name nets) (assigned name net) := by
  intro t t' fixed ran
  obtain ⟨once,_⟩ := distinct_some.mp fixed
  obtain ⟨gateway,link,known,there,links,_,members⟩ := assigned_some ran
  refine distinct_some.mpr ⟨once.sublist (lacking_sublist nets fun a held => ?_),rfl⟩
  obtain ⟨link,there,among⟩ := Table.mem_addressesOf.mp held
  exact Table.mem_addressesOf.mpr ⟨link,by rw [Table.named?,links]; exact there,(members _).mpr (Or.inl among)⟩

-- What a set-up works on until the firewall.
structure Ground where
  kernel : Table
  files : Files

namespace Ground

theorem kernel_part : Step.Part Ground.kernel (fun kernel (g : Ground) => { g with kernel }) :=
  ⟨fun _ _ => rfl,fun _ _ _ => rfl,fun _ => rfl⟩

theorem files_part : Step.Part Ground.files (fun files (g : Ground) => { g with files }) :=
  ⟨fun _ _ => rfl,fun _ _ _ => rfl,fun _ => rfl⟩

end Ground

def onKernel (stage : Stage Table) : Stage Ground := stage.within Ground.kernel fun kernel g => { g with kernel }

def onFiles (stage : Stage Files) : Stage Ground := stage.within Ground.files fun files g => { g with files }

def forwarding (root : String) : List (Stage Ground) :=
  [onFiles (Sysctl.forwarded root .v4),onFiles (Sysctl.forwarded root .v6)]

def bridging (root : String) (p : Plan) : List (Stage Ground) :=
  [onKernel (placed p)] ++ (if p.promiscuous then [onKernel (marked p.bridge .promiscuous)] else []) ++
    [onFiles (Sysctl.closed root p.bridge),onKernel (marked p.bridge .up)]

def addressing (p : Plan) : List (Stage Ground) :=
  onKernel (distinct p.bridge p.podSubnets) :: p.podSubnets.map fun net => onKernel (assigned p.bridge net)

def stages (root : String) (p : Plan) : List (Stage Ground) :=
  (if p.layer3 then forwarding root else []) ++ bridging root p ++ (if p.layer3 then addressing p else [])

theorem addressing_resumable (p : Plan) : Stage.Resumable (addressing p) := by
  constructor
  · intro stage among
    rcases List.mem_cons.mp among with rfl | among
    · refine Stage.settles_within Ground.kernel_part fun t t' ran => ?_
      obtain ⟨_,rfl⟩ := distinct_some.mp ran
      exact ran
    · obtain ⟨net,_,rfl⟩ := List.mem_map.mp among
      exact Stage.settles_within Ground.kernel_part (assigned_settles p.bridge net)
  · refine List.pairwise_cons.mpr ⟨?_,?_⟩
    · intro stage among
      obtain ⟨net,_,rfl⟩ := List.mem_map.mp among
      exact Stage.withstands_within Ground.kernel_part (distinct_withstands_assigned p.bridge p.podSubnets net)
    · refine List.pairwise_map.mpr (List.pairwise_of_forall fun net other => ?_)
      exact Stage.withstands_within Ground.kernel_part (assigned_withstands p.bridge net other)

theorem files_withstand_kernel (stage : Stage Files) (other : Stage Table) :
    Withstands (onFiles stage) (onKernel other) :=
  Stage.withstands_apart Ground.files_part fun _ _ => rfl

theorem kernel_withstands_files (stage : Stage Table) (other : Stage Files) :
    Withstands (onKernel stage) (onFiles other) :=
  Stage.withstands_apart Ground.kernel_part fun _ _ => rfl

theorem forwarding_resumable (root : String) : Stage.Resumable (forwarding root) := by
  constructor
  · intro stage among
    rcases List.mem_pair.mp among with rfl | rfl <;>
      exact Stage.settles_within Ground.files_part (Sysctl.forwarded_settles root _)
  · refine List.pairwise_pair.mpr ?_
    exact Stage.withstands_within Ground.files_part (Sysctl.forwarded_withstands root .v4 .v6)

-- Each of the stages that make the bridge, and each of those that give it addresses.
theorem mem_bridging (among : stage ∈ bridging root p) : stage = onKernel (placed p) ∨
    (∃ m, stage = onKernel (marked p.bridge m)) ∨ stage = onFiles (Sysctl.closed root p.bridge) := by
  rcases List.mem_append.mp among with among | among
  · rcases List.mem_append.mp among with among | among
    · exact Or.inl (List.mem_singleton.mp among)
    · split at among
      · exact Or.inr (Or.inl ⟨_,List.mem_singleton.mp among⟩)
      · cases among
  · rcases List.mem_pair.mp among with rfl | rfl
    · exact Or.inr (Or.inr rfl)
    · exact Or.inr (Or.inl ⟨_,rfl⟩)

theorem mem_addressing (among : stage ∈ addressing p) : stage = onKernel (distinct p.bridge p.podSubnets) ∨
    ∃ net, stage = onKernel (assigned p.bridge net) := by
  rcases List.mem_cons.mp among with rfl | among
  · exact Or.inl rfl
  · obtain ⟨net,_,rfl⟩ := List.mem_map.mp among
    exact Or.inr ⟨net,rfl⟩

theorem bridging_resumable (root : String) (p : Plan) : Stage.Resumable (bridging root p) := by
  constructor
  · intro stage among
    rcases mem_bridging among with rfl | ⟨m,rfl⟩ | rfl
    · exact Stage.settles_within Ground.kernel_part (placed_settles p)
    · exact Stage.settles_within Ground.kernel_part (marked_settles p.bridge m)
    · exact Stage.settles_within Ground.files_part (Sysctl.closed_settles root p.bridge)
  · have placing : ∀ m, Withstands (onKernel (placed p)) (onKernel (marked p.bridge m)) := fun m =>
      Stage.withstands_within Ground.kernel_part (placed_withstands_marked p p.bridge m)
    have marking : Withstands (onKernel (marked p.bridge .promiscuous)) (onKernel (marked p.bridge .up)) :=
      Stage.withstands_within Ground.kernel_part (marked_withstands p.bridge .promiscuous .up)
    unfold bridging
    cases p.promiscuous <;> simp [placing,marking,files_withstand_kernel,kernel_withstands_files]

theorem forwarding_withstands (among : stage ∈ forwarding root) (other : later ∈ bridging root p ++ addressing p) :
    Withstands stage later := by
  have made : ∃ family, stage = onFiles (Sysctl.forwarded root family) := by
    rcases List.mem_pair.mp among with rfl | rfl <;> exact ⟨_,rfl⟩
  obtain ⟨family,rfl⟩ := made
  rcases List.mem_append.mp other with other | other
  · rcases mem_bridging other with rfl | ⟨m,rfl⟩ | rfl
    · exact files_withstand_kernel _ _
    · exact files_withstand_kernel _ _
    · exact Stage.withstands_within Ground.files_part (Sysctl.forwarded_withstands_closed root family p.bridge)
  · rcases mem_addressing other with rfl | ⟨net,rfl⟩ <;> exact files_withstand_kernel _ _

theorem bridging_withstands (among : stage ∈ bridging root p) (other : later ∈ addressing p) :
    Withstands stage later := by
  rcases mem_bridging among with rfl | ⟨m,rfl⟩ | rfl
  · rcases mem_addressing other with rfl | ⟨net,rfl⟩
    · exact Stage.withstands_within Ground.kernel_part (withstands_distinct _ _ _)
    · exact Stage.withstands_within Ground.kernel_part (withstands_assigned (placed_linked p) _ net)
  · rcases mem_addressing other with rfl | ⟨net,rfl⟩
    · exact Stage.withstands_within Ground.kernel_part (withstands_distinct _ _ _)
    · exact Stage.withstands_within Ground.kernel_part (withstands_assigned (marked_linked _ m) _ net)
  · rcases mem_addressing other with rfl | ⟨net,rfl⟩ <;> exact files_withstand_kernel _ _

-- A set-up can be taken up again wherever it broke off.
theorem stages_resumable (root : String) (p : Plan) : Stage.Resumable (stages root p) := by
  have whole : Stage.Resumable (forwarding root ++ (bridging root p ++ addressing p)) := by
    refine (forwarding_resumable root).append ?_ fun _ among _ other => forwarding_withstands among other
    exact (bridging_resumable root p).append (addressing_resumable p) fun _ among _ other =>
      bridging_withstands among other
  refine whole.sublist ?_
  unfold stages
  cases p.layer3 with
  | true => rw [if_pos rfl,if_pos rfl,List.append_assoc]
  | false => simp

end Bridge
end HostNet
