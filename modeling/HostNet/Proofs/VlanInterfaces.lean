import HostNet.Proofs.LinkPlaces
import HostNet.Vlan

namespace HostNet

namespace Kernel.Table

variable {t u : Table} {name : String} {link : Link}

theorem find_last (ran : driver.find name t = .ok link u) : u.lastIndex = t.lastIndex := by
  have still := find_quiet name t.quiet t rfl
  rw [Step.outcome_ok ran] at still
  exact (quiet_parts still).2.2.2.2

theorem Same.insert (same : Same t u) (last : u.lastIndex = t.lastIndex) (link : Link) :
    Same (t.insert link) (u.insert link) := by
  refine ⟨?_,same.addresses,same.refusals⟩
  rw [Table.insert,Table.insert,same.links,last]

theorem addLink_taken (served : t.check .addLink = .ok ()) (request : LinkRequest)
    (taken : (t.named? request.name).isSome = true) : addLink request t = .error (.refused .alreadyExists) t := by
  refine (change_served served _).trans ?_
  simp only [Step.update,taken,if_true,refuse]

theorem addLink_free (served : t.check .addLink = .ok ()) (request : LinkRequest)
    (free : t.named? request.name = none) (made : t.requested request = .ok link) :
    addLink request t = .ok () (t.insert link) := by
  refine (change_served served _).trans ?_
  simp only [Step.update,free,Option.isSome_none,Bool.false_eq_true,if_false,made]
  rfl

theorem requested_vlan {v : VlanRequest} {parent : Link} (there : t.indexed? v.parent = some parent)
    (bounded : v.mtu ≤ parent.mtu) : t.requested (.vlan v) =
      .ok ⟨0,v.name,if 0 < v.mtu then v.mtu else parent.mtu,.vlan v.id,false,false,some v.parent⟩ := by
  simp only [requested,there,if_neg (Nat.not_lt.mpr bounded)]

end Kernel.Table

namespace Vlan
open Kernel (Table Link)
open Kernel.Table (Same Sits)

-- What can stand in the way of a VLAN interface where the kernel answers.
inductive Obstacle where
  | noMaster
  | tag
  | unknownMaster
  | mtu
  | taken
deriving DecidableEq, Repr

namespace Obstacle

-- The order in which they count.
def all : List Obstacle := [.noMaster,.tag,.unknownMaster,.mtu,.taken]

def Hinders (t : Table) (name : String) (v : Config.Vlan) : Obstacle → Prop
  | .noMaster => v.master = ""
  | .tag => ¬(0 ≤ v.id.toInt ∧ v.id.toInt ≤ 4094)
  | .unknownMaster => t.named? v.master = none
  | .mtu => ∃ master ∈ t.named? v.master, ¬(0 ≤ v.mtu.toInt ∧ v.mtu.toInt ≤ master.mtu)
  | .taken => t.named? name ≠ none

instance (t : Table) (name : String) (v : Config.Vlan) : DecidablePred (Hinders t name v)
  | .noMaster => inferInstanceAs (Decidable (v.master = ""))
  | .tag => inferInstanceAs (Decidable ¬(0 ≤ v.id.toInt ∧ v.id.toInt ≤ 4094))
  | .unknownMaster => inferInstanceAs (Decidable (t.named? v.master = none))
  | .mtu => inferInstanceAs (Decidable (∃ master ∈ t.named? v.master,
      ¬(0 ≤ v.mtu.toInt ∧ v.mtu.toInt ≤ master.mtu)))
  | .taken => inferInstanceAs (Decidable (t.named? name ≠ none))

-- What it is answered with. The MTU of the master is told with one that is out of bounds.
def error (t : Table) (name : String) (v : Config.Vlan) : Obstacle → Error
  | .noMaster => .config .noMaster
  | .tag => .config (.vlanTag v.id.toInt)
  | .unknownMaster => .linkNotFound v.master
  | .mtu => .config (.vlanMtu v.mtu.toInt (((t.named? v.master).map Link.mtu).getD 0))
  | .taken => .kernel .createVlan name (.refused .alreadyExists)

end Obstacle

-- The first thing that is in the way.
def obstacle? (t : Table) (name : String) (v : Config.Vlan) : Option Obstacle :=
  Obstacle.all.find? fun o => decide (o.Hinders t name v)

-- What is there when the interface was built: one link more, which is the one that was asked for.
structure Built (t : Table) (name : String) (v : Config.Vlan) (link : Link) (u : Table) : Prop where
  free : t.named? name = none
  called : link.name = name
  tag : 0 ≤ v.id.toInt ∧ v.id.toInt ≤ 4094 ∧ ∃ id : Nat, link.kind = .vlan id ∧ (id : Int) = v.id.toInt
  master : ∃ master, t.named? v.master = some master ∧ link.parent = some master.index ∧
    0 ≤ v.mtu.toInt ∧ v.mtu.toInt ≤ master.mtu ∧ link.mtu ≤ master.mtu ∧
    (link.mtu : Int) = if v.mtu.toInt = 0 then (master.mtu : Int) else v.mtu.toInt
  links : u.links = t.links ++ [link]
  addresses : u.addresses = t.addresses
  refusals : u.refusals = t.refusals
  fresh : ∀ other ∈ t.links, other.index ≠ link.index
  bare : ∀ a ∈ t.addresses, a.index ≠ link.index

-- How the creation of an interface ends: something is in the way, or the kernel refuses a request, and nothing has
-- changed; or it was built.
inductive Ends (t : Table) (name : String) (v : Config.Vlan) : Except Error Link × Table → Prop where
  | stopped (first : obstacle? t name v = some o) (same : Same t u) : Ends t name v (.error (o.error t name v),u)
  | denied (denied : ¬t.Serves [.linkByName,.addLink]) (same : Same t u) : Ends t name v (.error e,u)
  | built (served : t.Serves [.linkByName,.addLink]) (clear : obstacle? t name v = none)
      (built : Built t name v link u) : Ends t name v (.ok link,u)

variable {t u : Table} {name : String} {v : Config.Vlan} {link master : Link}

theorem tag_ok (valid : ¬Obstacle.tag.Hinders t name v) : tag v = .ok v.id.toInt.toNat :=
  if_pos (Classical.not_not.mp valid)

theorem tag_error (outside : Obstacle.tag.Hinders t name v) : tag v = .error (.vlanTag v.id.toInt) := if_neg outside

theorem mtu_hinders (there : t.named? v.master = some master) :
    Obstacle.mtu.Hinders t name v ↔ ¬(0 ≤ v.mtu.toInt ∧ v.mtu.toInt ≤ master.mtu) := by
  simp only [Obstacle.Hinders,there,Option.mem_def,Option.some.injEq,exists_eq_left']

theorem obstacle_first (before : List Obstacle) {o : Obstacle}
    (passed : ∀ earlier ∈ before, ¬Obstacle.Hinders t name v earlier) (here : o.Hinders t name v)
    (order : Obstacle.all = before ++ o :: after) : obstacle? t name v = some o := by
  refine List.find?_eq_some_iff_append.mpr ⟨decide_eq_true here,before,after,order,fun earlier among => ?_⟩
  rw [decide_eq_false (passed earlier among)]
  rfl

-- What is done once the master is known.
def stack (name : String) (v : Config.Vlan) (master : Link) : Step Table Error Link := do
  let mtu ← Step.ofExcept ((mtu v master.mtu).mapError .config)
  Step.mapError (.kernel .createVlan name) (Table.addLink (.vlan ⟨name,master.index,v.id.toInt.toNat,mtu⟩))
  Table.driver.find name

theorem create_unnamed (unnamed : Obstacle.noMaster.Hinders t name v) :
    create Table.driver name v t = .error (.config .noMaster) t := by
  have empty : v.master.isEmpty = true := by simpa [Obstacle.Hinders] using unnamed
  unfold create
  rw [empty]
  rfl

theorem create_named (named : ¬Obstacle.noMaster.Hinders t name v) : create Table.driver name v t =
    (Step.ofExcept ((tag v).mapError .config) >>= fun tag => do
      let master ← Table.driver.find v.master
      let mtu ← Step.ofExcept ((mtu v master.mtu).mapError .config)
      Step.mapError (.kernel .createVlan name) (Table.addLink (.vlan ⟨name,master.index,tag,mtu⟩))
      Table.driver.find name) t := by
  have given : v.master.isEmpty = false := by simpa [Obstacle.Hinders] using named
  unfold create
  rw [given]
  rfl

theorem create_untagged (named : ¬Obstacle.noMaster.Hinders t name v) (outside : Obstacle.tag.Hinders t name v) :
    create Table.driver name v t = .error (.config (.vlanTag v.id.toInt)) t := by
  rw [create_named named,tag_error outside]
  rfl

theorem create_looks (named : ¬Obstacle.noMaster.Hinders t name v) (valid : ¬Obstacle.tag.Hinders t name v) :
    create Table.driver name v t = (Table.driver.find v.master >>= stack name v) t := by
  rw [create_named named,tag_ok valid]
  rfl

theorem stack_oversized (there : t.named? v.master = some master) (oversized : Obstacle.mtu.Hinders t name v) :
    stack name v master u = .error (Obstacle.mtu.error t name v) u := by
  have refused : mtu v master.mtu = .error (.vlanMtu v.mtu.toInt master.mtu) := if_neg ((mtu_hinders there).mp oversized)
  unfold stack
  rw [refused,Obstacle.error,there]
  rfl

-- What is asked of the kernel, and the link that is to come of it.
def request (name : String) (v : Config.Vlan) (master : Link) : Kernel.VlanRequest :=
  ⟨name,master.index,v.id.toInt.toNat,v.mtu.toInt.toNat⟩

def wanted (name : String) (v : Config.Vlan) (master : Link) : Link :=
  ⟨0,name,if 0 < v.mtu.toInt.toNat then v.mtu.toInt.toNat else master.mtu,.vlan v.id.toInt.toNat,false,false,
    some master.index⟩

section Bounded
variable (bounded : 0 ≤ v.mtu.toInt ∧ v.mtu.toInt ≤ master.mtu)
include bounded

theorem stack_asks (name : String) : stack name v master =
    (Step.mapError (Error.kernel .createVlan name) (Table.addLink (.vlan (request name v master))) >>= fun _ =>
      Table.driver.find name) := by
  have measured : mtu v master.mtu = .ok v.mtu.toInt.toNat := if_pos bounded
  unfold stack
  rw [measured]
  rfl

theorem stack_denied (name : String) (denied : u.check .addLink ≠ .ok ()) :
    ∃ e, stack name v master u = .error e u := by
  obtain ⟨e,refused⟩ := Table.change_denied denied _
  rw [stack_asks bounded]
  exact ⟨_,Step.bind_error (Step.mapError_error refused)⟩

theorem stack_taken (taken : u.named? name ≠ none) (served : u.check .addLink = .ok ()) :
    stack name v master u = .error (Obstacle.taken.error t name v) u := by
  have refused := Table.addLink_taken served (.vlan (request name v master)) (Option.isSome_iff_ne_none.mpr taken)
  rw [stack_asks bounded]
  exact Step.bind_error (Step.mapError_error refused)

theorem stack_free (reached : u.Reached) (there : u.named? v.master = some master) (free : u.named? name = none)
    (served : u.Serves [.linkByName,.addLink]) : ∃ w, stack name v master u =
      .ok { wanted name v master with index := u.lastIndex + 1 } w ∧ Same (u.insert (wanted name v master)) w := by
  have small : (request name v master).mtu ≤ master.mtu := by
    change v.mtu.toInt.toNat ≤ master.mtu
    omega
  have made : u.requested (.vlan (request name v master)) = .ok (wanted name v master) :=
    Table.requested_vlan (Table.indexed_own reached.distinct (List.mem_of_find?_eq_some there)) small
  have added := Table.addLink_free (served .addLink (by simp)) (.vlan (request name v master)) free made
  have sits := Sits.inserted reached.orderly (wanted name v master) free
  have looked : (u.insert (wanted name v master)).check .linkByName = .ok () := served .linkByName (by simp)
  obtain ⟨w,found,same⟩ := Table.find_ok looked sits.named
  refine ⟨w,?_,same⟩
  rw [stack_asks bounded]
  exact (Step.bind_ok (Step.mapError_ok added)).trans found

theorem wanted_built (reached : t.Reached) (valid : 0 ≤ v.id.toInt ∧ v.id.toInt ≤ 4094)
    (there : t.named? v.master = some master) (free : t.named? name = none)
    (same : Same (t.insert (wanted name v master)) u) :
    Built t name v { wanted name v master with index := t.lastIndex + 1 } u := by
  have measured : ((wanted name v master).mtu : Int) = if v.mtu.toInt = 0 then (master.mtu : Int) else v.mtu.toInt := by
    change ((if 0 < v.mtu.toInt.toNat then v.mtu.toInt.toNat else master.mtu : Nat) : Int) = _
    split <;> split <;> omega
  have limited : (wanted name v master).mtu ≤ master.mtu := by
    split at measured <;> omega
  exact {
    free
    called := rfl
    tag := ⟨valid.1,valid.2,_,rfl,Int.toNat_of_nonneg valid.1⟩
    master := ⟨master,there,rfl,bounded.1,bounded.2,limited,measured⟩
    links := same.links
    addresses := same.addresses
    refusals := same.refusals
    fresh := fun other among => Nat.ne_of_lt (Nat.lt_succ_of_le (reached.orderly.links other among))
    bare := fun a among => Nat.ne_of_lt (Nat.lt_succ_of_le (reached.orderly.addresses a among)) }

end Bounded

-- The master was found, and nothing has changed since.
theorem stack_ends (reached : t.Reached) (named : ¬Obstacle.noMaster.Hinders t name v)
    (valid : ¬Obstacle.tag.Hinders t name v) (asked : t.check .linkByName = .ok ())
    (there : t.named? v.master = some master) (same : Same t u) (last : u.lastIndex = t.lastIndex) :
    Ends t name v ((stack name v master).outcome u) := by
  have known : ¬Obstacle.unknownMaster.Hinders t name v := fun absent => nomatch there.symm.trans absent
  by_cases oversized : Obstacle.mtu.Hinders t name v
  · rw [Step.outcome_error (stack_oversized there oversized)]
    refine .stopped (obstacle_first [.noMaster,.tag,.unknownMaster] ?_ oversized rfl) same
    simpa using And.intro named (And.intro valid known)
  have bounded := Classical.not_not.mp (mt (mtu_hinders there).mpr oversized)
  have names : ∀ name, u.named? name = t.named? name := fun name => by rw [Table.named?,Table.named?,same.links]
  have granted := same.check .addLink
  by_cases willing : t.check .addLink = .ok ()
  · by_cases taken : Obstacle.taken.Hinders t name v
    · have held : u.named? name ≠ none := by rwa [names]
      rw [Step.outcome_error (stack_taken (t := t) bounded held (granted.trans willing))]
      refine .stopped (obstacle_first [.noMaster,.tag,.unknownMaster,.mtu] ?_ taken rfl) same
      simpa using And.intro named (And.intro valid (And.intro known oversized))
    · have free : t.named? name = none := Classical.not_not.mp taken
      have served : t.Serves [.linkByName,.addLink] := by simpa [Table.Serves] using And.intro asked willing
      obtain ⟨w,ended,same'⟩ := stack_free bounded (.beside reached same.links same.addresses last)
        ((names _).trans there) ((names name).trans free) fun kind among => (same.check kind).trans (served kind among)
      have whole := (same.insert last (wanted name v master)).trans same'
      rw [Step.outcome_ok ended,last]
      refine .built served ?_ (wanted_built bounded reached (Classical.not_not.mp valid) there free whole)
      refine List.find?_eq_none.mpr fun o _ => ?_
      cases o with
      | noMaster => simpa using named
      | tag => simpa using valid
      | unknownMaster => simpa using known
      | mtu => simpa using oversized
      | taken => simpa using taken
  · obtain ⟨e,refused⟩ := stack_denied bounded name (granted.symm ▸ willing)
    rw [Step.outcome_error refused]
    exact .denied (fun served => willing (served .addLink (by simp))) same

theorem create_ends (reached : t.Reached) (name : String) (v : Config.Vlan) :
    Ends t name v ((create Table.driver name v).outcome t) := by
  by_cases unnamed : Obstacle.noMaster.Hinders t name v
  · rw [Step.outcome_error (create_unnamed unnamed)]
    exact .stopped (obstacle_first [] (by simp) unnamed rfl) (Same.refl t)
  by_cases outside : Obstacle.tag.Hinders t name v
  · rw [Step.outcome_error (create_untagged unnamed outside)]
    exact .stopped (obstacle_first [.noMaster] (by simpa using unnamed) outside rfl) (Same.refl t)
  have looks := create_looks unnamed outside
  by_cases asked : t.check .linkByName = .ok ()
  · cases there : t.named? v.master with
    | none =>
      obtain ⟨u,missing,same⟩ := Table.find_absent asked there
      rw [Step.outcome_error (looks.trans (Step.bind_error missing))]
      refine .stopped (o := .unknownMaster) (obstacle_first [.noMaster,.tag] ?_ there rfl) same
      simpa using And.intro unnamed outside
    | some master =>
      obtain ⟨u,found,same⟩ := Table.find_ok asked there
      have begun := looks.trans (Step.bind_ok found)
      have ended := stack_ends reached unnamed outside asked there same (Table.find_last found)
      rw [Step.outcome,begun]
      exact ended
  · obtain ⟨e,refused⟩ := Table.find_denied asked v.master
    rw [Step.outcome_error (looks.trans (Step.bind_error refused))]
    exact .denied (fun served => asked (served .linkByName (by simp))) (Same.refl t)

-- An interface that was just built is deleted without a trace.
theorem Built.deleted (built : Built t name v link u) (looked : t.check .linkByName = .ok ())
    (willing : t.check .deleteLink = .ok ()) : ∃ w, delete Table.driver name u = .ok () w ∧
      w.links = t.links ∧ w.addresses = t.addresses := by
  have sits : Sits name t.links [] link u := by
    refine ⟨built.links,built.called,fun other among same => ?_,fun other among => ?_⟩
    · rw [List.append_nil] at among
      exact List.find?_eq_none.mp built.free other among (beq_iff_eq.mpr same)
    · rw [List.append_nil] at among
      exact built.fresh other among
  have checks : ∀ kind, u.check kind = t.check kind := fun kind => by rw [Table.check,Table.check,built.refusals]
  obtain ⟨found,ran,same⟩ := Table.find_ok ((checks _).trans looked) sits.named
  obtain ⟨w,deleted,unplugged⟩ := Table.deleteLink_ok ((same.check _).trans ((checks _).trans willing)) same sits.named
  have gone : Table.driver.delete name u = .ok () w := (Step.bind_ok ran).trans (Step.mapError_ok deleted)
  obtain ⟨links,addresses,_⟩ := unplugged
  rw [sits.named] at links addresses
  refine ⟨w,Step.bind_ok (Step.attempt_ok gone),links.trans (sits.rest.trans (List.append_nil _)),addresses.trans ?_⟩
  rw [built.addresses]
  exact List.filter_eq_self.mpr fun a among => bne_iff_ne.mpr (built.bare a among)

-- A VLAN interface is built as it was declared, or nothing is changed. Where the kernel answers, the first thing that is
-- in the way is what the creation is refused for, and if nothing is, it succeeds. A deletion takes it back.
theorem built_or_nothing (reached : t.Reached) (name : String) (v : Config.Vlan) :
    (∀ link u, create Table.driver name v t = .ok link u → Built t name v link u) ∧
    (∀ e u, create Table.driver name v t = .error e u → u.links = t.links ∧ u.addresses = t.addresses) ∧
    (t.Serves [.linkByName,.addLink] →
      (∀ o, obstacle? t name v = some o → ∃ u, create Table.driver name v t = .error (o.error t name v) u) ∧
      (obstacle? t name v = none → ∃ link u, create Table.driver name v t = .ok link u)) ∧
    ∀ link u, create Table.driver name v t = .ok link u → t.check .deleteLink = .ok () →
      ∃ w, delete Table.driver name u = .ok () w ∧ w.links = t.links ∧ w.addresses = t.addresses := by
  have ends := create_ends reached name v
  cases ran : create Table.driver name v t with
  | ok link u =>
    rw [Step.outcome_ok ran] at ends
    cases ends with
    | built served clear built =>
      refine ⟨?_,fun e u failed => (nomatch failed),fun _ => ⟨fun o first => ?_,fun _ => ⟨link,u,rfl⟩⟩,?_⟩
      · rintro _ _ ⟨⟩
        exact built
      · cases clear.symm.trans first
      · rintro _ _ ⟨⟩ willing
        exact built.deleted (served .linkByName (by simp)) willing
  | error e u =>
    rw [Step.outcome_error ran] at ends
    refine ⟨fun link u made => (nomatch made),?_,fun served => ?_,fun link u made => (nomatch made)⟩
    · rintro _ _ ⟨⟩
      cases ends with
      | stopped first same => exact ⟨same.links,same.addresses⟩
      | denied refused same => exact ⟨same.links,same.addresses⟩
    · cases ends with
      | stopped first same =>
        refine ⟨fun o found => ?_,fun clear => (nomatch first.symm.trans clear)⟩
        cases first.symm.trans found
        exact ⟨u,rfl⟩
      | denied refused same => exact absurd served refused

-- A device that large frames go through.
def uplink : Table := Table.empty.insertDevice "eth0" 9000

theorem uplink_stacked : uplink.Reached ∧ uplink.Serves [.linkByName,.addLink] ∧ uplink.check .deleteLink = .ok () ∧
    ∃ link u, create Table.driver "eth0.100" ⟨"eth0",100,1500⟩ uplink = .ok link u ∧
      Built uplink "eth0.100" ⟨"eth0",100,1500⟩ link u ∧
      ∃ w, delete Table.driver "eth0.100" u = .ok () w ∧ w.links = uplink.links ∧ w.addresses = uplink.addresses := by
  have reached : uplink.Reached := .device .empty "eth0" 9000
  have answers : uplink.Answers := rfl
  have serves : uplink.Serves [.linkByName,.addLink] := answers.serves _
  obtain ⟨built,_,decided,undone⟩ := built_or_nothing reached "eth0.100" ⟨"eth0",100,1500⟩
  obtain ⟨link,u,ran⟩ := (decided serves).2 (by decide)
  exact ⟨reached,serves,rfl,link,u,ran,built link u ran,undone link u ran rfl⟩

end Vlan
end HostNet
