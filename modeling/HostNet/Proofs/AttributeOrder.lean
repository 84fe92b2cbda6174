import HostNet.Kernel.Received
import Mathlib.Data.List.Forall2
import Mathlib.Data.List.Nodup

namespace HostNet.Kernel

-- No two items are of one kind.
def Single (kind : α → Nat) (items : List α) : Prop := (items.map kind).Nodup

instance (kind : α → Nat) (items : List α) : Decidable (Single kind items) :=
  inferInstanceAs (Decidable (items.map kind).Nodup)

-- The same items in any order, each of them perhaps in another form of itself.
def Reordered (form : α → α → Prop) (items items' : List α) : Prop :=
  ∃ between, List.Forall₂ form items between ∧ between.Perm items'

-- All that tells what is read is of one kind.
def ReadUnder (kind : α → Nat) (number : Nat) (read : α → Option β) : Prop :=
  ∀ item v, read item = some v → kind item = number

-- What is read of items that are all of different kinds does not depend on their order.
def OrderFree (kind : α → Nat) (form : α → α → Prop) (read : List α → γ) : Prop :=
  ∀ items items', Single kind items → Reordered form items items' → read items' = read items

section
variable {kind : α → Nat} {form : α → α → Prop} {read : α → Option β} {number : Nat} {items items' : List α} {v : β}

theorem forms_map {f : α → γ} (alike : ∀ a b, form a b → f b = f a) (forms : List.Forall₂ form items items') :
    items'.map f = items.map f := by
  induction forms with
  | nil => rfl
  | cons here _ ih => rw [List.map_cons,List.map_cons,alike _ _ here,ih]

theorem Single.perm (single : Single kind items) (perm : items.Perm items') : Single kind items' :=
  (perm.map kind).nodup single

theorem Single.forms (single : Single kind items) (kept : ∀ a b, form a b → kind b = kind a)
    (forms : List.Forall₂ form items items') : Single kind items' := by
  rwa [Single,forms_map kept forms]

-- Only items of one kind tell something, and at most one is of it: what it tells is found wherever it stands.
theorem found_iff (single : Single kind items) (only : ReadUnder kind number read) :
    items.findSome? read = some v ↔ ∃ item ∈ items, read item = some v := by
  constructor
  · exact List.exists_of_findSome?_eq_some
  · rintro ⟨item,among,told⟩
    cases found : items.findSome? read with
    | none => cases told.symm.trans (List.findSome?_eq_none_iff.mp found item among)
    | some w =>
      obtain ⟨other,there,also⟩ := List.exists_of_findSome?_eq_some found
      have same : other = item :=
        List.inj_on_of_nodup_map single there among ((only other w also).trans (only item v told).symm)
      rw [← also,same,told]

theorem found_perm (single : Single kind items) (only : ReadUnder kind number read)
    (perm : items.Perm items') : items'.findSome? read = items.findSome? read := by
  ext v
  rw [found_iff single only,found_iff (single.perm perm) only]
  simp only [perm.mem_iff]

theorem found_forms (alike : ∀ a b, form a b → read b = read a) (forms : List.Forall₂ form items items') :
    items'.findSome? read = items.findSome? read := by
  have told := congrArg (List.findSome? id) (forms_map alike forms)
  rwa [List.findSome?_map,List.findSome?_map] at told

theorem lastOf_found (single : Single kind items) (only : ReadUnder kind number read) :
    lastOf read items = items.findSome? read := found_perm single only (List.reverse_perm items).symm

theorem lastOf_some (single : Single kind items) (only : ReadUnder kind number read)
    {item : α} (among : item ∈ items) (told : read item = some v) : lastOf read items = some v := by
  rw [lastOf_found single only,found_iff single only]
  exact ⟨item,among,told⟩

theorem lastOf_none (silent : ∀ item ∈ items, read item = none) : lastOf read items = none :=
  List.findSome?_eq_none_iff.mpr fun item among => silent item (List.mem_reverse.mp among)

theorem lastOf_map (read : α → Option β) (f : β → γ) (items : List α) :
    lastOf (fun item => (read item).map f) items = (lastOf read items).map f := by
  unfold lastOf
  induction items.reverse with
  | nil => rfl
  | cons item rest ih => cases told : read item <;> simp [told,ih]

-- The forms of an item tell the same, so only their order is left, which does not matter.
theorem lastOf_orderFree (only : ReadUnder kind number read)
    (kept : ∀ a b, form a b → kind b = kind a) (alike : ∀ a b, form a b → read b = read a) :
    OrderFree kind form (lastOf read) := by
  rintro items items' single ⟨between,forms,perm⟩
  have single_ := single.forms kept forms
  rw [lastOf_found single only,lastOf_found (single_.perm perm) only,found_perm single_ only perm,
    found_forms alike forms]

theorem lastOf_permuted (only : ReadUnder kind number read) :
    OrderFree kind Eq (lastOf read) :=
  lastOf_orderFree only (fun _ _ same => congrArg _ same.symm) fun _ _ same => congrArg _ same.symm

end

-- The numbers under which the parts of a message travel; parts of one kind have one number.
def BridgeOption.number (o : BridgeOption) : Nat := o.form.1

def VlanOption.number (o : VlanOption) : Nat := o.form.1

def TypeInfo.number : TypeInfo → Nat
  | .name _ => 1
  | .bridge _ | .vlan _ | .foreign => 2
  | .port => 4

def BridgeOption.filtering? : BridgeOption → Option Bool
  | .filtering on => some on
  | _ => none

def VlanOption.id? : VlanOption → Option Nat
  | .id number => some number
  | _ => none

-- The same entry, where the options of a type may stand in another order.
inductive TypeInfo.Form : TypeInfo → TypeInfo → Prop where
  | same (info : TypeInfo) : Form info info
  | bridge (single : Single BridgeOption.number options) (perm : options.Perm options') :
      Form (.bridge options) (.bridge options')
  | vlan (single : Single VlanOption.number options) (perm : options.Perm options') :
      Form (.vlan options) (.vlan options')

-- All that is asked of the data of a type.
def TypeInfo.told : TypeInfo → Option Bool × Option Nat
  | .bridge options => (options.findSome? BridgeOption.filtering?,none)
  | .vlan options => (none,options.findSome? VlanOption.id?)
  | _ => (none,none)

theorem BridgeOption.filtering_number : ReadUnder number 7 filtering? := by
  intro o on told
  cases o with
  | filtering => rfl
  | forwardDelay => cases told

theorem VlanOption.id_number : ReadUnder number 1 id? := by
  intro o id told
  cases o with
  | id => rfl
  | looseBinding => cases told

namespace TypeInfo

theorem read_numbers : ReadUnder number 1 name? ∧ ReadUnder number 2 data? := by
  constructor
  all_goals
    intro info part told
    cases info <;> first | rfl | cases told

theorem told_number : ReadUnder number 2 fun info => info.data?.map told := by
  intro info v told
  obtain ⟨data,known,_⟩ := Option.map_eq_some_iff.mp told
  exact read_numbers.2 info data known

theorem Form.number (a b : TypeInfo) (form : Form a b) : b.number = a.number := by
  cases form <;> rfl

theorem Form.name? (a b : TypeInfo) (form : Form a b) : b.name? = a.name? := by
  cases form <;> rfl

theorem Form.told (a b : TypeInfo) (form : Form a b) : b.data?.map told = a.data?.map told := by
  cases form with
  | same => rfl
  | bridge single perm =>
    simp [data?,TypeInfo.told,found_perm single BridgeOption.filtering_number perm]
  | vlan single perm => simp [data?,TypeInfo.told,found_perm single VlanOption.id_number perm]

end TypeInfo

namespace LinkKind

theorem ofInfo_bridge (data : Option TypeInfo) :
    ofInfo (some "bridge") data = .bridge ((data.map TypeInfo.told).bind Prod.fst) := by
  cases data with
  | none => rfl
  | some data => cases data <;> rfl

theorem ofInfo_vlan (data : Option TypeInfo) :
    ofInfo (some "vlan") data = .vlan (((data.map TypeInfo.told).bind Prod.snd).getD 0) := by
  cases data with
  | none => rfl
  | some data => cases data <;> rfl

-- The data of a type count only as far as something is asked of them.
theorem ofInfo_told (name : Option String) {data data' : Option TypeInfo}
    (same : data'.map TypeInfo.told = data.map TypeInfo.told) : ofInfo name data' = ofInfo name data := by
  by_cases bridge : name = some "bridge"
  · rw [bridge,ofInfo_bridge,ofInfo_bridge,same]
  · by_cases vlan : name = some "vlan"
    · rw [vlan,ofInfo_vlan,ofInfo_vlan,same]
    · unfold ofInfo
      split
      · rfl
      · exact absurd rfl bridge
      · exact absurd rfl vlan
      · rfl
      · rfl

-- The data of a link are those of its type whether they stand before or after its name.
theorem ofInfos_orderFree : OrderFree TypeInfo.number TypeInfo.Form ofInfos := by
  intro info info' single reordered
  have name : lastOf TypeInfo.name? info' = lastOf TypeInfo.name? info :=
    lastOf_orderFree TypeInfo.read_numbers.1 TypeInfo.Form.number TypeInfo.Form.name? info info' single reordered
  have data : (lastOf TypeInfo.data? info').map TypeInfo.told = (lastOf TypeInfo.data? info).map TypeInfo.told := by
    rw [← lastOf_map,← lastOf_map]
    exact lastOf_orderFree TypeInfo.told_number TypeInfo.Form.number TypeInfo.Form.told info info' single reordered
  rw [ofInfos,ofInfos,name]
  exact ofInfo_told _ data

theorem ofInfos_known (single : Single TypeInfo.number info) (named : .name type ∈ info) (known : data ∈ info)
    (told : data.data? = some data) : ofInfos info = ofInfo (some type) (some data) := by
  obtain ⟨name_number,data_number⟩ := TypeInfo.read_numbers
  rw [ofInfos,lastOf_some single name_number named rfl,lastOf_some single data_number known told]

end LinkKind

def LinkAttribute.number : LinkAttribute → Nat
  | .name _ => 3
  | .mtu _ => 4
  | .parent _ => 5
  | .type _ => 18
  | .alias _ => 20
  | .port _ => 26
  | .request _ => 29

-- The same attribute, where the entries about a type may stand in another order.
inductive LinkAttribute.Form : LinkAttribute → LinkAttribute → Prop where
  | same (a : LinkAttribute) : Form a a
  | type (single : Single TypeInfo.number info) (reordered : Reordered TypeInfo.Form info info') :
      Form (.type info) (.type info')

namespace LinkAttribute

theorem read_numbers :
    ReadUnder number 3 name? ∧ ReadUnder number 4 mtu? ∧ ReadUnder number 5 parent? ∧ ReadUnder number 18 kind? := by
  refine ⟨?_,?_,?_,?_⟩
  all_goals
    intro a part told
    cases a <;> first | rfl | cases told

theorem Form.number (a b : LinkAttribute) (form : Form a b) : b.number = a.number := by
  cases form <;> rfl

theorem Form.kind? (a b : LinkAttribute) (form : Form a b) : b.kind? = a.kind? := by
  cases form with
  | same => rfl
  | type single reordered => exact congrArg some (LinkKind.ofInfos_orderFree _ _ single reordered)

-- What is read of an attribute that is not of its type.
theorem Form.untyped {read : LinkAttribute → Option β} (typed : ∀ info, read (.type info) = none)
    (a b : LinkAttribute) (form : Form a b) : read b = read a := by
  cases form with
  | same => rfl
  | type => rw [typed,typed]

end LinkAttribute

theorem LinkMessage.link_orderFree (m : LinkMessage) : OrderFree LinkAttribute.number LinkAttribute.Form
    fun attributes => LinkMessage.link { m with attributes := attributes } := by
  intro attributes attributes' single reordered
  have told {β : Type} {read : LinkAttribute → Option β} {number : Nat}
      (only : ReadUnder LinkAttribute.number number read)
      (alike : ∀ a b, LinkAttribute.Form a b → read b = read a) : lastOf read attributes' = lastOf read attributes :=
    lastOf_orderFree only LinkAttribute.Form.number alike _ _ single reordered
  obtain ⟨name_number,mtu_number,parent_number,kind_number⟩ := LinkAttribute.read_numbers
  have name := told name_number (LinkAttribute.Form.untyped fun _ => rfl)
  have mtu := told mtu_number (LinkAttribute.Form.untyped fun _ => rfl)
  have parent := told parent_number (LinkAttribute.Form.untyped fun _ => rfl)
  have kind := told kind_number LinkAttribute.Form.kind?
  simp only [link,name,mtu,parent,kind]

-- The link that a request asks for, as far as it tells.
def LinkRequest.asked : LinkRequest → Link
  | .bridge b => ⟨0,b.name,b.mtu,.bridge b.filtering,false,false,none⟩
  | .vlan v => ⟨0,v.name,v.mtu,.vlan v.id,false,false,some v.parent⟩

-- A request has no attribute twice, and none at all for what is left to the kernel.
theorem LinkRequest.message_single (r : LinkRequest) : Single LinkAttribute.number r.message.attributes := by
  rcases r with ⟨name,mtu,filtering⟩ | ⟨name,parent,id,mtu⟩
  · cases mtu <;> simp [Single,message,mtuAttribute,LinkMessage.ofAttributes,LinkAttribute.number]
  · cases mtu <;> simp [Single,message,mtuAttribute,LinkMessage.ofAttributes,LinkAttribute.number]

theorem LinkRequest.message_read (r : LinkRequest) : r.message.link = r.asked := by
  rcases r with ⟨name,mtu,filtering⟩ | ⟨name,parent,id,mtu⟩
  · have plain : LinkKind.ofInfos [.name "bridge"] = .bridge none := LinkKind.ofInfo_bridge none
    have switched (on : Bool) : LinkKind.ofInfos [.name "bridge",.bridge [.filtering on]] = .bridge (some on) :=
      LinkKind.ofInfo_bridge (some (.bridge [.filtering on]))
    cases mtu <;> cases filtering <;> simp [message,mtuAttribute,LinkMessage.ofAttributes,LinkMessage.link,asked,lastOf,
      List.findSome?_cons,LinkAttribute.name?,LinkAttribute.mtu?,LinkAttribute.parent?,LinkAttribute.kind?,plain,
      switched]
  · have kind : LinkKind.ofInfos [.name "vlan",.vlan [.id id]] = .vlan id :=
      LinkKind.ofInfo_vlan (some (.vlan [.id id]))
    cases mtu <;> simp [message,mtuAttribute,LinkMessage.ofAttributes,LinkMessage.link,asked,lastOf,
      List.findSome?_cons,LinkAttribute.name?,LinkAttribute.mtu?,LinkAttribute.parent?,LinkAttribute.kind?,kind]

def AddressAttribute.number : AddressAttribute → Nat
  | .address _ => 1
  | .own _ => 2
  | .label _ => 3

def AddressAttribute.own? : AddressAttribute → Option Address
  | .own a => some a
  | _ => none

def AddressAttribute.given? : AddressAttribute → Option Address
  | .address a => some a
  | _ => none

theorem AddressAttribute.read_numbers : ReadUnder number 2 own? ∧ ReadUnder number 1 given? := by
  constructor
  all_goals
    intro a ip told
    cases a <;> first | rfl | cases told

namespace AddressMessage

theorem linkAddress_read (m : AddressMessage) : m.linkAddress? =
    ((lastOf AddressAttribute.own? m.attributes).or (lastOf AddressAttribute.given? m.attributes)).bind fun ip =>
      (subnet? ip m.length).map fun net => ⟨m.index,net⟩ := by
  have own : m.own? = lastOf AddressAttribute.own? m.attributes := rfl
  have given : m.given? = lastOf AddressAttribute.given? m.attributes := rfl
  simp only [linkAddress?,own,given,Option.bind_eq_bind,Option.pure_def,Option.map_eq_bind]
  rfl

theorem linkAddress_orderFree (m : AddressMessage) : OrderFree AddressAttribute.number Eq
    fun attributes => linkAddress? { m with attributes := attributes } := by
  intro attributes attributes' single reordered
  have own := lastOf_permuted AddressAttribute.read_numbers.1 _ _ single reordered
  have given := lastOf_permuted AddressAttribute.read_numbers.2 _ _ single reordered
  simp only [linkAddress_read,own,given]

-- The address that is marked as the link's own counts, and the other one only without it.
theorem linkAddress_own (m : AddressMessage) (single : Single AddressAttribute.number m.attributes)
    (own : .own ip ∈ m.attributes) : m.linkAddress? = (subnet? ip m.length).map fun net => ⟨m.index,net⟩ := by
  rw [linkAddress_read,lastOf_some single AddressAttribute.read_numbers.1 own rfl]
  rfl

theorem linkAddress_given (m : AddressMessage) (single : Single AddressAttribute.number m.attributes)
    (given : .address ip ∈ m.attributes) (unmarked : ∀ own, .own own ∉ m.attributes) :
    m.linkAddress? = (subnet? ip m.length).map fun net => ⟨m.index,net⟩ := by
  have none_ : lastOf AddressAttribute.own? m.attributes = none := by
    refine lastOf_none fun a among => ?_
    cases a with
    | own own => exact absurd among (unmarked own)
    | _ => rfl
  rw [linkAddress_read,none_,lastOf_some single AddressAttribute.read_numbers.2 given rfl]
  rfl

end AddressMessage

def RouteAttribute.number : RouteAttribute → Nat
  | .destination _ | .destinationLabel _ => 1
  | .output _ => 4
  | .gateway _ => 5
  | .priority _ => 6
  | .table _ => 15

-- The destination that a route of a length is given, which is none if it is no subnet.
def RouteAttribute.destination? (length : Nat) : RouteAttribute → Option (Option Subnet)
  | .destination a => some (subnet? a length)
  | .destinationLabel _ => some none
  | _ => none

def RouteAttribute.gateway? : RouteAttribute → Option Address
  | .gateway a => some a
  | _ => none

def RouteAttribute.output? : RouteAttribute → Option Nat
  | .output index => some index
  | _ => none

def RouteAttribute.table? : RouteAttribute → Option Nat
  | .table id => some id
  | _ => none

theorem RouteAttribute.read_numbers (length : Nat) :
    ReadUnder number 1 (destination? length) ∧ ReadUnder number 5 gateway? ∧ ReadUnder number 4 output? ∧
      ReadUnder number 15 table? := by
  refine ⟨?_,?_,?_,?_⟩
  all_goals
    intro a part told
    cases a <;> first | rfl | cases told

namespace RouteMessage

theorem route_read (m : RouteMessage) : m.route =
    ⟨(lastOf (RouteAttribute.destination? m.length) m.attributes).join,lastOf RouteAttribute.gateway? m.attributes,
      lastOf RouteAttribute.output? m.attributes,(lastOf RouteAttribute.table? m.attributes).getD m.table⟩ := rfl

theorem route_orderFree (m : RouteMessage) : OrderFree RouteAttribute.number Eq
    fun attributes => route { m with attributes := attributes } := by
  intro attributes attributes' single reordered
  obtain ⟨destination_number,gateway_number,output_number,table_number⟩ := RouteAttribute.read_numbers m.length
  have destination := lastOf_permuted destination_number _ _ single reordered
  have gateway := lastOf_permuted gateway_number _ _ single reordered
  have output := lastOf_permuted output_number _ _ single reordered
  have table := lastOf_permuted table_number _ _ single reordered
  simp only [route_read,destination,gateway,output,table]

-- The table that is named by an attribute counts, and that of the header only without it.
theorem route_table (m : RouteMessage) (single : Single RouteAttribute.number m.attributes) (table : Nat)
    (named : .table table ∈ m.attributes) : m.route.table = table := by
  obtain ⟨_,_,_,table_number⟩ := RouteAttribute.read_numbers m.length
  rw [route_read,lastOf_some single table_number named rfl]
  rfl

theorem route_header (m : RouteMessage) (unnamed : ∀ table, .table table ∉ m.attributes) : m.route.table = m.table := by
  have none_ : lastOf RouteAttribute.table? m.attributes = none := by
    refine lastOf_none fun a among => ?_
    cases a with
    | table table => exact absurd among (unnamed table)
    | _ => rfl
  rw [route_read,none_]
  rfl

end RouteMessage

-- Requests for links are read back as they were asked for, and links, addresses and routes are read from their
-- attributes in whatever order these stand, if no attribute is there twice.
theorem messages_read_in_any_order :
    (∀ (r : LinkRequest) attributes, Reordered LinkAttribute.Form r.message.attributes attributes →
      LinkMessage.link { r.message with attributes := attributes } = r.asked) ∧
    (∀ m : LinkMessage, OrderFree LinkAttribute.number LinkAttribute.Form
      fun attributes => LinkMessage.link { m with attributes := attributes }) ∧
    (∀ m : AddressMessage, OrderFree AddressAttribute.number Eq
      fun attributes => AddressMessage.linkAddress? { m with attributes := attributes }) ∧
    (∀ m : RouteMessage, OrderFree RouteAttribute.number Eq
      fun attributes => RouteMessage.route { m with attributes := attributes }) ∧
    (∀ (m : AddressMessage) ip, Single AddressAttribute.number m.attributes →
      .own ip ∈ m.attributes ∨ .address ip ∈ m.attributes ∧ (∀ own, .own own ∉ m.attributes) →
      m.linkAddress? = (subnet? ip m.length).map fun net => ⟨m.index,net⟩) ∧
    (∀ (m : RouteMessage), Single RouteAttribute.number m.attributes →
      (∀ table, .table table ∈ m.attributes → m.route.table = table) ∧
      ((∀ table, .table table ∉ m.attributes) → m.route.table = m.table)) ∧
    ∀ info type data, Single TypeInfo.number info → .name type ∈ info → data ∈ info → data.data? = some data →
      LinkKind.ofInfos info = .ofInfo (some type) (some data) := by
  refine ⟨fun r attributes reordered => ?_,LinkMessage.link_orderFree,AddressMessage.linkAddress_orderFree,
    RouteMessage.route_orderFree,fun m ip single told => ?_,fun m single => ?_,fun info type data => ?_⟩
  · rw [← r.message_read]
    exact LinkMessage.link_orderFree r.message _ _ r.message_single reordered
  · rcases told with own | ⟨given,unmarked⟩
    · exact m.linkAddress_own single own
    · exact m.linkAddress_given single given unmarked
  · exact ⟨m.route_table single,m.route_header⟩
  · exact LinkKind.ofInfos_known

-- The data of a bridge before its name, and the two addresses of a point-to-point link with the other end's first.
theorem shuffled_read :
    let bridge : BridgeRequest := ⟨"br0",9000,some true⟩
    let attributes : List LinkAttribute := [.type [.bridge [.filtering true],.name "bridge"],.name "br0",.mtu 9000]
    let message : AddressMessage := ⟨.v4,3,24,[.address (.ofNat .v4 0x0a000001),.own (.ofNat .v4 0x0a000002)]⟩
    Reordered LinkAttribute.Form (LinkRequest.bridge bridge).message.attributes attributes ∧
    LinkMessage.link { (LinkRequest.bridge bridge).message with attributes := attributes } =
      (LinkRequest.bridge bridge).asked ∧
    Single AddressAttribute.number message.attributes ∧ .own (.ofNat .v4 0x0a000002) ∈ message.attributes ∧
    message.linkAddress? = (subnet? (.ofNat .v4 0x0a000002) 24).map fun net => ⟨3,net⟩ := by
  intro bridge attributes message
  have reordered : Reordered LinkAttribute.Form (LinkRequest.bridge bridge).message.attributes attributes := by
    refine ⟨[.name "br0",.mtu 9000,.type [.bridge [.filtering true],.name "bridge"]],?_,by decide⟩
    refine .cons (.same _) (.cons (.same _) (.cons (.type (by decide) ?_) .nil))
    exact ⟨[.name "bridge",.bridge [.filtering true]],.cons (.same _) (.cons (.same _) .nil),by decide⟩
  exact ⟨reordered,messages_read_in_any_order.1 _ _ reordered,by decide,by decide,
    messages_read_in_any_order.2.2.2.2.1 _ _ (by decide) (.inl (by decide))⟩

end HostNet.Kernel
