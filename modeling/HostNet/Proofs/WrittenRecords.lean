import HostNet.Config.Plan
import HostNet.Config.Vlan
import HostNet.Ipam.Allocator
import HostNet.Proofs.RecordFields
import HostNet.Proofs.SnapshotApplication

namespace HostNet.Config
open Document (Slots Fields read_next)
open Document.Json (Plain)

-- A value that is left out where it is the one that its absence stands for.
theorem skipped_slot {c : Prop} [Decidable c] (key : String) (d : Document) :
    (if c then none else some (key,d)) = (if c then none else some d).map fun d => (key,d) := by
  split <;> rfl

namespace Switches

theorem insert_last {entries : List (String × Bool)} (name : String) (on : Bool)
    (below : ∀ e ∈ entries, e.1 < name) : put name on entries = entries ++ [(name,on)] := by
  have before : entries.filter (fun e => decide (e.1 < name)) = entries :=
    List.filter_eq_self.mpr fun e member => decide_eq_true (below e member)
  have behind : entries.filter (fun e => decide (name < e.1)) = [] :=
    List.filter_eq_nil_iff.mpr fun e member later => String.lt_asymm (below e member) (of_decide_eq_true later)
  rw [put,before,behind]

-- Entries that come in their order are put one behind the other.
theorem insertMembers_ascending (s : Switches) (entries : List (String × Bool))
    (ascending : (s.entries ++ entries).Pairwise fun a b => a.1 < b.1) :
    s.insertMembers? (entries.map fun e => (some e.1,.bool e.2)) = some ⟨s.entries ++ entries,ascending⟩ := by
  induction entries generalizing s with
  | nil =>
    rw [List.map_nil,insertMembers?]
    simp only [List.append_nil]
  | cons e rest ih =>
    have below : ∀ other ∈ s.entries, other.1 < e.1 := fun other member =>
      (List.pairwise_append.mp ascending).2.2 other member e (by simp)
    have grown : (s.insert e.1 e.2).entries = s.entries ++ [e] := insert_last e.1 e.2 below
    have further : ((s.insert e.1 e.2).entries ++ rest).Pairwise fun a b => a.1 < b.1 := by
      rw [grown,List.append_assoc]
      exact ascending
    rw [List.map_cons,insertMembers?,ih (s.insert e.1 e.2) further]
    simp only [grown,List.append_assoc,List.singleton_append]

theorem ofDocument_toDocument (s : Switches) : ofDocument? s.toDocument = some s := by
  have read := insertMembers_ascending empty s.entries s.ascending
  rw [toDocument,Document.ofMembers,List.map_map]
  exact read

theorem toDocument_plain (s : Switches) : Plain s.toDocument := by
  rw [toDocument,Document.ofMembers,List.map_map]
  refine .object ?_ ?_ <;> intro m member <;> obtain ⟨e,_,rfl⟩ := List.mem_map.mp member
  · rfl
  · exact .bool e.2

end Switches

namespace TrunkEntry

def slots (e : TrunkEntry) : Slots :=
  [("minID",e.lowest.map .ofInt64),("maxID",e.highest.map .ofInt64),("id",e.single.map .ofInt64)]

theorem toDocument_slots (e : TrunkEntry) : e.toDocument = .object e.slots.members := by
  rw [← Slots.ofPresent_members]
  simp [toDocument,slots,Option.map_map,Function.comp_def]

theorem ofDocument_toDocument (e : TrunkEntry) : ofDocument? e.toDocument = some e := by
  have fields : Document.fieldsOfObject? ["minID","maxID","id"] e.slots.members = some e.slots.value? :=
    Slots.fields_members (by simp [slots]) _
  have number (n : Int64) : (Document.ofInt64 n).asOption? Document.asInt64? = some (some n) :=
    congrArg (Option.map some) (Document.asInt64_ofInt64 n)
  have lowest : Fields.optional e.slots.value? "minID" Document.asInt64? = some e.lowest :=
    Fields.optional_written rfl number
  have highest : Fields.optional e.slots.value? "maxID" Document.asInt64? = some e.highest :=
    Fields.optional_written rfl number
  have single : Fields.optional e.slots.value? "id" Document.asInt64? = some e.single :=
    Fields.optional_written rfl number
  rw [toDocument_slots]
  exact read_next fields <| read_next lowest <| read_next highest <| read_next single rfl

theorem toDocument_plain (e : TrunkEntry) : Plain e.toDocument := by
  rw [toDocument_slots]
  refine Slots.members_plain ?_
  simp only [slots,List.forall_mem_cons]
  exact ⟨Document.optional_plain Document.int64_plain _,Document.optional_plain Document.int64_plain _,
    Document.optional_plain Document.int64_plain _,List.forall_mem_nil _⟩

end TrunkEntry

namespace Vlan

def slots (v : Vlan) : Slots :=
  [("master",some (.ofString v.master)),("vlanId",some (.ofInt64 v.id)),
    ("mtu",if v.mtu = 0 then none else some (.ofInt64 v.mtu))]

theorem toDocument_slots (v : Vlan) : v.toDocument = .object v.slots.members := by
  rw [← Slots.ofPresent_members,toDocument,skipped_slot]
  rfl

theorem ofDocument_toDocument (v : Vlan) : ofDocument? v.toDocument = some v := by
  have fields : Document.fieldsOfObject? ["master","vlanId","mtu"] v.slots.members = some v.slots.value? :=
    Slots.fields_members (by simp [slots]) _
  have master : Fields.required v.slots.value? "master" Document.asText? = some v.master :=
    Fields.required_written rfl rfl
  have id : Fields.required v.slots.value? "vlanId" Document.asInt64? = some v.id :=
    Fields.required_written rfl (Document.asInt64_ofInt64 v.id)
  have mtu : Fields.withDefault v.slots.value? "mtu" 0 Document.asInt64? = some v.mtu :=
    Fields.withDefault_skipped rfl (fun zero => zero) (Document.asInt64_ofInt64 v.mtu)
  rw [toDocument_slots]
  exact read_next fields <| read_next master <| read_next id <| read_next mtu rfl

theorem toDocument_plain (v : Vlan) : Plain v.toDocument := by
  rw [toDocument_slots]
  refine Slots.members_plain ?_
  simp only [slots,List.forall_mem_cons]
  exact ⟨Document.written_plain (.text _),Document.written_plain (Document.int64_plain _),
    Document.skipped_plain (Document.int64_plain _),List.forall_mem_nil _⟩

end Vlan

namespace AddressManagement

def slots (m : AddressManagement) : Slots :=
  [("type",some (.ofString m.kind)),("podCIDR",some (.ofList .ofString m.podSubnets)),
    ("minAllocate",some (.ofUInt32 m.minAllocate)),("maxAllocate",some (.ofUInt32 m.maxAllocate)),
    ("preAllocate",some (.ofUInt32 m.preAllocate)),("maxAboveWatermark",some (.ofUInt32 m.maxAboveWatermark))]

theorem toDocument_slots (m : AddressManagement) : m.toDocument = .object m.slots.members := rfl

theorem ofDocument_toDocument (m : AddressManagement) : ofDocument? m.toDocument = some m := by
  have fields : Document.fieldsOfObject? keys m.slots.members = some m.slots.value? :=
    Slots.fields_members (by simp [slots]) _
  have kind : Fields.withDefault m.slots.value? "type" "" Document.asText? = some m.kind :=
    Fields.withDefault_written rfl rfl
  have podSubnets : Fields.withDefault m.slots.value? "podCIDR" [] (Document.asList? Document.asText?) =
      some m.podSubnets := Fields.withDefault_written rfl (Document.asList_ofList Document.asText_ofString _)
  have minAllocate : Fields.withDefault m.slots.value? "minAllocate" 0 Document.asUInt32? = some m.minAllocate :=
    Fields.withDefault_written rfl (Document.asUInt32_ofUInt32 _)
  have maxAllocate : Fields.withDefault m.slots.value? "maxAllocate" 0 Document.asUInt32? = some m.maxAllocate :=
    Fields.withDefault_written rfl (Document.asUInt32_ofUInt32 _)
  have preAllocate : Fields.withDefault m.slots.value? "preAllocate" 0 Document.asUInt32? = some m.preAllocate :=
    Fields.withDefault_written rfl (Document.asUInt32_ofUInt32 _)
  have maxAboveWatermark : Fields.withDefault m.slots.value? "maxAboveWatermark" 0 Document.asUInt32? =
      some m.maxAboveWatermark := Fields.withDefault_written rfl (Document.asUInt32_ofUInt32 _)
  rw [toDocument_slots]
  exact read_next fields <| read_next kind <| read_next podSubnets <| read_next minAllocate <| read_next maxAllocate <|
    read_next preAllocate <| read_next maxAboveWatermark rfl

theorem toDocument_plain (m : AddressManagement) : Plain m.toDocument := by
  rw [toDocument_slots]
  refine Slots.members_plain ?_
  simp only [slots,List.forall_mem_cons]
  exact ⟨Document.written_plain (.text _),Document.written_plain (Document.list_plain (fun s => .text s) _),
    Document.written_plain (Document.uint32_plain _),Document.written_plain (Document.uint32_plain _),
    Document.written_plain (Document.uint32_plain _),Document.written_plain (Document.uint32_plain _),
    List.forall_mem_nil _⟩

theorem toDocument_legible (m : AddressManagement) (depth : Nat) : m.toDocument.isLegible (depth + 2) = true := by
  rw [toDocument_slots]
  refine Document.members_legible ?_
  have pods : (Document.ofList .ofString m.podSubnets).isLegible (depth + 1) = true :=
    Document.list_legible (fun _ => rfl) _
  simp only [slots,List.forall_mem_cons,Option.mem_some_iff,forall_eq']
  exact ⟨rfl,pods,rfl,rfl,rfl,rfl,List.forall_mem_nil _⟩

end AddressManagement

namespace Network

def filled? (value : String) : Option Document := if value.isEmpty then none else some (.ofString value)

def on? (on : Bool) : Option Document := if on then some (.bool true) else none

theorem unlessEmpty_slot (key value : String) : unlessEmpty key value = (filled? value).map fun d => (key,d) :=
  skipped_slot key _

theorem whenOn_slot (key : String) (on : Bool) : whenOn key on = (on? on).map fun d => (key,d) := by
  cases on <;> rfl

def macSlots (mac : String) : Slots := [("mac",filled? mac)]

theorem macDocument_slots (mac : String) : macDocument mac = .object (macSlots mac).members := by
  rw [← Slots.ofPresent_members,macDocument,unlessEmpty_slot]
  rfl

def sharedSlots (n : Network) : Slots :=
  [("cniVersion",filled? n.cniVersion),("name",filled? n.name),("type",filled? n.kind),
    ("capabilities",if n.capabilities.entries.isEmpty then none else some n.capabilities.toDocument),
    ("ipam",some n.management.toDocument)]

def bridgeSlots (n : Network) : Slots :=
  [("bridge",some (.ofString n.bridge)),("isGateway",some (.bool n.isGateway)),
    ("isDefaultGateway",some (.bool n.isDefaultGateway)),("forceAddress",some (.bool n.forceAddress)),
    ("ipMasq",some (.bool n.masquerade)),("ipMasqBackend",n.masqueradeBackend.map .ofString),
    ("mtu",some (.ofUInt32 n.mtu)),("hairpinMode",some (.bool n.hairpin)),("promiscMode",some (.bool n.promiscuous)),
    ("vlan",some (.ofInt64 n.vlan)),("vlanTrunk",n.trunk.map (.ofList TrunkEntry.toDocument)),
    ("preserveDefaultVlan",some (.bool n.preserveDefaultVlan)),("macspoofchk",on? n.checkMacSpoofing),
    ("enabledad",on? n.detectDuplicates),("disableContainerInterface",on? n.withoutInterface),
    ("portIsolation",on? n.portIsolation),("args",some (.ofMembers [("cni",macDocument n.requestedMac)])),
    ("runtimeConfig",some (macDocument n.runtimeMac))]

def slots (n : Network) : Slots := n.sharedSlots ++ n.bridgeSlots

theorem toDocument_slots (n : Network) : n.toDocument = .object n.slots.members := by
  rw [← Slots.ofPresent_members,toDocument]
  simp only [unlessEmpty_slot,whenOn_slot,skipped_slot]
  simp [slots,sharedSlots,bridgeSlots,Option.map_map,Function.comp_def]

-- The backend is written under the first of its spellings.
theorem slots_keys (n : Network) : n.slots.map Prod.fst = sharedKeys ++ bridgeKeys.erase "IPMasqBackend" := rfl

theorem fields_slots (n : Network) :
    Document.fieldsOfObject? (sharedKeys ++ bridgeKeys) n.slots.members = some n.slots.value? := by
  refine Slots.fields_members ?_ _
  rw [slots_keys]
  decide

section Fields
variable {fields : Fields} {key : String}

theorem filled_back (shown : fields key = filled? value) : fields.withDefault key "" Document.asText? = some value := by
  refine Fields.withDefault_skipped shown ?_ (Document.asText_ofString value)
  exact fun empty => String.isEmpty_iff.mp empty

theorem on_back (shown : fields key = on? on) : fields.withDefault key false Document.asBool? = some on := by
  rw [Fields.withDefault,shown]
  cases on <;> rfl

theorem mac_back (mac : String) : macOfDocument? (macDocument mac) = some mac := by
  have fields : Document.fieldsOfObject? ["mac"] (macSlots mac).members = some (macSlots mac).value? :=
    Slots.fields_members (by simp [macSlots]) _
  rw [macDocument_slots,macOfDocument?,Document.fields?,fields]
  exact filled_back rfl

theorem argumentsMac_back (mac : String) :
    argumentsMac? (.ofMembers [("cni",macDocument mac)]) = some mac := by
  have fields : Document.fieldsOfObject? ["cni"] (Slots.members [("cni",some (macDocument mac))]) =
      some (Slots.value? [("cni",some (macDocument mac))]) := Slots.fields_members (by simp) _
  have written : Document.ofMembers [("cni",macDocument mac)] =
      .object (Slots.members [("cni",some (macDocument mac))]) := rfl
  have cni : Fields.withDefault (Slots.value? [("cni",some (macDocument mac))]) "cni" "" macOfDocument? = some mac :=
    Fields.withDefault_written rfl (mac_back mac)
  rw [written,argumentsMac?,Document.fields?,fields]
  exact cni

end Fields

theorem backend_back (n : Network) : backendOfFields? n.slots.value? = some n.masqueradeBackend := by
  have first : n.slots.value? "ipMasqBackend" = n.masqueradeBackend.map .ofString := rfl
  have second : n.slots.value? "IPMasqBackend" = none := rfl
  rw [backendOfFields?,first,second]
  cases n.masqueradeBackend <;> rfl

theorem switches_empty {s : Switches} (none : s.entries.isEmpty = true) : s = .empty := by
  obtain ⟨entries,_⟩ := s
  cases List.isEmpty_iff.mp none
  rfl

-- Each field is read from its own slot, or has by default the value for which its slot is empty.
theorem ofMembers_members (n : Network) : ofMembers? n.slots.members = some n := by
  have cniVersion : Fields.withDefault n.slots.value? "cniVersion" "" Document.asText? = some n.cniVersion :=
    filled_back rfl
  have name : Fields.withDefault n.slots.value? "name" "" Document.asText? = some n.name := filled_back rfl
  have kind : Fields.withDefault n.slots.value? "type" "" Document.asText? = some n.kind := filled_back rfl
  have capabilities : Fields.withDefault n.slots.value? "capabilities" .empty Switches.ofDocument? =
      some n.capabilities :=
    Fields.withDefault_skipped rfl (fun none => switches_empty none) n.capabilities.ofDocument_toDocument
  have management : Fields.withDefault n.slots.value? "ipam" .none AddressManagement.ofDocument? = some n.management :=
    Fields.withDefault_written rfl n.management.ofDocument_toDocument
  have bridge : Fields.withDefault n.slots.value? "bridge" "" Document.asText? = some n.bridge :=
    Fields.withDefault_written rfl rfl
  have isGateway : Fields.withDefault n.slots.value? "isGateway" false Document.asBool? = some n.isGateway :=
    Fields.withDefault_written rfl rfl
  have isDefaultGateway : Fields.withDefault n.slots.value? "isDefaultGateway" false Document.asBool? =
      some n.isDefaultGateway := Fields.withDefault_written rfl rfl
  have forceAddress : Fields.withDefault n.slots.value? "forceAddress" false Document.asBool? = some n.forceAddress :=
    Fields.withDefault_written rfl rfl
  have masquerade : Fields.withDefault n.slots.value? "ipMasq" false Document.asBool? = some n.masquerade :=
    Fields.withDefault_written rfl rfl
  have mtu : Fields.withDefault n.slots.value? "mtu" 0 Document.asUInt32? = some n.mtu :=
    Fields.withDefault_written rfl (Document.asUInt32_ofUInt32 _)
  have hairpin : Fields.withDefault n.slots.value? "hairpinMode" false Document.asBool? = some n.hairpin :=
    Fields.withDefault_written rfl rfl
  have promiscuous : Fields.withDefault n.slots.value? "promiscMode" false Document.asBool? = some n.promiscuous :=
    Fields.withDefault_written rfl rfl
  have vlan : Fields.withDefault n.slots.value? "vlan" 0 Document.asInt64? = some n.vlan :=
    Fields.withDefault_written rfl (Document.asInt64_ofInt64 _)
  have preserveDefaultVlan : Fields.withDefault n.slots.value? "preserveDefaultVlan" false Document.asBool? =
      some n.preserveDefaultVlan := Fields.withDefault_written rfl rfl
  have checkMacSpoofing : Fields.withDefault n.slots.value? "macspoofchk" false Document.asBool? =
      some n.checkMacSpoofing := on_back rfl
  have detectDuplicates : Fields.withDefault n.slots.value? "enabledad" false Document.asBool? =
      some n.detectDuplicates := on_back rfl
  have withoutInterface : Fields.withDefault n.slots.value? "disableContainerInterface" false Document.asBool? =
      some n.withoutInterface := on_back rfl
  have portIsolation : Fields.withDefault n.slots.value? "portIsolation" false Document.asBool? =
      some n.portIsolation := on_back rfl
  have requestedMac : Fields.withDefault n.slots.value? "args" "" argumentsMac? = some n.requestedMac :=
    Fields.withDefault_written rfl (argumentsMac_back _)
  have runtimeMac : Fields.withDefault n.slots.value? "runtimeConfig" "" macOfDocument? = some n.runtimeMac :=
    Fields.withDefault_written rfl (mac_back _)
  have entries (list : List TrunkEntry) : (Document.ofList TrunkEntry.toDocument list).asOption?
      (Document.asList? TrunkEntry.ofDocument?) = some (some list) :=
    congrArg (Option.map some) (Document.asList_ofList TrunkEntry.ofDocument_toDocument list)
  have trunk : Fields.optional n.slots.value? "vlanTrunk" (Document.asList? TrunkEntry.ofDocument?) = some n.trunk :=
    Fields.optional_written rfl entries
  exact read_next (fields_slots n) <| read_next cniVersion <| read_next name <| read_next kind <|
    read_next capabilities <| read_next management <|
    read_next bridge <| read_next isGateway <| read_next isDefaultGateway <| read_next forceAddress <|
    read_next masquerade <| read_next (backend_back n) <| read_next mtu <| read_next hairpin <| read_next promiscuous <|
    read_next vlan <| read_next trunk <| read_next preserveDefaultVlan <| read_next checkMacSpoofing <|
    read_next detectDuplicates <| read_next withoutInterface <| read_next portIsolation <| read_next requestedMac <|
    read_next runtimeMac rfl

section Plain

theorem filled_plain (value : String) : ∀ d ∈ filled? value, Plain d := Document.skipped_plain (.text value)

theorem on_plain (on : Bool) : ∀ d ∈ on? on, Plain d := by
  cases on with
  | false =>
    intro d written
    cases written
  | true => exact Document.written_plain (.bool true)

theorem macDocument_plain (mac : String) : Plain (macDocument mac) := by
  rw [macDocument_slots]
  refine Slots.members_plain ?_
  simp only [macSlots,List.forall_mem_cons]
  exact ⟨filled_plain mac,List.forall_mem_nil _⟩

theorem arguments_plain (mac : String) : Plain (.ofMembers [("cni",macDocument mac)]) := by
  refine .object ?_ ?_ <;> simp only [List.map_cons,List.map_nil,List.forall_mem_cons]
  · exact ⟨rfl,List.forall_mem_nil _⟩
  · exact ⟨macDocument_plain mac,List.forall_mem_nil _⟩

theorem slots_plain (n : Network) : ∀ s ∈ n.slots, ∀ d ∈ s.2, Plain d := by
  have written {d : Document} (plain : Plain d) := Document.written_plain plain
  have shared : ∀ s ∈ n.sharedSlots, ∀ d ∈ s.2, Plain d := by
    simp only [sharedSlots,List.forall_mem_cons]
    exact ⟨filled_plain _,filled_plain _,filled_plain _,Document.skipped_plain n.capabilities.toDocument_plain,
      written n.management.toDocument_plain,List.forall_mem_nil _⟩
  have bridge : ∀ s ∈ n.bridgeSlots, ∀ d ∈ s.2, Plain d := by
    simp only [bridgeSlots,List.forall_mem_cons]
    exact ⟨written (.text _),written (.bool _),written (.bool _),written (.bool _),written (.bool _),
      Document.optional_plain (fun name => .text name) _,written (Document.uint32_plain _),written (.bool _),
      written (.bool _),written (Document.int64_plain _),
      Document.optional_plain (Document.list_plain TrunkEntry.toDocument_plain) _,written (.bool _),on_plain _,
      on_plain _,on_plain _,on_plain _,written (arguments_plain _),written (macDocument_plain _),List.forall_mem_nil _⟩
  exact List.forall_mem_append.mpr ⟨shared,bridge⟩

end Plain

-- What a network has in common with others is nested too little to be illegible.
theorem shared_legible (n : Network) (depth : Nat) :
    ∀ s ∈ n.sharedSlots, ∀ d ∈ s.2, d.isLegible (depth + 2) = true := by
  have filled (value : String) : ∀ d ∈ filled? value, d.isLegible (depth + 2) = true := by
    intro d written
    unfold filled? at written
    split at written <;> cases written
    rfl
  have switches : n.capabilities.toDocument.isLegible (depth + 2) = true := by
    rw [Switches.toDocument,Document.ofMembers,Document.isLegible,Document.membersAreLegible_all]
    simp [Document.isLegible]
  simp only [sharedSlots,List.forall_mem_cons]
  refine ⟨filled _,filled _,filled _,?_,?_,List.forall_mem_nil _⟩
  · intro d written
    split at written <;> cases written
    exact switches
  · intro d written
    cases written
    exact n.management.toDocument_legible depth

theorem beyond_legible (n : Network) : isLegibleBeyondBridge n.slots.members = true := by
  unfold isLegibleBeyondBridge
  rw [List.all_eq_true]
  intro m member
  obtain ⟨s,among,shown⟩ := List.mem_filterMap.mp member
  obtain ⟨d,held,rfl⟩ := Option.map_eq_some_iff.mp shown
  rcases List.mem_append.mp among with shared | bridge
  · have legible : d.isLegible (Document.Json.maxDepth - 1) = true := n.shared_legible 124 s shared d held
    rw [legible,Bool.or_true]
  · have keys : n.bridgeSlots.map Prod.fst = bridgeKeys.erase "IPMasqBackend" := rfl
    have known : s.1 ∈ bridgeKeys.erase "IPMasqBackend" := keys ▸ List.mem_map_of_mem bridge
    have own : bridgeKeys.contains s.1 = true := List.contains_iff_mem.mpr (List.mem_of_mem_erase known)
    exact Bool.or_eq_true_iff.mpr (.inl own)

theorem ofJson_toJson (n : Network) :
    ofJson? n.toDocument.toJson = some n ∧ ofJson? n.toDocument.toJsonLines = some n := by
  obtain ⟨compact,lines⟩ := Document.Json.read_written (Slots.members_plain n.slots_plain)
  rw [toDocument_slots,ofJson?,ofJson?,compact,lines]
  simp only [n.beyond_legible,if_true]
  exact ⟨n.ofMembers_members,n.ofMembers_members⟩

end Network
end HostNet.Config

namespace HostNet.Ipam
open Document (Slots Fields read_next)
open Document.Json (Plain)

namespace Allocation

def slots (a : Allocation) : Slots :=
  [("ip",some (.ofString a.address.text)),("pool",some (.ofString a.pool)),
    ("cidrs",some (.ofList (fun s => .ofString s.text) a.subnets)),
    ("gatewayIp",some (.ofOption (fun g => .ofString g.text) a.gateway)),("owner",some (.ofString a.owner))]

theorem toDocument_slots (a : Allocation) : a.toDocument = .object a.slots.members := rfl

theorem ofDocument_toDocument (a : Allocation) : ofDocument? a.toDocument = some a := by
  have fields : Document.fieldsOfObject? ["ip","pool","cidrs","gatewayIp","owner"] a.slots.members =
      some a.slots.value? := Slots.fields_members (by simp [slots]) _
  have address : Fields.required a.slots.value? "ip" (fun d => d.asText?.bind Address.parse?) = some a.address :=
    Fields.required_written rfl a.address.parse_text
  have pool : Fields.required a.slots.value? "pool" Document.asText? = some a.pool := Fields.required_written rfl rfl
  have subnets : Fields.required a.slots.value? "cidrs" (Document.asList? fun d => d.asText?.bind Subnet.parse?) =
      some a.subnets := Fields.required_written rfl (Document.asList_ofList Subnet.parse_text _)
  have gateway : Fields.optional a.slots.value? "gatewayIp" (fun d => d.asText?.bind Address.parse?) =
      some a.gateway := by
    refine Fields.withDefault_written rfl (Document.asOption_ofOption (fun g => ?_) a.gateway)
    exact congrArg (Option.map some) g.parse_text
  have owner : Fields.required a.slots.value? "owner" Document.asText? = some a.owner := Fields.required_written rfl rfl
  rw [toDocument_slots]
  exact read_next fields <| read_next address <| read_next pool <| read_next subnets <| read_next gateway <|
    read_next owner rfl

theorem toDocument_plain (a : Allocation) : Plain a.toDocument := by
  rw [toDocument_slots]
  refine Slots.members_plain ?_
  have gateway : Plain (.ofOption (fun g => .ofString g.text) a.gateway) := by
    cases a.gateway with
    | none => exact .null
    | some g => exact .text g.text
  simp only [slots,List.forall_mem_cons]
  exact ⟨Document.written_plain (.text _),Document.written_plain (.text _),
    Document.written_plain (Document.list_plain (fun s : Subnet => .text s.text) _),Document.written_plain gateway,
    Document.written_plain (.text _),List.forall_mem_nil _⟩

end Allocation
end HostNet.Ipam

namespace HostNet
open Document.Json (Plain read?)

-- What is written of a record in either form is read as the record.
def ReadsBack (write : α → Document) (read : String → Option α) : Prop :=
  ∀ a, read (write a).toJson = some a ∧ read (write a).toJsonLines = some a

theorem readsBack_plain {write : α → Document} {read : Document → Option α} (plain : ∀ a, Plain (write a))
    (back : ∀ a, read (write a) = some a) : ReadsBack write fun text => (read? text).bind read := by
  intro a
  obtain ⟨compact,lines⟩ := Document.Json.read_written (plain a)
  simp only [compact,lines,Option.bind_some]
  exact ⟨back a,back a⟩

theorem management_back : ReadsBack Config.AddressManagement.toDocument Config.AddressManagement.ofJson? := by
  intro m
  obtain ⟨compact,lines⟩ := Document.Json.read_written m.toDocument_plain
  have legible : m.toDocument.isLegible Document.Json.maxDepth = true := m.toDocument_legible 125
  rw [Config.AddressManagement.ofJson?,Config.AddressManagement.ofJson?,Document.Json.readLegible?,
    Document.Json.readLegible?,compact,lines,Option.filter_some_pos (by exact legible),Option.bind_some]
  exact ⟨m.ofDocument_toDocument,m.ofDocument_toDocument⟩

-- Whatever stands in a record comes back from its text: what was left out is what its absence stands for, and the
-- absence of a list is not the same as a list of nothing. So a network that was written makes the same plan.
theorem records_read_back :
    ReadsBack Config.Network.toDocument Config.Network.ofJson? ∧
    (∀ n : Config.Network, (Config.Network.ofJson? n.toDocument.toJson).map Config.Network.plan = some n.plan) ∧
    ReadsBack Ipam.Allocation.toDocument (fun text => (read? text).bind Ipam.Allocation.ofDocument?) ∧
    ReadsBack Document.ofString (fun text => (read? text).bind Document.asText?) ∧
    ReadsBack Ipam.Snapshot.toDocument Ipam.Snapshot.ofJson? ∧
    ReadsBack Config.Vlan.toDocument (fun text => (read? text).bind Config.Vlan.ofDocument?) ∧
    ReadsBack Config.TrunkEntry.toDocument (fun text => (read? text).bind Config.TrunkEntry.ofDocument?) ∧
    ReadsBack Config.AddressManagement.toDocument Config.AddressManagement.ofJson? :=
  ⟨Config.Network.ofJson_toJson,fun n => by rw [n.ofJson_toJson.1,Option.map_some],
    readsBack_plain Ipam.Allocation.toDocument_plain Ipam.Allocation.ofDocument_toDocument,
    readsBack_plain (fun s => .text s) Document.asText_ofString,Ipam.Snapshot.ofJson_toJson,
    readsBack_plain Config.Vlan.toDocument_plain Config.Vlan.ofDocument_toDocument,
    readsBack_plain Config.TrunkEntry.toDocument_plain Config.TrunkEntry.ofDocument_toDocument,management_back⟩

end HostNet
