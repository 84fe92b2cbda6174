import HostNet.Host
import HostNet.Proofs.KernelRequests
import HostNet.Proofs.OrderlyTables

namespace HostNet

open Step (Keeps)

namespace Masquerade.Iptables
open Firewall.Iptables

def Steady (m : Memory) : Prop := m.usable = true ∧ Orderly m.view

theorem initial_steady : Steady Memory.initial := by
  refine ⟨rfl,?_,?_⟩
  · intro family
    exact ⟨[],Memory.initial_postrouting family,by simp,by simp⟩
  · intro family network id rules held there
    rw [initial_absent network id family] at there
    cases there

theorem setups_orderly (nets : List Subnet) (network id comment : String) (orderly : Orderly v) :
    Orderly (nets.foldl (setupView (chainName network id) comment) v) := by
  induction nets generalizing v with
  | nil => exact orderly
  | cons net rest ih => exact ih (orderly_setup orderly net)

theorem teardowns_orderly (nets : List Subnet) (network id comment : String) (orderly : Orderly v) :
    Orderly (nets.foldl (teardownView (chainName network id) comment) v) := by
  induction nets generalizing v with
  | nil => exact orderly
  | cons net rest ih => exact ih (orderly_teardown orderly net)

theorem install_steady (nets : List Subnet) (identity : Identity) :
    Keeps Steady (install Memory.ops nets identity) := by
  intro m steady
  cases broken : m.failure with
  | some message => rw [install_failing nets identity broken]; exact steady
  | none =>
    obtain ⟨m',ran,becomes⟩ := install_working nets identity broken steady.2.present
    rw [Step.outcome,ran]
    refine ⟨becomes.usable.trans steady.1,?_⟩
    rw [becomes.view]
    exact setups_orderly nets _ _ _ steady.2

theorem teardown_steady (nets : List Subnet) (identity : Identity) :
    Keeps Steady (teardown Memory.ops nets identity) := by
  intro m steady
  cases broken : m.failure with
  | some message =>
    rw [Step.outcome,teardown_failing nets identity broken]
    cases nets <;> exact steady
  | none =>
    obtain ⟨m',ran,becomes⟩ := teardown_working nets identity broken
    rw [Step.outcome,ran]
    refine ⟨becomes.usable.trans steady.1,?_⟩
    rw [becomes.view]
    exact teardowns_orderly nets _ _ _ steady.2

theorem masquerader_steady : (Masquerader.iptables Memory.ops).Keeps Steady where
  supported _ steady := steady
  install := install_steady
  teardown := teardown_steady

end Masquerade.Iptables

namespace Masquerade.Nft
open Firewall.Nft Firewall.Nft.Ruleset

def Steady (m : Memory) : Prop := m.usable = true ∧ Sound m.ruleset.rules? m.ruleset.lastHandle

theorem masquerader_steady : (Masquerader.nft Memory.ops).Keeps Steady :=
  masquerader_keeps fun _ t _ steady applied => ⟨steady.1,applyAll_sound t steady.2 applied⟩

end Masquerade.Nft

namespace Kernel.Table

-- No request changes which requests are made to fail.
theorem list_refusals (kind : RequestKind) (read : Table → Except Error α) :
    Keeps (fun t => t.refusals = r) (list kind read) :=
  list_keeps (fun _ _ _ held => held) kind read

theorem change_refusals (kind : RequestKind) {f : Table → Except Error Table}
    (kept : ∀ t t', f t = .ok t' → t'.refusals = t.refusals) : Keeps (fun t => t.refusals = r) (change kind f) := by
  refine Step.keeps_update fun t t' held ran => ?_
  cases checked : t.check kind with
  | error e => simp [checked,bind,Except.bind] at ran
  | ok _ =>
    simp only [checked,bind,Except.bind] at ran
    exact (kept t t' ran).trans held

theorem changeLink_refusals (kind : RequestKind) (index : Nat) (f : Link → Link) :
    Keeps (fun t => t.refusals = r) (changeLink kind index f) := by
  refine change_refusals kind fun t t' ran => ?_
  split at ran
  · cases ran
  · cases ran; rfl

theorem driver_refusals (r : List (RequestKind × OsError)) : driver.Keeps (fun t => t.refusals = r) where
  linkByName _ := list_refusals .linkByName _
  addresses index := by unfold driver; dsimp only; exact list_refusals _ _
  addLink request := by
    refine change_refusals _ fun t t' ran => ?_
    split at ran
    · cases ran
    · cases made : t.requested request with
      | error e => simp [made,bind,Except.bind] at ran
      | ok link =>
        simp only [made,bind,Except.bind,pure,Except.pure,Except.ok.injEq] at ran
        rw [← ran]
        rfl
  modifyLink request := by
    refine change_refusals _ fun t t' ran => ?_
    split at ran
    · cases ran
    · split at ran <;> cases ran
      rfl
  setUp index := changeLink_refusals _ _ _
  setPromiscuous index := changeLink_refusals _ _ _
  deleteLink index := by
    refine change_refusals _ fun t t' ran => ?_
    split at ran
    · cases ran
    · cases ran; rfl
  addAddress index net := by
    refine change_refusals _ fun t t' ran => ?_
    split at ran
    · cases ran
    · split at ran <;> cases ran
      rfl

theorem driver_answers : driver.Keeps Answers := driver_refusals []

end Kernel.Table

namespace Host

theorem kernel_part : Step.Part Host.kernel (fun kernel (h : Host) => { h with kernel }) :=
  ⟨fun _ _ => rfl,fun _ _ _ => rfl,fun _ => rfl⟩

-- Hosts whose firewalls only masquerading has used, and whose kernel answers.
structure Steady (h : Host) : Prop where
  kernel : h.kernel.Answers
  iptables : Masquerade.Iptables.Steady h.iptables
  nft : Masquerade.Nft.Steady h.nft

theorem onKernel_steady {x : Step Kernel.Table ε α} (inner : Keeps Kernel.Table.Answers x) :
    Keeps Steady (onKernel x) :=
  Step.keeps_within inner (fun _ steady => steady.kernel) fun _ _ steady kept => ⟨kept,steady.iptables,steady.nft⟩

theorem onFiles_steady (x : Step Files ε α) : Keeps Steady (onFiles x) := by
  have inner : Keeps (fun _ : Files => True) x := fun _ _ => trivial
  exact Step.keeps_within inner (fun _ _ => trivial) fun _ _ steady _ => ⟨steady.kernel,steady.iptables,steady.nft⟩

theorem iptables_steady : masquerade.iptables.Keeps Steady := by
  have whole : ∀ (h : Host) (m : Firewall.Iptables.Memory), Steady h → Masquerade.Iptables.Steady m →
      Steady { h with iptables := m } := fun _ _ steady kept => ⟨steady.kernel,kept,steady.nft⟩
  exact Masquerade.Iptables.masquerader_steady.within (fun _ steady => steady.iptables) whole

theorem nftables_steady : masquerade.nftables.Keeps Steady := by
  have whole : ∀ (h : Host) (m : Firewall.Nft.Memory), Steady h → Masquerade.Nft.Steady m →
      Steady { h with nft := m } := fun _ _ steady kept => ⟨steady.kernel,steady.iptables,kept⟩
  exact Masquerade.Nft.masquerader_steady.within (fun _ steady => steady.nft) whole

theorem driver_steady : driver.Keeps Steady := by
  have whole : ∀ (h : Host) (t : Kernel.Table), Steady h → t.Answers → Steady { h with kernel := t } :=
    fun _ _ steady kept => ⟨kept,steady.iptables,steady.nft⟩
  exact Kernel.Table.driver_answers.within (fun _ steady => steady.kernel) whole

theorem services_steady (root : String) : (services root).Keeps Steady := by
  unfold services
  constructor
  · exact driver_steady
  · dsimp only
    exact fun family => onFiles_steady (Sysctl.enableForwarding root family)
  · dsimp only
    exact fun name value => onFiles_steady (Sysctl.set root name value)
  · exact iptables_steady
  · exact nftables_steady

-- What happens to a host: networks come and go, others delete links, and the firewall tools break and work again.
inductive Event where
  | setup (n : Config.Network)
  | remove (n : Config.Network)
  | unplug (index : Nat)
  | iptablesBreaks (message : String)
  | iptablesWorks
  | nftBreaks (message : String)
  | nftWorks

def after (root : String) (h : Host) : Event → Host
  | .setup n => (Step.outcome (Bridge.setup (services root) n) h).2
  | .remove n => (Step.outcome (Bridge.remove (services root) n) h).2
  | .unplug index => (Step.outcome (onKernel (Kernel.Table.deleteLink index)) h).2
  | .iptablesBreaks message => { h with iptables := { h.iptables with failure := some message } }
  | .iptablesWorks => { h with iptables := { h.iptables with failure := none } }
  | .nftBreaks message => { h with nft := { h.nft with failure := some message } }
  | .nftWorks => { h with nft := { h.nft with failure := none } }

-- At first the firewalls are empty. Links, addresses and files may be any.
inductive Reachable (root : String) : Host → Prop where
  | first (answers : h.kernel.Answers) (iptables : h.iptables = .initial) (nft : h.nft = .initial) : Reachable root h
  | next (reached : Reachable root h) (event : Event) : Reachable root (h.after root event)

theorem after_steady (root : String) (event : Event) (steady : Steady h) : Steady (h.after root event) := by
  cases event with
  | setup n => exact Bridge.keeps_setup (services_steady root) n h steady
  | remove n => exact Bridge.keeps_remove (services_steady root) n h steady
  | unplug index => exact onKernel_steady (Kernel.Table.driver_answers.deleteLink index) h steady
  | iptablesBreaks message => exact ⟨steady.kernel,steady.iptables,steady.nft⟩
  | iptablesWorks => exact ⟨steady.kernel,steady.iptables,steady.nft⟩
  | nftBreaks message => exact ⟨steady.kernel,steady.iptables,steady.nft⟩
  | nftWorks => exact ⟨steady.kernel,steady.iptables,steady.nft⟩

theorem reachable_steady (reached : Reachable root h) : Steady h := by
  induction reached with
  | first answers iptables nft =>
    refine ⟨answers,?_,?_⟩
    · rw [iptables]; exact Masquerade.Iptables.initial_steady
    · rw [nft]; exact ⟨rfl,Firewall.Nft.Ruleset.empty_sound⟩
  | next reached event ih => exact after_steady root event ih

end Host

end HostNet
