import HostNet.Proofs.QuotedText
import HostNet.Proofs.RestoredChains
import HostNet.Proofs.ChainRuns

namespace HostNet.Masquerade

-- Both texts of a comment are quoted, so a text that imitates what stands between them is no such thing.
theorem comment_injective {network id network' id' : String}
    (same : chainComment network id = chainComment network' id') : network = network' ∧ id = id' := by
  have quoted (s : String) : (Text.quoted s).toList = Text.Quoted.encode s.toList := String.toList_ofList
  have chars := congrArg String.toList same
  simp only [chainComment,String.toList_append,quoted,List.append_assoc,List.append_right_inj] at chars
  obtain ⟨networks,rest⟩ := (Text.Quoted.encode_quotes _).unique (Text.Quoted.encode_quotes _) chars
  rw [List.append_right_inj,← List.append_nil (Text.Quoted.encode id.toList),
    ← List.append_nil (Text.Quoted.encode id'.toList)] at rest
  obtain ⟨ids,-⟩ := (Text.Quoted.encode_quotes _).unique (Text.Quoted.encode_quotes _) rest
  exact ⟨String.toList_injective networks,String.toList_injective ids⟩

namespace Iptables
open Firewall (ToolError)
open Firewall.Iptables
open Step (Keeps)

-- Whether a rule is a jump with the comment of an identity, whatever its source and its chain are.
def isJumpOf (identity : Identity) (rule : Rule) : Bool :=
  rule == jumpRule (rule.getD 1 "") (rule.getD 3 "") (chainComment identity.network identity.id)

theorem isJumpOf_iff {identity : Identity} {rule : Rule} : isJumpOf identity rule = true ↔
    ∃ source chain, rule = jumpRule source chain (chainComment identity.network identity.id) := by
  rw [isJumpOf,beq_iff_eq]
  constructor
  · intro same
    exact ⟨_,_,same⟩
  · rintro ⟨source,chain,rfl⟩
    rfl

theorem jumps_apart {a b : Identity} (apart : (a.network,a.id) ≠ (b.network,b.id))
    (source chain source' chain' : String) :
    jumpRule source chain (chainComment a.network a.id) ≠ jumpRule source' chain' (chainComment b.network b.id) := by
  intro same
  obtain ⟨networks,ids⟩ := comment_injective (jumpRule_inj.mp same).2.2
  exact apart (by rw [networks,ids])

theorem isJumpOf_other {a b : Identity} (apart : (a.network,a.id) ≠ (b.network,b.id)) (source chain : String) :
    isJumpOf b (jumpRule source chain (chainComment a.network a.id)) = false := by
  rw [Bool.eq_false_iff]
  intro jump
  obtain ⟨source',chain',same⟩ := isJumpOf_iff.mp jump
  exact jumps_apart apart _ _ _ _ same

section Tearing
variable {σ : Type} {I : σ → Prop} {ops : Ops σ} {chain comment : String}

theorem keeps_ignoreAbsent {x : Step σ ToolError Unit} (inner : Keeps I x) : Keeps I (ignoreAbsent x) := by
  refine Step.keeps_bind (Step.keeps_attempt inner) fun answer => ?_
  cases answer with
  | ok _ => exact Step.keeps_pure ()
  | error e => exact Step.keeps_if (Step.keeps_pure ()) (Step.keeps_throw e)

-- A property that is kept by all that tearing down asks of a tool for one chain.
structure Tearing (I : σ → Prop) (ops : Ops σ) (chain comment : String) : Prop where
  leave : ∀ family source, Keeps I (ops.delete family natTable postrouting (jumpRule source chain comment))
  clearChain : ∀ family, Keeps I (ops.clearChain family natTable chain)
  deleteChain : ∀ family, Keeps I (ops.deleteChain family natTable chain)

theorem keeps_teardownNet (kept : Tearing I ops chain comment) (net : Subnet) :
    Keeps I (teardownNet ops chain comment net) := by
  refine Step.keeps_bind (keeps_ignoreAbsent (kept.leave net.family _)) fun _ => ?_
  refine Step.keeps_bind (keeps_ignoreAbsent (kept.leave net.family _)) fun _ => ?_
  refine Step.keeps_bind (keeps_ignoreAbsent (kept.clearChain net.family)) fun _ => ?_
  exact keeps_ignoreAbsent (kept.deleteChain net.family)

theorem keeps_teardownNets (kept : Tearing I ops chain comment) (nets : List Subnet) :
    Keeps I (teardownNets ops chain comment nets) := by
  induction nets with
  | nil => exact Step.keeps_pure []
  | cons net rest ih =>
    refine Step.keeps_bind (Step.keeps_attempt (keeps_teardownNet kept net)) fun outcome => ?_
    refine Step.keeps_bind ih fun messages => ?_
    cases outcome with
    | ok _ => exact Step.keeps_pure messages
    | error e => exact Step.keeps_pure (e.message :: messages)

theorem keeps_teardown {identity : Identity} (kept : Tearing I ops (chainName identity.network identity.id)
    (chainComment identity.network identity.id)) (nets : List Subnet) : Keeps I (teardown ops nets identity) := by
  refine Step.keeps_bind (keeps_teardownNets kept nets) fun messages => ?_
  exact Step.keeps_if (Step.keeps_pure ()) (Step.keeps_throw _)

end Tearing

-- Of the entries tearing down takes none but the jumps to its chain with its comment, wherever the tool fails.
theorem tearing_spares {p : Rule → Bool} {chain comment : String} (failures : Nat → Option String) (m : Memory)
    (apart : chain ≠ postrouting) (other : ∀ source, p (jumpRule source chain comment) = false) :
    Tearing (fun s : Memory × Nat => Spares [chain] p m s.1) (failing failures) chain comment where
  leave _ source := requested_spares (.entry (Memory.delete_edits _) fun _ _ => reduced_unpicked (other source))
  clearChain _ := requested_spares (.own (List.mem_singleton_self _) apart Memory.clearChain_edits)
  deleteChain _ := requested_spares (.own (List.mem_singleton_self _) apart Memory.deleteChain_edits)

theorem teardown_entries {a b : Identity} (apart : (a.network,a.id) ≠ (b.network,b.id)) (nets : List Subnet)
    (failures : Nat → Option String) (m : Memory) (family : Family) :
    (((⟨a,.teardown nets,failures⟩ : Attempt).outcome m).2.view family postrouting).map (·.filter (isJumpOf b)) =
      (m.view family postrouting).map (·.filter (isJumpOf b)) := by
  have kept := tearing_spares (p := isJumpOf b) failures m (chainName_postrouting a.network a.id)
    fun source => isJumpOf_other apart source _
  exact (keeps_teardown kept nets (m,0) (.refl _ _ m)).entries family

-- A comment tells whose it is, since it is quoted as it should be: identities that differ in their network or id have
-- no jump in common, also where they share a chain, and tearing down for one leaves the jumps of the other as they are.
theorem comments_tell_owners :
    (∀ s : String, Text.Quoted.Quotes (Text.quoted s).toList s.toList) ∧
    (∀ network id network' id', chainComment network id = chainComment network' id' → network = network' ∧ id = id') ∧
    ∀ a b : Identity, (a.network,a.id) ≠ (b.network,b.id) →
      (∀ source chain source' chain', jumpRule source chain (chainComment a.network a.id) ≠
        jumpRule source' chain' (chainComment b.network b.id)) ∧
      ∀ nets failures m family,
        (((⟨a,.teardown nets,failures⟩ : Attempt).outcome m).2.view family postrouting).map (·.filter (isJumpOf b)) =
          (m.view family postrouting).map (·.filter (isJumpOf b)) := by
  refine ⟨fun s => ?_,fun _ _ _ _ => comment_injective,fun a b apart => ⟨jumps_apart apart,teardown_entries apart⟩⟩
  rw [Text.quoted,String.toList_ofList]
  exact Text.Quoted.encode_quotes s.toList

-- Without the quoting these two would have one comment, and they share a chain.
def imitator : Identity := ⟨"\" id: \"","",""⟩

def imitated : Identity := ⟨"","","\" id: \""⟩

def imitatedJump : Rule :=
  jumpRule "10.22.0.1/24" (chainName imitated.network imitated.id) (chainComment imitated.network imitated.id)

theorem imitated_kept : (imitator.network,imitator.id) ≠ (imitated.network,imitated.id) ∧
    chainName imitator.network imitator.id = chainName imitated.network imitated.id ∧
    chainComment imitator.network imitator.id ≠ chainComment imitated.network imitated.id ∧
    ∀ nets failures, (((⟨imitator,.teardown nets,failures⟩ : Attempt).outcome (ruled [imitatedJump])).2.view .v4
      postrouting).map (·.filter (isJumpOf imitated)) = some [imitatedJump] := by
  have apart : (imitator.network,imitator.id) ≠ (imitated.network,imitated.id) := by decide
  have joined : imitator.network ++ imitator.id = imitated.network ++ imitated.id := by decide
  have unlike : chainComment imitator.network imitator.id ≠ chainComment imitated.network imitated.id := by
    intro same
    obtain ⟨networks,ids⟩ := comments_tell_owners.2.1 _ _ _ _ same
    exact apart (by rw [networks,ids])
  refine ⟨apart,by rw [chainName,chainName,joined],unlike,fun nets failures => ?_⟩
  have own : isJumpOf imitated imitatedJump = true := isJumpOf_iff.mpr ⟨_,_,rfl⟩
  rw [(comments_tell_owners.2.2 imitator imitated apart).2 nets failures,ruled_view,Firewall.Iptables.View.set_same,
    Option.map_some,List.filter_cons_of_pos own,List.filter_nil]

end Iptables
end HostNet.Masquerade
