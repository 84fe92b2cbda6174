import HostNet.Bridge

namespace HostNet.Bridge
open Config (Plan)

-- The parts of which a set-up is made.
def promote (s : Services σ) (p : Plan) : Step σ Error Unit := do
  let link ← s.kernel.find p.bridge
  Step.mapError (.kernel .setPromiscuous p.bridge) (s.kernel.setPromiscuous link.index)

def finish (s : Services σ) (p : Plan) : Step σ Error Kernel.Bridge := do
  let bridge ← Step.ofExcept (Kernel.Bridge.ofLink (← s.kernel.find p.bridge))
  let _ ← Step.attempt (s.setParameter (acceptRouters p.bridge) "0")
  Step.mapError (.kernel .setUp p.bridge) (s.kernel.setUp bridge.link.index)
  return { bridge with link := { bridge.link with up := true } }

theorem ensure_parts (s : Services σ) (p : Plan) :
    ensure s p = (place s p >>= fun _ => if p.promiscuous then promote s p else pure ()) >>= fun _ => finish s p := by
  unfold ensure promote finish
  cases p.promiscuous <;> simp

def forward (s : Services σ) (p : Plan) : Step σ Error Unit :=
  if p.layer3 then s.enableForwarding .v4 >>= fun _ => s.enableForwarding .v6 else pure ()

def address (s : Services σ) (p : Plan) (bridge : Kernel.Bridge) : Step σ Error (List Subnet) :=
  if p.layer3 then ensureGateways s bridge p else pure []

-- What a set-up does before the firewall: the bridge, and its gateways if it has any.
def prepare (s : Services σ) (p : Plan) : Step σ Error (Kernel.Bridge × List Subnet) := do
  forward s p
  let bridge ← ensure s p
  let gateways ← address s p bridge
  return (bridge,gateways)

-- What it does with the firewall.
def protect (s : Services σ) (p : Plan) (gateways : List Subnet) : Step σ Error Unit :=
  if p.layer3 && p.masquerade then s.masquerade.setup p.backend gateways (.ofNetwork p.network) else pure ()

theorem carryOut_parts (s : Services σ) (p : Plan) :
    carryOut s p = prepare s p >>= fun made => protect s p made.2 >>= fun _ => pure made.1 := by
  unfold carryOut prepare protect forward address
  cases p.layer3 <;> cases p.masquerade <;> simp

theorem setup_planned (s : Services σ) (planned : n.plan = .ok p) : setup s n = prepare s p >>= fun made =>
    protect s p made.2 >>= fun _ => pure made.1 := by
  have told : (Step.ofExcept (n.plan.mapError .config) : Step σ Error Plan) = pure p := by rw [planned]; rfl
  rw [setup,told,pure_bind,carryOut_parts]

theorem setup_unplanned (s : Services σ) (faulty : n.plan = .error fault) (h : σ) :
    setup s n h = .error (.config fault) h := by
  rw [setup,faulty]
  rfl

theorem addGateways_cons (s : Services σ) (index : Nat) (existing : List String) (rest : List Subnet)
    (known : net.gateway = .ok gateway) : addGateways s index existing (net :: rest) =
      (if !existing.contains gateway.text then
        Step.mapError (.kernel .addGateway gateway.address.text) (s.kernel.addAddress index gateway) else pure ()) >>=
      fun _ => addGateways s index existing rest >>= fun gateways => pure (gateway :: gateways) := by
  have told : (Step.ofExcept ((.ok gateway : Except Ipam.Error Subnet).mapError .ipam) : Step σ Error Subnet) =
    pure gateway := rfl
  rw [addGateways,known,told,pure_bind]
  exact Step.when_bind _ _ _

theorem addGateways_stuck (s : Services σ) (index : Nat) (existing : List String) (rest : List Subnet)
    (known : net.gateway = .error e) : addGateways s index existing (net :: rest) = throw (.ipam e) := by
  rw [addGateways,known]
  rfl

theorem ensureGateways_listing (s : Services σ) (bridge : Kernel.Bridge) (p : Plan) :
    ensureGateways s bridge p = Step.mapError (.kernel .listAddresses bridge.link.name)
      (s.kernel.addressesOf bridge.link.index) >>= fun addresses =>
        addGateways s bridge.link.index ((addresses.map Kernel.LinkAddress.net).map Subnet.text) p.podSubnets := by
  unfold ensureGateways Kernel.Driver.addressTextsOf
  funext h
  cases listed : s.kernel.addressesOf bridge.link.index h with
  | ok addresses u =>
    refine Eq.trans ?_ (Step.bind_ok (Step.mapError_ok listed)).symm
    rw [List.map_map]
    exact Step.bind_ok (Step.mapError_ok (Step.bind_ok listed))
  | error e u =>
    refine Eq.trans ?_ (Step.bind_error (Step.mapError_error listed)).symm
    exact Step.bind_error (Step.mapError_error (Step.bind_error listed))

end HostNet.Bridge
