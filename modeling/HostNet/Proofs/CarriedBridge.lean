import HostNet.Proofs.CarriedStages
import HostNet.Proofs.SetupParts

namespace HostNet.Host

open Kernel (Table Link)
open Kernel.Table (Mark)
open Config (Plan)
open Bridge (Ground)

variable {P : Ground → Prop} {p : Plan}

theorem addLink_ok (ran : Table.addLink (Bridge.request p) t = .ok () u) :
    t.named? p.bridge = none ∧ u = t.insert (Bridge.fresh p) := by
  have made := Table.change_ok ran
  split at made
  · cases made
  · rename_i absent
    rw [Bridge.requested_fresh] at made
    cases made
    exact ⟨Option.not_isSome_iff_eq_none.mp absent,rfl⟩

theorem addLink_error (ran : Table.addLink (Bridge.request p) t = .error e u) :
    u = t ∧ (t.Answers → (t.named? p.bridge).isSome ∧ e = .refused .alreadyExists) := by
  obtain ⟨rfl,refused⟩ := Table.change_error ran
  refine ⟨rfl,fun answers => ?_⟩
  have failed := refused answers
  split at failed
  · rename_i there
    cases failed
    exact ⟨there,rfl⟩
  · rw [Bridge.requested_fresh] at failed
    cases failed

theorem modifyLink_ok (ran : Table.modifyLink (Bridge.request p) t = .ok () u) : ∃ link changed,
    t.named? p.bridge = some link ∧ Table.modified? link (Bridge.request p) = some changed ∧
      u = t.changeFirst (·.name == p.bridge) fun _ => changed := by
  have made := Table.change_ok ran
  split at made
  · cases made
  · rename_i link there
    split at made
    · cases made
    · rename_i changed asked
      cases made
      exact ⟨link,changed,there,asked,rfl⟩

theorem modifyLink_error (ran : Table.modifyLink (Bridge.request p) t = .error e u) (answers : t.Answers)
    (there : t.named? p.bridge = some link) : Table.modified? link (Bridge.request p) = none := by
  have failed := (Table.change_error ran).2 answers
  have known : t.named? (Bridge.request p).name = some link := there
  rw [known] at failed
  cases asked : Table.modified? link (Bridge.request p) with
  | none => rfl
  | some changed => simp only [asked] at failed; cases failed

-- A link that is there is found out by the refusal to add another one, and then changed.
theorem place_makes (root : String) (p : Plan) (h : Host) :
    Makes (Bridge.placed p) (Bridge.place (services root) p) h := by
  have adding : (services root).kernel.addLink (Bridge.request p) = onKernel (Table.addLink (Bridge.request p)) := by
    rw [serving]; rfl
  have modifying : (services root).kernel.modifyLink (Bridge.request p) =
    onKernel (Table.modifyLink (Bridge.request p)) := by rw [serving]; rfl
  unfold Bridge.place
  rw [adding,modifying]
  cases added : onKernel (Table.addLink (Bridge.request p)) h with
  | ok _ u =>
    obtain ⟨t,made,rfl⟩ := onKernel_ok added
    obtain ⟨absent,rfl⟩ := addLink_ok made
    exact Or.inl ⟨_,Step.bind_ok (Step.attempt_ok added),by rw [Bridge.placed,absent]⟩
  | error e u =>
    obtain ⟨t,failed,rfl⟩ := onKernel_error added
    obtain ⟨rfl,known⟩ := addLink_error failed
    unfold Makes
    rw [Step.bind_ok (Step.attempt_error added)]
    dsimp only
    split
    · cases changed : onKernel (Table.modifyLink (Bridge.request p)) h with
      | ok _ u =>
        obtain ⟨t,made,rfl⟩ := onKernel_ok changed
        obtain ⟨link,now,there,asked,rfl⟩ := modifyLink_ok made
        exact Or.inl ⟨_,Step.mapError_ok changed,by simp only [Bridge.placed,there,asked,Option.map_some]⟩
      | error e' u =>
        obtain ⟨t,failed',rfl⟩ := onKernel_error changed
        obtain ⟨rfl,_⟩ := Table.change_error failed'
        refine Or.inr ⟨_,Step.mapError_error changed,fun answers => ?_⟩
        obtain ⟨link,there⟩ := Option.isSome_iff_exists.mp (known answers).1
        simp only [Bridge.placed,there,modifyLink_error failed' answers there,Option.map_none]
    · rename_i other
      refine Or.inr ⟨_,rfl,fun answers => ?_⟩
      obtain ⟨_,rfl⟩ := known answers
      exact absurd rfl other

theorem placed_plain (p : Plan) : Plain (Bridge.placed p) := by
  intro t
  have names : t.quiet.named? p.bridge = t.named? p.bridge := rfl
  unfold Bridge.placed
  rw [names]
  cases t.named? p.bridge with
  | none => rfl
  | some link =>
    dsimp only
    cases Table.modified? link (Bridge.request p) <;> rfl

theorem marked_plain (name : String) (m : Table.Mark) : Plain (Bridge.marked name m) := by
  intro t
  have names : t.quiet.named? name = t.named? name := rfl
  unfold Bridge.marked
  rw [names]
  cases t.named? name <;> rfl

theorem assigned_plain (name : String) (net : Subnet) : Plain (Bridge.assigned name net) := by
  intro t
  have names : t.quiet.named? name = t.named? name := rfl
  have held : t.quiet.addresses = t.addresses := rfl
  unfold Bridge.assigned
  rw [names,held]
  cases net.gateway with
  | error e => rfl
  | ok gateway =>
    cases t.named? name with
    | none => rfl
    | some link =>
      dsimp only
      split <;> rfl

-- What stages leave under the name of the bridge is a bridge.
def Bridged (name : String) (g : Ground) : Prop :=
  ∃ link filtering, g.kernel.named? name = some link ∧ link.kind = .bridge filtering

theorem placed_bridged (made : Bridge.placed p t = some t') (files : Files) : Bridged p.bridge ⟨t',files⟩ := by
  obtain ⟨link,there,asked⟩ := Bridge.placed_fixed.mp (Bridge.placed_settles p t t' made)
  refine ⟨link,?_⟩
  unfold Table.modified? Bridge.request at asked
  cases kind : link.kind with
  | bridge filtering => exact ⟨filtering,there,rfl⟩
  | _ => simp [kind] at asked

theorem place_carries (root : String) (p : Plan) : CarriesOut (fun _ => True) [Bridge.onKernel (Bridge.placed p)]
    (Bridge.place (services root) p) fun _ => Bridged p.bridge := by
  have kept : ∀ h, (services root).kernel.Keeps (Beside h) := by rw [serving]; exact driver_beside
  exact stage_carries (fun h => Bridge.keeps_place (kept h) p) (placed_plain p) (fun h _ => place_makes root p h)
    fun g t _ made => placed_bridged made g.files

theorem mark_makes {m : Table.Mark} {h : Host} (there : h.kernel.named? name = some link) :
    Makes (Bridge.marked name m) (onKernel (Table.changeLink kind link.index m.on)) h := by
  refine change_makes ?_
  obtain ⟨first,found⟩ := Table.indexed_named there
  rw [found,Bridge.marked,there]
  rfl

-- The bridge of a name, as it was before it was set up.
def Found (name : String) (link : Link) (filtering : Option Bool) (g : Ground) : Prop :=
  g.kernel.named? name = some link ∧ link.kind = .bridge filtering

theorem find_bridge (name : String) : CarriesOut (Bridged name) [] (driver.find name)
    fun link g => ∃ filtering, Found name link filtering g := by
  refine (find_carries (P := Bridged name) name).imp (fun g bridged => ⟨bridged,?_⟩) fun link g found => ?_
  · obtain ⟨link,_,there,_⟩ := bridged
    rw [there]; rfl
  · obtain ⟨⟨other,filtering,there,kind⟩,named⟩ := found
    cases there.symm.trans named
    exact ⟨filtering,there,kind⟩

theorem marked_found (found : Found name link filtering g) (made : Bridge.marked name m g.kernel = some t) :
    ∃ link', Found name link' filtering { g with kernel := t } ∧ (link' = link ∨ link' = m.on link) := by
  obtain ⟨_,_,_,_,_,_,others⟩ := Bridge.marked_some made
  obtain ⟨link',there,either⟩ := others found.1
  have kind : link'.kind = .bridge filtering := by rcases either with rfl | rfl <;> simp [found.2]
  exact ⟨link',⟨there,kind⟩,either⟩

theorem promote_carries (root : String) (p : Plan) : CarriesOut (Bridged p.bridge)
    [Bridge.onKernel (Bridge.marked p.bridge .promiscuous)] (Bridge.promote (services root) p)
      fun _ => Bridged p.bridge := by
  unfold Bridge.promote
  rw [serving]
  refine (find_bridge p.bridge).asked fun link => ?_
  refine stage_carries (fun h => Step.keeps_mapError _ ((driver_beside h).setPromiscuous link.index))
    (marked_plain p.bridge .promiscuous) (fun h found => ?_) fun g t found made => ?_
  · obtain ⟨filtering,there,_⟩ := found
    exact (mark_makes (m := .promiscuous) there).mapError _
  · obtain ⟨filtering,found⟩ := found
    obtain ⟨link',found',_⟩ := marked_found found made
    exact ⟨link',filtering,found'⟩

-- A bridge that is up, as it is told about in the end.
def Made (name : String) (bridge : Kernel.Bridge) (g : Ground) : Prop :=
  ∃ link filtering, Found name link filtering g ∧ bridge = ⟨Mark.up.on link,filtering⟩

theorem Made.links (made : Made name bridge g) (same : g.kernel.links = g'.kernel.links) : Made name bridge g' := by
  obtain ⟨link,filtering,⟨there,kind⟩,told⟩ := made
  rw [Table.named?,same] at there
  exact ⟨link,filtering,⟨there,kind⟩,told⟩

theorem ofLink_carries (name : String) (link : Link) : CarriesOut (fun g => ∃ filtering, Found name link filtering g) []
    (Step.ofExcept (Kernel.Bridge.ofLink link) : Step Host Error _)
      fun bridge g => Found name link bridge.filtering g ∧ bridge.link = link := by
  unfold Kernel.Bridge.ofLink
  cases kind : link.kind with
  | bridge filtering =>
    refine CarriesOut.pure _ fun g found => ?_
    obtain ⟨_,there,_⟩ := found
    exact ⟨⟨there,kind⟩,rfl⟩
  | _ =>
    refine CarriesOut.throw _ fun g found => ?_
    obtain ⟨_,_,other⟩ := found
    cases kind.symm.trans other

theorem finish_carries (root : String) (p : Plan) : CarriesOut (Bridged p.bridge)
    [Bridge.onFiles (Sysctl.closed root p.bridge),Bridge.onKernel (Bridge.marked p.bridge .up)]
      (Bridge.finish (services root) p) (Made p.bridge) := by
  unfold Bridge.finish
  rw [serving]
  refine (find_bridge p.bridge).asked fun link => ?_
  refine (ofLink_carries p.bridge link).asked fun bridge => ?_
  refine (closed_carries root p.bridge fun g files found => found).cons fun _ => ?_
  have raised : CarriesOut (fun g => Found p.bridge link bridge.filtering g ∧ bridge.link = link)
      [Bridge.onKernel (Bridge.marked p.bridge .up)]
      (Step.mapError (Error.kernel .setUp p.bridge) (driver.setUp bridge.link.index))
      fun _ => Made p.bridge ⟨Mark.up.on bridge.link,bridge.filtering⟩ := by
    refine stage_carries (fun h => Step.keeps_mapError _ ((driver_beside h).setUp bridge.link.index))
      (marked_plain p.bridge .up) (fun h found => ?_) fun g t found made => ?_
    · obtain ⟨⟨there,_⟩,same⟩ := found
      rw [same]
      exact (mark_makes (m := .up) there).mapError _
    · obtain ⟨found,same⟩ := found
      obtain ⟨link',found',rfl | rfl⟩ := marked_found found made
      · exact ⟨link',bridge.filtering,found',by rw [same]⟩
      · exact ⟨_,bridge.filtering,found',by rw [same,Mark.on_again]⟩
  exact raised.last fun _ => CarriesOut.pure _ fun g made => made

theorem ensure_carries (root : String) (p : Plan) : CarriesOut (fun _ => True) (Bridge.bridging root p)
    (Bridge.ensure (services root) p) (Made p.bridge) := by
  rw [Bridge.ensure_parts]
  refine ((place_carries root p).bind fun _ => ?_).bind fun _ => finish_carries root p
  split
  · exact promote_carries root p
  · exact CarriesOut.pure () fun _ bridged => bridged

end HostNet.Host
