import HostNet.Firewall.Nft.Memory
import HostNet.Proofs.Entries
import Mathlib.Data.List.Nodup
import Mathlib.Logic.Function.Basic

namespace HostNet.Firewall.Nft.Ruleset
open Function (update)

theorem rules_put (r : Ruleset) (chain other : String) (rules : List Stored) :
    (r.put chain rules).rules? other =
      if other = chain then (r.rules? chain).map fun _ => rules else r.rules? other :=
  Entries.lookup_replaced r.chains chain other rules

theorem rules_add (r : Ruleset) (chain other : String) (absent : r.rules? chain = none) :
    List.lookup other (r.chains ++ [(chain,[])]) = if other = chain then some [] else r.rules? other :=
  Entries.lookup_added [] absent

-- What a ruleset shows to changes: whether there is a table, the rules by chain, and the last handle.
structure Shows (r : Ruleset) (table : Bool) (v : String → Option (List Stored)) (last : Nat) : Prop where
  table : r.table = table
  rules : r.rules? = v
  lastHandle : r.lastHandle = last

theorem shows_self (r : Ruleset) : r.Shows r.table r.rules? r.lastHandle := ⟨rfl,rfl,rfl⟩

variable {r : Ruleset} {b : Bool} {v : String → Option (List Stored)} {n : Nat} {chain : String}

theorem put_shows (shown : r.Shows b v n) (held : v chain = some old) (rules : List Stored) :
    (r.put chain rules).Shows b (update v chain (some rules)) n := by
  refine ⟨shown.table,?_,shown.lastHandle⟩
  funext other
  rw [rules_put,shown.rules,held]
  by_cases asked : other = chain
  · subst asked; simp
  · simp [asked]

theorem rules_ok (shown : r.Shows b v n) (held : v chain = some old) : r.rules chain = .ok old := by
  rw [Ruleset.rules,shown.rules,held]

theorem addTable_shows (shown : r.Shows b v n) (comment : Option String) :
    ∃ r', r.apply (.addTable comment) = .ok r' ∧ r'.Shows true v n :=
  ⟨_,rfl,rfl,shown.rules,shown.lastHandle⟩

theorem addChain_shows (shown : r.Shows true v n) (chain : String) (hook : Option Hook) (comment : Option String) :
    ∃ r', r.apply (.addChain chain hook comment) = .ok r' ∧
      r'.Shows true (update v chain (some ((v chain).getD []))) n := by
  cases held : v chain with
  | some old =>
    refine ⟨r,?_,shown.table,?_,shown.lastHandle⟩
    · simp [apply,shown.table,shown.rules,held]
    · rw [shown.rules,Option.getD_some,← held,Function.update_eq_self]
  | none =>
    refine ⟨{ r with chains := r.chains ++ [(chain,[])] },?_,shown.table,?_,shown.lastHandle⟩
    · simp [apply,shown.table,shown.rules,held]
    · funext other
      refine (rules_add r chain other (by rw [shown.rules,held])).trans ?_
      by_cases asked : other = chain
      · subst asked; simp
      · simp [asked,shown.rules]

theorem flushChain_shows (shown : r.Shows b v n) (held : v chain = some old) :
    ∃ r', r.apply (.flushChain chain) = .ok r' ∧ r'.Shows b (update v chain (some [])) n := by
  refine ⟨r.put chain [],?_,put_shows shown held []⟩
  simp only [apply,rules_ok shown held,bind,Except.bind,pure,Except.pure]

theorem addRule_shows (shown : r.Shows b v n) (held : v chain = some old) (rule : Rule) (comment : Option String) :
    ∃ r', r.apply (.addRule chain rule comment) = .ok r' ∧
      r'.Shows b (update v chain (some (old ++ [⟨⟨chain,n + 1,comment⟩,rule⟩]))) (n + 1) := by
  have put := put_shows shown held (old ++ [⟨⟨chain,n + 1,comment⟩,rule⟩])
  refine ⟨{ r.put chain (old ++ [⟨⟨chain,n + 1,comment⟩,rule⟩]) with lastHandle := n + 1 },?_,put.table,put.rules,rfl⟩
  simp only [apply,rules_ok shown held,shown.lastHandle,bind,Except.bind,pure,Except.pure]

theorem deleteRule_shows (shown : r.Shows b v n) (held : v chain = some old) (handle : Nat)
    (there : handle ∈ old.map fun s => s.listed.handle) :
    ∃ r', r.apply (.deleteRule chain handle) = .ok r' ∧
      r'.Shows b (update v chain (some (old.eraseP (·.listed.handle == handle)))) n := by
  have found : old.any (·.listed.handle == handle) = true := by
    obtain ⟨s,member,same⟩ := List.mem_map.mp there
    exact List.any_eq_true.mpr ⟨s,member,beq_iff_eq.mpr same⟩
  refine ⟨_,?_,put_shows shown held _⟩
  simp only [apply,rules_ok shown held,found,if_true,bind,Except.bind,pure,Except.pure]

theorem applyAll_cons (ran : r.apply change = .ok r') (t : Transaction) :
    r.applyAll (change :: t) = r'.applyAll t := by
  simp [applyAll,List.foldlM_cons,ran,bind,Except.bind]

theorem applyAll_append (s t : Transaction) (ran : r.applyAll s = .ok r') :
    r.applyAll (s ++ t) = r'.applyAll t := by
  unfold applyAll at ran ⊢
  rw [List.foldlM_append,ran]
  rfl

-- New rules get the handles after the last one, in their order.
def numbered (chain : String) (comment : Option String) : Nat → List Rule → List Stored
  | _, [] => []
  | last, rule :: rest => ⟨⟨chain,last + 1,comment⟩,rule⟩ :: numbered chain comment (last + 1) rest

theorem additions_shows (rules : List Rule) (comment : Option String) (shown : r.Shows b v n)
    (held : v chain = some old) :
    ∃ r', r.applyAll (rules.map fun rule => .addRule chain rule comment) = .ok r' ∧
      r'.Shows b (update v chain (some (old ++ numbered chain comment n rules))) (n + rules.length) := by
  induction rules generalizing r v n old with
  | nil =>
    refine ⟨r,rfl,?_⟩
    rw [numbered,List.append_nil,← held,Function.update_eq_self]
    exact shown
  | cons rule rest ih =>
    obtain ⟨r₁,first,shown₁⟩ := addRule_shows shown held rule comment
    obtain ⟨r₂,others,shown₂⟩ := ih shown₁ (Function.update_self ..)
    refine ⟨r₂,(applyAll_cons first _).trans others,?_⟩
    rw [Function.update_idem,List.append_assoc,Nat.add_assoc,Nat.add_comm 1] at shown₂
    exact shown₂

theorem erase_handle (rules : List Stored) (handle : Nat) (distinct : (rules.map (·.listed.handle)).Nodup) :
    rules.eraseP (·.listed.handle == handle) = rules.filter (·.listed.handle != handle) := by
  induction rules with
  | nil => rfl
  | cons s rest ih =>
    obtain ⟨fresh,others⟩ := List.nodup_cons.mp distinct
    by_cases same : s.listed.handle = handle
    · have kept : rest.filter (·.listed.handle != handle) = rest := by
        rw [List.filter_eq_self]
        intro t member
        have other : t.listed.handle ≠ handle := fun eq =>
          fresh (List.mem_map.mpr ⟨t,member,eq.trans same.symm⟩)
        simpa using other
      rw [List.eraseP_cons_of_pos (by simpa using same),List.filter_cons_of_neg (by simpa using same),kept]
    · rw [List.eraseP_cons_of_neg (by simpa using same),List.filter_cons_of_pos (by simpa using same),ih others]

theorem deletions_shows (stale : List Listed) (named : ∀ x ∈ stale, x.chain = chain)
    (once : (stale.map Listed.handle).Nodup) (shown : r.Shows b v n) (held : v chain = some old)
    (distinct : (old.map (·.listed.handle)).Nodup)
    (there : ∀ x ∈ stale, x.handle ∈ old.map (·.listed.handle)) :
    ∃ r', r.applyAll (stale.map fun x => .deleteRule x.chain x.handle) = .ok r' ∧ r'.Shows b
      (update v chain (some (old.filter fun s => !(stale.map Listed.handle).contains s.listed.handle))) n := by
  induction stale generalizing r v old with
  | nil =>
    refine ⟨r,rfl,?_⟩
    have all : old.filter (fun s => !(([] : List Listed).map Listed.handle).contains s.listed.handle) = old := by simp
    rw [all,← held,Function.update_eq_self]
    exact shown
  | cons x rest ih =>
    obtain ⟨fresh,onceRest⟩ := List.nodup_cons.mp once
    obtain rfl := named x (by simp)
    obtain ⟨r₁,first,shown₁⟩ := deleteRule_shows shown held x.handle (there x (by simp))
    rw [erase_handle old x.handle distinct] at shown₁
    have thereRest : ∀ y ∈ rest, y.handle ∈ (old.filter (·.listed.handle != x.handle)).map (·.listed.handle) := by
      intro y member
      obtain ⟨s,known,same⟩ := List.mem_map.mp (there y (List.mem_cons_of_mem _ member))
      have other : s.listed.handle ≠ x.handle := fun eq =>
        fresh (List.mem_map.mpr ⟨y,member,same.symm.trans eq⟩)
      exact List.mem_map.mpr ⟨s,List.mem_filter.mpr ⟨known,by simpa using other⟩,same⟩
    obtain ⟨r₂,others,shown₂⟩ := ih (fun y member => named y (List.mem_cons_of_mem _ member)) onceRest shown₁
      (Function.update_self ..) (distinct.sublist (List.filter_sublist.map _)) thereRest
    refine ⟨r₂,(applyAll_cons first _).trans others,?_⟩
    rw [Function.update_idem,List.filter_filter] at shown₂
    convert shown₂ using 4
    simp only [List.map_cons,List.contains_cons,Bool.not_or,bne,Bool.and_comm]

-- The rules that a listing picks out go, the others stay in their order.
theorem picked_shows (pick : Listed → Bool) (shown : r.Shows b v n) (held : v chain = some old)
    (named : ∀ s ∈ old, s.listed.chain = chain) (distinct : (old.map (·.listed.handle)).Nodup) :
    ∃ r', r.applyAll (((old.map Stored.listed).filter pick).map fun x => .deleteRule x.chain x.handle) = .ok r' ∧
      r'.Shows b (update v chain (some (old.filter fun s => !pick s.listed))) n := by
  have handles : old.map (·.listed.handle) = (old.map Stored.listed).map Listed.handle := by rw [List.map_map]; rfl
  have kept : old.filter (fun s => !(((old.map Stored.listed).filter pick).map Listed.handle).contains
      s.listed.handle) = old.filter fun s => !pick s.listed := by
    apply List.filter_congr
    intro s member
    congr 1
    cases picked : pick s.listed with
    | true =>
      rw [List.contains_iff_mem,List.mem_map]
      exact ⟨s.listed,List.mem_filter.mpr ⟨List.mem_map_of_mem member,picked⟩,rfl⟩
    | false =>
      rw [← Bool.not_eq_true,List.contains_iff_mem]
      rintro present
      obtain ⟨x,among,same⟩ := List.mem_map.mp present
      obtain ⟨listed,chosen⟩ := List.mem_filter.mp among
      obtain ⟨t,known,rfl⟩ := List.mem_map.mp listed
      -- Handles are distinct, so the rule that was picked under this handle is this one.
      obtain rfl := List.inj_on_of_nodup_map distinct known member same
      rw [picked] at chosen
      cases chosen
  have ran := deletions_shows ((old.map Stored.listed).filter pick) ?_ ?_ shown held distinct ?_
  · rwa [kept] at ran
  · intro x among
    obtain ⟨s,member,rfl⟩ := List.mem_map.mp (List.mem_filter.mp among).1
    exact named s member
  · rw [handles] at distinct
    exact distinct.sublist (List.filter_sublist.map _)
  · intro x among
    rw [handles]
    exact List.mem_map_of_mem (List.mem_filter.mp among).1

-- The rules of a chain carry its name, and each has a later handle than those before it.
structure Sound (v : String → Option (List Stored)) (last : Nat) : Prop where
  named : ∀ {c stored}, v c = some stored → ∀ s ∈ stored, s.listed.chain = c
  known : ∀ {c stored}, v c = some stored → ∀ s ∈ stored, s.listed.handle ≤ last
  ascending : ∀ {c stored}, v c = some stored → (stored.map (·.listed.handle)).Pairwise (· < ·)

theorem Sound.distinct (sound : Sound v n) (held : v chain = some stored) : (stored.map (·.listed.handle)).Nodup :=
  (sound.ascending held).imp Nat.ne_of_lt

theorem empty_sound : Sound Ruleset.empty.rules? Ruleset.empty.lastHandle where
  named held := nomatch held
  known held := nomatch held
  ascending held := nomatch held

theorem update_held {v : String → Option (List Stored)} (held : update v chain (some stored) c = some found) :
    c = chain ∧ found = stored ∨ v c = some found := by
  by_cases same : c = chain
  · subst same
    rw [Function.update_self] at held
    exact Or.inl ⟨rfl,(Option.some.inj held).symm⟩
  · rw [Function.update_of_ne same] at held
    exact Or.inr held

theorem Sound.replaced (sound : Sound v n) (later : n ≤ m) {stored : List Stored}
    (named : ∀ s ∈ stored, s.listed.chain = chain) (known : ∀ s ∈ stored, s.listed.handle ≤ m)
    (ascending : (stored.map (·.listed.handle)).Pairwise (· < ·)) : Sound (update v chain (some stored)) m := by
  constructor
  · intro c found held
    rcases update_held held with ⟨rfl,rfl⟩ | before
    · exact named
    · exact sound.named before
  · intro c found held
    rcases update_held held with ⟨rfl,rfl⟩ | before
    · exact known
    · exact fun s member => Nat.le_trans (sound.known before s member) later
  · intro c found held
    rcases update_held held with ⟨rfl,rfl⟩ | before
    · exact ascending
    · exact sound.ascending before

theorem Sound.sublist (sound : Sound v n) (held : v chain = some old) (part : List.Sublist stored old) :
    Sound (update v chain (some stored)) n :=
  sound.replaced (Nat.le_refl n) (fun s member => sound.named held s (part.subset member))
    (fun s member => sound.known held s (part.subset member)) ((sound.ascending held).sublist (part.map _))

theorem Sound.appended (sound : Sound v n) (held : v chain = some old) (rule : Rule) (comment : Option String) :
    Sound (update v chain (some (old ++ [⟨⟨chain,n + 1,comment⟩,rule⟩]))) (n + 1) := by
  apply sound.replaced (Nat.le_succ n)
  · intro s member
    rcases List.mem_append.mp member with old | new
    · exact sound.named held s old
    · rw [List.mem_singleton.mp new]
  · intro s member
    rcases List.mem_append.mp member with old | new
    · exact Nat.le_succ_of_le (sound.known held s old)
    · exact Nat.le_of_eq (congrArg (·.listed.handle) (List.mem_singleton.mp new))
  · rw [List.map_append,List.pairwise_append]
    refine ⟨sound.ascending held,by simp,?_⟩
    intro earlier member later new
    obtain ⟨s,among,rfl⟩ := List.mem_map.mp member
    rw [List.mem_singleton.mp new]
    exact Nat.lt_succ_of_le (sound.known held s among)

theorem rules_some (ran : r.rules chain = .ok old) : r.rules? chain = some old := by
  unfold Ruleset.rules at ran
  split at ran
  · cases ran; assumption
  · cases ran

-- Sound rulesets stay so whatever is changed, and whoever changes it.
theorem apply_sound (sound : Sound r.rules? r.lastHandle) (change : Change) (ran : r.apply change = .ok r') :
    Sound r'.rules? r'.lastHandle := by
  have shown := shows_self r
  cases change with
  | addTable comment => cases ran; exact sound
  | addChain name hook comment =>
    have there : r.table = true := by
      cases there : r.table with
      | true => rfl
      | false => simp [apply,there] at ran
    rw [there] at shown
    obtain ⟨r₁,ran₁,shown₁⟩ := addChain_shows shown name hook comment
    cases ran₁.symm.trans ran
    rw [shown₁.rules,shown₁.lastHandle]
    cases held : r.rules? name with
    | none => exact sound.replaced (Nat.le_refl _) (by simp) (by simp) (by simp)
    | some old => rw [Option.getD_some,← held,Function.update_eq_self]; exact sound
  | flushChain name =>
    cases held : r.rules name with
    | error e => simp [apply,held,bind,Except.bind] at ran
    | ok old =>
      obtain ⟨r₁,ran₁,shown₁⟩ := flushChain_shows shown (rules_some held)
      cases ran₁.symm.trans ran
      rw [shown₁.rules,shown₁.lastHandle]
      exact sound.sublist (rules_some held) (List.nil_sublist _)
  | addRule name rule comment =>
    cases held : r.rules name with
    | error e => simp [apply,held,bind,Except.bind] at ran
    | ok old =>
      obtain ⟨r₁,ran₁,shown₁⟩ := addRule_shows shown (rules_some held) rule comment
      cases ran₁.symm.trans ran
      rw [shown₁.rules,shown₁.lastHandle]
      exact sound.appended (rules_some held) rule comment
  | deleteRule name handle =>
    cases held : r.rules name with
    | error e => simp [apply,held,bind,Except.bind] at ran
    | ok old =>
      by_cases there : old.any (·.listed.handle == handle) = true
      · have same : r.put name (old.eraseP (·.listed.handle == handle)) = r' := by
          simpa [apply,held,there,bind,Except.bind,pure,Except.pure] using ran
        have shown₁ := put_shows shown (rules_some held) (old.eraseP (·.listed.handle == handle))
        rw [← same,shown₁.rules,shown₁.lastHandle]
        exact sound.sublist (rules_some held) (List.eraseP_sublist)
      · simp [apply,held,there,bind,Except.bind,throw,throwThe,MonadExceptOf.throw] at ran

theorem applyAll_sound (t : Transaction) (sound : Sound r.rules? r.lastHandle) (ran : r.applyAll t = .ok r') :
    Sound r'.rules? r'.lastHandle := by
  induction t generalizing r with
  | nil => cases ran; exact sound
  | cons change rest ih =>
    cases first : r.apply change with
    | error e => simp [applyAll,List.foldlM_cons,first,bind,Except.bind] at ran
    | ok r₁ => exact ih (apply_sound sound change first) ((applyAll_cons first rest).symm.trans ran)

-- The rulesets that transactions make of the empty one, whoever runs them.
inductive Reached : Ruleset → Prop where
  | empty : Reached .empty
  | next (reached : Reached before) (ran : before.applyAll t = .ok after) : Reached after

theorem Reached.sound (reached : Reached r) : Sound r.rules? r.lastHandle := by
  induction reached with
  | empty => exact empty_sound
  | next _ ran ih => exact applyAll_sound _ ih ran

end HostNet.Firewall.Nft.Ruleset
