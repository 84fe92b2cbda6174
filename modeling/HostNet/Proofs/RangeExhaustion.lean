import HostNet.Proofs.RangeRequests

namespace HostNet.Ipam.Range

-- What may give an address back: its release if it is taken, and a saved state that takes the place of this one.
def Request.Frees (r : Range) : Request → Prop
  | .release a => r.has a = true
  | .restore net _ => net = r.subnet
  | _ => False

variable {s : Subnet} {r : Range} {held : Finset Nat} {offset : Nat}

theorem release_untaken {a : Address} (untaken : r.has a = false) : r.release a = r := by
  unfold has at untaken
  unfold release
  cases place : r.offset? a with
  | none => rfl
  | some offset =>
    have clear : r.bitmap.bits.get offset = false := by simpa [place,Bitmap.has] using untaken
    simp [Bitmap.release,clear]

theorem free_left (valid : Holds s r held) : r.free = s.slots - held.card := by
  simp [free,Bitmap.free,valid.marked.range,valid.marked.counted]

theorem all_taken (valid : Holds s r held) :
    (∀ a, s.Usable a → r.has a = true) ↔ held = Finset.range s.slots := by
  simp only [has_decides valid,decide_eq_true_eq]
  exact Subnet.addresses_all valid.below

theorem free_untaken (valid : Holds s r held) (inside : offset < s.slots) (clear : offset ∉ held) :
    r.has (s.addressAt offset) = false := by
  simp [has_decides valid,Subnet.addressAt_mem valid.below inside,clear]

-- Whoever asks for any address is refused exactly if all are taken.
theorem refused_full (valid : Holds s r held) (start : Nat) :
    (serve (.allocateNext start) r).1 = .refused .full ↔ held = Finset.range s.slots := by
  rcases allocateNext_cases valid start with ⟨full,ran⟩ | ⟨offset,inside,clear,ran⟩
  · simp [ran,full]
  · simp only [ran,reduceCtorEq,false_iff]
    rintro rfl
    exact clear (Finset.mem_range.mpr inside)

theorem full_refuses (valid : Holds s r (Finset.range s.slots)) (start : Nat) :
    serve (.allocateNext start) r = (.refused .full,r) := by
  rcases allocateNext_cases valid start with ⟨_,ran⟩ | ⟨offset,inside,clear,_⟩
  · exact ran
  · exact absurd (Finset.mem_range.mpr inside) clear

theorem full_draws (valid : Holds s r (Finset.range s.slots)) (starts : List Nat) :
    serveAll (starts.map .allocateNext) r = (List.replicate starts.length (.refused .full),r) := by
  induction starts with
  | nil => rfl
  | cons start rest ih => simp [serveAll,full_refuses valid,ih,List.replicate_succ]

-- As many are given as are asked for and free, each once. Each that is given is one fewer for the others.
theorem draws (valid : Holds s r held) (starts : List Nat) : ∃ taken : List Nat,
    (serveAll (starts.map .allocateNext) r).1 = (taken.map s.addressAt).map .address ++
      List.replicate (starts.length - (s.slots - held.card)) (.refused .full) ∧
    taken.length = min starts.length (s.slots - held.card) ∧ taken.Nodup ∧
    (∀ offset ∈ taken, offset < s.slots ∧ offset ∉ held) ∧
    Holds s (serveAll (starts.map .allocateNext) r).2 (taken.toFinset ∪ held) := by
  induction starts generalizing r held with
  | nil => exact ⟨[],by simp [serveAll],by simp,.nil,by simp,by simpa [serveAll] using valid⟩
  | cons start rest ih =>
    rcases allocateNext_cases valid start with ⟨rfl,_⟩ | ⟨offset,inside,clear,ran⟩
    · rw [full_draws valid (start :: rest)]
      exact ⟨[],by simp,by simp,.nil,by simp,by simpa using valid⟩
    · obtain ⟨taken,answers,many,different,unused,after⟩ := ih (valid.inserted inside clear)
      have room : held.card < s.slots := by
        have more := (valid.inserted inside clear).marked.card_le
        rwa [Finset.card_insert_of_notMem clear] at more
      rw [Finset.card_insert_of_notMem clear] at answers many
      rw [List.map_cons,serveAll,ran]
      refine ⟨offset :: taken,?_,?_,?_,?_,?_⟩
      · have left : rest.length - (s.slots - (held.card + 1)) = (start :: rest).length - (s.slots - held.card) := by
          simp only [List.length_cons]
          omega
        simp [answers,left]
      · simp only [List.length_cons,many]
        omega
      · exact List.nodup_cons.mpr ⟨fun again => (unused offset again).2 (Finset.mem_insert_self _ _),different⟩
      · rintro other (_ | ⟨_,member⟩)
        · exact ⟨inside,clear⟩
        · exact ⟨(unused other member).1,fun old => (unused other member).2 (Finset.mem_insert_of_mem old)⟩
      · rw [List.toFinset_cons,Finset.insert_union,← Finset.union_insert]
        exact after

theorem Dictates.allocate_refused {a : Address} {all after : Finset Address}
    (dictated : Dictates s all (.allocate a) answer after) (whole : ∀ a, s.Usable a → a ∈ all) :
    ∃ cause, answer = .refused cause := by
  cases dictated with
  | allocated usable clear => exact absurd (whole a usable) clear
  | alreadyAllocated => exact ⟨.allocated,rfl⟩
  | notInRange => exact ⟨.notInRange s.trunc,rfl⟩

-- Once all are taken only what frees one changes the range.
theorem full_unchanged (valid : Holds s r (Finset.range s.slots)) (request : Request) (keeps : ¬request.Frees r) :
    (serve request r).2 = r := by
  cases request with
  | allocate a =>
    obtain ⟨after,dictated,_⟩ := allocate_dictated valid a
    obtain ⟨cause,refused⟩ := dictated.allocate_refused ((Subnet.addresses_all valid.below).mpr rfl)
    exact refused_unchanged valid _ refused
  | allocateNext start => rw [full_refuses valid]
  | release a => exact release_untaken (eq_false_of_ne_true keeps)
  | has a => rfl
  | forEach => rfl
  | counts => rfl
  | restore net bytes =>
    have other : net ≠ r.subnet := keeps
    simp [serve_restore,other]

theorem full_lasts (valid : Holds s r (Finset.range s.slots)) (requests : List Request)
    (keep : ∀ request ∈ requests, ¬request.Frees r) : (serveAll requests r).2 = r := by
  induction requests with
  | nil => rfl
  | cons request rest ih =>
    obtain ⟨first,others⟩ := List.forall_mem_cons.mp keep
    change (serveAll rest (serve request r).2).2 = r
    rw [full_unchanged valid request first]
    exact ih others

-- The one address that came back is the next that is given, wherever the search begins.
theorem full_reopened (valid : Holds s r (Finset.range s.slots)) {a : Address} (taken : r.has a = true)
    (start : Nat) : (serve (.allocateNext start) (r.release a)).1 = .address a := by
  rw [has_decides valid,decide_eq_true_eq] at taken
  obtain ⟨offset,inside,rfl⟩ := Subnet.usable_iff.mp (Subnet.addresses_usable valid.below taken)
  rcases allocateNext_cases (valid.released inside) start with ⟨full,_⟩ | ⟨other,near,clear,ran⟩
  · have kept := Finset.mem_range.mpr inside
    rw [← full] at kept
    exact absurd rfl (Finset.ne_of_mem_erase kept)
  · have same : other = offset := by simpa [near] using clear
    rw [ran,same]

-- A range gives out what is free, each address once, and then no more until one comes back.
theorem drained_until_released (s : Subnet) (history : List Request) (starts : List Nat) :
    (∀ start, (serve (.allocateNext start) (reached s history)).1 = .refused .full ↔
      ∀ a, s.Usable a → (reached s history).has a = true) ∧
    ∃ (given : List Address) (after : Range),
      serveAll (starts.map .allocateNext) (reached s history) =
        (given.map .address ++ List.replicate (starts.length - (reached s history).free) (.refused .full),after) ∧
      given.length = min starts.length (reached s history).free ∧ given.Nodup ∧
      (∀ a ∈ given, s.Usable a ∧ (reached s history).has a = false) ∧
      ((reached s history).free ≤ starts.length →
        (∀ requests, (∀ request ∈ requests, ¬request.Frees after) → (serveAll requests after).2 = after) ∧
        ∀ start, serve (.allocateNext start) after = (.refused .full,after) ∧
          ∀ a, after.has a = true → (serve (.allocateNext start) (after.release a)).1 = .address a) := by
  obtain ⟨held,valid⟩ := reached_holds s history
  obtain ⟨taken,answers,many,different,unused,drained⟩ := draws valid starts
  have injective : ∀ one ∈ taken, ∀ two ∈ taken, s.addressAt one = s.addressAt two → one = two :=
    fun one first two second => Subnet.addressAt_injective (unused one first).1 (unused two second).1
  rw [← free_left valid] at answers many
  refine ⟨fun start => (refused_full valid start).trans (all_taken valid).symm,taken.map s.addressAt,_,
    Prod.ext answers rfl,by simpa using many,different.map_on injective,?_,fun enough => ?_⟩
  · rintro a member
    obtain ⟨offset,among,rfl⟩ := List.mem_map.mp member
    obtain ⟨inside,clear⟩ := unused offset among
    exact ⟨Subnet.addressAt_usable inside,free_untaken valid inside clear⟩
  · have all : taken.toFinset ∪ held = Finset.range s.slots := by
      have apart : Disjoint taken.toFinset held :=
        Finset.disjoint_left.mpr fun offset member => (unused offset (List.mem_toFinset.mp member)).2
      refine Finset.eq_of_subset_of_card_le drained.below ?_
      rw [Finset.card_range,Finset.card_union_of_disjoint apart,List.toFinset_card_of_nodup different,many,
        Nat.min_eq_right enough,free_left valid]
      omega
    rw [all] at drained
    refine ⟨full_lasts drained,fun start => ⟨full_refuses drained start,fun a taken => ?_⟩⟩
    exact full_reopened drained taken start

end HostNet.Ipam.Range
