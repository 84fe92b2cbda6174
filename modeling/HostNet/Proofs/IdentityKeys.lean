import HostNet.Proofs.InstanceComments

namespace HostNet.Masquerade

-- The digests of two different texts differ within their first digits.
def DigestsApart (digits : Nat) (s t : String) : Prop :=
  (Digest.hexDigest s).take digits = (Digest.hexDigest t).take digits → s = t

-- No two texts that are hashed for the identities are taken for one another.
structure Unmixed (a b : Identity) : Prop where
  chains : DigestsApart 23 (a.network ++ a.id) (b.network ++ b.id)
  networks : DigestsApart 16 a.network b.network
  interfaces : DigestsApart 16 (a.interface ++ ":" ++ a.id) (b.interface ++ ":" ++ b.id)

-- Each firewall tool has a key of its own for each identity that it tells apart.
structure KeysApart (a b : Identity) : Prop where
  chains : (a.network,a.id) ≠ (b.network,b.id) → chainName a.network a.id ≠ chainName b.network b.id
  instances : a ≠ b → instanceHash a ≠ instanceHash b

-- The end of a network's name is the beginning of the other's id.
def Shifted (a b : Identity) : Prop :=
  ∃ piece, piece ≠ "" ∧ a.network = b.network ++ piece ∧ b.id = piece ++ a.id

-- On one network, what follows a colon in an interface's name is the beginning of the other's id.
def Resplit (a b : Identity) : Prop :=
  a.network = b.network ∧ ∃ piece, a.interface = b.interface ++ ":" ++ piece ∧ b.id = piece ++ ":" ++ a.id

section Joined
variable (x y x' y' : String)

theorem joined_same : x ++ y = x' ++ y' ↔
    (∃ piece, x' = x ++ piece ∧ y = piece ++ y') ∨ ∃ piece, x = x' ++ piece ∧ y' = piece ++ y := by
  constructor
  · intro same
    have chars : x.toList ++ y.toList = x'.toList ++ y'.toList := by
      rw [← String.toList_append,same,String.toList_append]
    rcases List.append_eq_append_iff.mp chars with ⟨piece,longer,left⟩ | ⟨piece,longer,left⟩
    · exact .inl ⟨.ofList piece,String.toList_injective (by simp [longer]),String.toList_injective (by simp [left])⟩
    · exact .inr ⟨.ofList piece,String.toList_injective (by simp [longer]),String.toList_injective (by simp [left])⟩
  · rintro (⟨piece,rfl,rfl⟩ | ⟨piece,rfl,rfl⟩)
    · exact String.append_assoc.symm
    · exact String.append_assoc

-- What stands between two separators that are not the same one.
theorem separated_piece {piece : String} (split : ":" ++ y = piece ++ (":" ++ y')) :
    (piece = "" ∧ y = y') ∨ ∃ rest, piece = ":" ++ rest ∧ y = rest ++ ":" ++ y' := by
  have chars : ':' :: y.toList = piece.toList ++ ':' :: y'.toList := by
    simpa [String.toList_append] using congrArg String.toList split
  cases letters : piece.toList with
  | nil =>
    rw [letters] at chars
    exact .inl ⟨String.toList_injective letters,String.toList_injective (List.cons.inj chars).2⟩
  | cons c rest =>
    rw [letters,List.cons_append] at chars
    obtain ⟨rfl,later⟩ := List.cons.inj chars
    exact .inr ⟨.ofList rest,String.toList_injective (by simp [letters]),String.toList_injective (by simp [later])⟩

theorem separated_same : x ++ ":" ++ y = x' ++ ":" ++ y' ↔
    (x = x' ∧ y = y') ∨ (∃ piece, x = x' ++ ":" ++ piece ∧ y' = piece ++ ":" ++ y) ∨
      ∃ piece, x' = x ++ ":" ++ piece ∧ y = piece ++ ":" ++ y' := by
  constructor
  · intro same
    rw [String.append_assoc,String.append_assoc] at same
    rcases (joined_same _ _ _ _).mp same with ⟨piece,longer,split⟩ | ⟨piece,longer,split⟩
    · rcases separated_piece _ _ split with ⟨rfl,rest⟩ | ⟨rest,rfl,later⟩
      · exact .inl ⟨by simpa using longer.symm,rest⟩
      · exact .inr (.inr ⟨rest,by rw [longer,String.append_assoc],later⟩)
    · rcases separated_piece _ _ split with ⟨rfl,rest⟩ | ⟨rest,rfl,later⟩
      · exact .inl ⟨by simpa using longer,rest.symm⟩
      · exact .inr (.inl ⟨rest,by rw [longer,String.append_assoc],later⟩)
  · rintro (⟨rfl,rfl⟩ | ⟨piece,rfl,rfl⟩ | ⟨piece,rfl,rfl⟩)
    · rfl
    all_goals simp only [String.append_assoc]

end Joined

variable {a b : Identity}

theorem chainName_chars (network id : String) :
    (chainName network id).toList = chainStart.toList ++ (Digest.hexDigest (network ++ id)).take 23 := by
  have start : chainStart.utf8ByteSize = 5 := by decide
  simp [chainName,Digest.label?,chainLength,start,String.toList_append]

theorem chainName_same (unmixed : Unmixed a b) :
    chainName a.network a.id = chainName b.network b.id ↔ a.network ++ a.id = b.network ++ b.id := by
  constructor
  · intro same
    have chars := congrArg String.toList same
    rw [chainName_chars,chainName_chars,List.append_cancel_left_eq] at chars
    exact unmixed.chains chars
  · intro same
    rw [chainName,same,chainName]

theorem instanceHash_same (unmixed : Unmixed a b) : instanceHash a = instanceHash b ↔
    a.network = b.network ∧ a.interface ++ ":" ++ a.id = b.interface ++ ":" ++ b.id := by
  constructor
  · intro same
    have chars := congrArg String.toList same
    rw [instanceHash_chars,instanceHash_chars] at chars
    obtain ⟨networks,others⟩ := List.append_inj chars (by rw [shortHash_length,shortHash_length])
    obtain ⟨-,interfaces⟩ := List.cons.inj others
    rw [shortHash_chars,shortHash_chars] at networks interfaces
    exact ⟨unmixed.networks networks,unmixed.interfaces interfaces⟩
  · rintro ⟨networks,interfaces⟩
    rw [instanceHash,instanceHash,networks,interfaces]

-- Nothing separates a network's name from the id, so one may end elsewhere and the text be the same.
theorem shifted_joined (shifted : Shifted a b) :
    (a.network,a.id) ≠ (b.network,b.id) ∧ a.network ++ a.id = b.network ++ b.id := by
  obtain ⟨piece,something,networks,ids⟩ := shifted
  constructor
  · intro same
    have nothing : b.network ++ piece = b.network ++ "" := by
      rw [← networks,(Prod.mk.inj same).1,String.append_empty]
    exact something ((String.append_right_inj _).mp nothing)
  · rw [networks,ids,String.append_assoc]

theorem joined_shifted (same : a.network ++ a.id = b.network ++ b.id) :
    (a.network,a.id) = (b.network,b.id) ∨ Shifted a b ∨ Shifted b a := by
  rcases (joined_same _ _ _ _).mp same with ⟨piece,networks,ids⟩ | ⟨piece,networks,ids⟩
  all_goals by_cases nothing : piece = ""
  · subst nothing
    exact .inl (by rw [networks,ids,String.append_empty,String.empty_append])
  · exact .inr (.inr ⟨piece,nothing,networks,ids⟩)
  · subst nothing
    exact .inl (by rw [networks,ids,String.append_empty,String.empty_append])
  · exact .inr (.inl ⟨piece,nothing,networks,ids⟩)

-- A name may hold the separator, so an interface may end elsewhere as well.
theorem resplit_separated (resplit : Resplit a b) :
    a ≠ b ∧ a.interface ++ ":" ++ a.id = b.interface ++ ":" ++ b.id := by
  obtain ⟨networks,piece,interfaces,ids⟩ := resplit
  constructor
  · rintro rfl
    have chars := congrArg (List.length ∘ String.toList) interfaces
    simp [String.toList_append] at chars
  · rw [interfaces,ids]
    simp only [String.append_assoc]

theorem separated_resplit (networks : a.network = b.network)
    (same : a.interface ++ ":" ++ a.id = b.interface ++ ":" ++ b.id) : a = b ∨ Resplit a b ∨ Resplit b a := by
  rcases (separated_same _ _ _ _).mp same with ⟨interfaces,ids⟩ | there | there
  · obtain ⟨network,interface,id⟩ := a
    cases networks
    cases interfaces
    cases ids
    exact .inl rfl
  · exact .inr (.inl ⟨networks,there⟩)
  · exact .inr (.inr ⟨networks.symm,there⟩)

-- Where digests are told apart, keys are mixed up by the way that the fields of an identity are joined and by nothing
-- else: no separator stands between network and id, and the one between interface and id may be part of either.
theorem keys_apart_exactly (a b : Identity) (unmixed : Unmixed a b) :
    KeysApart a b ↔ ¬Shifted a b ∧ ¬Shifted b a ∧ ¬Resplit a b ∧ ¬Resplit b a := by
  have chains := chainName_same unmixed
  have instances := instanceHash_same unmixed
  constructor
  · intro keys
    refine ⟨fun shifted => ?_,fun shifted => ?_,fun resplit => ?_,fun resplit => ?_⟩
    · obtain ⟨different,same⟩ := shifted_joined shifted
      exact keys.chains different (chains.mpr same)
    · obtain ⟨different,same⟩ := shifted_joined shifted
      exact keys.chains different.symm (chains.mpr same.symm)
    · obtain ⟨different,same⟩ := resplit_separated resplit
      exact keys.instances different (instances.mpr ⟨resplit.1,same⟩)
    · obtain ⟨different,same⟩ := resplit_separated resplit
      exact keys.instances different.symm (instances.mpr ⟨resplit.1.symm,same.symm⟩)
  · rintro ⟨forwards,backwards,left,right⟩
    constructor
    · intro different same
      rcases joined_shifted (chains.mp same) with pair | shifted | shifted
      · exact different pair
      · exact forwards shifted
      · exact backwards shifted
    · intro different same
      obtain ⟨networks,interfaces⟩ := instances.mp same
      rcases separated_resplit networks interfaces with whole | resplit | resplit
      · exact different whole
      · exact left resplit
      · exact right resplit

-- An interface with a colon in its name, and one of the same network whose id has that colon.
def tagged : Identity := ⟨"pods","eth0:1","2"⟩
def untagged : Identity := ⟨"pods","eth0","1:2"⟩

theorem tagged_mixed : Unmixed tagged untagged ∧ ¬KeysApart tagged untagged := by
  have unmixed : Unmixed tagged untagged := by
    constructor
    · intro same
      have different : (Digest.hexDigest "pods2").take 23 ≠ (Digest.hexDigest "pods1:2").take 23 := by decide +kernel
      exact absurd same different
    · exact fun _ => rfl
    · exact fun _ => rfl
  have resplit : Resplit tagged untagged := ⟨rfl,"1",by decide,by decide⟩
  exact ⟨unmixed,fun keys => ((keys_apart_exactly tagged untagged unmixed).mp keys).2.2.1 resplit⟩

-- Networks of two names with ids that make up for the difference have one chain.
theorem chains_shared : ¬∀ a b : Identity, Unmixed a b → KeysApart a b := by
  intro claimed
  have unmixed : Unmixed ⟨"pods1","","2"⟩ ⟨"pods","","12"⟩ := by
    constructor
    · exact fun _ => rfl
    · intro same
      have different : (Digest.hexDigest "pods1").take 16 ≠ (Digest.hexDigest "pods").take 16 := by decide +kernel
      exact absurd same different
    · intro same
      have different : (Digest.hexDigest ":2").take 16 ≠ (Digest.hexDigest ":12").take 16 := by decide +kernel
      exact absurd same different
  exact (claimed _ _ unmixed).chains (by decide) rfl

end HostNet.Masquerade
