import HostNet.Masquerade.Nft

namespace HostNet.Text

theorem digit_single (n : Nat) (small : n < 16) : (Hex.digit n).utf8Size = 1 := by
  revert n
  decide

theorem ofBytes_single (bytes : List UInt8) : ∀ c ∈ Hex.ofBytes bytes, c.utf8Size = 1 := by
  intro c member
  obtain ⟨b,_,digit⟩ := List.mem_flatMap.mp member
  have byte := b.toNat_lt
  rcases List.mem_cons.mp digit with rfl | digit
  · exact digit_single _ (by omega)
  · rw [List.mem_singleton.mp digit]
    exact digit_single _ (by omega)

theorem byteCount_single (s : List Char) (single : ∀ c ∈ s, c.utf8Size = 1) : byteCount s = s.length := by
  induction s with
  | nil => rfl
  | cons c rest ih =>
    have tail := ih fun d member => single d (List.mem_cons_of_mem _ member)
    have head := single c (by simp)
    simp only [byteCount,List.length_cons]
    omega

-- What has room is kept whole.
theorem takeBytes_append (limit : Nat) (s rest : List Char) (fits : byteCount s ≤ limit) :
    takeBytes limit (s ++ rest) = s ++ takeBytes (limit - byteCount s) rest := by
  induction s generalizing limit with
  | nil => simp [byteCount]
  | cons c s ih =>
    simp only [byteCount] at fits
    rw [List.cons_append,takeBytes,if_pos (by omega),ih _ (by omega),byteCount,Nat.sub_sub,List.cons_append]

end HostNet.Text

namespace HostNet.Masquerade

theorem shortHash_chars (text : String) : (shortHash text).toList = (Digest.hexDigest text).take 16 := by
  simp [shortHash,Digest.label?]

theorem shortHash_length (text : String) : (shortHash text).toList.length = 16 := by
  rw [shortHash_chars,List.length_take,Digest.length_hexDigest]
  rfl

theorem shortHash_single (text : String) : ∀ c ∈ (shortHash text).toList, c.utf8Size = 1 := by
  intro c member
  rw [shortHash_chars] at member
  exact Text.ofBytes_single _ c (List.mem_of_mem_take member)

theorem instanceHash_chars (identity : Identity) : (instanceHash identity).toList =
    (shortHash identity.network).toList ++ '-' :: (shortHash (identity.interface ++ ":" ++ identity.id)).toList := by
  simp [instanceHash,networkHash,String.toList_append]

theorem instanceHash_length (identity : Identity) : (instanceHash identity).toList.length = 33 := by
  simp only [instanceHash_chars,List.length_append,List.length_cons,shortHash_length]

theorem instanceHash_single (identity : Identity) : ∀ c ∈ (instanceHash identity).toList, c.utf8Size = 1 := by
  intro c member
  rw [instanceHash_chars,List.mem_append,List.mem_cons] at member
  rcases member with network | rfl | interface
  · exact shortHash_single _ c network
  · decide
  · exact shortHash_single _ c interface

-- A comment is cut only behind the hash that it begins with.
theorem comment_begins (identity : Identity) :
    (instanceHash identity).toList <+: (instanceComment identity).toList := by
  have size := Text.byteCount_single _ (instanceHash_single identity)
  rw [instanceHash_length] at size
  have fits : Text.byteCount (instanceHash identity).toList ≤ commentLimit := by rw [size]; decide
  unfold instanceComment fullComment
  simp only [String.toList_ofList,String.toList_append,List.append_assoc]
  rw [Text.takeBytes_append _ _ _ fits]
  exact List.prefix_append _ _

namespace Nft
open Firewall.Nft

theorem owned_iff (hash comment : String) (chain : String) (handle : Nat) :
    isOwnedBy hash ⟨chain,handle,some comment⟩ = true ↔ hash.toList <+: comment.toList :=
  List.isPrefixOf_iff_prefix

-- Hashes are of one length, so a comment begins with one of them at most.
theorem one_owner {a b : Identity} {rule : Listed} (first : isOwnedBy (instanceHash a) rule = true)
    (second : isOwnedBy (instanceHash b) rule = true) : instanceHash a = instanceHash b := by
  obtain ⟨chain,handle,comment⟩ := rule
  cases comment with
  | none => cases first
  | some c =>
    have one := (owned_iff _ c chain handle).mp first
    have two := (owned_iff _ c chain handle).mp second
    have length : (instanceHash a).toList.length = (instanceHash b).toList.length := by
      rw [instanceHash_length,instanceHash_length]
    exact String.toList_injective ((List.prefix_of_prefix_length_le one two (Nat.le_of_eq length)).eq_of_length length)

theorem owned_comment {a b : Identity} {rule : Listed} (commented : rule.comment = some (instanceComment b)) :
    isOwnedBy (instanceHash a) rule = true ↔ instanceHash b = instanceHash a := by
  obtain ⟨chain,handle,comment⟩ := rule
  cases commented
  have own : isOwnedBy (instanceHash b) ⟨chain,handle,some (instanceComment b)⟩ = true :=
    (owned_iff _ _ _ _).mpr (comment_begins b)
  constructor
  · exact fun found => one_owner own found
  · intro same
    rw [← same]
    exact own

theorem ownRules_listed {ops : Ops σ} {s t : σ} {rules : List Listed}
    (listed : ops.listRules checksChain s = .ok rules t) (hash : String) :
    ownRules ops hash s = .ok (rules.filter (isOwnedBy hash)) t :=
  (Step.bind_ok (Step.attempt_ok listed)).trans rfl

end Nft

end HostNet.Masquerade
