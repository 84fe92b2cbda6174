import HostNet.Ipam.Snapshot
import HostNet.Proofs.DocumentText
import HostNet.Proofs.EncodedText
import HostNet.Proofs.RangeRequests
import HostNet.Proofs.SnapshotBytes

namespace HostNet.Ipam

namespace Range
open Bits (bigEndian)

section
variable {s t : Subnet} {r q : Range} {held others : Finset Nat}

theorem Holds.mem_taken (valid : Holds s r held) : a ∈ r.taken ↔ a ∈ s.addresses held := by
  cases forEach_dictated valid with
  | visited exactly => exact exactly a

-- The list of the taken addresses depends on the subnet and the taken offsets only.
theorem Holds.same_taken (valid : Holds s r held) (also : Holds t q held) (same : r.subnet = q.subnet) :
    r.taken = q.taken := by
  unfold taken
  rw [valid.marked.taken_eq,also.marked.taken_eq,same]

theorem Holds.same_slots (valid : Holds s r held) (also : Holds t q others) (same : r.subnet = q.subnet) :
    s.slots = t.slots := by
  have trunc : s.trunc = t.trunc := by rw [← valid.laid,← also.laid,same]
  have slots : s.trunc.slots = t.trunc.slots := congrArg Subnet.slots trunc
  exact slots

-- A range with the state that some bytes denote.
def taking (q : Range) (bytes : List UInt8) : Range := { q with bitmap := q.bitmap.taking bytes }

theorem Holds.taking (valid : Holds t q held) (bytes : List UInt8) :
    Holds t (q.taking bytes) ((Finset.range t.slots).filter fun offset => (bigEndian bytes).testBit offset = true) :=
  ⟨valid.laid,valid.marked.restored bytes⟩

theorem Holds.mem_taking (valid : Holds t q held) (bytes : List UInt8) (a : Address) : a ∈ (q.taking bytes).taken ↔
    t.Usable a ∧ (bigEndian bytes).testBit (a.value - (t.start + 1)) = true := by
  rw [(valid.taking bytes).mem_taken,Subnet.mem_addresses]
  constructor
  · rintro ⟨offset,member,rfl⟩
    obtain ⟨inside,bit⟩ := Finset.mem_filter.mp member
    have inside := Finset.mem_range.mp inside
    refine ⟨Subnet.addressAt_usable inside,?_⟩
    rwa [Subnet.addressAt_value inside,Nat.add_sub_cancel_left]
  · rintro ⟨usable,bit⟩
    obtain ⟨offset,inside,rfl⟩ := Subnet.usable_iff.mp usable
    rw [Subnet.addressAt_value inside,Nat.add_sub_cancel_left] at bit
    exact ⟨offset,Finset.mem_filter.mpr ⟨Finset.mem_range.mpr inside,bit⟩,rfl⟩

-- The bytes of a saved state bring its offsets to any range of as many addresses.
theorem Holds.taking_saved (valid : Holds t q others) (saved : Holds s r held) (same : r.subnet = q.subnet) :
    Holds t (q.taking r.bitmap.snapshot) held := by
  have offsets : ((Finset.range t.slots).filter fun offset =>
      (bigEndian r.bitmap.snapshot).testBit offset = true) = held := by
    ext offset
    rw [Finset.mem_filter,Bitmap.snapshot,Bits.testBit_toBytes,saved.marked.member,← saved.same_slots valid same]
    exact ⟨And.right,fun member => ⟨saved.below member,member⟩⟩
  have taken := valid.taking r.bitmap.snapshot
  rwa [offsets] at taken

theorem Holds.restore_own (valid : Holds t q held) (bytes : List UInt8) :
    restore q.subnet bytes q = .ok () (q.taking bytes) := by
  have tag : q.bitmap.tag = q.subnet.text := by rw [valid.marked.label,valid.laid]
  have read : q.bitmap.restore q.subnet.text bytes = .ok (q.bitmap.taking bytes) := by
    rw [← tag]
    exact q.bitmap.restore_own bytes
  simp [restore,Step.update,read,Except.map,Range.taking]

theorem restore_other (bytes : List UInt8) (different : net ≠ q.subnet) :
    restore net bytes q = .error .mismatchedNetwork q := by
  simp [restore,Step.update,different]

theorem Holds.same_start (valid : Holds t q held) : q.subnet.start = t.start := by
  rw [valid.laid,Subnet.trunc_start]

theorem Holds.same_usable (valid : Holds t q held) (a : Address) : q.subnet.Usable a ↔ t.Usable a := by
  unfold Subnet.Usable
  rw [valid.same_start,valid.laid]
  rfl

end

-- What some requests have made of a new range.
def Arisen (r : Range) : Prop := ∃ s requests, r = reached s requests

end Range

abbrev UsedRange := {r : Range // r.Arisen}

theorem UsedRange.holds (r : UsedRange) : ∃ s held, Range.Holds s r.val held := by
  obtain ⟨s,requests,arisen⟩ := r.property
  obtain ⟨held,valid⟩ := Range.reached_holds s requests
  exact ⟨s,held,arisen ▸ valid⟩

namespace Snapshot
open Text.Base64 (Standard decode)
open Bits (bigEndian)

theorem ofDocument_toDocument (s : Snapshot) : ofDocument? s.toDocument = some s := by
  simp [ofDocument?,toDocument,Document.ofMembers,Document.fields?,Document.fieldsOfObject?,Document.valuesOf,
    Document.Fields.required,Document.ofString,Document.asText?,Subnet.parse_text]

theorem toDocument_plain (s : Snapshot) : Document.Json.Plain s.toDocument := by
  apply Document.Json.Plain.object
  · simp
  · intro member among
    simp only [List.map_cons,List.map_nil,List.mem_cons,List.not_mem_nil,or_false] at among
    rcases among with rfl | rfl
    · exact .text _
    · exact .text _

-- A snapshot is read back from its document, in either form.
theorem ofJson_toJson (s : Snapshot) :
    ofJson? s.toDocument.toJson = some s ∧ ofJson? s.toDocument.toJsonLines = some s := by
  obtain ⟨compact,lines⟩ := Document.Json.read_written s.toDocument_plain
  rw [ofJson?,ofJson?,compact,lines]
  exact ⟨s.ofDocument_toDocument,s.ofDocument_toDocument⟩

variable {s t : Subnet} {r q : Range} {held others : Finset Nat} {snapshot : Snapshot} {bytes : List UInt8}

theorem apply_unreadable (unread : decode snapshot.data.toUTF8.toList = .error fault) :
    snapshot.apply q = .error (.snapshotData fault) q := by
  unfold apply
  rw [unread]
  exact Step.bind_error rfl

theorem apply_read (standard : Standard snapshot.data.toUTF8.toList bytes) :
    snapshot.apply q = Step.mapError .ipam (Range.restore snapshot.subnet bytes) q := by
  unfold apply
  rw [Text.Base64.decode_standard.mpr standard]
  exact Step.bind_ok rfl

theorem apply_own (valid : Range.Holds t q held) (standard : Standard snapshot.data.toUTF8.toList bytes)
    (same : snapshot.subnet = q.subnet) : snapshot.apply q = .ok () (q.taking bytes) := by
  rw [apply_read standard,same]
  exact Step.mapError_ok (valid.restore_own bytes)

theorem apply_other (standard : Standard snapshot.data.toUTF8.toList bytes) (different : snapshot.subnet ≠ q.subnet) :
    snapshot.apply q = .error (.ipam .mismatchedNetwork) q := by
  rw [apply_read standard]
  exact Step.mapError_error (Range.restore_other bytes different)

theorem capture_standard (r : Range) : Standard (capture r).data.toUTF8.toList r.bitmap.snapshot :=
  Text.Base64.decode_standard.mp (Text.Base64.decode_encoded _)

theorem apply_capture (valid : Range.Holds t q held) (same : r.subnet = q.subnet) :
    (capture r).apply q = .ok () (q.taking r.bitmap.snapshot) :=
  apply_own valid (capture_standard r) same

-- A snapshot is applied as a whole or not at all.
theorem apply_cases (valid : Range.Holds t q held) (snapshot : Snapshot) :
    (∃ bytes, Standard snapshot.data.toUTF8.toList bytes ∧ snapshot.subnet = q.subnet ∧
      snapshot.apply q = .ok () (q.taking bytes)) ∨
    (∃ bytes, Standard snapshot.data.toUTF8.toList bytes ∧ snapshot.subnet ≠ q.subnet ∧
      snapshot.apply q = .error (.ipam .mismatchedNetwork) q) ∨
    ∃ fault, (∀ bytes, ¬Standard snapshot.data.toUTF8.toList bytes) ∧
      snapshot.apply q = .error (.snapshotData fault) q := by
  cases read : decode snapshot.data.toUTF8.toList with
  | error fault =>
    refine .inr (.inr ⟨fault,fun bytes standard => ?_,apply_unreadable read⟩)
    rw [Text.Base64.decode_standard.mpr standard] at read
    cases read
  | ok bytes =>
    have standard := Text.Base64.decode_standard.mp read
    by_cases same : snapshot.subnet = q.subnet
    · exact .inl ⟨bytes,standard,same,apply_own valid standard same⟩
    · exact .inr (.inl ⟨bytes,standard,same,apply_other standard same⟩)

section
variable {layout : Layout} {files : Files} {network : String}

theorem load_absent (missing : files.reaches (layout.snapshot network) = false) :
    load layout files network q = .ok false q := by
  unfold load
  simp only [missing]
  rfl

theorem load_unread (there : files.reaches (layout.snapshot network) = true)
    (unread : files.read (layout.snapshot network) = .error cause) :
    load layout files network q = .error (.file cause) q := by
  unfold load
  simp only [there,unread,Except.mapError,Step.ofExcept,if_true]
  rfl

theorem load_read (there : files.reaches (layout.snapshot network) = true)
    (read : files.read (layout.snapshot network) = .ok text) (told : ofJson? text = some snapshot) :
    load layout files network = snapshot.apply >>= fun _ => pure true := by
  unfold load
  simp only [there,read,Except.mapError,Step.ofExcept,if_true,pure_bind,told]

-- A load applies the snapshot of a file, or changes nothing.
theorem load_cases (layout : Layout) (files : Files) (network : String) (q : Range) :
    load layout files network q = .ok false q ∨ (∃ cause, load layout files network q = .error cause q) ∨
      ∃ snapshot : Snapshot, load layout files network = snapshot.apply >>= fun _ => pure true := by
  cases there : files.reaches (layout.snapshot network) with
  | false => exact .inl (load_absent there)
  | true =>
    cases read : files.read (layout.snapshot network) with
    | error cause => exact .inr (.inl ⟨_,load_unread there read⟩)
    | ok text =>
      cases told : ofJson? text with
      | some snapshot => exact .inr (.inr ⟨snapshot,load_read there read told⟩)
      | none =>
        refine .inr (.inl ⟨.malformed,?_⟩)
        unfold load
        simp only [there,read,Except.mapError,Step.ofExcept,if_true,pure_bind,told]
        rfl

end

-- What a range has taken on by a snapshot of another range of the same subnet.
theorem captured_taken (valid : Range.Holds t q others) (saved : Range.Holds s r held) (same : r.subnet = q.subnet) :
    ∃ after, (capture r).apply q = .ok () after ∧ after.taken = r.taken := by
  have reached := valid.taking_saved saved same
  have subnet : (q.taking r.bitmap.snapshot).subnet = r.subnet := same.symm
  exact ⟨_,apply_capture valid same,reached.same_taken saved subnet⟩

-- For any two ranges that requests have led to: a snapshot with readable data for the very subnet takes the place of
-- what was taken, and any other one changes nothing. What was captured of one range makes the other take the same.
theorem applied_exactly (r q : UsedRange) :
    (∀ snapshot : Snapshot,
      ((∃ after, snapshot.apply q.val = .ok () after) ↔
        (∃ bytes, Standard snapshot.data.toUTF8.toList bytes) ∧ snapshot.subnet = q.val.subnet) ∧
      (∀ after bytes, snapshot.apply q.val = .ok () after → Standard snapshot.data.toUTF8.toList bytes →
        ∀ a, a ∈ after.taken ↔
          q.val.subnet.Usable a ∧ (bigEndian bytes).testBit (a.value - (q.val.subnet.start + 1)) = true) ∧
      ∀ cause after, snapshot.apply q.val = .error cause after →
        after = q.val ∧ ((∃ fault, cause = .snapshotData fault) ∨ cause = .ipam .mismatchedNetwork)) ∧
    (r.val.subnet = q.val.subnet → ∀ snapshot,
      snapshot = capture r.val ∨ ofJson? (capture r.val).toDocument.toJson = some snapshot ∨
          ofJson? (capture r.val).toDocument.toJsonLines = some snapshot →
        ∃ after, snapshot.apply q.val = .ok () after ∧ after.taken = r.val.taken) ∧
    ∀ snapshot : Snapshot, ofJson? snapshot.toDocument.toJson = some snapshot ∧
      ofJson? snapshot.toDocument.toJsonLines = some snapshot := by
  obtain ⟨s,held,saved⟩ := r.holds
  obtain ⟨t,others,valid⟩ := q.holds
  refine ⟨fun snapshot => ⟨?_,?_,?_⟩,fun same snapshot copied => ?_,ofJson_toJson⟩
  · constructor
    · rintro ⟨after,ran⟩
      rcases apply_cases valid snapshot with ⟨bytes,standard,same,_⟩ | ⟨bytes,_,_,refused⟩ | ⟨fault,_,refused⟩
      · exact ⟨⟨bytes,standard⟩,same⟩
      · rw [refused] at ran
        cases ran
      · rw [refused] at ran
        cases ran
    · rintro ⟨⟨bytes,standard⟩,same⟩
      exact ⟨_,apply_own valid standard same⟩
  · intro after bytes ran standard a
    by_cases same : snapshot.subnet = q.val.subnet
    · rw [apply_own valid standard same] at ran
      cases ran
      rw [valid.mem_taking,valid.same_usable,valid.same_start]
    · rw [apply_other standard same] at ran
      cases ran
  · intro cause after ran
    rcases apply_cases valid snapshot with ⟨bytes,_,_,done⟩ | ⟨bytes,_,_,refused⟩ | ⟨fault,_,refused⟩
    · rw [done] at ran
      cases ran
    · rw [refused] at ran
      cases ran
      exact ⟨rfl,.inr rfl⟩
    · rw [refused] at ran
      cases ran
      exact ⟨rfl,.inl ⟨fault,rfl⟩⟩
  · obtain ⟨compact,lines⟩ := ofJson_toJson (capture r.val)
    have own : snapshot = capture r.val := by
      rcases copied with same | read | read
      · exact same
      · exact Option.some.inj (read.symm.trans compact)
      · exact Option.some.inj (read.symm.trans lines)
    obtain ⟨after,ran,taken⟩ := captured_taken valid saved same
    rw [own]
    exact ⟨after,ran,taken⟩

end Snapshot
end HostNet.Ipam
