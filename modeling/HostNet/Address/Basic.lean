namespace HostNet

inductive Family where
  | v4
  | v6
deriving DecidableEq, Repr, Inhabited

def Family.width : Family → Nat
  | .v4 => 32
  | .v6 => 128

def Family.size (family : Family) : Nat := 1 <<< family.width

theorem Family.size_pos (family : Family) : 0 < family.size := by
  cases family <;> decide

-- An address as a number of as many bits as its family is wide.
structure Address where
  family : Family
  value : Nat
  value_lt : value < family.size
deriving DecidableEq, Repr

namespace Address

def ofNat? (family : Family) (value : Nat) : Option Address :=
  if h : value < family.size then some ⟨family,value,h⟩ else none

def ofNat (family : Family) (value : Nat) : Address :=
  ⟨family,value % family.size,Nat.mod_lt _ family.size_pos⟩

instance : Inhabited Address := ⟨ofNat .v4 0⟩

theorem ofNat?_eq_some_iff {family : Family} {value : Nat} {a : Address} :
    ofNat? family value = some a ↔ a.family = family ∧ a.value = value := by
  obtain ⟨f,v,lt⟩ := a
  unfold ofNat?
  split
  · simp only [Option.some.injEq,mk.injEq]
    exact ⟨fun ⟨p,q⟩ => ⟨p.symm,q.symm⟩,fun ⟨p,q⟩ => ⟨p.symm,q.symm⟩⟩
  · rename_i large
    simp only [reduceCtorEq,false_iff]
    rintro ⟨rfl,rfl⟩
    exact large lt

-- The four bytes of an address of the narrow family, or the lowest four of the wide one.
def octets (a : Address) : List Nat :=
  [(a.value >>> 24) % 256,(a.value >>> 16) % 256,(a.value >>> 8) % 256,a.value % 256]

def groups (a : Address) : List Nat :=
  (List.range 8).map fun i => (a.value >>> (16 * (7 - i))) % 65536

def leading (a : Address) (count : Nat) : Nat :=
  a.value >>> (a.family.width - count)

def ofDigits (base : Nat) (digits : List Nat) : Nat :=
  digits.foldl (fun n d => n * base + d) 0

end Address
end HostNet
