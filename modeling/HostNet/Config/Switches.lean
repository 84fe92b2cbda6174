import HostNet.Document.Record

namespace HostNet.Config

-- Named switches in ascending order of their names, so that equal switches have one form.
structure Switches where
  entries : List (String × Bool)
  ascending : entries.Pairwise fun a b => a.1 < b.1
deriving DecidableEq, Repr

namespace Switches

def empty : Switches := ⟨[],.nil⟩

instance : Inhabited Switches := ⟨empty⟩

def put (name : String) (on : Bool) (entries : List (String × Bool)) : List (String × Bool) :=
  entries.filter (·.1 < name) ++ (name,on) :: entries.filter (name < ·.1)

theorem put_ascending {entries : List (String × Bool)}
    (h : entries.Pairwise fun a b => a.1 < b.1) (name : String) (on : Bool) :
    (put name on entries).Pairwise fun a b => a.1 < b.1 := by
  refine List.pairwise_append.2 ⟨h.filter _,List.pairwise_cons.2 ⟨?_,h.filter _⟩,?_⟩
  · intro b hb
    exact of_decide_eq_true (List.mem_filter.1 hb).2
  · intro a ha b hb
    have below : a.1 < name := of_decide_eq_true (List.mem_filter.1 ha).2
    rcases List.mem_cons.1 hb with rfl | hb
    · exact below
    · exact String.lt_trans below (of_decide_eq_true (List.mem_filter.1 hb).2)

def insert (s : Switches) (name : String) (on : Bool) : Switches :=
  ⟨put name on s.entries,put_ascending s.ascending name on⟩

def toDocument (s : Switches) : Document :=
  .ofMembers (s.entries.map fun e => (e.1,.bool e.2))

def insertMembers? (s : Switches) : List (Option String × Document) → Option Switches
  | [] => some s
  | (some name,.bool on) :: rest => (s.insert name on).insertMembers? rest
  | _ => none

def ofDocument? : Document → Option Switches
  | .object members => empty.insertMembers? members
  | _ => none

end Switches
end HostNet.Config
