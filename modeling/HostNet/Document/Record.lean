import HostNet.Document.Basic

namespace HostNet.Document

def asText? : Document → Option String
  | .text s => s
  | _ => none

def asBool? : Document → Option Bool
  | .bool b => some b
  | _ => none

def asInt? (low high : Int) : Document → Option Int
  | .integer n => if low ≤ n ∧ n ≤ high then some n else none
  | _ => none

def asInt64? (d : Document) : Option Int64 :=
  (d.asInt? Int64.minValue.toInt Int64.maxValue.toInt).map Int64.ofInt

def asNat? (bits : Nat) (d : Document) : Option Nat :=
  (d.asInt? 0 ((1 <<< bits : Nat) - 1 : Nat)).map Int.toNat

def asUInt32? (d : Document) : Option UInt32 :=
  (d.asNat? 32).map UInt32.ofNat

def asList? (read : Document → Option α) : Document → Option (List α)
  | .list items => items.mapM read
  | _ => none

def asOption? (read : Document → Option α) : Document → Option (Option α)
  | .null => some none
  | d => (read d).map some

abbrev Fields := String → Option Document

-- The fields of an object, none of which stands twice under any of its names.
def fieldsOfObject? (names : List String) (members : List (Option String × Document)) : Option Fields :=
  if members.all (·.1.isSome) && names.all fun name => (valuesOf name members).length ≤ 1 then
    some fun name => (valuesOf name members).head?
  else none

-- The fields of a record: those of an object, in which unknown keys are passed over and no known key stands twice, or
-- a list of them in their order, which has at least `least` and no more than there are names.
def fields? (names : List String) (least : Nat) : Document → Option Fields
  | .object members => fieldsOfObject? names members
  | .list items =>
    if least ≤ items.length ∧ items.length ≤ names.length then
      some fun name => (names.zip items).lookup name
    else none
  | _ => none

def Fields.required (fields : Fields) (name : String) (read : Document → Option α) : Option α :=
  (fields name).bind read

def Fields.withDefault (fields : Fields) (name : String) (default : α) (read : Document → Option α) :
    Option α :=
  match fields name with
  | none => some default
  | some d => read d

def Fields.optional (fields : Fields) (name : String) (read : Document → Option α) : Option (Option α) :=
  fields.withDefault name none (asOption? read)

end HostNet.Document
