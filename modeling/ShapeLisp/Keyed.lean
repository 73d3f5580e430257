/-!
# Lists in the order of their keys

Entries under text keys, in strictly increasing order of the keys. The order of texts is that of
their characters, which is also the order of their UTF-8 bytes.
-/

namespace ShapeLisp

/-- Entries in the order of their keys. -/
abbrev Keyed (α : Type) := List (String × α)

namespace Keyed

variable {α : Type}

/-- The entry of a key. -/
def find? : Keyed α → String → Option α
  | [], _ => none
  | (name, entry) :: rest, key => if name = key then some entry else find? rest key

/-- Puts an entry in its place, replacing one of the same key. -/
def insert (key : String) (entry : α) : Keyed α → Keyed α
  | [] => [(key, entry)]
  | (name, old) :: rest =>
    if key = name then (key, entry) :: rest
    else if key < name then (key, entry) :: (name, old) :: rest
    else (name, old) :: insert key entry rest

/-- Inserts entries one after the other, so that of two with the same key the later one stays. -/
def insertAll (known : Keyed α) (more : List (String × α)) : Keyed α :=
  more.foldl (fun known (key, entry) => insert key entry known) known

/-- The keys in order. -/
def keys (known : Keyed α) : List String :=
  known.map Prod.fst

/-- The keys are strictly increasing. -/
def Sorted (known : Keyed α) : Prop :=
  known.keys.Pairwise (· < ·)

end Keyed

end ShapeLisp
