/-!
Mappings that keep the order in which their keys first appeared.
-/

namespace DocRepair

/-- A mapping as a list of keys with their values, in order of first appearance. -/
abbrev OrderedMap (α β : Type) := List (α × β)

namespace OrderedMap

variable {α β : Type}

def keys (map : OrderedMap α β) : List α := map.map (·.1)

variable [DecidableEq α]

/-- Changes the value of a key in place; a new key goes to the end with the value for no value. -/
def modify (key : α) (change : Option β → β) : OrderedMap α β → OrderedMap α β
  | [] => [(key, change none)]
  | (k, v) :: rest =>
    if k = key then (k, change (some v)) :: rest else (k, v) :: modify key change rest

/-- Gives a key a value; a key that is present keeps its place. -/
def put (map : OrderedMap α β) (key : α) (value : β) : OrderedMap α β :=
  modify key (fun _ => value) map

/-- The mapping that a list of pairs describes: the last value of a key counts. -/
def ofPairs (pairs : List (α × β)) : OrderedMap α β :=
  pairs.foldl (fun map (k, v) => put map k v) []

def get? (map : OrderedMap α β) (key : α) : Option β :=
  (map.find? fun (k, _) => decide (k = key)).map (·.2)

/-- Adds a value to the list of a key. -/
def push (map : OrderedMap α (List β)) (key : α) (value : β) : OrderedMap α (List β) :=
  modify key (fun values => values.getD [] ++ [value]) map

/-- The list of a key; a key that is absent has no values. -/
def listOf (map : OrderedMap α (List β)) (key : α) : List β :=
  (map.get? key).getD []

end OrderedMap

end DocRepair
