import ObjectStore.Value.Equality

/-! # Hashes of filters

A filter may be an item of a set or a key of a mapping: its hash is mixed from those of its fields,
which are values. Numbers are hashed by exact value, and points in time by their instants, the fold
aside, or else by the clock.
How texts are hashed and how hashes are mixed is left open.

* `Hashing.filter?`: the hash of a filter, which is there if each field may be a key.
* `HashTable`: filters by their hashes. An entry is compared only if it has the hash looked for.
* `Filter.distinctPositions`, `Filter.hashedPositions?`: the positions that are kept where equal
  filters are removed, by comparing them all or by a table. -/

namespace ObjectStore

/-- The hashes of simple values, and the way in which the hashes of items are mixed. -/
structure Hashing where
  /-- The hash of a number by its exact value. -/
  quantity : Quantity → Int
  text : String → Int
  /-- The hash of an aware reading by its instant. -/
  instant : Int → Int
  /-- The hash of a naive reading by the clock. -/
  wallClock : Int → Int
  /-- The hash of any other value that may be a key. -/
  other : Value → Int
  sequence : List Int → Int

namespace Hashing

variable (h : Hashing)

/-- The hash of the reading `t`, as if it were the first of two. -/
def reading (t : DateTime) : Int := (t.first.instant?.map h.instant).getD (h.wallClock t.wallClock)

mutual

/-- The hash of a value, if it may be a key. -/
def value? : Value → Option Int
  | .bool b => some (h.quantity (Number.bool b).quantity)
  | .int n => some (h.quantity (Number.int n).quantity)
  | .double x => some (h.quantity (Number.double x).quantity)
  | .text s => some (h.text s)
  | .datetime t => some (h.reading t)
  | .tuple vs => (values? vs).map h.sequence
  | v => if v.hashable then some (h.other v) else none

/-- The hashes of some values, if each may be a key. -/
def values? : List Value → Option (List Int)
  | [] => some []
  | v :: vs => do
    let n ← value? v
    let ns ← values? vs
    some (n :: ns)

end

mutual

/-- The hash of a filter, from its fields in turn. A bare node has no fields: it is hashed by where
it is in memory, and has no hash here. -/
def filter? : Filter → Option Int
  | .bare => none
  | .comparison property op v =>
    (h.value? (.ofOperand v)).map fun n => h.sequence [h.text property, h.text op.name, n]
  | .nullCheck property isNull =>
    some (h.sequence [h.text property, h.quantity (Number.bool isNull).quantity])
  | .conjunction kind fs =>
    (filters? fs).map fun ns => h.sequence [h.sequence ns, h.text kind.name]

/-- The hashes of some filters. -/
def filters? : List Filter → Option (List Int)
  | [] => some []
  | f :: fs => do
    let n ← filter? f
    let ns ← filters? fs
    some (n :: ns)

end

end Hashing

/-- A hash table of filters: in each slot some entries, a hash with its filter each. -/
def HashTable := Nat → List (Int × Filter)

namespace HashTable

/-- The table without entries. -/
def empty : HashTable := fun _ => []

variable (slot : Int → Nat)

/-- Whether an entry in the slot of the hash `n` has this hash and a filter equal to `f`. -/
def has (t : HashTable) (n : Int) (f : Filter) : Bool :=
  (t (slot n)).any fun entry => entry.1 == n && entry.2.same f

/-- The table `t` with `f` under the hash `n` as well. -/
def add (t : HashTable) (n : Int) (f : Filter) : HashTable := fun i =>
  if i = slot n then (n, f) :: t i else t i

/-- The positions, counted from `place`, of the filters that are not in `t` when they are come to;
these are added to it. -/
def keep? (h : Hashing) (t : HashTable) (place : Nat) : List Filter → Option (List Nat)
  | [] => some []
  | f :: fs => do
    let n ← h.filter? f
    if t.has slot n f then keep? h t (place + 1) fs
    else
      let kept ← keep? h (t.add slot n f) (place + 1) fs
      some (place :: kept)

end HashTable

namespace Filter

/-- The positions of those filters that are equal to none before them, where `earlier` ones come
first. -/
def distinctAfter (earlier : List Filter) : List Filter → List Nat
  | [] => []
  | f :: fs =>
    let kept := distinctAfter (earlier ++ [f]) fs
    if earlier.any (f.same ·) then kept else earlier.length :: kept

/-- The positions in `fs` of the filters that are equal to none before them. -/
def distinctPositions (fs : List Filter) : List Nat := distinctAfter [] fs

/-- The positions in `fs` that are kept if equal filters are removed by a hash table. -/
def hashedPositions? (h : Hashing) (slot : Int → Nat) (fs : List Filter) : Option (List Nat) :=
  HashTable.empty.keep? slot h 0 fs

end Filter

end ObjectStore
