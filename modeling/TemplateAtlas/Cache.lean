import TemplateAtlas.FileIndex

/-!
# The cache of file indexes

The cache keeps one index for each path, together with the modification time of the text it was built
from.  Queries work on the indexes they were handed, and may want to put back an index with more
ranges in it while somebody else has already built a newer one.  Therefore every index that is made
gets a serial number, and `swap` replaces an index only when the one in the cache is still the very
one that the replacement was derived from.

* `Cache.store` — puts a newly built index in, under a new serial number.
* `Cache.swap` — replaces an index by one derived from it, and keeps its time stamp.
-/

namespace TemplateAtlas

/-- An index and its serial number.  Two versions are the same object when their numbers agree. -/
structure Version where
  serial : Nat
  index : FileIndex
  deriving DecidableEq, Repr

/-- A cached index and the modification time of its text; no time for text that is not on disk. -/
structure Cached where
  version : Version
  stamp : Option Int
  deriving DecidableEq, Repr

/-- The cached indexes by path, and the number of serial numbers given out. -/
structure Cache where
  entries : List (String × Cached) := []
  issued : Nat := 0
  deriving DecidableEq, Repr

namespace Cache

/-- The entry of a path. -/
def get? (cache : Cache) (path : String) : Option Cached := cache.entries.lookup path

/-- The path has an entry. -/
def contains (cache : Cache) (path : String) : Bool := (cache.get? path).isSome

/-- The number of entries. -/
def size (cache : Cache) : Nat := cache.entries.length

/-- Drops all entries; serial numbers are not given out again. -/
def clear (cache : Cache) : Cache := { cache with entries := [] }

/-- Puts an entry in the place of the one with the same path, or at the end. -/
def put (path : String) (entry : Cached) : List (String × Cached) → List (String × Cached)
  | [] => [(path, entry)]
  | (other, old) :: rest =>
    if other = path then (path, entry) :: rest else (other, old) :: put path entry rest

/-- Gives an index a serial number of its own. -/
def issue (cache : Cache) (index : FileIndex) : Version × Cache :=
  (⟨cache.issued, index⟩, { cache with issued := cache.issued + 1 })

/-- Puts a new index in place of the old entry of a path. -/
def store (cache : Cache) (path : String) (index : FileIndex) (stamp : Option Int) :
    Cached × Cache :=
  let (version, cache) := cache.issue index
  let entry : Cached := ⟨version, stamp⟩
  (entry, { cache with entries := put path entry cache.entries })

/-- Replaces the index of a path, if it is still the expected one. -/
def swap (cache : Cache) (path : String) (expected : Nat) (replacement : Version) : Bool × Cache :=
  match cache.get? path with
  | none => (false, cache)
  | some entry =>
    if entry.version.serial = expected then
      (true, { cache with entries := put path ⟨replacement, entry.stamp⟩ cache.entries })
    else (false, cache)

/-- The entries sorted by path. -/
def sorted (cache : Cache) : List (String × Cached) :=
  cache.entries.mergeSort fun a b => decide (a.1 ≤ b.1)

end Cache

end TemplateAtlas
