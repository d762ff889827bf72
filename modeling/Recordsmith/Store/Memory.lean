import Recordsmith.Store.Basic

/-!
# `Recordsmith.Store.Memory`: the store in memory

`MemoryStore` keeps records with their keys in ascending order of the keys.
The key of a record is the identity that it had when it was taken in.

Two further stores serve to see what happens when a store does not keep
its side: `Sink` takes every record and keeps none, and `Frozen` keeps
records but does not let them be changed.
-/

set_option autoImplicit false

namespace Recordsmith

/-- Puts a record under a key, in place of one that is there. -/
def putEntry (key : Identity) (row : Row) : List (Identity × Row) → List (Identity × Row)
  | [] => [(key, row)]
  | (other, held) :: rest =>
    if key < other then (key, row) :: (other, held) :: rest
    else if key = other then (key, row) :: rest
    else (other, held) :: putEntry key row rest

/-- Whether keys ascend. -/
def Ascending (entries : List (Identity × Row)) : Prop :=
  entries.Pairwise fun a b => a.1 < b.1

/-- An entry is the one that was put in, or it was there before. -/
theorem mem_putEntry {key : Identity} {row : Row} {entries : List (Identity × Row)}
    {entry : Identity × Row} (h : entry ∈ putEntry key row entries) :
    entry = (key, row) ∨ entry ∈ entries := by
  induction entries with
  | nil => simpa [putEntry] using h
  | cons head rest ih =>
    obtain ⟨other, held⟩ := head
    simp only [putEntry] at h
    split at h
    · simpa using h
    · split at h
      · rcases List.mem_cons.1 h with h | h
        · exact .inl h
        · exact .inr (List.mem_cons_of_mem _ h)
      · rcases List.mem_cons.1 h with h | h
        · exact .inr (h ▸ List.mem_cons_self)
        · rcases ih h with h | h
          · exact .inl h
          · exact .inr (List.mem_cons_of_mem _ h)

/-- Putting an entry in keeps the entries in order. -/
theorem ascending_putEntry {key : Identity} {row : Row} {entries : List (Identity × Row)}
    (h : Ascending entries) : Ascending (putEntry key row entries) := by
  induction entries with
  | nil => simp [putEntry, Ascending]
  | cons head rest ih =>
    obtain ⟨other, held⟩ := head
    have hrest := List.pairwise_cons.1 h
    simp only [putEntry]
    split
    · rename_i hlt
      refine List.pairwise_cons.2 ⟨fun entry hmem => ?_, h⟩
      rcases List.mem_cons.1 hmem with rfl | hmem
      · exact hlt
      · exact Identity.lt_trans hlt (hrest.1 entry hmem)
    · split
      · rename_i heq
        exact List.pairwise_cons.2 ⟨fun entry hmem => heq ▸ hrest.1 entry hmem, hrest.2⟩
      · rename_i hnot hne
        refine List.pairwise_cons.2 ⟨fun entry hmem => ?_, ih hrest.2⟩
        rcases mem_putEntry hmem with rfl | hmem
        · rcases Identity.lt_trichotomy key other with h | h | h
          · exact absurd h hnot
          · exact absurd h hne
          · exact h
        · exact hrest.1 entry hmem

/-- Records by their keys, in ascending order. -/
structure MemoryStore where
  entries : List (Identity × Row)
  ascending : Ascending entries

namespace MemoryStore

/-- The store without records. -/
def empty : MemoryStore :=
  ⟨[], List.Pairwise.nil⟩

/-- The store with a record under a key, in place of one that is there. -/
def put (store : MemoryStore) (key : Identity) (row : Row) : MemoryStore :=
  ⟨putEntry key row store.entries, ascending_putEntry store.ascending⟩

/-- The record under a key. -/
def get? (store : MemoryStore) (key : Identity) : Option Row :=
  store.entries.lookup key

/-- The store without the record under a key. -/
def erase (store : MemoryStore) (key : Identity) : MemoryStore :=
  ⟨store.entries.filter fun entry => entry.1 != key, store.ascending.filter _⟩

/-- Takes a record in, unless it has no identity or there is one with the same
identity. -/
def insert (store : MemoryStore) (row : Row) : Step MemoryStore Unit :=
  if row.identity.isEmpty then .fail store (.refused .emptyIdentity)
  else if (store.get? row.identity).isSome then
    .fail store (.refused (.duplicateIdentity row.identity))
  else ⟨store.put row.identity row, [.inserting row.identity], .ok ()⟩

instance : ObjectStore MemoryStore where
  object? := get?
  edit? store key := (store.get? key).map fun row => (row, store.put key)
  insert := insert
  remove store key := (store.erase key, store.get? key)
  objects store := store.entries.map (·.2)
  count store := store.entries.length

end MemoryStore

/-- The store that takes every record and keeps none. -/
inductive Sink where
  | sink

instance : ObjectStore Sink where
  object? _ _ := none
  edit? _ _ := none
  insert store _ := .done store ()
  remove store _ := (store, none)
  objects _ := []
  count _ := 0

/-- A store in memory whose records cannot be changed. -/
structure Frozen where
  records : MemoryStore

instance : ObjectStore Frozen where
  object? store key := store.records.get? key
  edit? _ _ := none
  insert store row := (store.records.insert row).within Frozen.mk
  remove store key := (⟨store.records.erase key⟩, store.records.get? key)
  objects store := ObjectStore.objects store.records
  count store := ObjectStore.count store.records

end Recordsmith
