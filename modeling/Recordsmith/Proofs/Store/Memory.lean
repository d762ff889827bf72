import Recordsmith.Store.Repository

/-!
# `Recordsmith.Proofs.Store.Memory`: the store in memory as a map

A `MemoryStore` is a list of entries in ascending order of their keys. What
matters of it is which record is under which key (`MemoryStore.get?`), and how
putting and erasing change that.

`upsert_eq` says in one equation what writing an entity into such a store does.
The record that is under the identity of the entity, or else a fresh one, is
written over, and what is left of it is put back, whether the write succeeded
or not. `persist_eq` says the same of persisting.

`persistFrom_cases` is about several entities in any kind of store: they are
written up to the first that fails.
-/

set_option autoImplicit false

namespace Recordsmith

open ObjectStore

/-! ### Entries -/

section

variable {key other : Identity} {row held : Row} {entries : List (Identity × Row)}

/-- An entry is found under the key that it was put in with. -/
theorem lookup_putEntry_self : (putEntry key row entries).lookup key = some row := by
  induction entries with
  | nil => simp [putEntry]
  | cons head rest ih =>
      obtain ⟨other, held⟩ := head
      rw [putEntry]
      split
      · simp
      · split
        · simp
        · -- The key comes later than the first one.
          rename_i hne
          rw [List.lookup_cons, beq_false_of_ne hne]
          exact ih

/-- Putting an entry in does not matter under other keys. -/
theorem lookup_putEntry_of_ne (h : other ≠ key) :
    (putEntry key row entries).lookup other = entries.lookup other := by
  induction entries with
  | nil => simp [putEntry, List.lookup_cons, beq_false_of_ne h]
  | cons head rest ih =>
      obtain ⟨first, held⟩ := head
      rw [putEntry]
      split
      · rw [List.lookup_cons, beq_false_of_ne h]
      · split
        · rename_i heq
          rw [List.lookup_cons, List.lookup_cons, beq_false_of_ne h, ← heq, beq_false_of_ne h]
        · rw [List.lookup_cons, List.lookup_cons, ih]

/-- Of two records put under one key, the second stays. -/
theorem putEntry_putEntry (first : Row) :
    putEntry key row (putEntry key first entries) = putEntry key row entries := by
  induction entries with
  | nil => simp [putEntry, Identity.lt_irrefl]
  | cons head rest ih =>
      obtain ⟨other, held⟩ := head
      simp only [putEntry]
      split
      · simp [putEntry, Identity.lt_irrefl]
      · split
        · simp [putEntry, Identity.lt_irrefl]
        · rename_i hlt hne
          simp [putEntry, hlt, hne, ih]

/-- Nothing is found under a key whose entries are dropped. -/
theorem lookup_filter_self :
    (entries.filter fun entry => entry.1 != key).lookup key = none := by
  induction entries with
  | nil => rfl
  | cons head rest ih =>
      by_cases h : head.1 = key
      · rw [List.filter_cons_of_neg (by simp [h]), ih]
      · rw [List.filter_cons_of_pos (by simp [h]), List.lookup_cons,
          beq_false_of_ne (Ne.symm h), ih]

/-- Dropping the entries of a key does not matter under other keys. -/
theorem lookup_filter_of_ne (h : other ≠ key) :
    (entries.filter fun entry => entry.1 != key).lookup other = entries.lookup other := by
  induction entries with
  | nil => rfl
  | cons head rest ih =>
      by_cases hkey : head.1 = key
      · rw [List.filter_cons_of_neg (by simp [hkey]), List.lookup_cons, hkey,
          beq_false_of_ne h, ih]
      · rw [List.filter_cons_of_pos (by simp [hkey]), List.lookup_cons, List.lookup_cons, ih]

/-- In ascending order, the entries are what looking up their keys finds. -/
theorem mem_iff_lookup (h : Ascending entries) :
    (key, row) ∈ entries ↔ entries.lookup key = some row := by
  induction entries with
  | nil => simp
  | cons head rest ih =>
      obtain ⟨first, held⟩ := head
      obtain ⟨hfirst, hrest⟩ := List.pairwise_cons.mp h
      by_cases hkey : key = first
      · subst hkey
        -- A second entry with this key would not come after the first.
        have hnot : ∀ found, (key, found) ∉ rest := fun found hmem =>
          Identity.lt_irrefl key (hfirst (key, found) hmem)
        simp [hnot, eq_comm]
      · simp [List.lookup_cons, beq_false_of_ne hkey, hkey, ih hrest]

end

/-! ### The store as a map -/

namespace MemoryStore

variable {store : MemoryStore} {key other : Identity} {row : Row}

/-- A record is stored under the identity that it was put in with. -/
@[simp] theorem get?_put_self : (store.put key row).get? key = some row :=
  lookup_putEntry_self

/-- Putting a record in does not matter under other identities. -/
theorem get?_put_of_ne (h : other ≠ key) : (store.put key row).get? other = store.get? other :=
  lookup_putEntry_of_ne h

/-- Nothing is stored under an identity that was taken out. -/
@[simp] theorem get?_erase_self : (store.erase key).get? key = none :=
  lookup_filter_self

/-- Taking a record out does not matter under other identities. -/
theorem get?_erase_of_ne (h : other ≠ key) : (store.erase key).get? other = store.get? other :=
  lookup_filter_of_ne h

/-- The last of two records with one identity stays. -/
theorem put_put (first : Row) : (store.put key first).put key row = store.put key row := by
  simp only [put, putEntry_putEntry]

/-- The entries of a store are what is stored under its keys. -/
theorem mem_entries_iff : (key, row) ∈ store.entries ↔ store.get? key = some row :=
  mem_iff_lookup store.ascending

/-- A store in memory looks a record up among its entries. -/
@[simp] theorem object?_eq (store : MemoryStore) (key : Identity) :
    object? store key = store.get? key := rfl

/-- A record is edited where it is stored, and put back under the same key. -/
@[simp] theorem edit?_eq (store : MemoryStore) (key : Identity) :
    edit? store key = (store.get? key).map fun row => (row, store.put key) := rfl

/-- A store in memory inserts in its own way. -/
@[simp] theorem insert_eq (store : MemoryStore) (row : Row) :
    ObjectStore.insert store row = store.insert row := rfl

/-- The record that an entity with an identity is written over. -/
def recordFor (store : MemoryStore) (translator : Translator) (identity : Identity) : Row :=
  (store.get? identity).getD (seedIdentity translator.fresh identity)

/-- What is reported before an entity with an identity is written. -/
def preparing (store : MemoryStore) (identity : Identity) : List Event :=
  if (store.get? identity).isSome then [] else [.creating identity, .inserting identity]

end MemoryStore

/-! ### Deleting entities -/

/-- A deletion takes the record out and says if there was one. -/
theorem delete_eq (store : MemoryStore) (identity : Identity) :
    (Repository.delete store identity).state = store.erase identity ∧
      (Repository.delete store identity).result = .ok (store.get? identity).isSome := by
  have hremove : remove store identity = (store.erase identity, store.get? identity) := rfl
  rw [Repository.delete, hremove]
  cases store.get? identity <;> exact ⟨rfl, rfl⟩

/-! ### Writing entities into the store -/

section

variable {translator : Translator} {store : MemoryStore} {entity : Entity}

/-- A record without an identity gets the one that is given. -/
theorem identity_seedIdentity {row : Row} (h : row.identity.isEmpty = true)
    (identity : Identity) : (seedIdentity row identity).identity = identity := by
  rw [seedIdentity, if_pos h]
  rfl

/-- A store has a record for an identity once it is prepared. -/
theorem prepare_eq (store : MemoryStore) (hfresh : translator.fresh.identity.isEmpty = true)
    {identity : Identity} (hid : identity.isEmpty = false) :
    ∃ prepared : MemoryStore,
      prepare translator store identity = ⟨prepared, store.preparing identity, .ok ()⟩ ∧
      prepared.get? identity = some (store.recordFor translator identity) ∧
      ∀ row, prepared.put identity row = store.put identity row := by
  cases hget : store.get? identity with
  | some row =>
      refine ⟨store, ?_, ?_, fun _ => rfl⟩
      · simp [prepare, contains, hget, MemoryStore.preparing, Step.done]
      · rw [hget, MemoryStore.recordFor, hget, Option.getD_some]
  | none =>
      -- The fresh record gets the identity, so it is taken in under it.
      have hseed := identity_seedIdentity hfresh identity
      refine ⟨store.put identity (seedIdentity translator.fresh identity), ?_, ?_, ?_⟩
      · simp [prepare, contains, hget, MemoryStore.preparing, MemoryStore.insert, hseed, hid,
          Step.after]
      · rw [MemoryStore.get?_put_self, MemoryStore.recordFor, hget, Option.getD_none]
      · exact fun row => MemoryStore.put_put _

/-- Without an identity an entity is refused, and nothing happens. -/
theorem upsert_of_empty (hid : entity.identity.isEmpty = true) :
    upsert translator store entity = .fail store (.refused .emptyIdentity) := by
  rw [upsert, if_pos hid]

/-- An entity is written over its record, and what is left is put in its place,
also if the write failed. -/
theorem upsert_eq (hfresh : translator.fresh.identity.isEmpty = true)
    (hid : entity.identity.isEmpty = false) {step : Step Row Unit}
    (hstep : translator.write entity (store.recordFor translator entity.identity) = step) :
    upsert translator store entity
      = ⟨store.put entity.identity step.state, store.preparing entity.identity ++ step.log,
          step.result.map fun _ => step.state⟩ := by
  obtain ⟨prepared, hprepare, hget, hput⟩ := prepare_eq store hfresh hid
  rw [upsert, if_neg (by simp [hid]), hprepare]
  simp only [Step.andThen, overwrite, MemoryStore.edit?_eq, hget, Option.map_some, hstep, hput]

/-- Persisting is writing, with a report if it succeeded. -/
theorem persist_eq_upsert {σ : Type} [ObjectStore σ] (translator : Translator) (store : σ)
    (entity : Entity) :
    (Repository.persist translator store entity).state
        = (upsert translator store entity).state ∧
      (Repository.persist translator store entity).result
        = (upsert translator store entity).result.map fun _ => () := by
  unfold Repository.persist Step.andThen
  split <;> rename_i hresult <;> simp [hresult, Except.map]

/-- Persisting an entity stores the record as the translator leaves it, and ends as the
translator does. -/
theorem persist_eq (hfresh : translator.fresh.identity.isEmpty = true)
    (hid : entity.identity.isEmpty = false) {step : Step Row Unit}
    (hstep : translator.write entity (store.recordFor translator entity.identity) = step) :
    (Repository.persist translator store entity).state = store.put entity.identity step.state ∧
      (Repository.persist translator store entity).result = step.result := by
  obtain ⟨hstate, hresult⟩ := persist_eq_upsert translator store entity
  rw [upsert_eq hfresh hid hstep] at hstate hresult
  refine ⟨hstate, ?_⟩
  rw [hresult]
  cases step.result <;> rfl

/-- An entity without an identity is refused before anything else happens. -/
theorem persist_of_empty (hid : entity.identity.isEmpty = true) :
    Repository.persist translator store entity = .fail store (.refused .emptyIdentity) := by
  rw [Repository.persist, upsert_of_empty hid]
  rfl

end

/-! ### Writing several entities -/

section

open Repository

variable {σ : Type} [ObjectStore σ] (translator : Translator)

/-- What each write keeps, all of them keep. -/
theorem persistFrom_preserves {P : σ → Prop} {entities : List Entity}
    (hstep : ∀ store, ∀ entity ∈ entities, P store → P (persist translator store entity).state)
    (written : Nat) {store : σ} (h : P store) :
    P (persistFrom translator written store entities).state := by
  induction entities generalizing written store with
  | nil => exact h
  | cons entity rest ih =>
      have hfirst := hstep store entity List.mem_cons_self h
      rw [persistFrom]
      split
      · exact ih (fun store entity hmem => hstep store entity (List.mem_cons_of_mem _ hmem))
          (written + 1) hfirst
      · exact hfirst

/-- If no write fails, the number of entities is given. -/
theorem persistFrom_cons_of_ok {store : σ} {entity : Entity} (written : Nat)
    (entities : List Entity) (h : (persist translator store entity).result = .ok ()) :
    persistFrom translator written store (entity :: entities)
      = (persistFrom translator (written + 1) (persist translator store entity).state
          entities).after (persist translator store entity).log := by
  simp only [persistFrom, h]

/-- Entities are written up to the first that fails. Either there is none, or
the failure and what is left are those of writing it after the ones before. -/
theorem persistFrom_cases (entities : List Entity) (written : Nat) (store : σ) :
    (persistFrom translator written store entities).result = .ok (written + entities.length) ∨
    ∃ before entity after failure,
      entities = before ++ entity :: after ∧
      (persistFrom translator written store before).result = .ok (written + before.length) ∧
      (persist translator (persistFrom translator written store before).state entity).result
        = .error failure ∧
      (persistFrom translator written store entities).result = .error failure ∧
      (persistFrom translator written store entities).state
        = (persist translator (persistFrom translator written store before).state
            entity).state := by
  induction entities generalizing written store with
  | nil => exact .inl rfl
  | cons first rest ih =>
      cases hfirst : (persist translator store first).result with
      | error failure =>
          refine .inr ⟨[], first, rest, failure, rfl, rfl, hfirst, ?_, ?_⟩
          · simp only [persistFrom, hfirst]
          · simp only [persistFrom, hfirst, Step.done]
      | ok _ =>
          -- The first is written, so the run goes on from there, whatever follows.
          have hcons := fun entities =>
            persistFrom_cons_of_ok translator written entities hfirst
          rcases ih (written + 1) (persist translator store first).state with
            hok | ⟨before, entity, after, failure, rfl, hbefore, hfail, hresult, hstate⟩
          · refine .inl ?_
            rw [hcons, Step.after, hok, List.length_cons, Nat.add_right_comm, Nat.add_assoc]
          · refine .inr ⟨first :: before, entity, after, failure, rfl, ?_, ?_, ?_, ?_⟩
            · rw [hcons, Step.after, hbefore, List.length_cons, Nat.add_right_comm,
                Nat.add_assoc]
            · rw [hcons]
              exact hfail
            · rw [hcons]
              exact hresult
            · rw [hcons, hcons]
              exact hstate

end

end Recordsmith
