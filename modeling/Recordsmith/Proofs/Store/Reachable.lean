import Recordsmith.Proofs.Store.Memory
import Recordsmith.Sample.Tag
import Recordsmith.Translate.Derived

/-!
# `Recordsmith.Proofs.Store.Reachable`: the stores that operations lead to

The key of a record and the identity in the record are two copies of one fact.
`MemoryStore.WellKeyed` says that they agree and are not empty. Every operation
keeps this, also one that fails, provided that its translator starts from
records without an identity and leaves identities alone
(`Translator.KeepsIdentity`). The translators of schemas do
(`keepsIdentity_derived`).

So the invariant holds after any run of operations on the empty store
(`wellKeyed_afterAll`), and with it what it implies: the records are listed in
ascending order of their identities, and an upsert never meets a record that is
missing or there twice.
-/

set_option autoImplicit false

namespace Recordsmith

open ObjectStore

/-- An identity that comes before another is a different one. -/
theorem Identity.ne_of_lt {a b : Identity} (h : a < b) : a ≠ b := by
  intro heq
  rw [heq] at h
  exact Identity.lt_irrefl b h

/-! ### Translators that leave identities alone -/

/-- Whether fresh records have no identity, and writing leaves the identity of a
record as it is, also if it fails. -/
structure Translator.KeepsIdentity (translator : Translator) : Prop where
  fresh_empty : translator.fresh.identity.isEmpty = true
  write_identity : ∀ entity row, (translator.write entity row).state.identity = row.identity

/-- The translator of a schema leaves identities alone. -/
theorem keepsIdentity_derived (bindings : Bindings) (schema : Schema) :
    (Handler.translator bindings (.derived schema)).KeepsIdentity where
  fresh_empty := rfl
  write_identity entity row := by
    cases entity
    rfl

/-! ### Keys and identities -/

/-- Whether every key is the identity of its record, and none is empty. -/
structure MemoryStore.WellKeyed (store : MemoryStore) : Prop where
  identity_eq : ∀ {key row}, store.get? key = some row → row.identity = key
  key_nonempty : ∀ {key row}, store.get? key = some row → key.isEmpty = false

namespace MemoryStore.WellKeyed

variable {store : MemoryStore}

/-- The empty store has no key at all. -/
theorem empty : MemoryStore.empty.WellKeyed where
  identity_eq h := by cases h
  key_nonempty h := by cases h

/-- A record under its own identity keeps the keys right. -/
theorem put (h : store.WellKeyed) {key : Identity} {row : Row} (hrow : row.identity = key)
    (hkey : key.isEmpty = false) : (store.put key row).WellKeyed where
  identity_eq {other held} hget := by
    by_cases heq : other = key
    · rw [heq, get?_put_self] at hget
      rw [heq, ← hrow, Option.some.inj hget]
    · rw [get?_put_of_ne heq] at hget
      exact h.identity_eq hget
  key_nonempty {other held} hget := by
    by_cases heq : other = key
    · rw [heq, hkey]
    · rw [get?_put_of_ne heq] at hget
      exact h.key_nonempty hget

/-- Taking a record out keeps the keys right. -/
theorem erase (h : store.WellKeyed) (key : Identity) : (store.erase key).WellKeyed := by
  have hkept : ∀ {other row}, (store.erase key).get? other = some row →
      store.get? other = some row := by
    intro other row hget
    by_cases heq : other = key
    · rw [heq, get?_erase_self] at hget
      cases hget
    · rwa [get?_erase_of_ne heq] at hget
  exact ⟨fun hget => h.identity_eq (hkept hget), fun hget => h.key_nonempty (hkept hget)⟩

/-- A record is taken in, or the store stays as it is. -/
theorem insert (h : store.WellKeyed) (row : Row) : (store.insert row).state.WellKeyed := by
  unfold MemoryStore.insert
  split
  · exact h
  · rename_i hid
    split
    · exact h
    · exact h.put rfl (by simpa using hid)

/-- The record that an entity is written over has the identity of the entity. -/
theorem identity_recordFor (h : store.WellKeyed) {translator : Translator}
    (hfresh : translator.fresh.identity.isEmpty = true) (identity : Identity) :
    (store.recordFor translator identity).identity = identity := by
  unfold recordFor
  cases hget : store.get? identity with
  | some row => exact h.identity_eq hget
  | none => exact identity_seedIdentity hfresh identity

/-- What a write leaves in the place of a record, also if it fails. -/
theorem put_written (h : store.WellKeyed) {translator : Translator}
    (hkeep : translator.KeepsIdentity) {entity : Entity}
    (hid : entity.identity.isEmpty = false) :
    (store.put entity.identity
      (translator.write entity
        (store.recordFor translator entity.identity)).state).WellKeyed := by
  refine h.put ?_ hid
  rw [hkeep.write_identity, h.identity_recordFor hkeep.fresh_empty]

/-- Inserting or replacing a record keeps the keys right, also where it fails. -/
theorem upsert (h : store.WellKeyed) {translator : Translator}
    (hkeep : translator.KeepsIdentity) (entity : Entity) :
    (upsert translator store entity).state.WellKeyed := by
  cases hid : entity.identity.isEmpty with
  | true =>
      rw [upsert_of_empty hid]
      exact h
  | false =>
      rw [upsert_eq hkeep.fresh_empty hid rfl]
      exact h.put_written hkeep hid

/-- Persisting an entity keeps the keys right, also where it fails. -/
theorem persist (h : store.WellKeyed) {translator : Translator}
    (hkeep : translator.KeepsIdentity) (entity : Entity) :
    (Repository.persist translator store entity).state.WellKeyed := by
  rw [(persist_eq_upsert translator store entity).1]
  exact h.upsert hkeep entity

/-- Persisting entities keeps the keys right, also where one of them fails. -/
theorem persistAll (h : store.WellKeyed) {translator : Translator}
    (hkeep : translator.KeepsIdentity) (entities : List Entity) :
    (Repository.persistAll translator store entities).state.WellKeyed :=
  persistFrom_preserves translator (fun _ entity _ hstore => hstore.persist hkeep entity) 0 h

/-- A deletion keeps the keys right. -/
theorem delete (h : store.WellKeyed) (identity : Identity) :
    (Repository.delete store identity).state.WellKeyed := by
  rw [(delete_eq store identity).1]
  exact h.erase identity

/-! ### What follows for listing and looking up -/

/-- The records are listed in ascending order of their identities. -/
theorem objects_ascending (h : store.WellKeyed) :
    (objects store).Pairwise fun a b => a.identity < b.identity := by
  have hkey : ∀ entry ∈ store.entries, entry.2.identity = entry.1 :=
    fun _ hentry => h.identity_eq (mem_entries_iff.mp hentry)
  -- The keys ascend by construction, and they are the identities.
  show (store.entries.map (·.2)).Pairwise _
  rw [List.pairwise_map]
  refine store.ascending.imp_of_mem ?_
  intro a b ha hb hlt
  rw [hkey a ha, hkey b hb]
  exact hlt

/-- A record is listed exactly if it is found under its identity. -/
theorem mem_objects_iff (h : store.WellKeyed) {row : Row} :
    row ∈ objects store ↔ store.get? row.identity = some row := by
  show row ∈ store.entries.map (·.2) ↔ _
  rw [List.mem_map]
  constructor
  · rintro ⟨⟨key, held⟩, hentry, rfl⟩
    have hget := mem_entries_iff.mp hentry
    rwa [h.identity_eq hget]
  · intro hget
    exact ⟨(row.identity, row), mem_entries_iff.mpr hget, rfl⟩

/-- A record is found exactly under the identities that are listed. -/
theorem isSome_object?_iff (h : store.WellKeyed) (identity : Identity) :
    (object? store identity).isSome = true ↔
      identity ∈ (objects store).map Row.identity := by
  rw [object?_eq, Option.isSome_iff_exists, List.mem_map]
  constructor
  · rintro ⟨row, hget⟩
    have heq := h.identity_eq hget
    exact ⟨row, h.mem_objects_iff.mpr (heq ▸ hget), heq⟩
  · rintro ⟨row, hrow, rfl⟩
    exact ⟨row, h.mem_objects_iff.mp hrow⟩

end MemoryStore.WellKeyed

/-! ### Taking records in -/

/-- A record without an identity is refused first, then one whose identity is
stored. Any other is taken in. -/
theorem insert_cases (store : MemoryStore) (row : Row) :
    (row.identity.isEmpty = true ∧
      store.insert row = .fail store (.refused .emptyIdentity)) ∨
    (row.identity.isEmpty = false ∧ (store.get? row.identity).isSome = true ∧
      store.insert row = .fail store (.refused (.duplicateIdentity row.identity))) ∨
    (row.identity.isEmpty = false ∧ (store.get? row.identity).isSome = false ∧
      store.insert row = ⟨store.put row.identity row, [.inserting row.identity], .ok ()⟩) := by
  unfold MemoryStore.insert
  cases hid : row.identity.isEmpty with
  | true => exact .inl ⟨rfl, rfl⟩
  | false =>
      cases hget : (store.get? row.identity).isSome with
      | true => exact .inr (.inl ⟨rfl, rfl, rfl⟩)
      | false => exact .inr (.inr ⟨rfl, rfl, rfl⟩)

/-- A failing insertion leaves the store as it is. -/
theorem insert_failure {store : MemoryStore} {row : Row} {failure : Failure}
    (h : (store.insert row).result = .error failure) :
    (store.insert row).state = store ∧
      (failure = .refused .emptyIdentity ∨
        failure = .refused (.duplicateIdentity row.identity)) := by
  rcases insert_cases store row with ⟨_, hinsert⟩ | ⟨_, _, hinsert⟩ | ⟨_, _, hinsert⟩
  · rw [hinsert] at h ⊢
    cases h
    exact ⟨rfl, .inl rfl⟩
  · rw [hinsert] at h ⊢
    cases h
    exact ⟨rfl, .inr rfl⟩
  · rw [hinsert] at h
    cases h

/-- An insertion says that the identity is empty exactly if it is. -/
theorem insert_eq_emptyIdentity_iff (store : MemoryStore) (row : Row) :
    (store.insert row).result = .error (.refused .emptyIdentity) ↔
      row.identity.isEmpty = true := by
  rcases insert_cases store row with ⟨hid, hinsert⟩ | ⟨hid, _, hinsert⟩ | ⟨hid, _, hinsert⟩ <;>
    simp [hinsert, hid, Step.fail]

/-- No record without an identity is stored, so the order of the two checks does
not show. -/
theorem MemoryStore.WellKeyed.insert_eq_duplicateIdentity_iff {store : MemoryStore}
    (h : store.WellKeyed) (row : Row) :
    (store.insert row).result = .error (.refused (.duplicateIdentity row.identity)) ↔
      (store.get? row.identity).isSome = true := by
  rcases insert_cases store row with ⟨hid, hinsert⟩ | ⟨_, hget, hinsert⟩ | ⟨_, hget, hinsert⟩
  · -- The first check fails here, and the second would not.
    have hnone : store.get? row.identity = none := by
      cases hget : store.get? row.identity with
      | none => rfl
      | some stored => exact absurd (h.key_nonempty hget) (by simp [hid])
    simp [hinsert, hnone, Step.fail]
  · simp [hinsert, hget, Step.fail]
  · simp [hinsert, hget]

/-! ### Runs of operations -/

/-- An operation that may change a store. -/
inductive Operation where
  | insert (row : Row)
  | remove (identity : Identity)
  | upsert (translator : Translator) (entity : Entity)
  | persist (translator : Translator) (entity : Entity)
  | persistAll (translator : Translator) (entities : List Entity)
  | delete (identity : Identity)

namespace Operation

/-- The store after an operation, whether it succeeded or not. -/
def after : Operation → MemoryStore → MemoryStore
  | .insert row, store => (ObjectStore.insert store row).state
  | .remove identity, store => (ObjectStore.remove store identity).1
  | .upsert translator entity, store => (ObjectStore.upsert translator store entity).state
  | .persist translator entity, store => (Repository.persist translator store entity).state
  | .persistAll translator entities, store =>
    (Repository.persistAll translator store entities).state
  | .delete identity, store => (Repository.delete store identity).state

/-- Whether the translator of an operation, if it has one, leaves identities
alone. -/
def KeepsIdentity : Operation → Prop
  | .upsert translator _ | .persist translator _ | .persistAll translator _ =>
    translator.KeepsIdentity
  | _ => True

/-- The store after some operations, one after the other. -/
def afterAll (operations : List Operation) (store : MemoryStore) : MemoryStore :=
  operations.foldl (fun store operation => operation.after store) store

/-- Every operation keeps keys and identities equal. -/
theorem wellKeyed_after {operation : Operation} (hkeep : operation.KeepsIdentity)
    {store : MemoryStore} (h : store.WellKeyed) : (operation.after store).WellKeyed := by
  cases operation with
  | insert row => exact h.insert row
  | remove identity => exact h.erase identity
  | upsert translator entity => exact h.upsert hkeep entity
  | persist translator entity => exact h.persist hkeep entity
  | persistAll translator entities => exact h.persistAll hkeep entities
  | delete identity => exact h.delete identity

/-- So does every run of operations. -/
theorem wellKeyed_afterAll {operations : List Operation}
    (hkeep : ∀ operation ∈ operations, operation.KeepsIdentity) {store : MemoryStore}
    (h : store.WellKeyed) : (afterAll operations store).WellKeyed := by
  induction operations generalizing store with
  | nil => exact h
  | cons operation rest ih =>
      exact ih (fun operation hmem => hkeep operation (List.mem_cons_of_mem _ hmem))
        (wellKeyed_after (hkeep operation List.mem_cons_self) h)

end Operation

/-! ### The invariant of reachable stores -/

/-- What holds of every store that operations lead to from the empty one.

Keys are the identities of their records and not empty. Records are listed in
ascending order, each identity once, and found exactly under the identities that
are listed. A failing insertion changes nothing, and says that the identity is
empty or stored exactly if it is. An upsert or a persist fails for an empty
identity or as the translator fails on the stored record or a fresh one, and in
no other way. -/
theorem reachable_store_consistent (operations : List Operation)
    (hkeep : ∀ operation ∈ operations, operation.KeepsIdentity) (store : MemoryStore)
    (hstore : store = Operation.afterAll operations .empty) :
    (∀ entry ∈ store.entries, entry.1.isEmpty = false ∧ entry.2.identity = entry.1) ∧
    ((objects store).Pairwise fun a b => a.identity < b.identity) ∧
    ((objects store).map Row.identity).Nodup ∧
    (objects store).length = count store ∧
    (∀ identity, (object? store identity).isSome = true ↔
      identity ∈ (objects store).map Row.identity) ∧
    (∀ row failure, (insert store row).result = .error failure →
      (insert store row).state = store ∧
        (failure = .refused .emptyIdentity ∨
          failure = .refused (.duplicateIdentity row.identity))) ∧
    (∀ row, (insert store row).result = .error (.refused .emptyIdentity) ↔
      row.identity.isEmpty = true) ∧
    (∀ row, (insert store row).result = .error (.refused (.duplicateIdentity row.identity)) ↔
      (object? store row.identity).isSome = true) ∧
    (∀ translator : Translator, translator.KeepsIdentity → ∀ entity : Entity,
      (entity.identity.isEmpty = true →
        (upsert translator store entity).result = .error (.refused .emptyIdentity) ∧
        (Repository.persist translator store entity).result
          = .error (.refused .emptyIdentity)) ∧
      (entity.identity.isEmpty = false → ∀ step : Step Row Unit,
        translator.write entity (store.recordFor translator entity.identity) = step →
          (upsert translator store entity).result = step.result.map (fun _ => step.state) ∧
          (Repository.persist translator store entity).result = step.result)) ∧
    (∀ bindings schema, (Handler.translator bindings (.derived schema)).KeepsIdentity) := by
  -- All parts follow from the keys being right, which every operation keeps.
  have hkeyed : store.WellKeyed := hstore ▸ Operation.wellKeyed_afterAll hkeep .empty
  refine ⟨?_, hkeyed.objects_ascending, ?_, ?_, hkeyed.isSome_object?_iff,
    fun _ _ => insert_failure, insert_eq_emptyIdentity_iff store,
    hkeyed.insert_eq_duplicateIdentity_iff, ?_, keepsIdentity_derived⟩
  · intro entry hentry
    have hget := MemoryStore.mem_entries_iff.mp hentry
    exact ⟨hkeyed.key_nonempty hget, hkeyed.identity_eq hget⟩
  · rw [List.Nodup, List.pairwise_map]
    exact hkeyed.objects_ascending.imp fun hlt => Identity.ne_of_lt hlt
  · exact List.length_map _
  · intro translator hkeep entity
    refine ⟨fun hid => ?_, fun hid step hstep => ?_⟩
    · rw [upsert_of_empty hid, persist_of_empty hid]
      exact ⟨rfl, rfl⟩
    · rw [upsert_eq hkeep.fresh_empty hid hstep]
      exact ⟨rfl, (persist_eq hkeep.fresh_empty hid hstep).2⟩

/-! ### A run with a refused tag -/

namespace Sample

/-- The translator of tags leaves identities alone, also if it refuses a label. -/
theorem keepsIdentity_tag : Tag.translator.KeepsIdentity where
  fresh_empty := rfl
  write_identity entity row := by
    -- Whatever the branch, the record is rebuilt around its own identity.
    show (Tag.write entity row).state.identity = row.identity
    unfold Tag.write
    split
    · unfold Tag.overwrite
      split
      · rfl
      · split <;> rfl
    · rfl

/-- A tag whose label is refused, a record that is taken in, one that is not,
and a tag that is removed. -/
def tagOperations : List Operation := [
  .persist Tag.translator (.mk ⟨"t"⟩ [] [.one (.text ""), .one (.integer 1)]),
  .insert (Tag.row ⟨"a"⟩ (.text "x") (.integer 2) 0),
  .insert (Tag.row ⟨"t"⟩ (.text "y") (.integer 3) 0),
  .upsert Tag.translator (.mk ⟨"c"⟩ [] [.one (.text "z"), .one (.integer 4)]),
  .delete ⟨"c"⟩]

end Sample

/-- A tag that fails to be written is stored all the same, and its key is listed once. -/
theorem reachable_store_consistent_tags :
    (objects (Operation.afterAll Sample.tagOperations .empty)).map Row.identity
      = [⟨"a"⟩, ⟨"t"⟩] ∧
    ((objects (Operation.afterAll Sample.tagOperations .empty)).map Row.identity).Nodup := by
  have hkeep : ∀ operation ∈ Sample.tagOperations, operation.KeepsIdentity := by
    simp [Sample.tagOperations, Operation.KeepsIdentity, Sample.keepsIdentity_tag]
  exact ⟨rfl, (reachable_store_consistent Sample.tagOperations hkeep _ rfl).2.2.1⟩

end Recordsmith
