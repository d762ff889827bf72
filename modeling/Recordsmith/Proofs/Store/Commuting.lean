import Mathlib.Data.List.Nodup
import Mathlib.Data.List.Perm.Basic
import Recordsmith.Proofs.Store.Refinement

/-!
# `Recordsmith.Proofs.Store.Commuting`: changes of different entities in any order

Persisting an entity and deleting one look at the record of one identity and change that
record alone (`Local`). What such an operation does cannot depend on others that concern other
identities, and since a store is what is under its keys (`MemoryStore.ext_get?`), the order of
the two does not show in the store either (`Local.comm`).

For several entities this makes a batch of writes independent of its order. Each write of the
batch succeeds if it would succeed alone (`persistFrom_eq_foldl`), so either all orders go
through or none does.
-/

set_option autoImplicit false

namespace Recordsmith

open ObjectStore

/-! ### Stores with the same records -/

/-- A store is known by what is under its keys. -/
theorem MemoryStore.ext_get? {store other : MemoryStore}
    (h : ∀ key, store.get? key = other.get? key) : store = other := by
  have hnodup : ∀ {store : MemoryStore}, store.entries.Nodup := fun {store} =>
    store.ascending.imp fun {a b} hlt heq => Identity.ne_of_lt hlt (congrArg Prod.fst heq)
  have hperm : store.entries.Perm other.entries := by
    rw [List.perm_ext_iff_of_nodup hnodup hnodup]
    rintro ⟨key, row⟩
    rw [mem_entries_iff, mem_entries_iff, h]
  -- Two rows with the same entries, both in ascending order, are the same row.
  have hentries : store.entries = other.entries := by
    refine hperm.eq_of_pairwise ?_ store.ascending other.ascending
    intro a b _ _ hlt hgt
    exact absurd (Identity.lt_trans hlt hgt) (Identity.lt_irrefl a.1)
  cases store
  cases other
  cases hentries
  rfl

/-! ### Operations on one record -/

/-- Whether an operation concerns the record under one key only: it leaves all others alone,
and what it says and leaves under the key is decided by what was there. -/
structure Local {α : Type} (key : Identity) (operation : MemoryStore → MemoryStore × α) :
    Prop where
  frame : ∀ store other, other ≠ key → (operation store).1.get? other = store.get? other
  own : ∀ store next, store.get? key = next.get? key →
    (operation store).1.get? key = (operation next).1.get? key ∧
      (operation store).2 = (operation next).2

namespace Local

variable {α β : Type} {key other : Identity} {first : MemoryStore → MemoryStore × α}
  {second : MemoryStore → MemoryStore × β}

/-- After an operation on another record, an operation says the same. -/
theorem says_same (hfirst : Local key first) (hsecond : Local other second) (hne : key ≠ other)
    (store : MemoryStore) : (second (first store).1).2 = (second store).2 :=
  (hsecond.own _ _ (hfirst.frame store other (Ne.symm hne))).2

/-- Operations on different records can be done in either order. -/
theorem comm (hfirst : Local key first) (hsecond : Local other second) (hne : key ≠ other)
    (store : MemoryStore) : (second (first store).1).1 = (first (second store).1).1 := by
  refine MemoryStore.ext_get? fun place => ?_
  by_cases hkey : place = key
  · -- Only the first operation concerns this record.
    subst hkey
    rw [hsecond.frame _ _ hne]
    exact (hfirst.own _ _ (hsecond.frame store place hne)).1.symm
  · rw [hfirst.frame _ _ hkey]
    by_cases hother : place = other
    · subst hother
      exact (hsecond.own _ _ (hfirst.frame store place hkey)).1
    · rw [hsecond.frame _ _ hother, hsecond.frame _ _ hother, hfirst.frame _ _ hkey]

end Local

/-- The identity of the entity that a request changes, if it changes one. -/
def Request.target? : Request → Option Identity
  | .persist entity => some entity.identity
  | .delete identity => some identity
  | _ => none

section

variable {translator : Translator}

/-- Persisting concerns the record of the entity. -/
theorem local_persist (hfresh : translator.fresh.identity.isEmpty = true) {entity : Entity}
    (hid : entity.identity.isEmpty = false) :
    Local entity.identity fun store => Request.serve translator store (.persist entity) := by
  have hpersist := fun store : MemoryStore => persist_eq hfresh hid
    (rfl : translator.write entity (store.recordFor translator entity.identity) = _)
  constructor
  · intro store other hother
    rw [Request.serve, (hpersist store).1, MemoryStore.get?_put_of_ne hother]
  · intro store next hsame
    -- The translator starts from the record that is stored, or from a fresh one, and sees no
    -- other.
    have hrecord : store.recordFor translator entity.identity
        = next.recordFor translator entity.identity := by
      rw [MemoryStore.recordFor, MemoryStore.recordFor, hsame]
    simp only [Request.serve]
    rw [(hpersist store).1, (hpersist next).1, (hpersist store).2, (hpersist next).2, hrecord,
      MemoryStore.get?_put_self, MemoryStore.get?_put_self]
    exact ⟨rfl, rfl⟩

/-- Deleting concerns the record that is deleted. -/
theorem local_delete (identity : Identity) :
    Local identity fun store => Request.serve translator store (.delete identity) where
  frame store other hother := by
    rw [Request.serve, (delete_eq store identity).1, MemoryStore.get?_erase_of_ne hother]
  own store next hsame := by
    obtain ⟨hstate, hresult⟩ := delete_eq store identity
    obtain ⟨hstate', hresult'⟩ := delete_eq next identity
    simp only [Request.serve]
    rw [hstate, hstate', hresult, hresult', hsame, MemoryStore.get?_erase_self,
      MemoryStore.get?_erase_self]
    exact ⟨rfl, rfl⟩

/-- A request for one identity looks at its record only and touches no other. -/
theorem local_serve (hfresh : translator.fresh.identity.isEmpty = true) {request : Request}
    {identity : Identity} (htarget : request.target? = some identity)
    (hid : identity.isEmpty = false) :
    Local identity fun store => request.serve translator store := by
  cases request with
  | persist entity =>
      cases htarget
      exact local_persist hfresh hid
  | delete _ =>
      cases htarget
      exact local_delete identity
  | _ => cases htarget

/-! ### Several entities -/

/-- Whether entities have identities, all of them different. -/
structure Distinct (entities : List Entity) : Prop where
  identified : ∀ entity ∈ entities, entity.identity.isEmpty = false
  nodup : (entities.map Entity.identity).Nodup

/-- Without the first of them, distinct entities are distinct still. -/
theorem Distinct.tail {entity : Entity} {rest : List Entity} (h : Distinct (entity :: rest)) :
    Distinct rest :=
  ⟨fun other hother => h.identified other (List.mem_cons_of_mem _ hother),
    (List.nodup_cons.mp h.nodup).2⟩

/-- The first of distinct entities has an identity of its own. -/
theorem Distinct.ne_of_mem {entity other : Entity} {rest : List Entity}
    (h : Distinct (entity :: rest)) (hother : other ∈ rest) :
    entity.identity ≠ other.identity := by
  intro heq
  refine (List.nodup_cons.mp h.nodup).1 ?_
  rw [heq]
  exact List.mem_map_of_mem hother

/-- Distinct entities are distinct in any order. -/
theorem Distinct.perm {entities others : List Entity} (h : Distinct entities)
    (hperm : others.Perm entities) : Distinct others :=
  ⟨fun entity hentity => h.identified entity (hperm.mem_iff.mp hentity),
    (hperm.map Entity.identity).nodup_iff.mpr h.nodup⟩

open Repository

variable (hfresh : translator.fresh.identity.isEmpty = true)

include hfresh

/-- Whether an entity can be written does not depend on others that are written before. -/
theorem persist_result_after {entity other : Entity} (hid : entity.identity.isEmpty = false)
    (hid' : other.identity.isEmpty = false) (hne : entity.identity ≠ other.identity)
    (store : MemoryStore) :
    (persist translator (persist translator store entity).state other).result
      = (persist translator store other).result := by
  have hsame := (local_persist hfresh hid).says_same (local_persist hfresh hid') hne store
  exact Reply.persisted.inj hsame

/-- Entities that can each be written are all written, one after the other. -/
theorem persistFrom_eq_foldl {entities : List Entity} (h : Distinct entities) (written : Nat)
    (store : MemoryStore)
    (hall : ∀ entity ∈ entities, (persist translator store entity).result = .ok ()) :
    (persistFrom translator written store entities).result = .ok (written + entities.length) ∧
      (persistFrom translator written store entities).state
        = entities.foldl (fun store entity => (persist translator store entity).state) store := by
  induction entities generalizing written store with
  | nil => exact ⟨rfl, rfl⟩
  | cons entity rest ih =>
      obtain ⟨hfirst, hothers⟩ := List.forall_mem_cons.mp hall
      obtain ⟨hid, hids⟩ := List.forall_mem_cons.mp h.identified
      -- The first write does not take from the others that they can be written.
      have hrest : ∀ other ∈ rest,
          (persist translator (persist translator store entity).state other).result = .ok () := by
        intro other hother
        rw [persist_result_after hfresh hid (hids other hother) (h.ne_of_mem hother),
          hothers other hother]
      obtain ⟨hresult, hstate⟩ := ih h.tail (written + 1) _ hrest
      rw [persistFrom_cons_of_ok translator written rest hfirst]
      refine ⟨?_, hstate⟩
      rw [Step.after, hresult, List.length_cons, Nat.add_right_comm, Nat.add_assoc]

/-- If entities are all written, each could be written alone. -/
theorem persist_of_persistFrom {entities : List Entity} (h : Distinct entities) {written : Nat}
    {store : MemoryStore} {number : Nat}
    (hall : (persistFrom translator written store entities).result = .ok number) :
    ∀ entity ∈ entities, (persist translator store entity).result = .ok () := by
  induction entities generalizing written store with
  | nil => simp
  | cons entity rest ih =>
      obtain ⟨hid, hids⟩ := List.forall_mem_cons.mp h.identified
      cases hfirst : (persist translator store entity).result with
      | error failure =>
          simp only [persistFrom, hfirst] at hall
          cases hall
      | ok _ =>
          rw [persistFrom_cons_of_ok translator written rest hfirst] at hall
          have hrest := ih h.tail hall
          refine List.forall_mem_cons.mpr ⟨hfirst, fun other hother => ?_⟩
          -- What was written before does not matter for an entity with another identity.
          rw [← persist_result_after hfresh hid (hids other hother) (h.ne_of_mem hother) store]
          exact hrest other hother

/-- Entities are written in any order with the same outcome. -/
theorem foldl_persist_perm {entities others : List Entity} (h : Distinct entities)
    (hperm : others.Perm entities) (store : MemoryStore) :
    others.foldl (fun store entity => (persist translator store entity).state) store
      = entities.foldl (fun store entity => (persist translator store entity).state) store := by
  have hothers := h.perm hperm
  refine hperm.foldl_eq' ?_ store
  intro entity hentity other hother store
  -- The same identity means the same entity here, since no identity comes twice.
  by_cases hsame : entity.identity = other.identity
  · rw [List.inj_on_of_nodup_map hothers.nodup hentity hother hsame]
  · exact (local_persist hfresh (hothers.identified entity hentity)).comm
      (local_persist hfresh (hothers.identified other hother)) hsame store

end

/-! ### All together -/

/-- Operations on different entities can be done in any order.

Take any store, and two requests that persist or delete entities of different identities that
are not empty. In either order they leave the same store, and each says the same as it would
alone. So for entities with different identities that are not empty: all of them are written
if each could be written alone, and only then, and in every other order the same number is
written and the same store is left. -/
theorem changes_commute (bindings : Bindings) (schema : Schema) (store : MemoryStore) :
    let translator := Handler.translator bindings (.derived schema)
    (∀ (request other : Request) (identity key : Identity),
      request.target? = some identity → other.target? = some key → identity ≠ key →
      identity.isEmpty = false → key.isEmpty = false →
      (other.serve translator (request.serve translator store).1).1
        = (request.serve translator (other.serve translator store).1).1 ∧
      (other.serve translator (request.serve translator store).1).2
        = (other.serve translator store).2 ∧
      (request.serve translator (other.serve translator store).1).2
        = (request.serve translator store).2) ∧
    (∀ entities : List Entity, Distinct entities →
      ((∃ number, (Repository.persistAll translator store entities).result = .ok number) ↔
        ∀ entity ∈ entities, (Repository.persist translator store entity).result = .ok ()) ∧
      ∀ others number, others.Perm entities →
        (Repository.persistAll translator store entities).result = .ok number →
        number = entities.length ∧
        (Repository.persistAll translator store others).result = .ok number ∧
        (Repository.persistAll translator store others).state
          = (Repository.persistAll translator store entities).state) := by
  intro translator
  have hfresh : translator.fresh.identity.isEmpty = true :=
    (keepsIdentity_derived bindings schema).fresh_empty
  refine ⟨?_, ?_⟩
  · intro request other identity key hrequest hother hne hidentity hkey
    -- Each request is local to its identity, and what is local to different identities
    -- commutes.
    have hfirst := local_serve hfresh hrequest hidentity
    have hsecond := local_serve hfresh hother hkey
    exact ⟨hfirst.comm hsecond hne store, hfirst.says_same hsecond hne store,
      hsecond.says_same hfirst hne.symm store⟩
  · intro entities hdistinct
    refine ⟨⟨?_, ?_⟩, ?_⟩
    · rintro ⟨number, hall⟩
      exact persist_of_persistFrom hfresh hdistinct hall
    · intro hall
      exact ⟨_, (persistFrom_eq_foldl hfresh hdistinct 0 store hall).1⟩
    · intro others number hperm hall
      -- All were written, so each could be written alone, and that does not depend on the
      -- order.
      have heach := persist_of_persistFrom hfresh hdistinct hall
      obtain ⟨hresult, hstate⟩ := persistFrom_eq_foldl hfresh hdistinct 0 store heach
      obtain ⟨hresult', hstate'⟩ := persistFrom_eq_foldl hfresh (hdistinct.perm hperm) 0 store
        fun entity hentity => heach entity (hperm.mem_iff.mp hentity)
      have hnumber : number = entities.length := by
        have hsame := hall.symm.trans hresult
        simpa using hsame
      refine ⟨hnumber, ?_, ?_⟩
      · rw [hnumber, ← hperm.length_eq]
        exact hresult'.trans (by rw [Nat.zero_add])
      · exact hstate'.trans ((foldl_persist_perm hfresh hdistinct hperm store).trans hstate.symm)

/-- Two leaves with different identities are distinct. -/
theorem Sample.distinct_leaves : Distinct [poetry ⟨"x"⟩, poetry ⟨"y"⟩] where
  identified := by simp [poetry, Entity.identity, Identity.isEmpty]
  nodup := by decide

/-- Two leaves are written in either order, and one can be deleted before or after the other
is written. -/
theorem changes_commute_leaves :
    let translator := Handler.translator Sample.grove (.derived Sample.leaf)
    (Repository.persistAll translator MemoryStore.empty
        [Sample.poetry ⟨"y"⟩, Sample.poetry ⟨"x"⟩]).result = .ok 2 ∧
    (Repository.persistAll translator MemoryStore.empty
        [Sample.poetry ⟨"y"⟩, Sample.poetry ⟨"x"⟩]).state
      = (Repository.persistAll translator MemoryStore.empty
          [Sample.poetry ⟨"x"⟩, Sample.poetry ⟨"y"⟩]).state ∧
    (Request.serve translator
        (Request.serve translator .empty (.delete ⟨"x"⟩)).1 (.persist (Sample.poetry ⟨"y"⟩))).1
      = (Request.serve translator
          (Request.serve translator .empty (.persist (Sample.poetry ⟨"y"⟩))).1
          (.delete ⟨"x"⟩)).1 := by
  intro translator
  obtain ⟨hboth, hbatch⟩ := changes_commute Sample.grove Sample.leaf .empty
  obtain ⟨_, horders⟩ := hbatch _ Sample.distinct_leaves
  obtain ⟨_, hresult, hstate⟩ := horders [Sample.poetry ⟨"y"⟩, Sample.poetry ⟨"x"⟩] 2
    (.swap ..) rfl
  refine ⟨hresult, hstate, ?_⟩
  exact (hboth (.delete ⟨"x"⟩) (.persist (Sample.poetry ⟨"y"⟩)) ⟨"x"⟩ ⟨"y"⟩ rfl rfl
    (by decide) rfl rfl).1

end Recordsmith
