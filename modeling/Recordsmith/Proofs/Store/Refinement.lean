import Mathlib.Logic.Function.Basic
import Recordsmith.Proofs.Store.Interrupted
import Recordsmith.Proofs.Store.Reachable

/-!
# `Recordsmith.Proofs.Store.Refinement`: a repository is a map

Seen from outside, a repository over the store in memory is a map from
identities to entities (`Registry`). `Answers` says how the map answers each
request: what is persisted becomes the entry of its identity, in normal form and
with the nested identities of the entry before it (`Registry.record`); an entity
without an identity is refused; and reading gives the entries back.

`Represents` ties a store to a map. Each record is the stored form of some
entity, and the entry is the normal form of that entity. Every request keeps the
two together and is answered alike (`represents_serve`), so every run of
requests on the empty store is a run of the map.
-/

set_option autoImplicit false

namespace Recordsmith

open Recordsmith.Source Recordsmith.Schema ObjectStore

/-! ### The map -/

/-- The entities of a domain type by their identities. -/
def Registry : Type :=
  Identity → Option Entity

namespace Registry

/-- The map without entries. -/
def empty : Registry :=
  fun _ => none

/-- The map with an entry in place of the one before. -/
def set (registry : Registry) (identity : Identity) (entry : Option Entity) : Registry :=
  Function.update registry identity entry

/-- An entry is found where it was set. -/
@[simp] theorem set_self (registry : Registry) (identity : Identity) (entry : Option Entity) :
    registry.set identity entry identity = entry :=
  Function.update_self ..

/-- Setting an entry does not matter for other identities. -/
theorem set_of_ne {identity other : Identity} (h : other ≠ identity) (registry : Registry)
    (entry : Option Entity) : registry.set identity entry other = registry other :=
  Function.update_of_ne h ..

/-- The map after an entity was persisted: its entry is the normal form of the
entity, with the nested identities of the entry before. -/
def record (bindings : Bindings) (handler : Handler) (registry : Registry) (entity : Entity) :
    Registry :=
  registry.set entity.identity
    (some ((entity.norm bindings handler).fill (registry entity.identity)))

/-- Whether some entities are the entries of a map, in ascending order. -/
def Lists (registry : Registry) (entities : List Entity) : Prop :=
  entities.Pairwise (fun a b => a.identity < b.identity) ∧
    ∀ entity, entity ∈ entities ↔ ∃ identity, registry identity = some entity

end Registry

/-! ### Requests -/

/-- What a repository is asked to do. -/
inductive Request where
  | persist (entity : Entity)
  | persistAll (entities : List Entity)
  | delete (identity : Identity)
  | find (identity : Identity)
  | all
  | count

/-- The entities that a request brings along. -/
def Request.entities : Request → List Entity
  | .persist entity => [entity]
  | .persistAll entities => entities
  | _ => []

/-- What a repository says. Reading says it with all that it reports. -/
inductive Reply where
  | persisted (result : Except Failure Unit)
  | persistedAll (result : Except Failure Nat)
  | deleted (result : Except Failure Bool)
  | found (run : Run (Option Entity))
  | listed (run : Run (List Entity))
  | counted (number : Nat)

/-- Carries out a request on a store. -/
def Request.serve (translator : Translator) (store : MemoryStore) :
    Request → MemoryStore × Reply
  | .persist entity =>
    let step := Repository.persist translator store entity
    (step.state, .persisted step.result)
  | .persistAll entities =>
    let step := Repository.persistAll translator store entities
    (step.state, .persistedAll step.result)
  | .delete identity =>
    let step := Repository.delete store identity
    (step.state, .deleted step.result)
  | .find identity => (store, .found (Repository.find translator store identity))
  | .all => (store, .listed (Repository.all translator store))
  | .count => (store, .counted (ObjectStore.count store))

/-- Carries out requests one after the other. -/
def Request.serveAll (translator : Translator) (store : MemoryStore) :
    List Request → MemoryStore × List Reply
  | [] => (store, [])
  | request :: rest =>
    let (next, reply) := request.serve translator store
    let (last, replies) := Request.serveAll translator next rest
    (last, reply :: replies)

/-- Whether an entity has an identity. -/
def Entity.isIdentified (entity : Entity) : Bool :=
  !entity.identity.isEmpty

/-- How a map answers a request, and what becomes of it. -/
def Registry.Answers (bindings : Bindings) (handler : Handler) (registry : Registry) :
    Request → Reply → Registry → Prop
  | .persist entity, reply, next =>
    if entity.isIdentified then
      reply = .persisted (.ok ()) ∧ next = registry.record bindings handler entity
    else reply = .persisted (.error (.refused .emptyIdentity)) ∧ next = registry
  | .persistAll entities, reply, next =>
    -- Those before the first without an identity are persisted in any case.
    next = (entities.takeWhile Entity.isIdentified).foldl (Registry.record bindings handler)
      registry ∧
    reply = .persistedAll
      (if entities.all Entity.isIdentified then .ok entities.length
        else .error (.refused .emptyIdentity))
  | .delete identity, reply, next =>
    reply = .deleted (.ok (registry identity).isSome) ∧ next = registry.set identity none
  | .find identity, reply, next =>
    reply = .found (.done (registry identity)) ∧ next = registry
  | .all, reply, next =>
    (∃ entities, reply = .listed (.done entities) ∧ registry.Lists entities) ∧ next = registry
  | .count, reply, next =>
    (∃ entities, reply = .counted entities.length ∧ registry.Lists entities) ∧ next = registry

/-- Whether a map gives some replies to some requests, one after the other. -/
inductive Registry.AnswersAll (bindings : Bindings) (handler : Handler) :
    Registry → List Request → List Reply → Registry → Prop where
  | nil (registry : Registry) : AnswersAll bindings handler registry [] [] registry
  | cons {registry next last : Registry} {request : Request} {requests : List Request}
      {reply : Reply} {replies : List Reply}
      (first : registry.Answers bindings handler request reply next)
      (rest : AnswersAll bindings handler next requests replies last) :
      AnswersAll bindings handler registry (request :: requests) (reply :: replies) last

/-! ### Stores that represent a map -/

section

variable {bindings : Bindings} {schema : Schema} {store : MemoryStore} {registry : Registry}

/-- Whether a store represents a map: keys are identities, and under each
identity there is the stored form of some entity in the store and its normal form
in the map, or nothing in both. -/
structure Represents (bindings : Bindings) (schema : Schema) (store : MemoryStore)
    (registry : Registry) : Prop where
  wellKeyed : store.WellKeyed
  entry : ∀ identity, ∃ stored : Option Entity,
    (∀ entity ∈ stored, entity.Meets (.restorable bindings) bindings (.derived schema)) ∧
    store.get? identity = stored.map (Entity.row bindings (.derived schema)) ∧
    registry identity = stored.map (Entity.norm bindings (.derived schema))

/-- The record of an entity has its identity. -/
@[simp] theorem Entity.identity_row (bindings : Bindings) (schema : Schema) (entity : Entity) :
    (entity.row bindings (.derived schema)).identity = entity.identity := by
  cases entity
  rfl

/-- Entities with one stored form have one normal form, since it can be read. -/
theorem Entity.norm_eq_of_row_eq {handler : Handler} {a b : Entity}
    (ha : a.Meets (.restorable bindings) bindings handler)
    (hb : b.Meets (.restorable bindings) bindings handler)
    (h : a.row bindings handler = b.row bindings handler) :
    a.norm bindings handler = b.norm bindings handler := by
  have hread : Run.done (a.norm bindings handler) = Run.done (b.norm bindings handler) := by
    rw [← readRow_row ha, ← readRow_row hb, h]
  simpa [Run.done] using hread

/-- The empty store represents the empty map. -/
theorem represents_empty (bindings : Bindings) (schema : Schema) :
    Represents bindings schema .empty .empty :=
  ⟨.empty, fun _ => ⟨none, by simp, rfl, rfl⟩⟩

namespace Represents

/-- All records have the form of the domain type. -/
theorem shaped (h : Represents bindings schema store registry) :
    store.Shaped bindings schema := by
  intro key row hget
  obtain ⟨stored, hmeets, hstored, _⟩ := h.entry key
  rw [hget] at hstored
  obtain ⟨entity, hentity, rfl⟩ := Option.map_eq_some_iff.mp hstored.symm
  exact Entity.shaped_row (Demand.derivedOnly_restorable bindings) (hmeets entity hentity)

/-- A store and a map that are changed alike under one identity. -/
theorem update (h : Represents bindings schema store registry) {changed : MemoryStore}
    (hkeyed : changed.WellKeyed) (identity : Identity) (stored : Option Entity)
    (hother : ∀ other, other ≠ identity → changed.get? other = store.get? other)
    (hmeets : ∀ entity ∈ stored, entity.Meets (.restorable bindings) bindings (.derived schema))
    (hget : changed.get? identity = stored.map (Entity.row bindings (.derived schema))) :
    Represents bindings schema changed
      (registry.set identity (stored.map (Entity.norm bindings (.derived schema)))) := by
  refine ⟨hkeyed, fun other => ?_⟩
  by_cases heq : other = identity
  · subst heq
    exact ⟨stored, hmeets, hget, Registry.set_self ..⟩
  · obtain ⟨kept, hkept, hsame, hentry⟩ := h.entry other
    refine ⟨kept, hkept, ?_, ?_⟩
    · rw [hother other heq, hsame]
    · rw [Registry.set_of_ne heq, hentry]

/-- The record that an entity is written over is the stored one or a fresh one. -/
theorem recordFor_eq (h : Represents bindings schema store registry) (identity : Identity) :
    store.recordFor (Handler.translator bindings (.derived schema)) identity
      = startRow (Handler.fresh bindings (.derived schema)) identity (store.get? identity) := by
  unfold MemoryStore.recordFor startRow
  cases hget : store.get? identity with
  | none => rfl
  | some row =>
      -- The record has the identity already, so it is kept and not seeded.
      have hidentity := h.wellKeyed.identity_eq hget
      have hkey := h.wellKeyed.key_nonempty hget
      have hsame : sameEntity identity identity = true := by simp [sameEntity]
      simp [Option.filter_some, hsame, seedIdentity, hidentity, hkey]

/-- What an entity takes over from its record is what it takes over from its
entry. -/
theorem inherit_recordFor (h : Represents bindings schema store registry) (entity : Entity)
    (identity : Identity) :
    entity.inherit (store.recordFor (Handler.translator bindings (.derived schema))
        identity).skeleton
      = entity.inherit (Skeleton.start identity ((registry identity).map Entity.skeleton)) := by
  have honly := Demand.derivedOnly_restorable bindings
  obtain ⟨stored, hmeets, hget, hentry⟩ := h.entry identity
  -- The record and the entry have the identities of one and the same entity.
  have hskeleton : (store.get? identity).map Row.skeleton
      = (registry identity).map Entity.skeleton := by
    rw [hget, hentry, Option.map_map, Option.map_map]
    cases stored with
    | none => rfl
    | some kept =>
        have hkept := hmeets kept rfl
        simp only [Option.map_some, Function.comp_apply, Entity.skeleton_row honly hkept,
          Entity.skeleton_norm honly hkept]
  rw [h.recordFor_eq, Entity.inherit_startRow, hskeleton]

/-! ### Persisting -/

/-- An entity with an identity is persisted. -/
theorem persist (h : Represents bindings schema store registry) {entity : Entity}
    (hmeets : entity.Meets (.restorable bindings) bindings (.derived schema))
    (hid : entity.identity.isEmpty = false) :
    (Repository.persist (Handler.translator bindings (.derived schema)) store entity).result
        = .ok () ∧
      Represents bindings schema
        (Repository.persist (Handler.translator bindings (.derived schema)) store entity).state
        (registry.record bindings (.derived schema) entity) := by
  have honly := Demand.derivedOnly_restorable bindings
  obtain ⟨hstate, hresult⟩ :=
    persist_eq_upsert (Handler.translator bindings (.derived schema)) store entity
  have hkeyed := h.wellKeyed.persist (keepsIdentity_derived bindings schema) entity
  generalize hskeleton : (store.recordFor (Handler.translator bindings (.derived schema))
    entity.identity).skeleton = skeleton
  rw [upsert_derived honly h.shaped hmeets hid hskeleton] at hstate hresult
  rw [hstate] at hkeyed
  have hinherited : ∀ kept ∈ some (entity.inherit skeleton),
      kept.Meets (.restorable bindings) bindings (.derived schema) := by
    intro kept hkept
    rw [← Option.some.inj hkept]
    exact hmeets.inherit honly skeleton
  have hupdate := h.update hkeyed entity.identity (some (entity.inherit skeleton))
    (fun other hother => MemoryStore.get?_put_of_ne hother) hinherited MemoryStore.get?_put_self
  -- The entry is the normal form of what the record is the stored form of.
  have hentry : (entity.inherit skeleton).norm bindings (.derived schema)
      = (entity.norm bindings (.derived schema)).fill (registry entity.identity) := by
    rw [Entity.norm_inherit honly hmeets, ← hskeleton, h.inherit_recordFor, Entity.fill,
      Entity.identity_norm]
  refine ⟨hresult, ?_⟩
  rw [hstate, Registry.record, ← hentry]
  exact hupdate

/-- An entity without an identity is refused, and nothing changes. -/
theorem persist_refused {entity : Entity} (hid : entity.identity.isEmpty = true)
    (translator : Translator) (store : MemoryStore) :
    (Repository.persist translator store entity).result = .error (.refused .emptyIdentity) ∧
      (Repository.persist translator store entity).state = store := by
  rw [persist_of_empty hid]
  exact ⟨rfl, rfl⟩

/-- Entities are persisted up to the first without an identity. -/
theorem persistFrom {entities : List Entity}
    (hmeets : ∀ entity ∈ entities,
      entity.Meets (.restorable bindings) bindings (.derived schema)) (written : Nat)
    (h : Represents bindings schema store registry) :
    (Repository.persistFrom (Handler.translator bindings (.derived schema)) written store
        entities).result
        = (if entities.all Entity.isIdentified then .ok (written + entities.length)
            else .error (.refused .emptyIdentity)) ∧
      Represents bindings schema
        (Repository.persistFrom (Handler.translator bindings (.derived schema)) written store
          entities).state
        ((entities.takeWhile Entity.isIdentified).foldl
          (Registry.record bindings (.derived schema)) registry) := by
  induction entities generalizing written store registry with
  | nil => exact ⟨rfl, h⟩
  | cons entity rest ih =>
      -- The first entity without an identity ends the run, and those before it stay written.
      cases hid : entity.identity.isEmpty with
      | true =>
          have hnot : entity.isIdentified = false := by simp [Entity.isIdentified, hid]
          obtain ⟨hresult, hstate⟩ := persist_refused hid
            (Handler.translator bindings (.derived schema)) store
          rw [Repository.persistFrom]
          simp only [hresult, hstate, List.all_cons, List.takeWhile_cons, hnot, Bool.false_and]
          exact ⟨rfl, h⟩
      | false =>
          have hnot : entity.isIdentified = true := by simp [Entity.isIdentified, hid]
          obtain ⟨hresult, hfirst⟩ := h.persist (hmeets entity List.mem_cons_self) hid
          obtain ⟨hrest, hlast⟩ :=
            ih (fun entity hmem => hmeets entity (List.mem_cons_of_mem _ hmem)) (written + 1)
              hfirst
          rw [persistFrom_cons_of_ok _ written rest hresult]
          simp only [Step.after, List.all_cons, List.takeWhile_cons, hnot, Bool.true_and,
            if_true, List.foldl_cons, List.length_cons]
          rw [hrest, Nat.add_right_comm, Nat.add_assoc]
          exact ⟨rfl, hlast⟩

/-! ### Deleting and reading -/

/-- Deleting removes the entry. -/
theorem delete (h : Represents bindings schema store registry) (identity : Identity) :
    (Repository.delete store identity).result = .ok (registry identity).isSome ∧
      Represents bindings schema (Repository.delete store identity).state
        (registry.set identity none) := by
  obtain ⟨hstate, hresult⟩ := delete_eq store identity
  obtain ⟨stored, _, hget, hentry⟩ := h.entry identity
  refine ⟨?_, ?_⟩
  · rw [hresult, hget, hentry, Option.isSome_map, Option.isSome_map]
  · rw [hstate]
    exact h.update (h.wellKeyed.erase identity) identity none
      (fun other hother => MemoryStore.get?_erase_of_ne hother) (by simp)
      MemoryStore.get?_erase_self

/-- Finding gives the entry. -/
theorem find (h : Represents bindings schema store registry) (identity : Identity) :
    Repository.find (Handler.translator bindings (.derived schema)) store identity
      = .done (registry identity) := by
  obtain ⟨stored, hmeets, hget, hentry⟩ := h.entry identity
  rw [Repository.find, MemoryStore.object?_eq, hget, hentry]
  cases stored with
  | none => rfl
  | some entity =>
      have hread : (Handler.translator bindings (.derived schema)).read
          (entity.row bindings (.derived schema)) = _ := readRow_row (hmeets entity rfl)
      simp only [Option.map_some, hread, Run.done_bind, Run.pure_eq_done]

/-- The records of a store are the stored forms of entities. -/
theorem exists_objects (h : Represents bindings schema store registry) :
    ∃ entities : List Entity,
      (∀ entity ∈ entities, entity.Meets (.restorable bindings) bindings (.derived schema)) ∧
      objects store = entities.map (Entity.row bindings (.derived schema)) := by
  have hrow : ∀ row ∈ objects store, ∃ entity : Entity,
      entity.Meets (.restorable bindings) bindings (.derived schema) ∧
        entity.row bindings (.derived schema) = row := by
    intro row hrow
    obtain ⟨stored, hmeets, hget, _⟩ := h.entry row.identity
    rw [h.wellKeyed.mem_objects_iff.mp hrow] at hget
    obtain ⟨entity, hentity, heq⟩ := Option.map_eq_some_iff.mp hget.symm
    exact ⟨entity, hmeets entity hentity, heq⟩
  -- From here on only the list of records matters.
  generalize objects store = rows at hrow
  induction rows with
  | nil => exact ⟨[], by simp, rfl⟩
  | cons row rest ih =>
      obtain ⟨entity, hentity, rfl⟩ := hrow row List.mem_cons_self
      obtain ⟨entities, hmeets, rfl⟩ := ih fun row hmem => hrow row (List.mem_cons_of_mem _ hmem)
      exact ⟨entity :: entities, List.forall_mem_cons.mpr ⟨hentity, hmeets⟩, rfl⟩

/-- The entry of an identity is the normal form of what is stored under it. -/
theorem entry_of_get? (h : Represents bindings schema store registry) {identity : Identity}
    {entity : Entity} (hmeets : entity.Meets (.restorable bindings) bindings (.derived schema))
    (hget : store.get? identity = some (entity.row bindings (.derived schema))) :
    registry identity = some (entity.norm bindings (.derived schema)) := by
  obtain ⟨stored, hstored, hsame, hentry⟩ := h.entry identity
  rw [hget] at hsame
  obtain ⟨kept, hkept, hrow⟩ := Option.map_eq_some_iff.mp hsame.symm
  rw [hentry, hkept, Option.map_some,
    Entity.norm_eq_of_row_eq (hstored kept hkept) hmeets hrow]

/-- The entities of the records are the entries, in ascending order. -/
theorem lists (h : Represents bindings schema store registry) {entities : List Entity}
    (hmeets : ∀ entity ∈ entities,
      entity.Meets (.restorable bindings) bindings (.derived schema))
    (hobjects : objects store = entities.map (Entity.row bindings (.derived schema))) :
    registry.Lists (entities.map (Entity.norm bindings (.derived schema))) := by
  refine ⟨?_, fun entry => ?_⟩
  · have hascending := h.wellKeyed.objects_ascending
    rw [hobjects, List.pairwise_map] at hascending
    rw [List.pairwise_map]
    exact hascending.imp fun hlt => by simpa using hlt
  · rw [List.mem_map]
    constructor
    · rintro ⟨entity, hentity, rfl⟩
      have hrow : entity.row bindings (.derived schema) ∈ objects store := by
        rw [hobjects]
        exact List.mem_map_of_mem hentity
      exact ⟨_, h.entry_of_get? (hmeets entity hentity) (h.wellKeyed.mem_objects_iff.mp hrow)⟩
    · rintro ⟨identity, hentry⟩
      obtain ⟨stored, hstored, hget, hsame⟩ := h.entry identity
      rw [hentry] at hsame
      obtain ⟨kept, hkept, rfl⟩ := Option.map_eq_some_iff.mp hsame.symm
      rw [hkept, Option.map_some] at hget
      -- An entry is stored under the identity of its record, so the record is among those
      -- listed.
      have hidentity := h.wellKeyed.identity_eq hget
      have hrow := h.wellKeyed.mem_objects_iff.mpr (hidentity ▸ hget)
      rw [hobjects] at hrow
      obtain ⟨entity, hentity, heq⟩ := List.mem_map.mp hrow
      exact ⟨entity, hentity,
        Entity.norm_eq_of_row_eq (hmeets entity hentity) (hstored kept hkept) heq⟩

/-- Listing gives the entries in ascending order. -/
theorem all (h : Represents bindings schema store registry) :
    ∃ entities,
      Repository.all (Handler.translator bindings (.derived schema)) store = .done entities ∧
      registry.Lists entities ∧ ObjectStore.count store = entities.length := by
  obtain ⟨entities, hmeets, hobjects⟩ := h.exists_objects
  refine ⟨_, ?_, h.lists hmeets hobjects, ?_⟩
  · rw [Repository.all, hobjects, fromRecords_rows hmeets]
  · have hcount : ObjectStore.count store = (objects store).length := (List.length_map _).symm
    rw [hcount, hobjects, List.length_map, List.length_map]

end Represents

/-! ### Runs of requests -/

/-- Every request keeps a store and a map together and is answered alike. -/
theorem represents_serve (h : Represents bindings schema store registry) (request : Request)
    (hmeets : ∀ entity ∈ request.entities,
      entity.Meets (.restorable bindings) bindings (.derived schema)) :
    ∃ next,
      registry.Answers bindings (.derived schema) request
        (request.serve (Handler.translator bindings (.derived schema)) store).2 next ∧
      Represents bindings schema
        (request.serve (Handler.translator bindings (.derived schema)) store).1 next := by
  -- Only persisting and deleting change anything; the other requests are answered from what is
  -- represented.
  cases request with
  | persist entity =>
      cases hid : entity.identity.isEmpty with
      | true =>
          have hnot : entity.isIdentified = false := by simp [Entity.isIdentified, hid]
          obtain ⟨hresult, hstate⟩ := Represents.persist_refused hid
            (Handler.translator bindings (.derived schema)) store
          refine ⟨registry, ?_, ?_⟩
          · simp [Registry.Answers, Request.serve, hnot, hresult]
          · simpa [Request.serve, hstate] using h
      | false =>
          have hidentified : entity.isIdentified = true := by simp [Entity.isIdentified, hid]
          obtain ⟨hresult, hnext⟩ := h.persist (hmeets entity List.mem_cons_self) hid
          refine ⟨_, ?_, hnext⟩
          simp [Registry.Answers, Request.serve, hidentified, hresult]
  | persistAll entities =>
      obtain ⟨hresult, hnext⟩ := Represents.persistFrom hmeets 0 h
      rw [Nat.zero_add] at hresult
      exact ⟨_, ⟨rfl, congrArg Reply.persistedAll hresult⟩, hnext⟩
  | delete identity =>
      obtain ⟨hresult, hnext⟩ := h.delete identity
      exact ⟨_, ⟨congrArg Reply.deleted hresult, rfl⟩, hnext⟩
  | find identity => exact ⟨_, ⟨congrArg Reply.found (h.find identity), rfl⟩, h⟩
  | all =>
      obtain ⟨entities, hrun, hlists, _⟩ := h.all
      exact ⟨_, ⟨⟨entities, congrArg Reply.listed hrun, hlists⟩, rfl⟩, h⟩
  | count =>
      obtain ⟨entities, _, hlists, hcount⟩ := h.all
      exact ⟨_, ⟨⟨entities, congrArg Reply.counted hcount, hlists⟩, rfl⟩, h⟩

/-- So does every run of requests. -/
theorem represents_serveAll {requests : List Request}
    (hmeets : ∀ request ∈ requests, ∀ entity ∈ request.entities,
      entity.Meets (.restorable bindings) bindings (.derived schema))
    (h : Represents bindings schema store registry) :
    ∃ last,
      registry.AnswersAll bindings (.derived schema) requests
        (Request.serveAll (Handler.translator bindings (.derived schema)) store requests).2
        last ∧
      Represents bindings schema
        (Request.serveAll (Handler.translator bindings (.derived schema)) store requests).1
        last := by
  induction requests generalizing store registry with
  | nil => exact ⟨registry, .nil registry, h⟩
  | cons request rest ih =>
      obtain ⟨next, hfirst, hnext⟩ :=
        represents_serve h request (hmeets request List.mem_cons_self)
      obtain ⟨last, hrest, hlast⟩ :=
        ih (fun request hmem => hmeets request (List.mem_cons_of_mem _ hmem)) hnext
      exact ⟨last, .cons hfirst hrest, hlast⟩

end

/-- A repository of an accepted domain type, with translators of schemas down to
any depth, refines a map from identities to entities. Whatever it is asked,
starting from the empty store, as long as enumerations and texts can be restored,
it replies as the map does, and in the end it holds the entries of the map. -/
theorem repository_refines_registry (bindings : Bindings) (schema : Schema)
    (requests : List Request)
    (hmeets : ∀ request ∈ requests, ∀ entity ∈ request.entities,
      entity.Meets (.restorable bindings) bindings (.derived schema)) :
    ∃ last : Registry,
      Registry.empty.AnswersAll bindings (.derived schema) requests
        (Request.serveAll (Handler.translator bindings (.derived schema)) .empty requests).2
        last ∧
      ∀ identity,
        Repository.find (Handler.translator bindings (.derived schema))
            (Request.serveAll (Handler.translator bindings (.derived schema)) .empty
              requests).1 identity
          = .done (last identity) := by
  obtain ⟨last, hanswers, hlast⟩ :=
    represents_serveAll hmeets (represents_empty bindings schema)
  exact ⟨last, hanswers, hlast.find⟩

namespace Sample

/-- A branch is persisted twice, the second time with a first leaf that has no
identity; then it is looked up and deleted. -/
def twigRequests : List Request := [
  .persistAll [twig ⟨"y"⟩, twig .empty], .find ⟨"b"⟩, .count, .delete ⟨"b"⟩, .all]

/-- All entities of the requests can be restored. -/
theorem meets_twigRequests : ∀ request ∈ twigRequests, ∀ entity ∈ request.entities,
    entity.Meets (.restorable grove) grove (.derived branch) := by
  simp [twigRequests, Request.entities, meets_twig]

end Sample

/-- The first leaf takes over the identity that is stored for it. -/
theorem repository_refines_registry_twig :
    (Request.serveAll (Handler.translator Sample.grove (.derived Sample.branch)) .empty
        Sample.twigRequests).2
      = [.persistedAll (.ok 2),
          .found (.done (some ((Sample.twig ⟨"y"⟩).norm Sample.grove (.derived Sample.branch)))),
          .counted 1, .deleted (.ok true), .listed (.done [])] ∧
    ∃ last : Registry,
      Registry.empty.AnswersAll Sample.grove (.derived Sample.branch) Sample.twigRequests
        (Request.serveAll (Handler.translator Sample.grove (.derived Sample.branch)) .empty
          Sample.twigRequests).2 last := by
  obtain ⟨last, hanswers, _⟩ := repository_refines_registry Sample.grove Sample.branch
    Sample.twigRequests Sample.meets_twigRequests
  exact ⟨rfl, last, hanswers⟩

end Recordsmith
