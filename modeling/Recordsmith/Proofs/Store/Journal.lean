import Mathlib.Data.List.Chain
import Recordsmith.Proofs.Store.Refinement
import Recordsmith.Proofs.Translate.Quiet

/-!
# `Recordsmith.Proofs.Store.Journal`: the log tells what is stored

A repository reports what it does to its store. `Event.mark?` reads from an
event whether a record was taken in or removed, and `trail` is what a log says
about one identity. `Faithful` ties a log to a store:

* the marks of each identity alternate, and the first one is for a record that
  was taken in;
* an identity is stored exactly if its last mark is for a record taken in;
* the number of records is the number of insertions less that of removals;
* right before each insertion it is reported that the record is made.

All that a repository does comes down to five changes of a store, each with
what is reported (`Change`). Every change keeps a log faithful
(`Faithful.change`), and every request is a row of changes
(`Chronicle.serve`), also one that fails halfway. So the log of every run from
the empty store is faithful.

Translators made by hand have to be discreet for this: what one of them reports
in the name of the store would be misleading.
-/

set_option autoImplicit false

namespace Recordsmith

open Recordsmith.Source Recordsmith.Schema ObjectStore

/-! ### What events say -/

/-- What becomes of the record of an identity. -/
inductive Mark where
  | taken
  | removed
  deriving DecidableEq, Repr

namespace Event

/-- Whether a record was taken in. -/
def isInsertion : Event → Bool
  | .inserting _ => true
  | _ => false

/-- Whether a record was removed. -/
def isRemoval : Event → Bool
  | .deleted _ => true
  | _ => false

/-- What an event says about the record of an identity. -/
def mark? (identity : Identity) : Event → Option Mark
  | .inserting other => if other = identity then some .taken else none
  | .deleted other => if other = identity then some .removed else none
  | _ => none

/-- The identity of an entity that has been written. -/
def persisted? : Event → Option Identity
  | .persisted identity => some identity
  | _ => none

end Event

/-- What a log says about the record of an identity, in order. -/
def trail (identity : Identity) (log : List Event) : List Mark :=
  log.filterMap (Event.mark? identity)

/-- Whether marks alternate, starting with a record that is taken in. -/
def Alternating (marks : List Mark) : Prop :=
  marks.IsChain (· ≠ ·) ∧ ∀ mark ∈ marks.head?, mark = .taken

/-- Whether it is reported right before each insertion that the record is made. -/
def Announced (log : List Event) : Prop :=
  ∀ before identity after, log = before ++ .inserting identity :: after →
    before.getLast? = some (.creating identity)

/-! ### Logs that grow -/

section

variable {log events : List Event} {identity : Identity}

/-- A quiet log leaves no mark of any identity. -/
theorem Quiet.trail_eq (h : Quiet events) : trail identity events = [] := by
  rw [trail, List.filterMap_eq_nil_iff]
  intro event hevent
  have hquiet := h event hevent
  cases event <;> simp_all [Event.mark?, Event.isOfStore]

/-- There are no insertions in a quiet log. -/
theorem Quiet.countP_isInsertion (h : Quiet events) :
    events.countP Event.isInsertion = 0 := by
  rw [List.countP_eq_zero]
  intro event hevent
  have hquiet := h event hevent
  cases event <;> simp_all [Event.isInsertion, Event.isOfStore]

/-- There are no removals in a quiet log. -/
theorem Quiet.countP_isRemoval (h : Quiet events) : events.countP Event.isRemoval = 0 := by
  rw [List.countP_eq_zero]
  intro event hevent
  have hquiet := h event hevent
  cases event <;> simp_all [Event.isRemoval, Event.isOfStore]

/-- Nothing is reported as persisted in a quiet log. -/
theorem Quiet.persisted_eq (h : Quiet events) : events.filterMap Event.persisted? = [] := by
  rw [List.filterMap_eq_nil_iff]
  intro event hevent
  have hquiet := h event hevent
  cases event <;> simp_all [Event.persisted?, Event.isOfStore]

/-- The marks of two logs are those of the first and then those of the second. -/
theorem trail_append (identity : Identity) (log events : List Event) :
    trail identity (log ++ events) = trail identity log ++ trail identity events :=
  List.filterMap_append

/-- Where nothing is taken in, nothing has to be announced. -/
theorem announced_of_countP (h : events.countP Event.isInsertion = 0) : Announced events := by
  intro before identity after heq
  have hnot := List.countP_eq_zero.mp h (.inserting identity) (by simp [heq])
  exact absurd rfl hnot

/-- Two logs that announce their insertions announce them together. -/
theorem Announced.append (h : Announced log) (h' : Announced events) :
    Announced (log ++ events) := by
  intro before identity after heq
  -- The insertion stands in the first log or in the second.
  rcases List.append_eq_append_iff.mp heq with ⟨part, hbefore, hevents⟩ | ⟨part, hlog, hrest⟩
  · have hlast := h' part identity after hevents
    rw [hbefore, List.getLast?_append, hlast]
    rfl
  · cases part with
    | nil =>
        -- The insertion is the first event of the second log, where nothing is before it.
        have hlast := h' [] identity after (by simpa using hrest.symm)
        cases hlast
    | cons event part =>
        obtain ⟨rfl, _⟩ := List.cons.inj hrest
        exact h before identity part hlog

/-- An insertion right behind its creation is announced. -/
theorem announced_creation (identity : Identity) :
    Announced [.creating identity, .inserting identity] := by
  intro before other after heq
  match before with
  | [] => cases heq
  | [event] =>
      cases heq
      rfl
  | _ :: _ :: rest =>
      obtain ⟨_, hrest⟩ := List.cons.inj heq
      obtain ⟨_, hrest⟩ := List.cons.inj hrest
      simp at hrest

/-- A further mark that differs from the last one. -/
theorem Alternating.concat {marks : List Mark} (h : Alternating marks) {mark : Mark}
    (hlast : marks.getLast?.getD .removed ≠ mark) : Alternating (marks ++ [mark]) := by
  refine ⟨?_, ?_⟩
  · rw [List.isChain_append]
    refine ⟨h.1, List.isChain_singleton _, ?_⟩
    intro last hmem next hnext
    rw [Option.mem_def.mp hmem] at hlast
    rw [← Option.some.inj (Option.mem_def.mp hnext)]
    exact hlast
  · intro first hfirst
    cases marks with
    | nil =>
        -- The first mark of all: it differs from a removal.
        rw [← Option.some.inj (Option.mem_def.mp hfirst)]
        cases mark with
        | taken => rfl
        | removed => exact absurd rfl hlast
    | cons head rest => exact h.2 first (by simpa using hfirst)

end

/-! ### The number of records -/

/-- An entry that is put in replaces the one with its key, or there is one more. -/
theorem length_putEntry {key : Identity} {row : Row} {entries : List (Identity × Row)}
    (h : Ascending entries) :
    (putEntry key row entries).length
      = if (entries.lookup key).isSome then entries.length else entries.length + 1 := by
  induction entries with
  | nil => rfl
  | cons head rest ih =>
      obtain ⟨first, held⟩ := head
      obtain ⟨hfirst, hrest⟩ := List.pairwise_cons.mp h
      rw [putEntry]
      split
      · -- The key comes before all others, so it is none of them.
        rename_i hlt
        have hnone : ((first, held) :: rest).lookup key = none := by
          rw [List.lookup_eq_none_iff]
          intro entry hentry
          have hlater : key < entry.1 := by
            rcases List.mem_cons.mp hentry with rfl | hmem
            · exact hlt
            · exact Identity.lt_trans hlt (hfirst entry hmem)
          simpa using Identity.ne_of_lt hlater
        simp [hnone]
      · split
        · rename_i heq
          simp [heq]
        -- Behind a smaller key the entry goes into the rest.
        · rename_i hne
          rw [List.length_cons, ih hrest, List.lookup_cons, beq_false_of_ne hne]
          simp only [List.length_cons]
          split <;> rfl

/-- A record that is put in replaces the one with its identity, or there is one more. -/
theorem MemoryStore.count_put (store : MemoryStore) (key : Identity) (row : Row) :
    count (store.put key row)
      = if (store.get? key).isSome then count store else count store + 1 :=
  length_putEntry store.ascending

/-- There is one entry less without a key that was there. -/
theorem length_filter_of_lookup {key : Identity} {entries : List (Identity × Row)}
    (h : Ascending entries) (hsome : (entries.lookup key).isSome = true) :
    (entries.filter fun entry => entry.1 != key).length + 1 = entries.length := by
  induction entries with
  | nil => cases hsome
  | cons head rest ih =>
      obtain ⟨first, held⟩ := head
      obtain ⟨hfirst, hrest⟩ := List.pairwise_cons.mp h
      by_cases hkey : key = first
      · -- Only the first entry has the key, since all others come after it.
        have hothers : rest.filter (fun entry => entry.1 != key) = rest := by
          rw [List.filter_eq_self]
          intro entry hentry
          have hne : entry.1 ≠ key := by
            rw [hkey]
            exact (Identity.ne_of_lt (hfirst entry hentry)).symm
          simpa using hne
        rw [List.filter_cons_of_neg (by simp [hkey]), hothers, List.length_cons]
      -- The key is not that of the first entry, so it is among the rest.
      · rw [List.lookup_cons, beq_false_of_ne hkey] at hsome
        rw [List.filter_cons_of_pos (by simpa using Ne.symm hkey), List.length_cons,
          List.length_cons, ih hrest hsome]

/-- There is one record less when one that was there is taken out. -/
theorem MemoryStore.count_erase {store : MemoryStore} {key : Identity}
    (h : (store.get? key).isSome = true) : count (store.erase key) + 1 = count store :=
  length_filter_of_lookup store.ascending h

/-- Without a record under a key there is nothing to erase. -/
theorem MemoryStore.erase_of_none {store : MemoryStore} {key : Identity}
    (h : store.get? key = none) : store.erase key = store := by
  have hothers : store.entries.filter (fun entry => entry.1 != key) = store.entries := by
    rw [List.filter_eq_self]
    intro entry hentry
    have hkey := List.lookup_eq_none_iff.mp h entry hentry
    have hne : entry.1 ≠ key := by
      rintro rfl
      simp at hkey
    simpa using hne
  simp only [MemoryStore.erase, hothers]

/-! ### Changes of a store -/

/-- What can happen to a store, and what is reported of it. -/
inductive Change : MemoryStore → List Event → MemoryStore → Prop where
  /-- Nothing happens, and what is reported is about something else. -/
  | other (store : MemoryStore) (events : List Event) (quiet : Quiet events) :
      Change store events store
  /-- A record is made and taken in. -/
  | creation (store : MemoryStore) (identity : Identity) (row : Row)
      (missing : store.get? identity = none) :
      Change store [.creating identity, .inserting identity] (store.put identity row)
  /-- A record is written over. -/
  | overwriting (store : MemoryStore) (identity : Identity) (row : Row)
      (stored : (store.get? identity).isSome = true) :
      Change store [] (store.put identity row)
  /-- An entity has been written. -/
  | report (store : MemoryStore) (identity : Identity) :
      Change store [.persisted identity] store
  /-- A record is removed. -/
  | removal (store : MemoryStore) (identity : Identity)
      (stored : (store.get? identity).isSome = true) :
      Change store [.deleted identity] (store.erase identity)

/-- Changes one after the other, and all that is reported of them. -/
inductive Chronicle : MemoryStore → List Event → MemoryStore → Prop where
  | nil (store : MemoryStore) : Chronicle store [] store
  | cons {store next last : MemoryStore} {events log : List Event}
      (first : Change store events next) (rest : Chronicle next log last) :
      Chronicle store (events ++ log) last

/-- A change alone is a chronicle. -/
theorem Change.chronicle {store next : MemoryStore} {events : List Event}
    (h : Change store events next) : Chronicle store events next := by
  have hone := Chronicle.cons h (.nil next)
  rwa [List.append_nil] at hone

/-- A chronicle goes on where another one ends. -/
theorem Chronicle.append {store next last : MemoryStore} {events log : List Event}
    (h : Chronicle store events next) (h' : Chronicle next log last) :
    Chronicle store (events ++ log) last := by
  induction h with
  | nil store => exact h'
  | cons first _ ih =>
      rw [List.append_assoc]
      exact .cons first (ih h')

/-- Whether a log tells what is stored. -/
structure Faithful (store : MemoryStore) (log : List Event) : Prop where
  alternating : ∀ identity, Alternating (trail identity log)
  stored_iff : ∀ identity,
    (store.get? identity).isSome = true ↔ (trail identity log).getLast? = some .taken
  balance : count store + log.countP Event.isRemoval = log.countP Event.isInsertion
  announced : Announced log

namespace Faithful

variable {store next : MemoryStore} {log events : List Event}

/-- Nothing has been reported of the empty store, and nothing is in it. -/
theorem empty : Faithful .empty [] where
  alternating _ := ⟨List.isChain_nil, by simp [trail]⟩
  stored_iff _ := by simp [trail, MemoryStore.empty, MemoryStore.get?]
  balance := rfl
  announced := announced_of_countP rfl

/-- Events without marks, with a store that has records for the same identities. -/
theorem unmarked (h : Faithful store log) (hmarks : ∀ identity, trail identity events = [])
    (hsame : ∀ identity, (next.get? identity).isSome = (store.get? identity).isSome)
    (hcount : count next = count store) (hinsertion : events.countP Event.isInsertion = 0)
    (hremoval : events.countP Event.isRemoval = 0) : Faithful next (log ++ events) where
  alternating identity := by
    rw [trail_append, hmarks, List.append_nil]
    exact h.alternating identity
  stored_iff identity := by
    rw [trail_append, hmarks, List.append_nil, hsame]
    exact h.stored_iff identity
  balance := by
    rw [List.countP_append, List.countP_append, hinsertion, hremoval, hcount]
    exact h.balance
  announced := h.announced.append (announced_of_countP hinsertion)

/-- An identity that is not stored has no mark or was removed last. -/
theorem getLast?_trail_of_none (h : Faithful store log) {identity : Identity}
    (hnone : store.get? identity = none) :
    (trail identity log).getLast?.getD .removed = .removed := by
  have hnot : ¬ (trail identity log).getLast? = some .taken := by
    rw [← h.stored_iff, hnone]
    simp
  cases hlast : (trail identity log).getLast? with
  | none => rfl
  | some mark =>
      cases mark with
      | taken => exact absurd hlast hnot
      | removed => rfl

/-- One mark for one identity, with a store that is changed alike. -/
theorem marked (h : Faithful store log) {identity : Identity} {mark : Mark}
    (hmark : trail identity events = [mark])
    (hothers : ∀ other, other ≠ identity → trail other events = [])
    (hlast : (trail identity log).getLast?.getD .removed ≠ mark)
    (hstored : (next.get? identity).isSome = true ↔ mark = .taken)
    (hkept : ∀ other, other ≠ identity → next.get? other = store.get? other)
    (hbalance : count next + (log ++ events).countP Event.isRemoval
      = (log ++ events).countP Event.isInsertion)
    (hannounced : Announced events) : Faithful next (log ++ events) where
  alternating other := by
    -- Only the one identity has a mark more and a store that is changed.
    by_cases heq : other = identity
    · rw [heq, trail_append, hmark]
      exact (h.alternating identity).concat hlast
    · rw [trail_append, hothers other heq, List.append_nil]
      exact h.alternating other
  stored_iff other := by
    by_cases heq : other = identity
    · rw [heq, trail_append, hmark, List.getLast?_concat, hstored, Option.some.injEq]
    · rw [trail_append, hothers other heq, List.append_nil, hkept other heq]
      exact h.stored_iff other
  balance := hbalance
  announced := h.announced.append hannounced

/-- A record that is made and taken in. -/
theorem creation (h : Faithful store log) {identity : Identity} (row : Row)
    (hnone : store.get? identity = none) :
    Faithful (store.put identity row) (log ++ [.creating identity, .inserting identity]) := by
  have hcount : count (store.put identity row) = count store + 1 := by
    rw [MemoryStore.count_put, hnone]
    rfl
  have hmark : trail identity [.creating identity, .inserting identity] = [.taken] := by
    simp [trail, List.filterMap_cons, Event.mark?]
  -- The last mark of the identity, if there is one, tells of a removal, for nothing is stored.
  refine h.marked hmark ?_ ?_ ?_ ?_ ?_ (announced_creation identity)
  · intro other hother
    simp [trail, List.filterMap_cons, Event.mark?, Ne.symm hother]
  · rw [h.getLast?_trail_of_none hnone]
    simp
  · simp
  · intro other hother
    exact MemoryStore.get?_put_of_ne hother
  · have hbalance := h.balance
    simp only [List.countP_append, List.countP_cons, List.countP_nil, Event.isRemoval,
      Event.isInsertion, hcount]
    simp only [Bool.false_eq_true, if_false, if_true]
    omega

/-- A record that is removed. -/
theorem removal (h : Faithful store log) {identity : Identity}
    (hsome : (store.get? identity).isSome = true) :
    Faithful (store.erase identity) (log ++ [.deleted identity]) := by
  have hcount := MemoryStore.count_erase hsome
  have hlast := (h.stored_iff identity).mp hsome
  have hmark : trail identity [.deleted identity] = [.removed] := by
    simp [trail, Event.mark?]
  -- The record was there, so its last mark tells that it was taken in.
  refine h.marked hmark ?_ ?_ ?_ ?_ ?_ (announced_of_countP rfl)
  · intro other hother
    simp [trail, Event.mark?, Ne.symm hother]
  · rw [hlast]
    simp
  · simp
  · intro other hother
    exact MemoryStore.get?_erase_of_ne hother
  · have hbalance := h.balance
    simp only [List.countP_append, List.countP_cons, List.countP_nil, Event.isRemoval,
      Event.isInsertion]
    simp only [Bool.false_eq_true, if_false, if_true]
    omega

/-- Every change keeps a log faithful. -/
theorem change (h : Faithful store log) (hchange : Change store events next) :
    Faithful next (log ++ events) := by
  cases hchange with
  | other _ quiet =>
      exact h.unmarked (fun _ => quiet.trail_eq) (fun _ => rfl) rfl quiet.countP_isInsertion
        quiet.countP_isRemoval
  | creation identity row missing => exact h.creation row missing
  | overwriting identity row stored =>
      -- Overwriting is no mark: the record was there before and is there after.
      refine h.unmarked (fun _ => rfl) ?_ ?_ rfl rfl
      · intro other
        by_cases heq : other = identity
        · rw [heq, MemoryStore.get?_put_self, stored]
          rfl
        · rw [MemoryStore.get?_put_of_ne heq]
      · rw [MemoryStore.count_put, if_pos stored]
  | report identity =>
      exact h.unmarked (fun _ => rfl) (fun _ => rfl) rfl rfl rfl
  | removal identity stored => exact h.removal stored

/-- So does every row of changes. -/
theorem chronicle (h : Faithful store log) (hchronicle : Chronicle store events next) :
    Faithful next (log ++ events) := by
  induction hchronicle generalizing log with
  | nil store =>
      rw [List.append_nil]
      exact h
  | cons first _ ih =>
      rw [← List.append_assoc]
      exact ih (h.change first)

end Faithful

/-! ### What requests do and report -/

section

variable {translator : Translator}

/-- Making sure that there is a record for an entity, and writing it. -/
theorem chronicle_upsert (hfresh : translator.fresh.identity.isEmpty = true)
    (hdiscreet : translator.Discreet) (store : MemoryStore) (entity : Entity) :
    Chronicle store (upsert translator store entity).log
      (upsert translator store entity).state := by
  cases hid : entity.identity.isEmpty with
  | true =>
      rw [upsert_of_empty hid]
      exact .nil store
  | false =>
      rw [upsert_eq hfresh hid rfl]
      generalize hwrite : translator.write entity
        (store.recordFor translator entity.identity) = step
      have hquiet : Quiet step.log := hwrite ▸ hdiscreet.write entity _
      cases hget : store.get? entity.identity with
      | some row =>
          have hstored : (store.get? entity.identity).isSome = true := by rw [hget]; rfl
          have hput := Change.overwriting store entity.identity step.state hstored
          have hall := Chronicle.cons (.other store step.log hquiet) hput.chronicle
          simpa [MemoryStore.preparing, hget] using hall
      | none =>
          -- A fresh record is taken in first, and then it is written over.
          have hmade := Change.creation store entity.identity
            (seedIdentity translator.fresh entity.identity) hget
          generalize hprepared : store.put entity.identity
            (seedIdentity translator.fresh entity.identity) = prepared at hmade
          have hstored : (prepared.get? entity.identity).isSome = true := by simp [← hprepared]
          have hput := Change.overwriting prepared entity.identity step.state hstored
          have hall := Chronicle.cons hmade
            (.cons (.other prepared step.log hquiet) hput.chronicle)
          rw [← hprepared, MemoryStore.put_put] at hall
          simpa [MemoryStore.preparing, hget] using hall

/-- What persisting an entity reports is a chronicle of what it does to the store. -/
theorem chronicle_persist (hfresh : translator.fresh.identity.isEmpty = true)
    (hdiscreet : translator.Discreet) (store : MemoryStore) (entity : Entity) :
    Chronicle store (Repository.persist translator store entity).log
      (Repository.persist translator store entity).state := by
  have hupsert := chronicle_upsert hfresh hdiscreet store entity
  unfold Repository.persist Step.andThen
  split
  · exact hupsert.append (Change.report _ entity.identity).chronicle
  · exact hupsert

/-- What persisting entities reports is a chronicle of what it does to the store, up to where it
ends. -/
theorem chronicle_persistFrom (hfresh : translator.fresh.identity.isEmpty = true)
    (hdiscreet : translator.Discreet) (entities : List Entity) (written : Nat)
    (store : MemoryStore) :
    Chronicle store (Repository.persistFrom translator written store entities).log
      (Repository.persistFrom translator written store entities).state := by
  induction entities generalizing written store with
  | nil => exact .nil store
  | cons entity rest ih =>
      have hfirst := chronicle_persist hfresh hdiscreet store entity
      rw [Repository.persistFrom]
      split
      · exact hfirst.append (ih (written + 1) _)
      · exact hfirst

/-- What a deletion reports is a chronicle of what it does to the store. -/
theorem chronicle_delete (store : MemoryStore) (identity : Identity) :
    Chronicle store (Repository.delete store identity).log
      (Repository.delete store identity).state := by
  have hremove : remove store identity = (store.erase identity, store.get? identity) := rfl
  rw [Repository.delete, hremove]
  cases hget : store.get? identity with
  | some row =>
      have hstored : (store.get? identity).isSome = true := by rw [hget]; rfl
      exact (Change.removal store identity hstored).chronicle
  | none =>
      -- There is nothing to remove, so the store stays the same.
      have hsame : store.erase identity = store := MemoryStore.erase_of_none hget
      show Chronicle store [] (store.erase identity)
      rw [hsame]
      exact .nil store

/-- Reading an entity changes nothing. -/
theorem quiet_find (hdiscreet : translator.Discreet) (store : MemoryStore)
    (identity : Identity) : Quiet (Repository.find translator store identity).log := by
  unfold Repository.find
  split
  · exact quiet_nil
  · exact Quiet.bind (hdiscreet.read _) fun _ => quiet_pure _

/-- Reading records reports nothing about the store. -/
theorem quiet_fromRecords (hdiscreet : translator.Discreet) (rows : List Row) :
    Quiet (translator.fromRecords rows).log := by
  induction rows with
  | nil => exact quiet_nil
  | cons row rest ih =>
      rw [Translator.fromRecords]
      exact Quiet.bind (hdiscreet.read row) fun _ => Quiet.bind ih fun _ => quiet_pure _

/-- What is reported while a request is carried out. -/
def Request.log (translator : Translator) (store : MemoryStore) : Request → List Event
  | .persist entity => (Repository.persist translator store entity).log
  | .persistAll entities => (Repository.persistAll translator store entities).log
  | .delete identity => (Repository.delete store identity).log
  | .find identity => (Repository.find translator store identity).log
  | .all => (Repository.all translator store).log
  | .count => []

/-- What is reported while requests are carried out one after the other. -/
def Request.logAll (translator : Translator) (store : MemoryStore) : List Request → List Event
  | [] => []
  | request :: rest =>
    request.log translator store
      ++ Request.logAll translator (request.serve translator store).1 rest

/-- Every request is a row of changes, also one that fails. -/
theorem Chronicle.serve (hfresh : translator.fresh.identity.isEmpty = true)
    (hdiscreet : translator.Discreet) (store : MemoryStore) (request : Request) :
    Chronicle store (request.log translator store) (request.serve translator store).1 := by
  cases request with
  | persist entity => exact chronicle_persist hfresh hdiscreet store entity
  | persistAll entities => exact chronicle_persistFrom hfresh hdiscreet entities 0 store
  | delete identity => exact chronicle_delete store identity
  | find identity => exact (Change.other store _ (quiet_find hdiscreet store identity)).chronicle
  | all => exact (Change.other store _ (quiet_fromRecords hdiscreet _)).chronicle
  | count => exact .nil store

/-- So is every run of requests. -/
theorem Chronicle.serveAll (hfresh : translator.fresh.identity.isEmpty = true)
    (hdiscreet : translator.Discreet) (requests : List Request) (store : MemoryStore) :
    Chronicle store (Request.logAll translator store requests)
      (Request.serveAll translator store requests).1 := by
  induction requests generalizing store with
  | nil => exact .nil store
  | cons request rest ih =>
      have hfirst := Chronicle.serve hfresh hdiscreet store request
      exact hfirst.append (ih (request.serve translator store).1)

/-! ### Entities that have been written -/

/-- The entities that are written, one after the other, before the first that
fails. -/
def writtenBefore (translator : Translator) : MemoryStore → List Entity → List Entity
  | _, [] => []
  | store, entity :: rest =>
    let step := Repository.persist translator store entity
    match step.result with
    | .ok _ => entity :: writtenBefore translator step.state rest
    | .error _ => []

/-- The entities that a request writes. -/
def Request.written (translator : Translator) (store : MemoryStore) (request : Request) :
    List Entity :=
  writtenBefore translator store request.entities

/-- The entities that requests write one after the other. -/
def Request.writtenAll (translator : Translator) (store : MemoryStore) :
    List Request → List Entity
  | [] => []
  | request :: rest =>
    request.written translator store
      ++ Request.writtenAll translator (request.serve translator store).1 rest

/-- An entity is reported as persisted only behind its insertion or replacement, not by it. -/
theorem persisted_upsert (hfresh : translator.fresh.identity.isEmpty = true)
    (hdiscreet : translator.Discreet) (store : MemoryStore) (entity : Entity) :
    (upsert translator store entity).log.filterMap Event.persisted? = [] := by
  cases hid : entity.identity.isEmpty with
  | true =>
      rw [upsert_of_empty hid]
      rfl
  | false =>
      have hpreparing :
          (store.preparing entity.identity).filterMap Event.persisted? = [] := by
        unfold MemoryStore.preparing
        split <;> rfl
      rw [upsert_eq hfresh hid rfl, List.filterMap_append, hpreparing, List.nil_append]
      exact (hdiscreet.write entity _).persisted_eq

/-- A write is reported exactly if it succeeds. -/
theorem persisted_persist (hfresh : translator.fresh.identity.isEmpty = true)
    (hdiscreet : translator.Discreet) (store : MemoryStore) (entity : Entity) :
    (Repository.persist translator store entity).log.filterMap Event.persisted?
      = match (Repository.persist translator store entity).result with
        | .ok _ => [entity.identity]
        | .error _ => [] := by
  have hupsert := persisted_upsert hfresh hdiscreet store entity
  unfold Repository.persist Step.andThen
  split
  · rw [List.filterMap_append, hupsert]
    rfl
  · exact hupsert

/-- The entities reported as persisted are those that were written, in order. -/
theorem persisted_persistFrom (hfresh : translator.fresh.identity.isEmpty = true)
    (hdiscreet : translator.Discreet) (entities : List Entity) (written : Nat)
    (store : MemoryStore) :
    (Repository.persistFrom translator written store entities).log.filterMap Event.persisted?
      = (writtenBefore translator store entities).map Entity.identity := by
  induction entities generalizing written store with
  | nil => rfl
  | cons entity rest ih =>
      have hfirst := persisted_persist hfresh hdiscreet store entity
      rw [Repository.persistFrom, writtenBefore]
      -- A failure ends both the log and the entities that count as written.
      cases hresult : (Repository.persist translator store entity).result with
      | ok _ =>
          rw [hresult] at hfirst
          simp only [Step.after, List.filterMap_append, hfirst, ih, List.map_cons,
            List.singleton_append]
      | error failure =>
          rw [hresult] at hfirst
          exact hfirst

/-- A request reports the entities that it writes. -/
theorem persisted_log (hfresh : translator.fresh.identity.isEmpty = true)
    (hdiscreet : translator.Discreet) (store : MemoryStore) (request : Request) :
    (request.log translator store).filterMap Event.persisted?
      = (request.written translator store).map Entity.identity := by
  cases request with
  | persist entity =>
      have hpersist := persisted_persist hfresh hdiscreet store entity
      rw [Request.log, hpersist, Request.written, Request.entities, writtenBefore]
      cases (Repository.persist translator store entity).result <;> rfl
  | persistAll entities => exact persisted_persistFrom hfresh hdiscreet entities 0 store
  | delete identity =>
      show (Repository.delete store identity).log.filterMap Event.persisted? = []
      unfold Repository.delete
      split <;> rfl
  | find identity => exact (quiet_find hdiscreet store identity).persisted_eq
  | all => exact (quiet_fromRecords hdiscreet _).persisted_eq
  | count => rfl

/-- So do requests one after the other. -/
theorem persisted_logAll (hfresh : translator.fresh.identity.isEmpty = true)
    (hdiscreet : translator.Discreet) (requests : List Request) (store : MemoryStore) :
    (Request.logAll translator store requests).filterMap Event.persisted?
      = (Request.writtenAll translator store requests).map Entity.identity := by
  induction requests generalizing store with
  | nil => rfl
  | cons request rest ih =>
      rw [Request.logAll, Request.writtenAll, List.filterMap_append, List.map_append, ih,
        persisted_log hfresh hdiscreet]

end

/-- The log of a repository is a faithful account of its store.

For every run of requests from the empty store, also one with requests that
fail: the marks of each identity alternate, starting with a record that is taken
in; an identity is stored exactly if its last mark is for a record taken in; the
number of records is the number of insertions less that of removals; right before
each insertion it is reported that the record is made; and the entities reported
as persisted are those that were written, in order. -/
theorem log_tells_store (bindings : Bindings) (hdiscreet : bindings.Discreet) (schema : Schema)
    (requests : List Request) (translator : Translator)
    (htranslator : translator = Handler.translator bindings (.derived schema))
    (store : MemoryStore)
    (hstore : store = (Request.serveAll translator .empty requests).1)
    (log : List Event) (hlog : log = Request.logAll translator .empty requests) :
    (∀ identity, Alternating (trail identity log)) ∧
    (∀ identity, (object? store identity).isSome = true ↔
      (trail identity log).getLast? = some .taken) ∧
    (count store : Int) = log.countP Event.isInsertion - log.countP Event.isRemoval ∧
    (∀ before identity after, log = before ++ .inserting identity :: after →
      ∃ earlier, before = earlier ++ [.creating identity]) ∧
    log.filterMap Event.persisted?
      = (Request.writtenAll translator .empty requests).map Entity.identity := by
  subst htranslator
  have hmade := discreet_derived hdiscreet schema
  -- The store starts empty and the log with it, so what holds of both is kept by the whole
  -- chronicle.
  have hchronicle := Chronicle.serveAll rfl hmade requests .empty
  rw [← hstore, ← hlog] at hchronicle
  have hfaithful := Faithful.empty.chronicle hchronicle
  refine ⟨hfaithful.alternating, hfaithful.stored_iff, ?_, ?_, ?_⟩
  · have hbalance := hfaithful.balance
    rw [List.nil_append] at hbalance
    omega
  · intro before identity after hsplit
    exact List.getLast?_eq_some_iff.mp (hfaithful.announced before identity after hsplit)
  · rw [hlog]
    exact persisted_logAll rfl hmade requests .empty

/-! ### Parcels that are refused, removed and written again -/

namespace Sample

/-- A parcel with a tag that has a label. -/
def labelled : Entity :=
  .mk ⟨"p"⟩ [] [.one (.text "a"),
    .child (.mk ⟨"t"⟩ [] [.one (.text "x"), .one (.integer 1)]), .maybeChild none, .children [],
    .one (.text "b")]

/-- A parcel is refused after its record was made, and then written twice in a
row of writes that ends early; it is found, removed and written again. -/
def parcelRequests : List Request := [
  .persist unlabelled, .persistAll [labelled, labelled, unlabelled, labelled], .find ⟨"p"⟩,
  .delete ⟨"p"⟩, .delete ⟨"p"⟩, .persist labelled, .count]

end Sample

/-- A parcel is taken in, written over, taken out and taken in again, and the log tells. -/
theorem log_tells_store_parcels :
    trail ⟨"p"⟩ (Request.logAll (Handler.translator Sample.parcels
      (.derived Sample.parcelSchema)) .empty Sample.parcelRequests)
        = [.taken, .removed, .taken] ∧
    (Request.logAll (Handler.translator Sample.parcels (.derived Sample.parcelSchema)) .empty
      Sample.parcelRequests).filterMap Event.persisted? = [⟨"p"⟩, ⟨"p"⟩, ⟨"p"⟩] ∧
    (Request.logAll (Handler.translator Sample.parcels (.derived Sample.parcelSchema)) .empty
      Sample.parcelRequests).filterMap Event.persisted?
        = (Request.writtenAll (Handler.translator Sample.parcels (.derived Sample.parcelSchema))
            .empty Sample.parcelRequests).map Entity.identity := by
  have hdiscreet : Sample.parcels.Discreet := fun _ => Sample.discreet_tag
  exact ⟨rfl, rfl, (log_tells_store Sample.parcels hdiscreet Sample.parcelSchema
    Sample.parcelRequests _ rfl _ rfl _ rfl).2.2.2.2⟩

end Recordsmith
