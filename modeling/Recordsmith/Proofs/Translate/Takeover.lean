import Recordsmith.Proofs.Store.Interrupted

/-!
# `Recordsmith.Proofs.Translate.Takeover`: what a write takes over from a record

An entity is written over a record, and the record may be an old one with other
contents. `write_takes_identities` says how much of the old record shows in the
new one. Where all translators are those of schemas, it is the identities that
stand in it for the record itself and for the nested records that are not in
lists, and nothing else. So two records with the same identities become the same
record, and writing twice is writing once.

Since `writeRow_eq` gives the record after a write as a function of the entity and
the skeleton of the old record, this comes down to facts about `Entity.inherit`:

* `Entity.inherit_again`: an entity with identities taken over has a skeleton from
  which the entity takes over the same identities again;
* `Entity.inherit_of_identified`: an entity takes over nothing if it has an
  identity and so has every entity that it reaches (`Entity.Reaches`).
-/

set_option autoImplicit false

namespace Recordsmith

open Recordsmith.Source Recordsmith.Schema

/-! ### Entities outside of lists -/

/-- The entity in a field that is not a list. -/
def FieldValue.single? : FieldValue → Option Entity
  | .child entity => some entity
  | .maybeChild entity => entity
  | _ => none

/-- Whether an entity is another one or is nested in it, at any depth, with no list
on the way. -/
inductive Entity.Reaches : Entity → Entity → Prop where
  | self (entity : Entity) : Reaches entity entity
  | inside {entity inner last : Entity} {field : FieldValue} (mem : field ∈ entity.fields)
      (single : field.single? = some inner) (rest : Reaches inner last) : Reaches entity last

/-- Whether an entity and all that it reaches have identities. -/
def Entity.Identified (entity : Entity) : Prop :=
  ∀ reached, entity.Reaches reached → reached.identity.isEmpty = false

/-- Where everything that is reached has an identity, so has everything from a nested entity on.
-/
theorem Entity.Identified.inside {entity inner : Entity} {field : FieldValue}
    (h : entity.Identified) (mem : field ∈ entity.fields)
    (single : field.single? = some inner) : inner.Identified :=
  fun reached hreached => h reached (.inside mem single hreached)

/-! ### The identity that a record gets -/

/-- There is one empty identity. -/
theorem Identity.eq_empty_of_isEmpty {identity : Identity} (h : identity.isEmpty = true) :
    identity = .empty := by
  obtain ⟨text⟩ := identity
  have htext : text = "" := by simpa [Identity.isEmpty] using h
  rw [htext]
  rfl

namespace Skeleton

/-- An identity of its own is kept, whatever is stored. -/
theorem identity_start_of_nonempty {identity : Identity} (h : identity.isEmpty = false)
    (stored : Option Skeleton) : (start identity stored).identity = identity := by
  unfold start
  split
  · rfl
  · rename_i kept hkept
    have hsame := (Option.filter_eq_some_iff.mp hkept).2
    split
    · rfl
    · -- Neither is empty, so they can belong together only by being equal.
      rename_i hstored
      simpa [sameEntity, hstored, h] using hsame

/-- Without an identity of its own, the stored one is taken over if there is one. -/
theorem identity_start_of_empty {identity : Identity} (h : identity.isEmpty = true)
    (stored : Option Skeleton) :
    (start identity stored).identity = (stored.map Skeleton.identity).getD .empty := by
  have hempty := Identity.eq_empty_of_isEmpty h
  cases stored with
  | none => exact hempty
  | some kept =>
      have hsame : sameEntity kept.identity identity = true := by simp [sameEntity, h]
      simp only [start, Option.filter_some, hsame, if_true, Option.map_some, Option.getD_some]
      split
      · rename_i hkept
        rw [identity_mk, hempty, Identity.eq_empty_of_isEmpty hkept]
      · rfl

/-- What was taken over once is taken over again as it is. -/
theorem start_some {identity : Identity} {stored : Option Skeleton} {taken : Skeleton}
    (h : taken.identity = (start identity stored).identity) :
    start identity (some taken) = taken := by
  -- What was taken over before belongs to the entity, or the entity has no identity to tell.
  have hfits : sameEntity taken.identity identity = true := by
    cases hid : identity.isEmpty with
    | false => rw [h, identity_start_of_nonempty hid]; simp [sameEntity]
    | true => simp [sameEntity, hid]
  simp only [start, Option.filter_some, hfits, if_true]
  split
  · -- No identity was taken over, so there is none to seed the record with either.
    rename_i htaken
    have hsame : identity = taken.identity := by
      cases hid : identity.isEmpty with
      | false => rw [h, identity_start_of_nonempty hid]
      | true => rw [Identity.eq_empty_of_isEmpty hid, Identity.eq_empty_of_isEmpty htaken]
    rw [hsame]
    cases taken
    rfl
  · rfl

end Skeleton

/-! ### Taking over twice -/

/-- An entity takes over the identity at the top of a skeleton. -/
@[simp] theorem Entity.identity_inherit (skeleton : Skeleton) (entity : Entity) :
    (entity.inherit skeleton).identity = skeleton.identity := by
  cases entity
  rfl

/-- A nested entity takes over the same identities from what it became. -/
theorem Entity.inherit_start_again {entity : Entity} {part : Option Skeleton}
    (h : entity.inherit (entity.inherit (Skeleton.start entity.identity part)).skeleton
      = entity.inherit (Skeleton.start entity.identity part)) :
    entity.inherit (Skeleton.start entity.identity
        (some (entity.inherit (Skeleton.start entity.identity part)).skeleton))
      = entity.inherit (Skeleton.start entity.identity part) := by
  have hidentity : (entity.inherit (Skeleton.start entity.identity part)).skeleton.identity
      = (Skeleton.start entity.identity part).identity := by
    rw [Entity.identity_skeleton, Entity.identity_inherit]
  rw [Skeleton.start_some hidentity, h]

mutual

/-- An entity takes over the same identities from what it became. -/
theorem Entity.inherit_again : ∀ (entity : Entity) (skeleton : Skeleton),
    entity.inherit (entity.inherit skeleton).skeleton = entity.inherit skeleton
  | .mk identity skipped fields, skeleton => by
      simp only [Entity.inherit, Entity.skeleton, FieldValue.skeletons_eq_map,
        Skeleton.identity_mk, Skeleton.parts_mk]
      rw [FieldValue.inheritAll_again fields skeleton.parts]

/-- So do fields. -/
theorem FieldValue.inheritAll_again : ∀ (fields : List FieldValue)
    (parts : List (Option Skeleton)),
    FieldValue.inheritAll ((FieldValue.inheritAll parts fields).map FieldValue.skeleton?) fields
      = FieldValue.inheritAll parts fields
  | [], _ => rfl
  | field :: fields, parts => by
      have hfield := FieldValue.inherit_again field parts.head?.join
      have hrest := FieldValue.inheritAll_again fields parts.tail
      simp only [FieldValue.inheritAll, List.map_cons, List.head?_cons, List.tail_cons,
        Option.join_some]
      rw [hfield, hrest]

/-- So does a field. -/
theorem FieldValue.inherit_again : ∀ (field : FieldValue) (part : Option Skeleton),
    field.inherit (field.inherit part).skeleton? = field.inherit part
  | .child entity, part => by
      have hagain := Entity.inherit_again entity (Skeleton.start entity.identity part)
      simp only [FieldValue.inherit, FieldValue.skeleton?]
      rw [Entity.inherit_start_again hagain]
  | .maybeChild (some entity), part => by
      have hagain := Entity.inherit_again entity (Skeleton.start entity.identity part)
      simp only [FieldValue.inherit, FieldValue.skeleton?]
      rw [Entity.inherit_start_again hagain]
  | .maybeChild none, _ | .one _, _ | .maybe _, _ | .many _, _ | .maybeMany _, _
  | .children _, _ | .maybeChildren _, _ => rfl

end

/-! ### Taking over nothing -/

mutual

/-- An entity takes over nothing if it has an identity and so have all that it
reaches. -/
theorem Entity.inherit_of_identified : ∀ (entity : Entity), entity.Identified →
    ∀ skeleton : Skeleton, skeleton.identity = entity.identity →
      entity.inherit skeleton = entity
  | .mk identity skipped fields, h, skeleton, hidentity => by
      have hfields := FieldValue.inheritAll_of_identified fields
        (fun field mem inner single => h.inside mem single) skeleton.parts
      rw [Entity.inherit, hfields, hidentity]
      rfl

/-- Fields take over nothing if the entities in them do not. -/
theorem FieldValue.inheritAll_of_identified : ∀ (fields : List FieldValue),
    (∀ field ∈ fields, ∀ inner, field.single? = some inner → inner.Identified) →
    ∀ parts : List (Option Skeleton), FieldValue.inheritAll parts fields = fields
  | [], _, _ => rfl
  | field :: fields, h, parts => by
      obtain ⟨hfield, hrest⟩ := List.forall_mem_cons.mp h
      rw [FieldValue.inheritAll, FieldValue.inheritAll_of_identified fields hrest,
        FieldValue.inherit_of_identified field hfield]

/-- A field takes over nothing if the entity in it does not. -/
theorem FieldValue.inherit_of_identified : ∀ (field : FieldValue),
    (∀ inner, field.single? = some inner → inner.Identified) →
    ∀ part : Option Skeleton, field.inherit part = field
  | .child entity, h, part => by
      have hentity := h entity rfl
      have hidentity := Skeleton.identity_start_of_nonempty (hentity entity (.self entity)) part
      rw [FieldValue.inherit, Entity.inherit_of_identified entity hentity _ hidentity]
  | .maybeChild (some entity), h, part => by
      have hentity := h entity rfl
      have hidentity := Skeleton.identity_start_of_nonempty (hentity entity (.self entity)) part
      rw [FieldValue.inherit, Entity.inherit_of_identified entity hentity _ hidentity]
  | .maybeChild none, _, _ | .one _, _, _ | .maybe _, _, _ | .many _, _, _
  | .maybeMany _, _, _ | .children _, _, _ | .maybeChildren _, _, _ => rfl

end

/-! ### Writing and refreshing -/

section

variable {bindings : Bindings} {schema : Schema} {entity : Entity}

/-- Writing an entity a second time changes nothing. -/
theorem writeRow_again (h : entity.Meets .derived bindings (.derived schema)) {row : Row}
    (hrow : row.Shaped bindings (.derived schema)) :
    ∃ written, writeRow bindings (.derived schema) entity row = .done written () ∧
      writeRow bindings (.derived schema) entity written = .done written () := by
  have honly := Demand.derivedOnly_derived
  have hinherit := h.inherit honly row.skeleton
  refine ⟨_, writeRow_eq honly h row hrow, ?_⟩
  -- What is left has the form of the domain type and the identities taken over.
  rw [writeRow_eq honly h _ (Entity.shaped_row honly hinherit),
    Entity.skeleton_row honly hinherit, Entity.inherit_again]

/-- The identity of a refreshed record is that of the entity. An entity without one
takes over that of the old record. -/
theorem identity_refresh (h : entity.Meets .derived bindings (.derived schema))
    {existing : Option Row} (hexisting : ∀ row ∈ existing, row.Shaped bindings (.derived schema)) :
    ∃ row, (Handler.translator bindings (.derived schema)).refresh entity existing = .done row ∧
      row.identity = if entity.identity.isEmpty then (existing.map Row.identity).getD .empty
        else entity.identity := by
  refine ⟨_, refresh_eq Demand.derivedOnly_derived h hexisting, ?_⟩
  have hidentity : ((entity.inherit (Skeleton.start entity.identity
      (existing.map Row.skeleton))).row bindings (.derived schema)).identity
      = (Skeleton.start entity.identity (existing.map Row.skeleton)).identity := by
    cases entity
    rfl
  -- Where the record starts from decides, and translators of schemas leave the identity alone.
  rw [hidentity]
  cases hid : entity.identity.isEmpty with
  | false => exact Skeleton.identity_start_of_nonempty hid _
  | true =>
      rw [Skeleton.identity_start_of_empty hid, Option.map_map]
      cases existing <;> simp

/-- A record of another entity is dropped. -/
theorem refresh_of_ne (translator : Translator) {row : Row}
    (hrow : row.identity.isEmpty = false) (hentity : entity.identity.isEmpty = false)
    (hne : row.identity ≠ entity.identity) :
    translator.refresh entity (some row) = translator.toRecord entity := by
  have hother : sameEntity row.identity entity.identity = false := by
    simp [sameEntity, hrow, hentity, hne]
  simp [Translator.toRecord, Translator.refresh, startRow, Option.filter_some, hother]

/-- Entities that have all their identities are written as over a fresh record. -/
theorem refresh_of_identified (h : entity.Meets .derived bindings (.derived schema))
    (hidentified : entity.Identified) {existing : Option Row}
    (hexisting : ∀ row ∈ existing, row.Shaped bindings (.derived schema)) :
    (Handler.translator bindings (.derived schema)).refresh entity existing
      = (Handler.translator bindings (.derived schema)).toRecord entity := by
  have honly := Demand.derivedOnly_derived
  have hown := Skeleton.identity_start_of_nonempty (hidentified entity (.self entity))
    (existing.map Row.skeleton)
  rw [refresh_eq honly h hexisting, toRecord_eq honly h,
    Entity.inherit_of_identified entity hidentified _ hown]

end

/-- Writing an entity takes nothing from the old record but identities.

Take an entity whose translators, down to any depth, are those of schemas.

* Writing leaves the identity of the record alone.
* It makes the same record of any two that have the same identities outside of
  lists, and writing once more changes nothing.
* A refreshed record has the identity of the entity or, if the entity has none, that
  of the old record.
* The old record does not matter at all if it belongs to another entity, or if the
  entity and all entities that it reaches outside of lists have identities. -/
theorem write_takes_identities (bindings : Bindings) (schema : Schema) (entity : Entity)
    (h : entity.Meets .derived bindings (.derived schema)) :
    (∀ row : Row, ((Handler.translator bindings (.derived schema)).write entity
      row).state.identity = row.identity) ∧
    (∀ first second : Row, first.Shaped bindings (.derived schema) →
      second.Shaped bindings (.derived schema) → first.skeleton = second.skeleton →
      ∃ written,
        (Handler.translator bindings (.derived schema)).write entity first = .done written () ∧
        (Handler.translator bindings (.derived schema)).write entity second
          = .done written ()) ∧
    (∀ row : Row, row.Shaped bindings (.derived schema) →
      ∃ written,
        (Handler.translator bindings (.derived schema)).write entity row = .done written () ∧
        (Handler.translator bindings (.derived schema)).write entity written
          = .done written ()) ∧
    (∀ existing : Option Row, (∀ row ∈ existing, row.Shaped bindings (.derived schema)) →
      ∃ row,
        (Handler.translator bindings (.derived schema)).refresh entity existing = .done row ∧
        row.identity = if entity.identity.isEmpty then (existing.map Row.identity).getD .empty
          else entity.identity) ∧
    (∀ row : Row, row.identity.isEmpty = false → entity.identity.isEmpty = false →
      row.identity ≠ entity.identity →
      (Handler.translator bindings (.derived schema)).refresh entity (some row)
        = (Handler.translator bindings (.derived schema)).toRecord entity) ∧
    ((∀ reached, entity.Reaches reached → reached.identity.isEmpty = false) →
      ∀ existing : Option Row, (∀ row ∈ existing, row.Shaped bindings (.derived schema)) →
        (Handler.translator bindings (.derived schema)).refresh entity existing
          = (Handler.translator bindings (.derived schema)).toRecord entity) := by
  -- What is written is a function of the entity and the skeleton of the old record.
  have hwrites := writeRow_eq Demand.derivedOnly_derived h
  refine ⟨?_, ?_, ?_, ?_, ?_, ?_⟩
  · intro row
    cases entity
    rfl
  · intro first second hfirst hsecond hskeleton
    exact ⟨_, hwrites first hfirst, hskeleton ▸ hwrites second hsecond⟩
  · exact fun row hrow => writeRow_again h hrow
  · exact fun existing hexisting => identity_refresh h hexisting
  · exact fun row hrow hentity hne => refresh_of_ne _ hrow hentity hne
  · exact fun hidentified existing hexisting => refresh_of_identified h hidentified hexisting

/-! ### A branch over an old record -/

namespace Sample

/-- A branch with leaves has translators of schemas all the way down. -/
theorem derived_twig (first : Identity) :
    (twig first).Meets .derived grove (.derived branch) :=
  (meets_twig first).mono (fun _ _ _ => trivial) (fun _ _ h => h)

/-- A branch and its first leaf have identities. -/
theorem identified_twig {reached : Entity} (h : (twig ⟨"m"⟩).Reaches reached) :
    reached.identity.isEmpty = false := by
  cases h with
  | self => rfl
  | inside mem single rest =>
      simp only [twig, Entity.fields, List.mem_cons, List.not_mem_nil, or_false] at mem
      rcases mem with rfl | rfl | rfl | rfl <;> cases single
      -- A leaf holds no entities.
      cases rest with
      | self => rfl
      | inside mem single rest =>
          rw [List.mem_singleton.mp mem] at single
          cases single

end Sample

/-- A branch whose first leaf has no identity takes over the one that is stored, and
neither the link nor the genre that stood beside it. A branch whose first leaf has
one takes over nothing. -/
theorem write_takes_identities_twig :
    (∃ written,
      (Handler.translator Sample.grove (.derived Sample.branch)).write (Sample.twig .empty)
        (Sample.oldBranch "http://a" "essay") = .done written () ∧
      (Handler.translator Sample.grove (.derived Sample.branch)).write (Sample.twig .empty)
        (Sample.oldBranch "http://b" "opera") = .done written () ∧
      written.skeleton.parts = [none, none, some (.mk ⟨"l"⟩ [none]), none]) ∧
    (Handler.translator Sample.grove (.derived Sample.branch)).refresh (Sample.twig ⟨"m"⟩)
        (some (Sample.oldBranch "http://a" "essay"))
      = (Handler.translator Sample.grove (.derived Sample.branch)).toRecord
          (Sample.twig ⟨"m"⟩) := by
  obtain ⟨_, hsame, _⟩ := write_takes_identities Sample.grove Sample.branch
    (Sample.twig .empty) (Sample.derived_twig .empty)
  obtain ⟨_, _, _, _, _, hown⟩ := write_takes_identities Sample.grove Sample.branch
    (Sample.twig ⟨"m"⟩) (Sample.derived_twig ⟨"m"⟩)
  refine ⟨?_, ?_⟩
  · obtain ⟨written, hfirst, hsecond⟩ := hsame _ _ (Sample.shaped_oldBranch "http://a" "essay")
      (Sample.shaped_oldBranch "http://b" "opera") rfl
    refine ⟨written, hfirst, hsecond, ?_⟩
    have hstate := congrArg Step.state hfirst
    rw [Step.state_done] at hstate
    rw [← hstate]
    rfl
  · refine hown (fun _ => Sample.identified_twig) _ fun row hrow => ?_
    rw [← Option.some.inj hrow]
    exact Sample.shaped_oldBranch "http://a" "essay"

end Recordsmith
