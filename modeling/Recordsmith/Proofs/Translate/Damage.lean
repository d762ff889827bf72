import Recordsmith.Proofs.Translate.TypedReading

/-!
# `Recordsmith.Proofs.Translate.Damage`: damage in records

A record need not hold what the program wrote. Here is said what damage there can be
in it and how reading it can end:

* One check decides about an element (`Property.decode`). What it rejects is fatal for
  a single element. A list loses the element instead, and reports it (`loadAll_eq`).
* Null is damage in one case only, where no value can stand for it (`Cell.Damaged`). A
  required enumeration reads it as the default raw value, which the check may reject in
  its turn.
* Properties, and the nested records of a list, are read in order up to the first that
  fails (`Run.InOrder`). Followed down to any depth this tells how reading a record
  fails (`Row.Stops`).

`DamagedReading` proves that records are read like this.
-/

set_option autoImplicit false

namespace Recordsmith

open Recordsmith.Source Recordsmith.Schema

/-! ### Runs in order -/

namespace Run

variable {ι α β γ : Type}

/-- The runs of some items, one after the other. -/
def each (run : ι → Run α) : List ι → Run (List α)
  | [] => .done []
  | item :: rest => do
    let value ← run item
    let values ← each run rest
    return value :: values

/-- Whether the run of an item comes to pass, since those of all items before it give
values. -/
def Reaches (run : ι → Run α) (items : List ι) (item : ι) : Prop :=
  ∃ before after, items = before ++ item :: after ∧
    ∀ earlier ∈ before, ∃ value, (run earlier).result = .ok value

/-- What runs of items come to in order: all of them give values, or they stop at the
first that fails. The log has what was reported until then. -/
inductive InOrder (run : ι → Run α) : List ι → Run (List α) → Prop where
  | all {items : List ι} {values : List α}
      (given : List.Forall₂ (fun item value => (run item).result = .ok value) items values) :
      InOrder run items ⟨items.flatMap fun item => (run item).log, .ok values⟩
  | upTo {before after : List ι} {item : ι} {failure : Failure}
      (given : ∀ earlier ∈ before, ∃ value, (run earlier).result = .ok value)
      (failed : (run item).result = .error failure) :
      InOrder run (before ++ item :: after)
        ⟨(before ++ [item]).flatMap fun item => (run item).log, .error failure⟩

/-- It does not matter which of two steps behind a run are taken together. -/
theorem bind_bind (first : Run α) (next : α → Run β) (last : β → Run γ) :
    (first >>= next >>= last) = first >>= fun value => next value >>= last := by
  obtain ⟨log, result⟩ := first
  cases result with
  | error failure => rfl
  | ok value =>
      simp only [bind, andThen]
      cases (next value).result with
      | ok later => simp only [List.append_assoc]
      | error failure => rfl

/-- A conversion behind a run reports nothing and cannot fail. -/
theorem bind_done (first : Run α) (convert : α → β) :
    (first >>= fun value => Run.done (convert value))
      = ⟨first.log, first.result.map convert⟩ := by
  obtain ⟨log, result⟩ := first
  cases result with
  | ok value => exact congrArg (Run.mk · _) (List.append_nil log)
  | error failure => rfl

section

variable {run : ι → Run α} {item : ι} {rest : List ι}

/-- A run over items goes on behind one that succeeds. -/
theorem each_cons_of_ok {value : α} (h : (run item).result = .ok value) :
    each run (item :: rest)
      = ⟨(run item).log ++ (each run rest).log, (each run rest).result.map (value :: ·)⟩ := by
  rw [each]
  show Run.andThen _ _ = _
  rw [Run.andThen, h]
  simp only [pure_eq_done, bind_done]

/-- A run over items ends at the first that fails. -/
theorem each_cons_of_error {failure : Failure} (h : (run item).result = .error failure) :
    each run (item :: rest) = ⟨(run item).log, .error failure⟩ := by
  rw [each]
  show Run.andThen _ _ = _
  rw [Run.andThen, h]

/-- One run after the other stops at the first that fails. -/
theorem inOrder_each (run : ι → Run α) (items : List ι) : InOrder run items (each run items) := by
  induction items with
  | nil => exact .all .nil
  | cons item rest ih =>
      cases hitem : (run item).result with
      | error failure =>
          have hstop : InOrder run ([] ++ item :: rest) _ := .upTo (by simp) hitem
          simpa [each_cons_of_error hitem] using hstop
      | ok value =>
          -- What the rest comes to decides, with the log and the value of this item in front.
          rw [each_cons_of_ok hitem]
          generalize each run rest = later at ih
          cases ih with
          | all given =>
              have hall := InOrder.all (List.Forall₂.cons hitem given)
              simpa [Except.map] using hall
          | @upTo before after _ _ given failed =>
              have hgiven := List.forall_mem_cons.mpr ⟨⟨value, hitem⟩, given⟩
              have hstop : InOrder run (item :: before ++ _ :: after) _ := .upTo hgiven failed
              simpa [Except.map] using hstop

/-- What is reached is one of the items. -/
theorem Reaches.mem {items : List ι} (h : Reaches run items item) : item ∈ items := by
  obtain ⟨before, after, rfl, _⟩ := h
  simp

/-- There is nothing to be reached among no items. -/
theorem not_reaches_nil : ¬ Reaches run [] item :=
  fun h => absurd h.mem List.not_mem_nil

/-- An item is reached if it comes first or if the first one succeeds and it is reached behind
that. -/
theorem reaches_cons_iff {other : ι} :
    Reaches run (item :: rest) other ↔
      item = other ∨ (∃ value, (run item).result = .ok value) ∧ Reaches run rest other := by
  constructor
  · rintro ⟨before, after, hsplit, hgiven⟩
    cases before with
    | nil =>
        exact .inl (List.cons.inj hsplit).1
    | cons first before =>
        obtain ⟨rfl, hrest⟩ := List.cons.inj hsplit
        obtain ⟨hitem, hbefore⟩ := List.forall_mem_cons.mp hgiven
        exact .inr ⟨hitem, before, after, hrest, hbefore⟩
  · rintro (rfl | ⟨hitem, before, after, hrest, hbefore⟩)
    · exact ⟨[], rest, rfl, by simp⟩
    · exact ⟨item :: before, after, by rw [hrest]; rfl,
        List.forall_mem_cons.mpr ⟨hitem, hbefore⟩⟩

/-- One run after the other fails as the run does that is the first to fail. -/
theorem result_each_eq_error_iff {failure : Failure} {items : List ι} :
    (each run items).result = .error failure ↔
      ∃ item, Reaches run items item ∧ (run item).result = .error failure := by
  induction items with
  | nil =>
      constructor
      · intro h
        cases h
      · rintro ⟨item, hreached, _⟩
        exact absurd hreached not_reaches_nil
  | cons first rest ih =>
      simp only [reaches_cons_iff]
      cases hfirst : (run first).result with
      | error other =>
          rw [each_cons_of_error hfirst]
          constructor
          · intro h
            cases h
            exact ⟨first, .inl rfl, hfirst⟩
          · rintro ⟨item, rfl | ⟨⟨value, hvalue⟩, _⟩, hitem⟩
            · rw [hfirst] at hitem
              cases hitem
              rfl
            · cases hvalue
      | ok value =>
          -- The first item is passed, so a failure is one of the rest.
          rw [each_cons_of_ok hfirst]
          constructor
          · intro h
            obtain ⟨item, hreached, hitem⟩ := ih.mp (error_of_map_eq_error h)
            exact ⟨item, .inr ⟨⟨value, rfl⟩, hreached⟩, hitem⟩
          · rintro ⟨item, rfl | ⟨_, hreached⟩, hitem⟩
            · rw [hfirst] at hitem
              cases hitem
            · rw [ih.mpr ⟨item, hreached, hitem⟩]
              rfl

end

end Run

/-! ### What is damaged -/

/-- Why a stored element is none of the elements of its property. -/
inductive Rejection where
  /-- No variant has the raw value, which is shown. -/
  | strange (shown : String)
  /-- The text does not parse. -/
  | unparsed (text reason : String)

namespace Rejection

/-- What a rejected element means where one element is stored. -/
def corruption (label : String) : Rejection → Corruption
  | .strange shown => .strangeRaw label shown
  | .unparsed text reason => .unparsed label text reason

/-- What is reported of a rejected element of a list. -/
def warning (label : String) : Rejection → Event
  | .strange shown => .droppedRaw label shown
  | .unparsed text reason => .droppedText label text reason

end Rejection

namespace Schema.Property

/-- The element that is meant by what is stored: the variant of a raw value, what the
text of an address says, and anything else as it is. -/
def decode (bindings : Bindings) (property : Property) (stored : Value) :
    Except Rejection Value :=
  if property.kind.isEnum then
    match (bindings.rawEnum property.element).ofRaw? stored with
    | some value => .ok value
    | none => .error (.strange stored.shown)
  else if property.scalar = .url then
    match (bindings.textForm property.element).parse (storedText stored) with
    | .ok value => .ok value
    | .error reason => .error (.unparsed (storedText stored) reason)
  else .ok stored

/-- The element that a list keeps of what is stored. -/
def kept? (bindings : Bindings) (property : Property) (stored : Value) : Option Value :=
  (property.decode bindings stored).toOption

/-- The warning that a list gives for what is stored. -/
def dropped? (bindings : Bindings) (label : String) (property : Property) (stored : Value) :
    Option Event :=
  match property.decode bindings stored with
  | .ok _ => none
  | .error rejection => some (rejection.warning label)

/-- The value of a property that is a list of elements. -/
def listed (property : Property) (values : List Value) : FieldValue :=
  if property.isOptional then .maybeMany (some values) else .many values

end Schema.Property

namespace Cell

/-- The warnings that reading a cell of values gives. -/
def warnings (bindings : Bindings) (label : String) (property : Property) : Cell → List Event
  | .list stored => stored.items.filterMap (property.dropped? bindings label)
  | _ => []

/-- Whether what is stored for a property is damaged, nested records apart. -/
inductive Damaged (bindings : Bindings) (label : String) (property : Property) (cell : Cell) :
    Corruption → Prop where
  /-- The one element is none of the property. -/
  | element {stored : Value} {rejection : Rejection} (single : property.isArray = false)
      (held : cell.elements = [stored])
      (rejected : property.decode bindings stored = .error rejection) :
      Damaged bindings label property cell (rejection.corruption label)
  /-- Null stands for the default raw value, and this is none of the enumeration. -/
  | standIn {rejection : Rejection} (required : property.isOptional = false)
      (enumeration : property.kind.isEnum = true) (null : cell.isNull = true)
      (rejected : property.decode bindings (bindings.rawEnum property.element).defaultRaw
        = .error rejection) :
      Damaged bindings label property cell (rejection.corruption label)
  /-- Null stands for nothing. -/
  | missing (required : property.isOptional = false) (storage : Storage.of property = .nullable)
      (zeroless : property.isNested = true ∨ property.isPrimitiveIn [.other] = true)
      (null : cell.isNull = true) :
      Damaged bindings label property cell (.missing label)

end Cell

/-- Reads the cell of a property in a record of a schema. -/
def readProperty (bindings : Bindings) (schema : Schema) (stored : Property × Cell) :
    Run FieldValue :=
  readCell bindings (schema.label stored.1) (ReadPlan.of stored.1) stored.2

/-- How reading the cell of a property ends. -/
structure Cell.Outcome (bindings : Bindings) (label : String) (property : Property) (cell : Cell)
    (run : Run FieldValue) : Prop where
  /-- It fails on damage, and with the first nested record that cannot be read. -/
  failed : ∀ failure, run.result = .error failure ↔
    (∃ corruption, failure = .corrupt corruption ∧
      cell.Damaged bindings label property corruption) ∨
    ∃ child,
      Run.Reaches (readRow bindings (bindings.handler property.translator)) cell.nested child ∧
      (readRow bindings (bindings.handler property.translator) child).result = .error failure
  /-- It reports the elements that it leaves out, and what nested records report. -/
  logged : ∃ entities,
    Run.InOrder (readRow bindings (bindings.handler property.translator)) cell.nested entities ∧
      run.log = cell.warnings bindings label property ++ entities.log
  /-- A list of values gives those that it keeps. -/
  listed : property.isNested = false → property.isArray = true →
    run.result = .ok (property.listed (cell.elements.filterMap (property.kept? bindings)))

section

variable {bindings : Bindings} {property : Property} {cell : Cell}

/-! ### Reading elements -/

/-- The check of an element follows the way it is stored. -/
theorem Schema.Property.decode_eq (bindings : Bindings) (property : Property) (stored : Value) :
    property.decode bindings stored =
      match Transfer.of property with
      | .raw enumeration =>
        match (bindings.rawEnum enumeration).ofRaw? stored with
        | some value => .ok value
        | none => .error (.strange stored.shown)
      | .text type =>
        match (bindings.textForm type).parse (storedText stored) with
        | .ok value => .ok value
        | .error reason => .error (.unparsed (storedText stored) reason)
      | .copy => .ok stored := by
  unfold decode Transfer.of
  split
  · rfl
  · split <;> rfl

/-- A single element is read as the check says. -/
theorem load_eq (label : String) (stored : Value) :
    (Transfer.of property).load bindings stored label =
      match property.decode bindings stored with
      | .ok value => .done value
      | .error rejection => .fail (.corrupt (rejection.corruption label)) := by
  rw [Property.decode_eq]
  cases Transfer.of property with
  | raw enumeration =>
      simp only [Transfer.load, RawEnum.expect]
      cases (bindings.rawEnum enumeration).ofRaw? stored <;> rfl
  | text type =>
      simp only [Transfer.load, TextForm.expect]
      cases (bindings.textForm type).parse (storedText stored) <;> rfl
  | copy => rfl

/-- An element of a list is kept or reported. -/
theorem loadAll_cons (label : String) (stored : Value) (rest : List Value) :
    (Transfer.of property).loadAll bindings (stored :: rest) label =
      match property.decode bindings stored with
      | .ok value =>
        (Transfer.of property).loadAll bindings rest label >>= fun values =>
          .done (value :: values)
      | .error rejection =>
        Run.report (rejection.warning label) >>= fun _ =>
          (Transfer.of property).loadAll bindings rest label := by
  -- The three ways to transfer an element differ in the check only.
  rw [Property.decode_eq]
  cases Transfer.of property with
  | raw enumeration =>
      simp only [Transfer.loadAll, RawEnum.keepValid]
      cases (bindings.rawEnum enumeration).ofRaw? stored <;> rfl
  | text type =>
      simp only [Transfer.loadAll, List.map_cons, TextForm.keepValid]
      cases (bindings.textForm type).parse (storedText stored) <;> rfl
  | copy => rfl

/-- A list of values keeps the elements that pass the check, and reports the others. -/
theorem loadAll_eq (label : String) (stored : List Value) :
    (Transfer.of property).loadAll bindings stored label
      = ⟨stored.filterMap (property.dropped? bindings label),
          .ok (stored.filterMap (property.kept? bindings))⟩ := by
  induction stored with
  | nil =>
      unfold Transfer.of
      split
      · rfl
      · split <;> rfl
  | cons first rest ih =>
      rw [loadAll_cons, ih]
      cases hfirst : property.decode bindings first with
      | ok value =>
          have hkept : property.kept? bindings first = some value := by
            simp [Property.kept?, hfirst, Except.toOption]
          have hdropped : property.dropped? bindings label first = none := by
            simp [Property.dropped?, hfirst]
          rw [List.filterMap_cons_some hkept, List.filterMap_cons_none hdropped]
          exact Run.bind_done _ _
      | error rejection =>
          -- The element is left out, and its warning comes before those of the rest.
          have hkept : property.kept? bindings first = none := by
            simp [Property.kept?, hfirst, Except.toOption]
          have hdropped : property.dropped? bindings label first
              = some (rejection.warning label) := by
            simp [Property.dropped?, hfirst]
          rw [List.filterMap_cons_none hkept, List.filterMap_cons_some hdropped]
          rfl

/-! ### Damage -/

/-- A cell that is null has no elements. -/
theorem Cell.elements_of_isNull (h : cell.isNull = true) : cell.elements = [] := by
  cases cell with
  | boxed box =>
      obtain ⟨value⟩ := box
      cases value with
      | none => rfl
      | some value => cases h
  | optional stored =>
      cases stored with
      | none => rfl
      | some value => cases h
  | row stored => rfl
  | _ => cases h

/-- An element that has to be there and has no zero value is of no known family. -/
theorem Schema.Storage.other_of_nullable (h : Storage.of property = .nullable)
    (hscalar : property.isNested = false) (hrequired : property.isOptional = false)
    (henum : property.kind.isEnum = false) : property.isPrimitiveIn [.other] = true := by
  cases hkind : property.kind with
  | nested _ _ => simp [Property.isNested, hkind] at hscalar
  | intEnum | stringEnum => simp [hkind, PropertyKind.isEnum] at henum
  | primitive =>
      -- With a zero value it would have been stored plainly.
      have hzero : property.scalar.hasZero = false := by
        unfold Storage.of at h
        simp only [hkind, hrequired, Bool.false_eq_true, if_false] at h
        split at h
        · cases h
        · split at h
          · cases h
          · split at h
            · cases h
            · exact Bool.eq_false_iff.mpr ‹_›
      cases hclass : property.scalar with
      | other => simp [Property.isPrimitiveIn, hkind, hclass, PropertyKind.isPrimitive]
      | _ => simp [hclass, ScalarClass.hasZero] at hzero

/-- Enumerations are told apart from what has no zero value. -/
theorem Schema.Property.not_enum_of_zeroless
    (h : property.isNested = true ∨ property.isPrimitiveIn [.other] = true) :
    ¬ property.kind.isEnum = true := by
  cases hkind : property.kind with
  | primitive | nested _ _ => simp [PropertyKind.isEnum]
  | intEnum | stringEnum =>
      simp [Property.isNested, Property.isPrimitiveIn, hkind, PropertyKind.isPrimitive] at h

namespace Cell.Damaged

variable {label : String} {corruption : Corruption}

/-- Lists of values are never damaged, nor are cells with records in them. -/
theorem not_of_isNull (hnull : cell.isNull = false)
    (h : property.isArray = true ∨ cell.elements = []) :
    ¬ cell.Damaged bindings label property corruption := by
  intro hdamaged
  cases hdamaged with
  | element single held _ =>
      rcases h with harray | hnone
      · simp [single] at harray
      · simp [held] at hnone
  | standIn _ _ null _ => simp [hnull] at null
  | missing _ _ _ null => simp [hnull] at null

/-- There is at most one damage. -/
theorem unique {other : Corruption} (h : cell.Damaged bindings label property corruption)
    (hother : cell.Damaged bindings label property other) : corruption = other := by
  -- Null leaves no element, and an enumeration is nothing that lacks a zero value, so
  -- only damage of the same kind comes together.
  cases h with
  | element _ held rejected =>
      cases hother with
      | element _ held' rejected' =>
          cases held.symm.trans held'
          cases rejected.symm.trans rejected'
          rfl
      | standIn _ _ null _ => simp [elements_of_isNull null] at held
      | missing _ _ _ null => simp [elements_of_isNull null] at held
  | standIn _ enumeration null rejected =>
      cases hother with
      | element _ held _ => simp [elements_of_isNull null] at held
      | standIn _ _ _ rejected' =>
          cases rejected.symm.trans rejected'
          rfl
      | missing _ _ zeroless _ => exact absurd enumeration (Property.not_enum_of_zeroless zeroless)
  | missing _ _ zeroless null =>
      cases hother with
      | element _ held _ => simp [elements_of_isNull null] at held
      | standIn _ enumeration _ _ =>
          exact absurd enumeration (Property.not_enum_of_zeroless zeroless)
      | missing _ _ _ _ => rfl

end Cell.Damaged

end

end Recordsmith
