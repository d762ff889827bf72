import Recordsmith.Emit.Expansion

/-!
# `Recordsmith.Proofs.Emit.Uses`: what generated code reads and writes

The functions of a translator have two variables, the record and the domain
value. Their code uses them by their fields only: `record . title` stands for the
field of the record. `Uses types trees used` says that trees, at any depth of
groups, use the variables by exactly the fields listed in `used`, in this order.
Types are not looked into, since a type may have any names in it.

Each part of generated code has its lemma, down to the two that matter:
`uses_readTrees`, by which reading a property uses its record field once and
nothing else, and `writeBlock_writeTrees`, by which writing a property is a row of
statements on its record field, with a value that uses its domain field once and
nothing else (`WriteBlock`).
-/

set_option autoImplicit false

namespace Recordsmith.Emit

open Recordsmith.Source Recordsmith.Source.Tree Recordsmith.Schema

/-- A use of a variable by one of its fields. -/
structure Access where
  owner : Ident
  field : Ident
  deriving DecidableEq, Repr

/-- A field of the record. -/
def ofRecord (field : Ident) : Access :=
  ⟨.plain "record", field⟩

/-- A field of the domain value. -/
def ofDomain (field : Ident) : Access :=
  ⟨.plain "domain", field⟩

/-- The variables of generated functions. -/
def functionVars : List Ident :=
  [.plain "record", .plain "domain"]

/-- Whether trees use the variables by the fields listed, in order, and not in
any other way. Types are among those that are given. -/
inductive Uses (types : List (List Tree)) : List Tree → List Access → Prop where
  | nil : Uses types [] []
  /-- A variable with one of its fields. -/
  | access {name field : Ident} {rest : List Tree} {used : List Access}
      (known : name ∈ functionVars) (others : Uses types rest used) :
      Uses types (.ident name :: .punct '.' false :: .ident field :: rest) (⟨name, field⟩ :: used)
  /-- A type. -/
  | type {type rest : List Tree} {used : List Access} (known : type ∈ types)
      (others : Uses types rest used) : Uses types (type ++ rest) used
  | group {delimiter : Delimiter} {body rest : List Tree} {inner used : List Access}
      (inside : Uses types body inner) (others : Uses types rest used) :
      Uses types (.group delimiter body :: rest) (inner ++ used)
  /-- Any other name. -/
  | ident {name : Ident} {rest : List Tree} {used : List Access} (other : name ∉ functionVars)
      (others : Uses types rest used) : Uses types (.ident name :: rest) used
  | punct {char : Char} {joint : Bool} {rest : List Tree} {used : List Access}
      (others : Uses types rest used) : Uses types (.punct char joint :: rest) used
  | literal {text : String} {rest : List Tree} {used : List Access}
      (others : Uses types rest used) : Uses types (.literal text :: rest) used

/-- Whether a tree is neither a group nor a variable. -/
def isToken : Tree → Bool
  | .ident name => !functionVars.contains name
  | .group _ _ => false
  | _ => true

section

variable {types : List (List Tree)} {trees more : List Tree} {used others : List Access}

/-! ### Trees one after the other -/

/-- Trees behind trees use what both use, in order. -/
theorem Uses.append (h : Uses types trees used) (h' : Uses types more others) :
    Uses types (trees ++ more) (used ++ others) := by
  induction h with
  | nil => exact h'
  | access known _ ih => exact .access known ih
  | type known _ ih =>
      rw [List.append_assoc]
      exact .type known ih
  | group inside _ _ ih =>
      rw [List.append_assoc]
      exact .group inside ih
  | ident other _ ih => exact .ident other ih
  | punct _ ih => exact .punct ih
  | literal _ ih => exact .literal ih

/-- Words and operators use nothing. -/
theorem uses_tokens (h : trees.all isToken = true) : Uses types trees [] := by
  induction trees with
  | nil => exact .nil
  | cons tree rest ih =>
      rw [List.all_cons, Bool.and_eq_true] at h
      cases tree with
      | ident name =>
          have hother : name ∉ functionVars := by simpa [isToken] using h.1
          exact .ident hother (ih h.2)
      | punct char joint => exact .punct (ih h.2)
      | literal text => exact .literal (ih h.2)
      | group delimiter body => cases h.1

/-- A type of the property uses no field. -/
theorem uses_type (h : trees ∈ types) : Uses types trees [] := by
  have hone := Uses.type h .nil
  rwa [List.append_nil] at hone

/-- Words and operators in front change nothing. -/
theorem Uses.behind (h : Uses types more used) (htokens : trees.all isToken = true) :
    Uses types (trees ++ more) used :=
  (uses_tokens htokens).append h

/-- Nor do words and operators behind. -/
theorem Uses.before (h : Uses types trees used) (htokens : more.all isToken = true) :
    Uses types (trees ++ more) used := by
  have hall := h.append (uses_tokens htokens)
  rwa [List.append_nil] at hall

/-! ### Calls -/

/-- A call uses what its function and its arguments use. -/
theorem Uses.call {arguments : List (List Tree)} (h : Uses types trees used)
    (hargs : Uses types (commaSeparated arguments) others) :
    Uses types (call trees arguments) (used ++ others) := by
  have hgroup : Uses types [parens (commaSeparated arguments)] (others ++ []) :=
    .group hargs .nil
  rw [List.append_nil] at hgroup
  exact h.append hgroup

/-- A call without arguments uses what its function uses. -/
theorem Uses.call_none (h : Uses types trees used) : Uses types (Emit.call trees []) used := by
  have hcall : Uses types (Emit.call trees []) (used ++ []) := h.call .nil
  rwa [List.append_nil] at hcall

/-- One argument stands alone. -/
theorem commaSeparated_one (argument : List Tree) : commaSeparated [argument] = argument := by
  simp [commaSeparated, List.intercalate]

/-- Two arguments have a comma between them. -/
theorem commaSeparated_two (first second : List Tree) :
    commaSeparated [first, second] = first ++ phrase "," ++ second := by
  simp [commaSeparated, List.intercalate]

/-- A call of a function that uses nothing, with one argument. -/
theorem Uses.argument (h : Uses types more used) (hfunction : Uses types trees []) :
    Uses types (Emit.call trees [more]) used := by
  have harg : Uses types (commaSeparated [more]) used := by rwa [commaSeparated_one]
  exact hfunction.call harg

/-- A call of a function that uses nothing, with a second argument that uses
nothing. -/
theorem Uses.argument_first {second : List Tree} (h : Uses types more used)
    (hfunction : Uses types trees []) (hsecond : second.all isToken = true) :
    Uses types (Emit.call trees [more, second]) used := by
  have hargs : Uses types (commaSeparated [more, second]) used := by
    rw [commaSeparated_two]
    exact (h.before rfl).before hsecond
  exact hfunction.call hargs

/-! ### Parts of generated code -/

/-- A copy uses what is copied. -/
theorem Uses.cloned (h : Uses types trees used) : Uses types (cloned trees) used :=
  h.argument (uses_tokens rfl)

/-- A value that is marked as present is used once. -/
theorem Uses.present (h : Uses types trees used) : Uses types (present trees) used :=
  h.argument (uses_tokens rfl)

/-- The mark for presence uses no field, if there is one or not. -/
theorem Uses.presentIf (h : Uses types trees used) (optional : Bool) :
    Uses types (TranslatorItem.presentIf optional trees) used := by
  unfold TranslatorItem.presentIf
  split
  · exact h.present
  · exact h

/-- A member of a type uses nothing. -/
theorem uses_memberOf (h : trees ∈ types) {trait member : String}
    (htrait : (support trait).all isToken = true) (hmember : (phrase member).all isToken = true) :
    Uses types (memberOf trees trait member) [] := by
  have hview : Uses types (viewedAs trees trait) [] :=
    (((uses_type h).behind rfl).before rfl |>.before htrait).before rfl
  exact (hview.before rfl).before hmember

/-- Turning a value into an option uses the value once. -/
theorem Uses.asOption (h : Uses types trees used) :
    Uses types (TranslatorItem.asOption trees) used :=
  (h.before rfl).call_none

/-- What is applied inside an option uses nothing of its own. -/
theorem Uses.mapped (h : Uses types trees used) (hbody : Uses types more []) :
    Uses types (TranslatorItem.mapped trees more) used := by
  have hfunction : Uses types (commaSeparated [phrase "| value |" ++ more]) [] := by
    rw [commaSeparated_one]
    exact hbody.behind rfl
  have hcall : Uses types (TranslatorItem.mapped trees more) (used ++ []) :=
    (h.before rfl).call hfunction
  rwa [List.append_nil] at hcall

/-- Expecting a value to be present uses it once. -/
theorem Uses.expected (h : Uses types trees used) (label : String) :
    Uses types (TranslatorItem.expected trees label) used :=
  h.asOption.argument_first (uses_tokens rfl) rfl

/-- A call of a decoding function uses what its value uses. -/
theorem Uses.decoded {arguments : List Tree} (h : Uses types trees used) {function : String}
    (hfunction : (support ("decode :: " ++ function)).all isToken = true)
    (harguments : Uses types arguments []) (label : String) :
    Uses types (TranslatorItem.decoded function arguments trees label) used := by
  have hpath : Uses types (support ("decode :: " ++ function) ++ phrase ":: <" ++ arguments) [] :=
    ((uses_tokens hfunction).before rfl).append harguments
  exact h.argument_first (hpath.before rfl) rfl

/-! ### Elements -/

/-- Whether the type that a transfer names is among some types. -/
def Transfer.Within (types : List (List Tree)) : Transfer → Prop
  | .raw enumeration => enumeration.trees ∈ types
  | .text type => type.trees ∈ types
  | .copy => True

/-- Loading an element uses what is loaded once. -/
theorem Uses.loadTrees (h : Uses types trees used) {transfer : Transfer}
    (hwithin : Transfer.Within types transfer) (label : String) :
    Uses types (TranslatorItem.loadTrees transfer trees label) used := by
  cases transfer with
  | raw enumeration => exact h.decoded rfl (uses_type hwithin) label
  | text type => exact h.decoded rfl (uses_type hwithin) label
  | copy => exact h.cloned

/-- Loading a list uses what is loaded once. -/
theorem Uses.loadAllTrees (h : Uses types trees used) {transfer : Transfer}
    (hwithin : Transfer.Within types transfer) (label : String) :
    Uses types (TranslatorItem.loadAllTrees transfer trees label) used := by
  cases transfer with
  | raw enumeration => exact (h.behind rfl).decoded rfl ((uses_type hwithin).before rfl) label
  | text type => exact (h.behind rfl).decoded rfl ((uses_type hwithin).before rfl) label
  | copy => exact (h.before rfl).call_none

/-- Storing an element uses what is stored once. -/
theorem Uses.storeTrees (h : Uses types trees used) {transfer : Transfer}
    (hwithin : Transfer.Within types transfer) :
    Uses types (TranslatorItem.storeTrees transfer trees) used := by
  cases transfer with
  | raw enumeration => exact h.argument (uses_memberOf hwithin rfl rfl)
  | text type => exact h.argument (uses_tokens rfl)
  | copy => exact h.cloned

/-- The elements of a list that may be absent use the list once. -/
theorem Uses.elementsTrees (h : Uses types trees used) (optional : Bool) :
    Uses types (TranslatorItem.elementsTrees trees optional) used := by
  unfold TranslatorItem.elementsTrees
  split
  · exact ((h.before rfl).call_none.before rfl).call_none
  · exact (h.before rfl).call_none

/-! ### Properties -/

/-- Reading off the record uses the field that is named. -/
theorem uses_recordField (field : Ident) :
    Uses types (phrase "record ." ++ [.ident field]) [ofRecord field] :=
  .access (by decide) .nil

/-- Reading off the domain value uses the field that is named. -/
theorem uses_domainField (field : Ident) :
    Uses types (phrase "domain ." ++ [.ident field]) [ofDomain field] :=
  .access (by decide) .nil

/-- Whether the types that a plan for reading names are among some types. -/
def ReadPlan.Within (types : List (List Tree)) : ReadPlan → Prop
  | .nestedList translator _ | .nestedOptional translator | .nestedRequired translator =>
    translator.trees ∈ types
  | .list transfer _ | .plain transfer | .boxOptional transfer | .boxOrDefault transfer
  | .optional transfer | .orDefault transfer | .required transfer => Transfer.Within types transfer
  | .boxOrZero _ => True

/-- Reading a property uses its record field once and nothing else. -/
theorem uses_readTrees {plan : ReadPlan} (h : ReadPlan.Within types plan) (source : Ident)
    (label : String) :
    Uses types (TranslatorItem.readTrees plan source label) [ofRecord source] := by
  have hfield : Uses types (phrase "record ." ++ [.ident source]) [ofRecord source] :=
    uses_recordField source
  have hvalue : Uses types [word "value"] [] := uses_tokens rfl
  -- Each plan wraps the field in trees of its own, and none of these names a field.
  cases plan with
  | nestedList translator optional =>
      have hmember : Uses types (TranslatorItem.nestedMember translator "from_records") [] :=
        uses_memberOf h rfl rfl
      exact (((hfield.behind rfl).argument hmember).before rfl).presentIf optional
  | nestedOptional translator =>
      have hmember : Uses types (commaSeparated
          [TranslatorItem.nestedMember translator "from_record"]) [] := by
        rw [commaSeparated_one]
        exact uses_memberOf h rfl rfl
      exact (((hfield.asOption.before rfl).call hmember).before rfl).call_none.before rfl
  | nestedRequired translator =>
      have hmember : Uses types (TranslatorItem.nestedMember translator "from_record") [] :=
        uses_memberOf h rfl rfl
      exact ((hfield.expected label).argument hmember).before rfl
  | list transfer optional => exact (hfield.loadAllTrees h label).presentIf optional
  | plain transfer => exact (hfield.behind rfl).loadTrees h label
  | boxOptional transfer =>
      exact (hfield.before rfl).call_none.mapped (hvalue.loadTrees h label)
  | boxOrDefault transfer =>
      exact ((hfield.before rfl).call_none.behind rfl).loadTrees h label
  | boxOrZero element => exact (hfield.before rfl).call_none
  | optional transfer => exact hfield.asOption.mapped (hvalue.loadTrees h label)
  | orDefault transfer =>
      have hcopy := (hfield.behind rfl : Uses types (phrase "&" ++ _) _).cloned
      exact ((hcopy.before rfl).call_none.behind rfl).loadTrees h label
  | required transfer => exact (hfield.expected label).loadTrees h label

/-- Whether the types that a plan for writing names are among some types. -/
def WritePlan.Within (types : List (List Tree)) : WritePlan → Prop
  | .nestedList translator _ | .nestedOptional translator | .nestedRequired translator =>
    translator.trees ∈ types
  | .list transfer _ | .plain transfer | .boxOptional transfer | .boxSet transfer
  | .optional transfer | .present transfer => Transfer.Within types transfer

/-- The field of a record that generated code refers to. -/
def recordField (field : Ident) : List Tree :=
  [word "record", .punct '.' false, .ident field]

/-- The statements that write something of one domain field to one record field,
and nothing else. -/
inductive WriteBlock (types : List (List Tree)) (name target : Ident) : List Tree → Prop where
  /-- The record field gets a value. -/
  | assigned {value : List Tree} (source : Uses types value [ofDomain name]) :
      WriteBlock types name target
        (recordField target ++ .punct '=' false :: (value ++ [.punct ';' false]))
  /-- A box gets a value or null. -/
  | replaced {value : List Tree} (source : Uses types value [ofDomain name]) :
      WriteBlock types name target
        (recordField target ++ [.punct '.' false, word "replace", .group .paren value,
          .punct ';' false])
  /-- A box gets a value. -/
  | set {value : List Tree} (source : Uses types value [ofDomain name]) :
      WriteBlock types name target
        (recordField target ++ [.punct '.' false, word "set", .group .paren value,
          .punct ';' false])
  /-- A list is emptied and gets values. -/
  | refilled {values : List Tree} (source : Uses types values [ofDomain name]) :
      WriteBlock types name target
        (recordField target ++ [.punct '.' false, word "clear", .group .paren [],
            .punct ';' false] ++
          recordField target ++ [.punct '.' false, word "extend", .group .paren values,
            .punct ';' false])
  /-- What is in the record field is taken out first. -/
  | refreshed {value : List Tree} (source : Uses types value [ofDomain name]) :
      WriteBlock types name target
        ([word "let", word "existing", .punct '=' false] ++ recordField target ++
          [.punct '.' false, word "take", .group .paren [], .punct ';' false] ++
          recordField target ++ .punct '=' false :: (value ++ [.punct ';' false]))

/-- A call with one argument has it in parentheses. -/
theorem call_one (function argument : List Tree) :
    call function [argument] = function ++ [.group .paren argument] := by
  rw [Emit.call, commaSeparated_one]
  rfl

section

variable {name target : Ident} {value : List Tree} (source : Uses types value [ofDomain name])

include source

/-- A box is told to replace what is in it. -/
theorem writeBlock_replaced :
    WriteBlock types name target
      (Emit.call (recordField target ++ phrase ". replace") [value] ++ phrase ";") := by
  rw [call_one]
  exact .replaced source

/-- A box is told what to hold. -/
theorem writeBlock_set :
    WriteBlock types name target
      (Emit.call (recordField target ++ phrase ". set") [value] ++ phrase ";") := by
  rw [call_one]
  exact .set source

/-- A list is emptied and filled again. -/
theorem writeBlock_refilled :
    WriteBlock types name target (TranslatorItem.refilled (recordField target) value) := by
  unfold TranslatorItem.refilled
  rw [call_one]
  exact .refilled source

end

/-- Writing a property writes something of its domain field to its record field. -/
theorem writeBlock_writeTrees {plan : WritePlan} (h : WritePlan.Within types plan)
    (name target : Ident) :
    WriteBlock types name target (TranslatorItem.writeTrees plan name target) := by
  have hdomain : Uses types (phrase "domain ." ++ [.ident name]) [ofDomain name] :=
    uses_domainField name
  have hreference : Uses types (phrase "&" ++ (phrase "domain ." ++ [.ident name]))
      [ofDomain name] := hdomain.behind rfl
  have hvalue : Uses types [word "value"] [] := uses_tokens rfl
  cases plan with
  | nestedList translator optional =>
      have hmember : Uses types (TranslatorItem.nestedMember translator "to_records") [] :=
        uses_memberOf h rfl rfl
      exact writeBlock_refilled (((hdomain.elementsTrees optional).argument hmember).before rfl)
  | nestedOptional translator =>
      have hmember : Uses types (TranslatorItem.nestedMember translator "refresh") [] :=
        uses_memberOf h rfl rfl
      have hcall : Uses types (Emit.call (TranslatorItem.nestedMember translator "refresh")
          [[word "value"], [word "existing"]]) [] := hvalue.argument_first hmember rfl
      have hrefresh : Uses types (Emit.call (TranslatorItem.mapped (TranslatorItem.asOption _) _ ++
          phrase ". transpose") [] ++ phrase "?") [ofDomain name] :=
        ((hdomain.asOption.mapped hcall).before rfl).call_none.before rfl
      -- The question mark belongs to the value, though it is written with the semicolon.
      have hend : ∀ front : List Tree,
          front ++ phrase "? ;" = front ++ phrase "?" ++ [.punct ';' false] := by
        intro front
        rw [List.append_assoc]
        rfl
      simp only [TranslatorItem.writeTrees, hend]
      exact .refreshed hrefresh
  | nestedRequired translator =>
      have hmember : Uses types (TranslatorItem.nestedMember translator "refresh") [] :=
        uses_memberOf h rfl rfl
      have hrefresh : Uses types (Emit.call (TranslatorItem.nestedMember translator "refresh")
          [_, [word "existing"]] ++ phrase "?") [ofDomain name] :=
        (hreference.argument_first hmember rfl).before rfl
      exact .refreshed hrefresh.present
  | list transfer optional =>
      exact writeBlock_refilled ((hdomain.elementsTrees optional).mapped (hvalue.storeTrees h))
  | plain transfer => exact .assigned (hreference.storeTrees h)
  | boxOptional transfer =>
      exact writeBlock_replaced (hdomain.asOption.mapped (hvalue.storeTrees h))
  | boxSet transfer => exact writeBlock_set (hreference.storeTrees h)
  | optional transfer => exact .assigned (hdomain.asOption.mapped (hvalue.storeTrees h))
  | present transfer => exact .assigned (hreference.storeTrees h).present

end

end Recordsmith.Emit
