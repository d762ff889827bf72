import Mathlib.Data.List.Nodup
import Mathlib.Data.List.Perm.Basic
import Recordsmith.Proofs.Schema.Accepted
import Recordsmith.Schema.Options

/-!
# `Recordsmith.Proofs.Schema.Options`: how options are collected

Options are collected item by item, and an attribute matters only for the items that it
holds. So `ofAttributes` is one run over the items of all `dao` attributes
(`ofAttributes_eq_foldl`), and where one attribute ends and the next begins is forgotten.

An item that is as it should be has a name that is known and a value that can be read as a
change of the options (`change?`). `issues_foldl_eq_nil_iff` says when a run has no issues:
each item is of this kind, and no name comes twice. This does not depend on the order of the
items. The options do not either, since differently named options are kept in different
places (`Independent`), and so `foldl_of_perm` holds.
-/

set_option autoImplicit false

namespace Recordsmith.Schema

open Recordsmith.Source

/-! ### Items of attributes -/

/-- The items that an attribute holds, if its form and its list can be read. -/
def items? (attr : Attribute) : Option (List MetaItem) :=
  if attr.isNamed "dao" then
    match attr.form with
    | .word => some []
    | .value _ => none
    | .list trees => (MetaItem.ofTrees trees).toOption
  else some []

/-- Whether the items of all attributes can be read. -/
def Readable (attributes : List Attribute) : Prop :=
  ∀ attr ∈ attributes, (items? attr).isSome = true

/-- The items that attributes hold, one attribute after the other. -/
def itemsIn (attributes : List Attribute) : List MetaItem :=
  attributes.flatMap fun attr => (items? attr).getD []

/-- The attributes that hold no options. -/
def foreign (attributes : List Attribute) : List Attribute :=
  attributes.filter fun attr => !attr.isNamed "dao"

section

variable {σ : Type} {defs : List (OptionDef σ)}

namespace Collected

/-- An attribute counts for its items. -/
theorem addAttribute_eq_foldl {attr : Attribute} {items : List MetaItem}
    (h : items? attr = some items) (collected : Collected σ) :
    addAttribute defs collected attr = items.foldl (addItem defs) collected := by
  unfold items? at h
  unfold addAttribute
  by_cases hdao : attr.isNamed "dao" = true
  · rw [if_pos hdao] at h ⊢
    -- Only a list of items is read, and a complaint about it would leave the attribute without
    -- items.
    cases hform : attr.form with
    | word =>
        rw [hform] at h
        cases h
        rfl
    | value _ =>
        rw [hform] at h
        cases h
    | list trees =>
        rw [hform] at h
        cases hread : MetaItem.ofTrees trees with
        | error complaint =>
            simp only [hread] at h
            cases h
        | ok found =>
            simp only [hread] at h
            cases h
            simp only [hread]
  · rw [if_neg hdao] at h ⊢
    cases h
    rfl

/-- Attributes count for their items, as if one attribute held them all. -/
theorem foldl_addAttribute {attributes : List Attribute} (h : Readable attributes)
    (collected : Collected σ) :
    attributes.foldl (addAttribute defs) collected
      = (itemsIn attributes).foldl (addItem defs) collected := by
  induction attributes generalizing collected with
  | nil => rfl
  | cons attr rest ih =>
      obtain ⟨hattr, hrest⟩ := List.forall_mem_cons.mp h
      obtain ⟨items, hitems⟩ := Option.isSome_iff_exists.mp hattr
      have hsplit : itemsIn (attr :: rest) = items ++ itemsIn rest := by
        simp [itemsIn, hitems]
      rw [List.foldl_cons, addAttribute_eq_foldl hitems, ih hrest, hsplit, List.foldl_append]

/-- Attributes without a complaint of their own count for their items, in order. -/
theorem ofAttributes_eq_foldl {attributes : List Attribute} (h : Readable attributes)
    (initial : σ) :
    ofAttributes defs initial attributes
      = (itemsIn attributes).foldl (addItem defs) ⟨initial, [], []⟩ :=
  foldl_addAttribute h _

end Collected

/-! ### Items without issues -/

/-- The name of an item and the change that it makes, if the name is known and its value can
be read. -/
def change? (defs : List (OptionDef σ)) : MetaItem → Option (String × (σ → σ))
  | .literal => none
  | .entry path form =>
    let name := "::".intercalate (path.map Ident.spelled)
    (defs.find? (·.name == name)).bind fun found =>
      (found.read form).toOption.map fun change => (name, change)

/-- The changes that items make, in order. -/
def changesOf (defs : List (OptionDef σ)) (items : List MetaItem) : List (String × (σ → σ)) :=
  items.filterMap (change? defs)

/-- A change is what the definition with its name reads from an item. -/
theorem exists_of_change? {item : MetaItem} {name : String} {change : σ → σ}
    (h : change? defs item = some (name, change)) :
    ∃ path form found, item = .entry path form ∧
      "::".intercalate (path.map Ident.spelled) = name ∧
      defs.find? (·.name == name) = some found ∧ found.read form = .ok change := by
  cases item with
  | literal => cases h
  | entry path form =>
      obtain ⟨found, hfind, hread⟩ := Option.bind_eq_some_iff.mp h
      obtain ⟨read, hread, heq⟩ := Option.map_eq_some_iff.mp hread
      cases heq
      refine ⟨path, form, found, rfl, rfl, hfind, ?_⟩
      cases hform : found.read form with
      | error issue =>
          rw [hform] at hread
          cases hread
      | ok value =>
          rw [hform] at hread
          cases hread
          rfl

namespace Collected

/-- An item that makes a change makes it, if its name is new. -/
theorem addItem_of_change? {item : MetaItem} {name : String} {change : σ → σ}
    (h : change? defs item = some (name, change)) (collected : Collected σ) :
    addItem defs collected item
      = if name ∈ collected.seen then collected.report (.repeatedOption name)
        else { collected with
          options := change collected.options, seen := name :: collected.seen } := by
  obtain ⟨path, form, found, rfl, hname, hfind, hread⟩ := exists_of_change? h
  simp only [addItem, hname, hfind, hread, List.contains_eq_mem, decide_eq_true_eq]

/-- Any other item leaves an issue. -/
theorem addItem_of_no_change {item : MetaItem} (h : change? defs item = none)
    (collected : Collected σ) :
    ∃ issue, (addItem defs collected item).issues = collected.issues ++ [issue] := by
  cases item with
  | literal => exact ⟨_, rfl⟩
  | entry path form =>
      rw [addItem]
      -- An unknown name, a name that comes twice and a form that is not read are the ways to
      -- fail.
      cases hfind : defs.find? (·.name == "::".intercalate (path.map Ident.spelled)) with
      | none => exact ⟨_, rfl⟩
      | some found =>
          dsimp only
          split
          · exact ⟨_, rfl⟩
          · cases hform : found.read form with
            | error issue => exact ⟨issue, rfl⟩
            | ok change => simp [change?, hfind, hform, Except.toOption] at h

/-- Issues are only added. -/
theorem issues_prefix_addItem (collected : Collected σ) (item : MetaItem) :
    collected.issues <+: (addItem defs collected item).issues := by
  cases hchange : change? defs item with
  | none =>
      obtain ⟨issue, hissues⟩ := addItem_of_no_change hchange collected
      exact ⟨[issue], hissues.symm⟩
  | some found =>
      rw [addItem_of_change? hchange]
      split
      · exact ⟨_, rfl⟩
      · exact List.prefix_rfl

/-- A run over items keeps the issues that there are. -/
theorem issues_prefix_foldl (collected : Collected σ) (items : List MetaItem) :
    collected.issues <+: (items.foldl (addItem defs) collected).issues := by
  induction items generalizing collected with
  | nil => exact List.prefix_rfl
  | cons item rest ih => exact (issues_prefix_addItem collected item).trans (ih _)

/-- What items come to if each makes a change and no name comes twice. -/
theorem foldl_of_changes {items : List MetaItem} (collected : Collected σ)
    (hall : ∀ item ∈ items, (change? defs item).isSome = true)
    (hnodup : ((changesOf defs items).map Prod.fst).Nodup)
    (hnew : ∀ name ∈ (changesOf defs items).map Prod.fst, name ∉ collected.seen) :
    (items.foldl (addItem defs) collected).options
        = (changesOf defs items).foldl (fun options change => change.2 options)
            collected.options ∧
      (items.foldl (addItem defs) collected).issues = collected.issues := by
  induction items generalizing collected with
  | nil => exact ⟨rfl, rfl⟩
  | cons item rest ih =>
      obtain ⟨hitem, hrest⟩ := List.forall_mem_cons.mp hall
      obtain ⟨⟨name, change⟩, hchange⟩ := Option.isSome_iff_exists.mp hitem
      have hcons : changesOf defs (item :: rest) = (name, change) :: changesOf defs rest :=
        List.filterMap_cons_some hchange
      rw [hcons, List.map_cons] at hnodup hnew
      obtain ⟨hfirst, hothers⟩ := List.nodup_cons.mp hnodup
      obtain ⟨hname, hnames⟩ := List.forall_mem_cons.mp hnew
      rw [hcons, List.foldl_cons, addItem_of_change? hchange, if_neg hname, List.foldl_cons]
      -- One more name has been seen, and it is none of those to come.
      refine ih _ hrest hothers fun other hother => ?_
      rw [List.mem_cons, not_or]
      refine ⟨?_, hnames other hother⟩
      rintro rfl
      exact hfirst hother

/-- A run over items has no issues if each makes a change and no name comes twice, and only
then. -/
theorem issues_foldl_eq_nil_iff {items : List MetaItem} {collected : Collected σ}
    (hstart : collected.issues = []) :
    (items.foldl (addItem defs) collected).issues = [] ↔
      (∀ item ∈ items, (change? defs item).isSome = true) ∧
      ((changesOf defs items).map Prod.fst).Nodup ∧
      ∀ name ∈ (changesOf defs items).map Prod.fst, name ∉ collected.seen := by
  constructor
  · intro hnone
    induction items generalizing collected with
    | nil => simp [changesOf]
    | cons item rest ih =>
        -- After the first item there is still no issue, so it made its change.
        rw [List.foldl_cons] at hnone
        have hafter : (addItem defs collected item).issues = [] :=
          List.prefix_nil.mp (hnone ▸ issues_prefix_foldl _ rest)
        cases hchange : change? defs item with
        | none =>
            obtain ⟨issue, hissues⟩ := addItem_of_no_change hchange collected
            simp [hissues] at hafter
        | some found =>
            obtain ⟨name, change⟩ := found
            have hadd := addItem_of_change? hchange collected
            have hname : name ∉ collected.seen := by
              intro hseen
              rw [hadd, if_pos hseen] at hafter
              simp [report] at hafter
            rw [if_neg hname] at hadd
            rw [hadd] at hnone
            obtain ⟨hall, hnodup, hnew⟩ := ih (by simpa using hstart) hnone
            have hcons : changesOf defs (item :: rest) = (name, change) :: changesOf defs rest :=
              List.filterMap_cons_some hchange
            rw [hcons, List.map_cons]
            refine ⟨List.forall_mem_cons.mpr ⟨by rw [hchange]; rfl, hall⟩,
              List.nodup_cons.mpr ⟨?_, hnodup⟩, List.forall_mem_cons.mpr ⟨hname, ?_⟩⟩
            · exact fun hmem => hnew name hmem List.mem_cons_self
            · exact fun other hother hseen => hnew other hother (List.mem_cons_of_mem _ hseen)
  · rintro ⟨hall, hnodup, hnew⟩
    rw [(foldl_of_changes collected hall hnodup hnew).2, hstart]

end Collected

/-! ### The order of items -/

/-- Whether options of different names can be set in any order. -/
def Independent (defs : List (OptionDef σ)) : Prop :=
  ∀ a ∈ defs, ∀ b ∈ defs, a.name ≠ b.name →
    ∀ form other change next, a.read form = .ok change → b.read other = .ok next →
      ∀ options, next (change options) = change (next options)

/-- Items that leave no issues leave none in any other order, and give the same options. -/
theorem Collected.foldl_of_perm (hdefs : Independent defs) {items others : List MetaItem}
    (hperm : others.Perm items) (initial : σ)
    (h : (items.foldl (addItem defs) ⟨initial, [], []⟩).issues = []) :
    (others.foldl (addItem defs) ⟨initial, [], []⟩).options
        = (items.foldl (addItem defs) ⟨initial, [], []⟩).options ∧
      (others.foldl (addItem defs) ⟨initial, [], []⟩).issues = [] := by
  obtain ⟨hall, hnodup, _⟩ := (issues_foldl_eq_nil_iff rfl).mp h
  have hchanges : (changesOf defs others).Perm (changesOf defs items) := hperm.filterMap _
  have hothers : ∀ item ∈ others, (change? defs item).isSome = true :=
    fun item hitem => hall item (hperm.mem_iff.mp hitem)
  have hdistinct : ((changesOf defs others).map Prod.fst).Nodup :=
    (hchanges.map Prod.fst).nodup_iff.mpr hnodup
  obtain ⟨hoptions, _⟩ := foldl_of_changes ⟨initial, [], []⟩ hall hnodup (by simp)
  obtain ⟨hoptions', hissues⟩ := foldl_of_changes ⟨initial, [], []⟩ hothers hdistinct (by simp)
  refine ⟨?_, hissues⟩
  rw [hoptions, hoptions']
  refine hchanges.foldl_eq' ?_ initial
  -- Two changes of one name are the same one; all others can be swapped.
  rintro ⟨name, change⟩ hchange ⟨name', change'⟩ hchange' options
  by_cases hname : name = name'
  · have hsame : (name, change) = (name', change') :=
      List.inj_on_of_nodup_map hdistinct hchange hchange' hname
    cases hsame
    rfl
  · obtain ⟨item, _, hitem⟩ := List.mem_filterMap.mp hchange
    obtain ⟨item', _, hitem'⟩ := List.mem_filterMap.mp hchange'
    obtain ⟨_, form, found, _, _, hfind, hform⟩ := exists_of_change? hitem
    obtain ⟨_, form', found', _, _, hfind', hform'⟩ := exists_of_change? hitem'
    obtain rfl : found.name = name := by simpa using List.find?_some hfind
    obtain rfl : found'.name = name' := by simpa using List.find?_some hfind'
    exact hdefs found (List.mem_of_find?_eq_some hfind) found' (List.mem_of_find?_eq_some hfind')
      hname form form' change change' hform hform' options

end

/-- The options of a declaration do not depend on each other. -/
theorem StructOptions.independent_defs : Independent defs := by
  -- A change sets the field of its option, so two of them are the same update in either order.
  intro a ha b hb hname form other change next hchange hnext options
  simp only [defs, List.mem_cons, List.not_mem_nil, or_false] at ha hb
  rcases ha with rfl | rfl | rfl | rfl <;> rcases hb with rfl | rfl | rfl | rfl <;>
    first
    | exact absurd rfl hname
    | obtain ⟨value, _, rfl⟩ := exists_of_map_eq_ok hchange
      obtain ⟨value', _, rfl⟩ := exists_of_map_eq_ok hnext
      rfl

/-- The options of a field do not depend on each other. -/
theorem FieldOptions.independent_defs : Independent defs := by
  intro a ha b hb hname form other change next hchange hnext options
  simp only [defs, List.mem_cons, List.not_mem_nil, or_false] at ha hb
  -- Two options with different names set different fields.
  rcases ha with rfl | rfl | rfl | rfl | rfl | rfl <;>
    rcases hb with rfl | rfl | rfl | rfl | rfl | rfl <;>
    first
    | exact absurd rfl hname
    | obtain ⟨value, _, rfl⟩ := exists_of_map_eq_ok hchange
      obtain ⟨value', _, rfl⟩ := exists_of_map_eq_ok hnext
      rfl

/-! ### Issues of options -/

/-- Whether an issue is about the way in which options are written. -/
def Issue.IsOfOptions : Issue → Prop
  | .unreadable _ | .valueForm | .wrongForm _ | .wrongType _ | .unknownValue _
  | .unknownOption _ _ _ | .repeatedOption _ => True
  | _ => False

namespace OptionDef

/-- A complaint about the form of an item is one about options. -/
theorem isOfOptions_formIssue (form : MetaForm) : (formIssue form).IsOfOptions := by
  unfold formIssue
  repeat' split
  all_goals trivial

/-- A text that is expected and not found is a complaint about options. -/
theorem isOfOptions_of_readText {form : MetaForm} {issue : Issue}
    (h : readText form = .error issue) : issue.IsOfOptions := by
  unfold readText at h
  split at h
  · cases h
  · cases h
    exact isOfOptions_formIssue _

/-- A flag that is not read is a complaint about options. -/
theorem isOfOptions_of_readFlag {form : MetaForm} {issue : Issue}
    (h : readFlag form = .error issue) : issue.IsOfOptions := by
  unfold readFlag at h
  repeat' split at h
  all_goals cases h
  · trivial
  · exact isOfOptions_formIssue _

/-- A name that is not read is a complaint about options. -/
theorem isOfOptions_of_readIdent {form : MetaForm} {issue : Issue}
    (h : readIdent form = .error issue) : issue.IsOfOptions := by
  unfold readIdent at h
  repeat' split at h
  all_goals cases h
  · trivial
  · exact isOfOptions_formIssue _

/-- A style that is not read is a complaint about options. -/
theorem isOfOptions_of_readNaming {form : MetaForm} {issue : Issue}
    (h : readNaming form = .error issue) : issue.IsOfOptions := by
  unfold readNaming at h
  repeat' split at h
  all_goals cases h
  · trivial
  · exact isOfOptions_of_readText ‹_›

end OptionDef

/-- Whether values that cannot be read leave issues of options. -/
def Complaining {σ : Type} (defs : List (OptionDef σ)) : Prop :=
  ∀ found ∈ defs, ∀ form issue, found.read form = .error issue → issue.IsOfOptions

/-- The options of a declaration complain about options only. -/
theorem StructOptions.complaining_defs : Complaining defs := by
  intro found hfound form issue h
  simp only [defs, List.mem_cons, List.not_mem_nil, or_false] at hfound
  rcases hfound with rfl | rfl | rfl | rfl
  · exact OptionDef.isOfOptions_of_readIdent (error_of_map_eq_error h)
  · exact OptionDef.isOfOptions_of_readIdent (error_of_map_eq_error h)
  · exact OptionDef.isOfOptions_of_readIdent (error_of_map_eq_error h)
  · exact OptionDef.isOfOptions_of_readNaming (error_of_map_eq_error h)

/-- The options of a field complain about options only. -/
theorem FieldOptions.complaining_defs : Complaining defs := by
  intro found hfound form issue h
  simp only [defs, List.mem_cons, List.not_mem_nil, or_false] at hfound
  rcases hfound with rfl | rfl | rfl | rfl | rfl | rfl
  · exact OptionDef.isOfOptions_of_readFlag (error_of_map_eq_error h)
  · exact OptionDef.isOfOptions_of_readFlag (error_of_map_eq_error h)
  · exact OptionDef.isOfOptions_of_readFlag (error_of_map_eq_error h)
  · exact OptionDef.isOfOptions_of_readFlag (error_of_map_eq_error h)
  · exact OptionDef.isOfOptions_of_readFlag (error_of_map_eq_error h)
  · exact OptionDef.isOfOptions_of_readText (error_of_map_eq_error h)

namespace Collected

variable {σ : Type} {defs : List (OptionDef σ)} {collected : Collected σ}

/-- Whether all issues met are issues of options. -/
def Mistaken (collected : Collected σ) : Prop :=
  ∀ issue ∈ collected.issues, issue.IsOfOptions

/-- One more complaint about options keeps the others what they are. -/
theorem Mistaken.report {issue : Issue} (h : collected.Mistaken) (hissue : issue.IsOfOptions) :
    (collected.report issue).Mistaken :=
  List.forall_mem_append.mpr ⟨h, List.forall_mem_singleton.mpr hissue⟩

/-- An item adds complaints about options only. -/
theorem Mistaken.addItem (hdefs : Complaining defs) (h : collected.Mistaken) (item : MetaItem) :
    (addItem defs collected item).Mistaken := by
  cases item with
  | literal => exact Mistaken.report h trivial
  | entry path form =>
      rw [Collected.addItem]
      -- Of all the complaints only the last one comes from the definition of the option.
      cases hfind : defs.find? (·.name == "::".intercalate (path.map Ident.spelled)) with
      | none => exact h.report trivial
      | some found =>
          dsimp only
          split
          · exact h.report trivial
          · cases hform : found.read form with
            | ok change => exact h
            | error issue =>
                exact Mistaken.report h
                  (hdefs found (List.mem_of_find?_eq_some hfind) form issue hform)

/-- An attribute adds complaints about options only. -/
theorem Mistaken.addAttribute (hdefs : Complaining defs) (h : collected.Mistaken)
    (attr : Attribute) : (addAttribute defs collected attr).Mistaken := by
  unfold Collected.addAttribute
  split
  · split
    · exact h
    · exact h.report trivial
    · split
      · exact List.foldlRecOn _ _ h fun _ hnext item _ => hnext.addItem hdefs item
      · exact h.report trivial
  · exact h

/-- Whatever attributes are there, the issues of their options are issues of options. -/
theorem mistaken_ofAttributes (hdefs : Complaining defs) (initial : σ)
    (attributes : List Attribute) : (ofAttributes defs initial attributes).Mistaken :=
  List.foldlRecOn attributes _ (by simp [Mistaken]) fun _ hnext attr _ =>
    hnext.addAttribute hdefs attr

end Collected

end Recordsmith.Schema
