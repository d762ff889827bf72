import Recordsmith.Proofs.Source.Reading

/-!
# `Recordsmith.Proofs.Source.PlainItems`: items that are read alike wherever they stand

What is read as the value of an item can depend on whether the item ends its list. A `PlainItem`
is one for which this does not matter: a name with nothing behind it, with a group, or with a
value that is a single tree. `ofTrees_joined` says that a list of plain items with commas
between them is read as these items, one by one.

The one tree of a value is read as a literal if nothing follows it, and else as an expression
that ends at the comma. For a name this goes through the rules for operands and paths
(`atom_name`), none of which applies to a name and a comma but that of a path with one segment.
-/

set_option autoImplicit false

namespace Recordsmith.Source

/-! ### Plain items -/

/-- The value of an item, if it is none, a group or a single tree. -/
inductive PlainValue where
  | none
  | group (delimiter : Delimiter) (body : List Tree)
  | literal (text : String)
  | truth (value : Bool)
  | name (name : Ident) (h : name.isName = true)

namespace PlainValue

/-- A value as it is written. -/
def trees : PlainValue → List Tree
  | none => []
  | group delimiter body => [.group delimiter body]
  | literal text => [.punct '=' false, .literal text]
  | truth value => [.punct '=' false, .word (toString value)]
  | name found _ => [.punct '=' false, .ident found]

/-- A value as it is read. -/
def form : PlainValue → MetaForm
  | none => .word
  | group _ body => .list body
  | literal text => .value (.literal (Literal.ofText text))
  | truth value => .value (.literal (.boolean value))
  | name found _ => .value (.name found)

end PlainValue

/-- An item with a plain value. -/
structure PlainItem where
  name : Ident
  value : PlainValue
  isEntry : name.isWord "true" = false ∧ name.isWord "false" = false

namespace PlainItem

/-- An item as it is written. -/
def trees (item : PlainItem) : List Tree :=
  .ident item.name :: item.value.trees

/-- An item as it is read. -/
def item (item : PlainItem) : MetaItem :=
  .entry [item.name] item.value.form

/-- Items as they are written, with commas between them. -/
def joined (items : List PlainItem) : List Tree :=
  List.intercalate [.punct ',' false] (items.map trees)

end PlainItem

/-- Whether an item ends here, at the end of the row or at a comma. -/
def EndsItem (rest : List Tree) : Prop :=
  rest = [] ∨ ∃ more, rest = .punct ',' false :: more

/-! ### Running readers -/

namespace Reader

variable {α β : Type}

/-- A reader of two steps goes on where the first one ends. -/
theorem bind_of_ok {first : Reader α} {next : α → Reader β} {cursor middle : Cursor} {value : α}
    (h : first cursor = .ok (value, middle)) : (first >>= next) cursor = next value middle := by
  change (first cursor >>= fun (value, middle) => next value middle) = _
  rw [h]
  rfl

/-- A reader that is kept from writing reads the same. -/
theorem silently_of_ok {reader : Reader α} {row rest out : List Tree}
    {left left' : Option Delimiter} {value : α}
    (h : reader ⟨row, [], left⟩ = .ok (value, ⟨rest, out, left'⟩)) (written : List Tree) :
    silently reader ⟨row, written, left⟩ = .ok (value, ⟨rest, written, left'⟩) := by
  have hget : (get : Reader Cursor) ⟨row, written, left⟩ = .ok (_, _) := rfl
  have haside : (modify fun cursor => { cursor with written := [] } : Reader Unit)
      ⟨row, written, left⟩ = .ok ((), ⟨row, [], left⟩) := rfl
  have hcaptured : captured reader ⟨row, written, left⟩
      = .ok ((value, out.reverse), ⟨rest, written, left'⟩) := by
    unfold captured
    rw [bind_of_ok hget, bind_of_ok haside, bind_of_ok h]
    rfl
  unfold silently
  rw [bind_of_ok hcaptured]
  rfl

end Reader

/-! ### A name as an expression -/

/-- A name is none of the reserved words. -/
theorem Ident.isWord_of_isName {name : Ident} (h : name.isName = true) {word : String}
    (hword : word ∈ reserved) : name.isWord word = false := by
  simp only [isName, Bool.or_eq_true, Bool.not_eq_true', List.contains_eq_mem,
    decide_eq_false_iff_not] at h
  rcases h with hraw | htext
  · simp [isWord, hraw]
  · have hne : name.text ≠ word := by
      rintro rfl
      exact htext hword
    simp [isWord, hne]

/-- A name that is not reserved is none of the reserved words that a reader looks for. -/
theorem leadsWithWord_of_isName {name : Ident} (h : name.isName = true) {words : List String}
    (hwords : words ⊆ Ident.reserved) (rest : List Tree) :
    leadsWithWord (.ident name :: rest) words = false := by
  rw [leadsWithWord, List.any_eq_false]
  intro word hword
  rw [Bool.not_eq_true]
  exact Ident.isWord_of_isName h (hwords hword)

namespace Grammar

open Reader

section

variable {name : Ident} {rest : List Tree} (inner : Grammar) (h : name.isName = true)
  (hrest : EndsItem rest) (written : List Tree)

include h hrest

/-- A segment of a path is read from a name, up to what cannot belong to it. -/
theorem segment_name :
    segment inner true ⟨.ident name :: rest, written, none⟩
      = .ok (.bare name, ⟨rest, .ident name :: written, none⟩) := by
  -- A segment may also be one of the words that start a path; a name is none of them.
  have hwords : seesWord ["super", "self", "crate", "try"] ⟨.ident name :: rest, written, none⟩
      = .ok (false, ⟨.ident name :: rest, written, none⟩) :=
    congrArg (fun seen => Except.ok (seen, _)) (leadsWithWord_of_isName h (by decide) rest)
  have hself : sees (.word "Self") ⟨.ident name :: rest, written, none⟩
      = .ok (false, ⟨.ident name :: rest, written, none⟩) :=
    congrArg (fun seen => Except.ok (seen, _)) (Ident.isWord_of_isName h (by decide))
  have hname : nameOr "Self" ⟨.ident name :: rest, written, none⟩
      = .ok (name, ⟨rest, .ident name :: written, none⟩) := by
    unfold nameOr
    rw [bind_of_ok hself, if_neg Bool.false_ne_true]
    change (if name.isName = true then anyIdent else throw (.reserved name.text)) _ = _
    rw [if_pos h]
    rfl
  -- Only a comma or the end can follow, and neither opens arguments.
  have harguments : seesArguments true ⟨rest, .ident name :: written, none⟩
      = .ok (false, ⟨rest, .ident name :: written, none⟩) := by
    rcases hrest with rfl | ⟨more, rfl⟩ <;> rfl
  unfold segment
  rw [bind_of_ok hwords]
  simp only [Bool.false_eq_true, if_false]
  rw [bind_of_ok hname, bind_of_ok harguments]
  rfl

/-- A path of one segment is read from a name. -/
theorem path_name :
    path inner true ⟨.ident name :: rest, written, none⟩
      = .ok (⟨false, [], .bare name⟩, ⟨rest, .ident name :: written, none⟩) := by
  have hcolons : operator? "::" ⟨.ident name :: rest, [], none⟩
      = .ok (false, ⟨.ident name :: rest, [], none⟩) := rfl
  have hparts : pathParts inner true ⟨.ident name :: rest, [], none⟩
      = .ok (⟨false, [], .bare name⟩, ⟨rest, [.ident name], none⟩) := by
    unfold pathParts
    rw [bind_of_ok hcolons, bind_of_ok (segment_name inner h hrest [])]
    rcases hrest with rfl | ⟨more, rfl⟩ <;> rfl
  unfold path rendered
  rw [bind_of_ok (silently_of_ok hparts written)]
  rfl

/-- A name that stands alone is read as an expression. -/
theorem pathExpression_name :
    pathExpression inner true ⟨.ident name :: rest, written, none⟩
      = .ok (.plain (.name name), ⟨rest, .ident name :: written, none⟩) := by
  have hangle : sees (.operator "<") ⟨.ident name :: rest, written, none⟩
      = .ok (false, ⟨.ident name :: rest, written, none⟩) := rfl
  have hpath : anyPath inner ⟨.ident name :: rest, written, none⟩
      = .ok (⟨.path none false [] (.bare name), true⟩,
          ⟨rest, .ident name :: written, none⟩) := by
    unfold anyPath
    rw [bind_of_ok hangle]
    simp only [Bool.false_eq_true, if_false]
    rw [bind_of_ok (path_name inner h hrest written)]
    rfl
  unfold pathExpression
  rw [bind_of_ok hpath]
  rcases hrest with rfl | ⟨more, rfl⟩ <;> rfl

/-- A name that ends an item is an operand of its own. -/
theorem atom_name :
    atom inner true ⟨.ident name :: rest, written, none⟩
      = .ok (.plain (.name name), ⟨rest, .ident name :: written, none⟩) := by
  have hword : ∀ word ∈ Ident.reserved, leadsWith (.ident name :: rest) (.word word) = false :=
    fun _ => Ident.isWord_of_isName h
  have hwords : leadsWithWord (.ident name :: rest) ["move", "static"] = false :=
    leadsWithWord_of_isName h (by decide) rest
  have htruth : name.isWord "true" = false ∧ name.isWord "false" = false :=
    ⟨Ident.isWord_of_isName h (by decide), Ident.isWord_of_isName h (by decide)⟩
  -- Of all that an operand can start with, a name starts only a path.
  have hliteral : leadsWith (.ident name :: rest) .literal = false := by
    simp [leadsWith, literalAhead?, htruth]
  have hasync : leadsWithAsyncBlock (.ident name :: rest) = false := by
    simp [leadsWithAsyncBlock, hword "async" (by decide)]
  have hclosure : leadsWithClosure (.ident name :: rest) = false := by
    have hbar : leadsWith (.ident name :: rest) (.operator "|") = false := rfl
    simp [leadsWithClosure, hbar, hwords, hword "for" (by decide), hword "const" (by decide),
      hword "async" (by decide)]
  have hbuiltIn : (leadsWith (.ident name :: rest) (.word "builtin") &&
      leadsWith (afterFirst (.ident name :: rest)) (.operator "#")) = false := by
    rw [Bool.and_eq_false_iff]
    right
    rcases hrest with rfl | ⟨more, rfl⟩ <;> rfl
  have hpath : leadsWithPath (.ident name :: rest) = true := by
    simp [leadsWithPath, leadsWithAny, leadsWith, h]
  have hrow : row ⟨.ident name :: rest, written, none⟩
      = .ok (.ident name :: rest, ⟨.ident name :: rest, written, none⟩) := rfl
  unfold atom
  rw [bind_of_ok hrow]
  simp only [hliteral, hasync, hclosure, hbuiltIn, hpath, Bool.false_eq_true, if_false, if_true]
  exact pathExpression_name inner h hrest written

end

/-! ### Values and items -/

section

variable {rest : List Tree} (depth : Nat) (hrest : EndsItem rest) (written : List Tree)

include hrest

/-- A name that ends an item is an expression of its own. -/
theorem expression_name {name : Ident} (h : name.isName = true) :
    (upTo (depth + 1)).expression true ⟨.ident name :: rest, written, none⟩
      = .ok (.plain (.name name), ⟨rest, .ident name :: written, none⟩) := by
  have hoperand : (upTo (depth + 1)).operand true ⟨.ident name :: rest, written, none⟩
      = .ok (.plain (.name name), ⟨rest, .ident name :: written, none⟩) := by
    change markedAtom (upTo depth) true ⟨.ident name :: rest, written, none⟩ false _ = _
    unfold markedAtom
    rw [bind_of_ok (atom_name (upTo depth) h hrest written)]
    rcases hrest with rfl | ⟨more, rfl⟩ <;> rfl
  unfold expression
  rw [bind_of_ok hoperand]
  rcases hrest with rfl | ⟨more, rfl⟩ <;> rfl

/-- The value of an item is read from a name. -/
theorem metaValue_name {name : Ident} (h : name.isName = true) :
    metaValue (upTo (depth + 1)) ⟨.ident name :: rest, written, none⟩
      = .ok (.name name, ⟨rest, .ident name :: written, none⟩) := by
  have hrow : row ⟨.ident name :: rest, written, none⟩
      = .ok (.ident name :: rest, ⟨.ident name :: rest, written, none⟩) := rfl
  have hother : literalAhead? (.ident name :: rest) = none := by
    simp [literalAhead?, Ident.isWord_of_isName h (by decide : "true" ∈ _),
      Ident.isWord_of_isName h (by decide : "false" ∈ _)]
  unfold metaValue
  rw [bind_of_ok hrow, hother]
  change ((upTo (depth + 1)).expression true >>= fun found => pure found.form) _ = _
  rw [bind_of_ok (expression_name depth hrest written h)]
  rfl

/-- A plain value is read as it is written wherever its item stands. -/
theorem metaForm_plain (value : PlainValue) :
    ∃ out, metaForm (upTo (depth + 1)) ⟨value.trees ++ rest, written, none⟩
      = .ok (value.form, ⟨rest, out, none⟩) := by
  cases value with
  | none => rcases hrest with rfl | ⟨more, rfl⟩ <;> exact ⟨_, rfl⟩
  | group delimiter body => exact ⟨_, rfl⟩
  | literal text => rcases hrest with rfl | ⟨more, rfl⟩ <;> exact ⟨_, rfl⟩
  | truth value => cases value <;> rcases hrest with rfl | ⟨more, rfl⟩ <;> exact ⟨_, rfl⟩
  | name found h =>
      refine ⟨.ident found :: .punct '=' false :: written, ?_⟩
      change (metaValue (upTo (depth + 1)) >>= fun found => pure (MetaForm.value found))
        ⟨.ident found :: rest, .punct '=' false :: written, none⟩ = _
      rw [bind_of_ok (metaValue_name depth hrest _ h)]
      rfl

/-- A plain item is read as it is written wherever it stands. -/
theorem metaItem_plain (item : PlainItem) :
    ∃ out, metaItem (upTo (depth + 1)) ⟨item.trees ++ rest, written, none⟩
      = .ok (item.item, ⟨rest, out, none⟩) := by
  obtain ⟨out, hform⟩ := metaForm_plain depth hrest (.ident item.name :: written) item.value
  refine ⟨out, ?_⟩
  -- The cursor is the same before every check, so that it is best kept closed until the item is
  -- read.
  generalize hcursor : Cursor.mk (item.trees ++ rest) written none = cursor
  have hother : sees .literal cursor = .ok (false, cursor) := by
    have hahead : leadsWith (item.trees ++ rest) .literal = false := by
      simp [PlainItem.trees, leadsWith, literalAhead?, item.isEntry]
    rw [← hcursor]
    exact congrArg (fun seen => Except.ok (seen, _)) hahead
  have htruth : ∃ seen, seesTruthEntry cursor = .ok (seen, cursor) := ⟨_, rfl⟩
  have hrow : row cursor = .ok (item.trees ++ rest, cursor) := by rw [← hcursor]; rfl
  have hpath : itemPath cursor
      = .ok ([item.name], ⟨item.value.trees ++ rest, .ident item.name :: written, none⟩) := by
    rw [← hcursor, PlainItem.trees]
    cases hvalue : item.value <;> rcases hrest with rfl | ⟨more, rfl⟩ <;> rfl
  obtain ⟨seen, htruth⟩ := htruth
  unfold metaItem
  rw [bind_of_ok hother, bind_of_ok htruth]
  simp only [Bool.false_and, Bool.false_eq_true, if_false]
  have hident : leadsWithIdent (item.trees ++ rest) = true := rfl
  rw [bind_of_ok hrow, if_pos hident, bind_of_ok hpath, bind_of_ok hform]
  rfl

end

end Grammar

/-! ### Lists of items -/

/-- The first of some items stands in front, with a comma behind it if there are more. -/
theorem PlainItem.joined_cons (item : PlainItem) (others : List PlainItem) :
    joined (item :: others)
      = item.trees ++ if others = [] then [] else .punct ',' false :: joined others := by
  cases others with
  | nil => simp [joined]
  | cons next more => simp [joined, List.intercalate_cons_cons]

open Reader in
/-- Plain items with commas between them are read one by one. -/
theorem Reader.commaList_joined (depth limit : Nat) (items : List PlainItem)
    (hlimit : items.length < limit) (written : List Tree) :
    ∃ trailing out, commaList atEnd (Grammar.metaItem (Grammar.upTo (depth + 1))) limit
        ⟨PlainItem.joined items, written, none⟩
      = .ok ((items.map PlainItem.item, trailing), ⟨[], out, none⟩) := by
  -- The loop asks at each item whether a comma or the end follows, so the last item is apart.
  induction items generalizing limit written with
  | nil =>
      obtain ⟨limit, rfl⟩ := Nat.exists_eq_succ_of_ne_zero (Nat.ne_of_gt hlimit)
      exact ⟨_, _, rfl⟩
  | cons item others ih =>
      obtain ⟨limit, rfl⟩ := Nat.exists_eq_succ_of_ne_zero (Nat.ne_of_gt (Nat.zero_lt_of_lt hlimit))
      have hopen : atEnd ⟨PlainItem.joined (item :: others), written, none⟩
          = .ok (false, ⟨PlainItem.joined (item :: others), written, none⟩) := by
        rw [PlainItem.joined_cons]
        rfl
      unfold commaList
      rw [bind_of_ok hopen]
      simp only [Bool.false_eq_true, if_false]
      cases others with
      | nil =>
          obtain ⟨out, hitem⟩ := Grammar.metaItem_plain depth (.inl rfl) written item
          rw [List.append_nil] at hitem
          rw [PlainItem.joined_cons, if_pos rfl, List.append_nil, bind_of_ok hitem]
          exact ⟨_, _, rfl⟩
      | cons next more =>
          obtain ⟨out, hitem⟩ := Grammar.metaItem_plain depth (.inr ⟨_, rfl⟩) written item
          have hmore : atEnd ⟨.punct ',' false :: PlainItem.joined (next :: more), out, none⟩
              = .ok (false, ⟨.punct ',' false :: PlainItem.joined (next :: more), out, none⟩) := rfl
          have hcomma :
              operator "," ⟨.punct ',' false :: PlainItem.joined (next :: more), out, none⟩
                = .ok ((), ⟨PlainItem.joined (next :: more), .punct ',' false :: out, none⟩) := rfl
          obtain ⟨trailing, out', hothers⟩ :=
            ih limit (Nat.lt_of_succ_lt_succ hlimit) (.punct ',' false :: out)
          rw [PlainItem.joined_cons, if_neg (List.cons_ne_nil next more), bind_of_ok hitem,
            bind_of_ok hmore]
          simp only [Bool.false_eq_true, if_false]
          rw [bind_of_ok hcomma, bind_of_ok hothers]
          exact ⟨_, _, rfl⟩

/-- Items take at least one tree each, so counting them never asks for more than there is. -/
theorem PlainItem.length_le_joined (items : List PlainItem) :
    items.length ≤ (joined items).length := by
  induction items with
  | nil => simp
  | cons item others ih =>
      rw [joined_cons, List.length_append]
      split
      · rename_i hnone
        simp [hnone, trees]
      · simp only [List.length_cons, trees]
        omega

/-- A list of plain items is read as these items. -/
theorem MetaItem.ofTrees_joined (items : List PlainItem) :
    MetaItem.ofTrees (PlainItem.joined items) = .ok (items.map PlainItem.item) := by
  have hgrammar : Reader.grammar ⟨PlainItem.joined items, [], none⟩
      = .ok (Grammar.upTo (6 * Tree.size (PlainItem.joined items) + 11 + 1),
          ⟨PlainItem.joined items, [], none⟩) := rfl
  obtain ⟨trailing, out, hitems⟩ := Reader.commaList_joined
    (6 * Tree.size (PlainItem.joined items) + 11) ((PlainItem.joined items).length + 1) items
    (Nat.lt_succ_of_le (PlainItem.length_le_joined items)) []
  have hrow : Reader.row ⟨PlainItem.joined items, [], none⟩
      = .ok (PlainItem.joined items, ⟨PlainItem.joined items, [], none⟩) := rfl
  unfold MetaItem.ofTrees Reader.runAll StateT.run Reader.items Reader.list
  dsimp only
  rw [Reader.bind_of_ok hgrammar, Reader.bind_of_ok hrow, hitems]
  rfl

end Recordsmith.Source
