import Mathlib.Data.Option.Basic
import Recordsmith.Source.Declaration

/-!
# `Recordsmith.Proofs.Source.Reading`: what is known of what has been read

Two things hold of everything that is read from a text, whatever the text is.

* Its identifiers have the form of identifiers, and those that are raw are words that can be
  written raw. This holds of each leaf (`Lexeme.spelt_of_leaf?`), of all lexemes of a text
  (`Lexeme.spelt_of_scan`), and still when these are put into groups
  (`Lexeme.spelt_of_nest`). So a text that spells one identifier spells a name
  (`Ident.isFieldName_of_ofSource?`).
* The visibility of a declaration is empty or starts with `pub`
  (`Declaration.visibility_of_ofText?`). Readers are taken apart step by step for this
  (`Reader.exists_of_bind`). Of what stands behind `pub` only its place matters: a group that
  has been read is put behind what was written before.
-/

set_option autoImplicit false

namespace Recordsmith.Source

open Recordsmith.Text

/-! ### Identifiers -/

/-- Whether an identifier can be written down. -/
def Ident.IsSpelt (name : Ident) : Prop :=
  isIdentText name.text.toList = true ∧ (name.raw = true → name.text ∉ Lexeme.neverRaw)

/-- Whether an identifier can be the name of a field, given the words that cannot be unless
they are raw. -/
def Ident.IsFieldName (words : List String) (name : Ident) : Prop :=
  name.IsSpelt ∧ (name.raw = false → name.text ∉ words)

instance (name : Ident) : Decidable name.IsSpelt :=
  inferInstanceAs (Decidable (_ ∧ _))

instance (words : List String) (name : Ident) : Decidable (name.IsFieldName words) :=
  inferInstanceAs (Decidable (_ ∧ _))

/-- Whether a tree can be written down, as far as its outermost part goes. -/
def Tree.IsSpelt : Tree → Prop
  | .ident name => name.IsSpelt
  | _ => True

/-- Whether a lexeme can be written down. -/
def Lexeme.IsSpelt : Lexeme → Prop
  | .leaf tree => tree.IsSpelt
  | _ => True

namespace Lexeme

/-- A bare identifier has the form of an identifier. -/
theorem isIdentText_of_bareIdent? {cs text rest : List Char}
    (h : bareIdent? cs = some (text, rest)) : isIdentText text = true := by
  cases cs with
  | nil => cases h
  | cons c others =>
      rw [bareIdent?] at h
      split at h
      · rename_i hstart
        cases h
        rw [isIdentText, hstart, List.all_takeWhile, Bool.and_self]
      · cases h

/-- An identifier that is scanned can be written down, raw or not. -/
theorem spelt_of_anyIdent? {cs rest : List Char} {name : Ident}
    (h : anyIdent? cs = some (name, rest)) : name.IsSpelt := by
  unfold anyIdent? at h
  split at h
  -- A raw identifier must be none of those that are never raw; the scanner checks it.
  · split at h
    · rename_i text after hbare
      split at h
      · cases h
      · rename_i hnever
        cases h
        refine ⟨?_, fun _ => by simpa using hnever⟩
        rw [String.toList_ofList]
        exact isIdentText_of_bareIdent? hbare
    · cases h
  · obtain ⟨⟨text, after⟩, hbare, heq⟩ := Option.map_eq_some_iff.mp h
    cases heq
    refine ⟨?_, nofun⟩
    rw [Ident.plain, String.toList_ofList]
    exact isIdentText_of_bareIdent? hbare

/-- A tree that is scanned can be written down. -/
theorem spelt_of_leaf? {cs rest : List Char} {tree : Tree} (h : leaf? cs = some (tree, rest)) :
    tree.IsSpelt := by
  -- Of the four forms only an identifier has anything to show.
  unfold leaf? at h
  simp only [Option.orElse_eq_some] at h
  rcases h with hliteral | ⟨_, hpunct | ⟨_, hident | ⟨_, hplaceholder⟩⟩⟩
  · obtain ⟨_, _, heq⟩ := Option.map_eq_some_iff.mp hliteral
    cases heq
    trivial
  · unfold punct? at hpunct
    split at hpunct
    · cases hpunct
    · split at hpunct
      · split at hpunct
        · cases hpunct
        · split at hpunct
          · cases hpunct
          · cases hpunct
            trivial
      · cases hpunct
        trivial
  · obtain ⟨⟨name, after⟩, hname, heq⟩ := Option.map_eq_some_iff.mp hident
    cases heq
    unfold ident? at hname
    dsimp only at hname
    split at hname
    · cases hname
    · exact spelt_of_anyIdent? hname
  · unfold placeholder? at hplaceholder
    split at hplaceholder
    · cases hplaceholder
      trivial
    · cases hplaceholder

/-- The attribute that a comment stands for can be written down. -/
theorem spelt_docAttribute (text : List Char) (inner : Bool) :
    ∀ lexeme ∈ docAttribute text inner, lexeme.IsSpelt := by
  cases inner <;> simp [docAttribute, IsSpelt, Tree.IsSpelt, Tree.brackets]

/-- What comes next can be written down. -/
theorem spelt_of_next? {cs rest : List Char} {lexemes : List Lexeme}
    (h : next? cs = some (lexemes, rest)) : ∀ lexeme ∈ lexemes, lexeme.IsSpelt := by
  unfold next? at h
  -- What comes next is a blank, a comment, a bracket or a tree, and only comments and trees
  -- bring identifiers.
  split at h
  · cases h
  · split at h
    · cases h
      simp
    · split at h
      · cases h
        exact spelt_docAttribute _ _
      · split at h
        · cases h
          simp [IsSpelt]
        · cases h
          simp [IsSpelt]
        · obtain ⟨⟨tree, after⟩, hleaf, heq⟩ := Option.map_eq_some_iff.mp h
          cases heq
          simpa [IsSpelt] using spelt_of_leaf? hleaf

/-- All lexemes of a text can be written down. -/
theorem spelt_of_scan {cs : List Char} {lexemes : List Lexeme} (h : scan cs = some lexemes) :
    ∀ lexeme ∈ lexemes, lexeme.IsSpelt := by
  -- The induction is that of the scanner, which goes on only with a shorter text.
  induction cs using scan.induct generalizing lexemes with
  | case1 cs hempty =>
      rw [scan, if_pos hempty] at h
      cases h
      simp
  | case2 cs hempty hnext =>
      rw [scan, if_neg hempty, hnext] at h
      cases h
  | case3 cs hempty found rest hnext hlt ih =>
      rw [scan, if_neg hempty, hnext] at h
      dsimp only at h
      rw [if_pos hlt] at h
      obtain ⟨others, hothers, rfl⟩ := Option.map_eq_some_iff.mp h
      exact List.forall_mem_append.mpr ⟨spelt_of_next? hnext, ih hothers⟩
  | case4 cs hempty found rest hnext hlt =>
      rw [scan, if_neg hempty, hnext] at h
      dsimp only at h
      rw [if_neg hlt] at h
      cases h

/-- Trees that are put into groups can still be written down. -/
theorem spelt_of_nest {outer : List (Delimiter × List Tree)} {current : List Tree}
    {lexemes : List Lexeme} {trees : List Tree} (h : nest outer current lexemes = some trees)
    (hlexemes : ∀ lexeme ∈ lexemes, lexeme.IsSpelt) (hcurrent : ∀ tree ∈ current, tree.IsSpelt)
    (houter : ∀ level ∈ outer, ∀ tree ∈ level.2, tree.IsSpelt) :
    ∀ tree ∈ trees, tree.IsSpelt := by
  -- The trees before each open group wait in `outer`, and are in front again once it closes.
  induction lexemes generalizing outer current with
  | nil =>
      rw [nest] at h
      split at h
      · cases h
        simpa using hcurrent
      · cases h
  | cons lexeme rest ih =>
      obtain ⟨hlexeme, hrest⟩ := List.forall_mem_cons.mp hlexemes
      cases lexeme with
      | leaf tree =>
          rw [nest] at h
          exact ih h hrest (List.forall_mem_cons.mpr ⟨hlexeme, hcurrent⟩) houter
      | opens delimiter =>
          rw [nest] at h
          exact ih h hrest (by simp) (List.forall_mem_cons.mpr ⟨hcurrent, houter⟩)
      | closes delimiter =>
          cases outer with
          | nil =>
              rw [nest] at h
              cases h
          | cons level outside =>
              obtain ⟨hbefore, houtside⟩ := List.forall_mem_cons.mp houter
              rw [nest] at h
              split at h
              · exact ih h hrest (List.forall_mem_cons.mpr ⟨trivial, hbefore⟩) houtside
              · cases h

end Lexeme

/-- The trees of a text can be written down. -/
theorem Tree.spelt_of_ofText? {text : String} {trees : List Tree}
    (h : Tree.ofText? text = some trees) : ∀ tree ∈ trees, tree.IsSpelt := by
  obtain ⟨lexemes, hscan, hnest⟩ := Option.bind_eq_some_iff.mp h
  exact Lexeme.spelt_of_nest hnest (Lexeme.spelt_of_scan hscan) (by simp) (by simp)

/-- A text that spells one identifier spells a name. -/
theorem Ident.isFieldName_of_ofSource? {text : String} {name : Ident}
    (h : Ident.ofSource? text = some name) : name.IsFieldName reserved := by
  unfold Ident.ofSource? at h
  split at h
  · rename_i found htrees
    split at h
    · rename_i hname
      cases h
      have hspelt : (Tree.ident name).IsSpelt := Tree.spelt_of_ofText? htrees _ (by simp)
      refine ⟨hspelt, fun hplain => ?_⟩
      simpa [Ident.isName, hplain] using hname
    · cases h
  · cases h

/-! ### Visibility -/

namespace Reader

variable {α β : Type}

/-- A reader of two steps that succeeds has a first step that succeeds. -/
theorem exists_of_bind {first : Reader α} {next : α → Reader β} {cursor after : Cursor}
    {result : β} (h : (first >>= next) cursor = .ok (result, after)) :
    ∃ value middle, first cursor = .ok (value, middle) ∧ next value middle = .ok (result, after) := by
  change (first cursor >>= fun (value, middle) => next value middle) = .ok (result, after) at h
  cases hfirst : first cursor with
  | error complaint => rw [hfirst] at h; cases h
  | ok found =>
      rw [hfirst] at h
      exact ⟨found.1, found.2, rfl, h⟩

/-- What is recorded is what a reader writes if nothing has been written before. -/
theorem exists_of_recorded {reader : Reader α} {cursor after : Cursor} {trees : List Tree}
    (h : recorded reader cursor = .ok (trees, after)) :
    ∃ value middle, reader { cursor with written := [] } = .ok (value, middle) ∧
      trees = middle.written.reverse := by
  -- What was written before is put aside for the reader and comes back behind it.
  obtain ⟨⟨value, found⟩, captured, hcaptured, h⟩ := exists_of_bind h
  obtain ⟨_, _, _, h⟩ := exists_of_bind h
  cases h
  obtain ⟨_, _, hget, hcaptured⟩ := exists_of_bind hcaptured
  cases hget
  obtain ⟨_, _, hmodify, hcaptured⟩ := exists_of_bind hcaptured
  cases hmodify
  obtain ⟨_, middle, hreader, hcaptured⟩ := exists_of_bind hcaptured
  obtain ⟨_, _, hget, hcaptured⟩ := exists_of_bind hcaptured
  cases hget
  obtain ⟨_, _, hmodify, hcaptured⟩ := exists_of_bind hcaptured
  cases hmodify
  cases hcaptured
  exact ⟨_, middle, hreader, rfl⟩

/-- Reading an identifier writes it behind what was written before. -/
theorem written_of_anyIdent {cursor after : Cursor} {name : Ident}
    (h : anyIdent cursor = .ok (name, after)) :
    ∃ rest, cursor.rest = .ident name :: rest ∧ after.written = .ident name :: cursor.written := by
  obtain ⟨row, _, hrow, h⟩ := exists_of_bind h
  cases hrow
  match hrest : cursor.rest with
  | .ident found :: rest =>
      rw [hrest] at h
      cases h
      exact ⟨rest, rfl, rfl⟩
  | [] | .punct _ _ :: _ | .literal _ :: _ | .group _ _ :: _ =>
      rw [hrest] at h
      cases h

/-- Reading a word writes it behind what was written before. -/
theorem written_of_word {text : String} {cursor after : Cursor}
    (h : word text cursor = .ok ((), after)) :
    after.written = Tree.word text :: cursor.written := by
  obtain ⟨seen, _, hseen, h⟩ := exists_of_bind h
  cases hseen
  split at h
  · rename_i hseen
    obtain ⟨name, _, hname, h⟩ := exists_of_bind h
    cases h
    obtain ⟨rest, hrest, hwritten⟩ := written_of_anyIdent hname
    have hword : name = .plain text := by
      cases name
      simpa [leadsWith, hrest, Ident.isWord, Ident.plain] using hseen
    rw [hwritten, hword, Tree.word]
  · cases h

/-- Reading a word writes it behind what was written before, if it is there. -/
theorem written_of_word? {text : String} {cursor after : Cursor} {found : Bool}
    (h : word? text cursor = .ok (found, after)) :
    (found = false ∧ after = cursor) ∨
    (found = true ∧ after.written = Tree.word text :: cursor.written) := by
  obtain ⟨seen, _, hseen, h⟩ := exists_of_bind h
  cases hseen
  split at h
  · obtain ⟨_, _, hword, h⟩ := exists_of_bind h
    cases h
    exact .inr ⟨rfl, written_of_word hword⟩
  · cases h
    exact .inl ⟨rfl, rfl⟩

/-- Reading a group writes it behind what was written before. -/
theorem written_of_delimited {delimiter : Delimiter} {inside : Reader α} {cursor after : Cursor}
    {value : α} (h : delimited delimiter inside cursor = .ok (value, after)) :
    ∃ body, after.written = .group delimiter body :: cursor.written := by
  obtain ⟨_, _, hget, h⟩ := exists_of_bind h
  cases hget
  -- Only a group with the right delimiter is read, and it is written as a whole, whatever its
  -- inside is read as.
  match hrest : cursor.rest with
  | .group found body :: rest =>
      rw [hrest] at h
      dsimp only at h
      split at h
      · obtain ⟨_, _, hset, h⟩ := exists_of_bind h
        cases hset
        obtain ⟨_, inner, _, h⟩ := exists_of_bind h
        obtain ⟨_, _, hget, h⟩ := exists_of_bind h
        cases hget
        cases h
        exact ⟨_, rfl⟩
      · cases h
  | [] | .ident _ :: _ | .punct _ _ :: _ | .literal _ :: _ =>
      rw [hrest] at h
      cases h

/-- Reading a visibility writes nothing, or `pub` and what stands behind it. -/
theorem written_of_visibility? {cursor after : Cursor} {found : Bool}
    (h : Grammar.visibility? cursor = .ok (found, after)) :
    after.written = cursor.written ∨
    ∃ trees, after.written = trees ++ Tree.word "pub" :: cursor.written := by
  obtain ⟨isPublic, middle, hword, hbehind⟩ := exists_of_bind h
  rcases written_of_word? hword with ⟨rfl, rfl⟩ | ⟨rfl, hwritten⟩
  · cases hbehind
    exact .inl rfl
  · obtain ⟨row, _, hrow, hbehind⟩ := exists_of_bind hbehind
    cases hrow
    rw [← hwritten]
    refine .inr ?_
    -- Parentheses behind `pub` are read only if they restrict it; they may belong to a tuple.
    match hrest : middle.rest with
    | .group .paren body :: rest =>
        rw [hrest] at hbehind
        dsimp only at hbehind
        split at hbehind
        · obtain ⟨_, _, hgroup, hbehind⟩ := exists_of_bind hbehind
          cases hbehind
          obtain ⟨inside, hinside⟩ := written_of_delimited hgroup
          exact ⟨[_], hinside⟩
        · cases hbehind
          exact ⟨[], rfl⟩
    | [] | .ident _ :: _ | .punct _ _ :: _ | .literal _ :: _ | .group .bracket _ :: _
    | .group .brace _ :: _ =>
        rw [hrest] at hbehind
        cases hbehind
        exact ⟨[], rfl⟩

/-- The visibility of a declaration is nothing, or it starts with pub. -/
theorem visibility_of_declaration {cursor after : Cursor} {found : Declaration}
    (h : declaration cursor = .ok (found, after)) :
    found.visibility = [] ∨ ∃ rest, found.visibility = Tree.word "pub" :: rest := by
  obtain ⟨inner, _, _, h⟩ := exists_of_bind h
  obtain ⟨attributes, _, _, h⟩ := exists_of_bind h
  obtain ⟨shown, _, hshown, h⟩ := exists_of_bind h
  -- Whichever body is chosen, the visibility is kept as it was read.
  have hkept : ∀ {choice : Reader (Reader (Bool × Shape))} {cursor : Cursor},
      (do
        let body ← choice
        let _ ← anyIdent
        let declared ← name
        let hasParameters ← Grammar.parameters inner
        let parts ← body
        return (⟨attributes, shown, declared, hasParameters, parts.1, parts.2⟩ : Declaration) :
          Reader Declaration) cursor = .ok (found, after) → found.visibility = shown := by
    intro choice cursor h
    obtain ⟨body, _, _, h⟩ := exists_of_bind h
    obtain ⟨_, _, _, h⟩ := exists_of_bind h
    obtain ⟨declared, _, _, h⟩ := exists_of_bind h
    obtain ⟨hasParameters, _, _, h⟩ := exists_of_bind h
    obtain ⟨parts, _, _, h⟩ := exists_of_bind h
    cases h
    rfl
  have hvisibility : found.visibility = shown := by
    obtain ⟨isStruct, _, _, h⟩ := exists_of_bind h
    obtain ⟨isEnum, _, _, h⟩ := exists_of_bind h
    obtain ⟨isUnion, _, _, h⟩ := exists_of_bind h
    split at h
    · exact hkept h
    · split at h
      · exact hkept h
      · split at h
        · exact hkept h
        · exact hkept h
  rw [hvisibility]
  obtain ⟨_, middle, hread, rfl⟩ := exists_of_recorded hshown
  rcases written_of_visibility? hread with hnone | ⟨trees, hsome⟩
  · exact .inl (by rw [hnone, List.reverse_nil])
  · exact .inr ⟨trees.reverse, by rw [hsome]; simp⟩

end Reader

/-- The visibility of a declaration is empty or starts with `pub`. -/
theorem Declaration.visibility_of_ofText? {text : String} {declaration : Declaration}
    (h : Declaration.ofText? text = some declaration) :
    declaration.visibility = [] ∨ ∃ rest, declaration.visibility = Tree.word "pub" :: rest := by
  obtain ⟨trees, _, h⟩ := Option.bind_eq_some_iff.mp h
  unfold Reader.runAll at h
  split at h
  · cases h
  · rename_i hread
    split at h
    · cases h
    · cases h
    · cases h
      exact Reader.visibility_of_declaration hread

end Recordsmith.Source
