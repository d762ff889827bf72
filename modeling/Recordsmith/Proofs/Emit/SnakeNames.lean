import Recordsmith.Proofs.Emit.RecordNames

/-!
# `Recordsmith.Proofs.Emit.SnakeNames`: when a record allows names that are not in snake case

A record has an attribute that allows such names if some name of it changes when it is
brought into snake case once more. `allowance_sound` says that this is a good test for ASCII
names. It rests on two facts: snake case is a normal form (`snake_snake`), so names in that
style need no allowance, and it has no upper-case letters, so a name with one does.

Attributes are looked for in front of the record, where `leadingAttributes` reads them off
the trees that are printed. They end at the visibility, which never looks like an attribute
(`Declaration.visibility_of_ofText?`).
-/

set_option autoImplicit false

namespace Recordsmith

open Recordsmith.Source Recordsmith.Source.Tree Recordsmith.Schema Recordsmith.Emit
  Recordsmith.Text

/-! ### Names in snake case -/

/-- Snake case leaves a text alone that is in snake case. -/
theorem Schema.snake_apply_apply {text : String} (h : IsAscii text.toList) :
    NamingStyle.snake.apply (NamingStyle.snake.apply text) = NamingStyle.snake.apply text := by
  simp only [NamingStyle.apply, String.toList_ofList]
  rw [snake_snake h]

/-- There are no capitals in snake case. -/
theorem Schema.isUpper_snake_apply {text : String} (h : IsAscii text.toList) :
    ∀ c ∈ (NamingStyle.snake.apply text).toList, c.isUpper = false := by
  rw [NamingStyle.apply, String.toList_ofList]
  exact forall_mem_snake h (by decide) fun c _ => Char.isUpper_toLower_eq_false c

/-- Names that are built in snake case stay as they are. -/
theorem Schema.hasNonSnakeNames_of_snake {fields : List Field} {schema : Schema}
    (h : Sorts .snake fields schema)
    (hnone : ∀ field ∈ fields, (optionsOf field).modelName = none)
    (hascii : ∀ field ∈ fields, ∀ name, field.name = some name → IsAscii name.text.toList) :
    schema.hasNonSnakeNames = false := by
  rw [hasNonSnakeNames, List.any_eq_false]
  intro model hmodel
  obtain ⟨field, hkept, name, hname, hnamed⟩ := h.mem_recordNames_iff.mp hmodel
  have hfield := mem_of_mem_keptFields hkept
  -- Every name is built: none is given, and the style is another than that of the fields.
  obtain ⟨given, hgiven, _⟩ | ⟨_, ⟨hstyle, _⟩ | ⟨_, hbuilt⟩⟩ := hnamed
  · cases hgiven.symm.trans (hnone field hfield)
  · cases hstyle
  · obtain ⟨_, rfl⟩ := Ident.ofText_eq_ok_iff.mp hbuilt
    simpa [Ident.spelled, Ident.plain] using
      (snake_apply_apply (hascii field hfield name hname)).symm

/-- A name with an upper-case letter does not stay as it is. -/
theorem Schema.hasNonSnakeNames_of_isUpper {schema : Schema} {name : Ident}
    (hname : name ∈ schema.recordNames) (hascii : IsAscii name.text.toList) {c : Char}
    (hc : c ∈ name.text.toList) (hupper : c.isUpper = true) :
    schema.hasNonSnakeNames = true := by
  -- The test looks at the name with its mark, which is ASCII and hides nothing.
  have hspelled : IsAscii name.spelled.toList ∧ c ∈ name.spelled.toList := by
    unfold Ident.spelled
    split
    · rw [String.toList_append, isAscii_append]
      exact ⟨⟨by decide, hascii⟩, List.mem_append_right _ hc⟩
    · exact ⟨hascii, hc⟩
  rw [hasNonSnakeNames, List.any_eq_true]
  refine ⟨name, hname, ?_⟩
  rw [bne_iff_ne]
  intro heq
  have hlower := isUpper_snake_apply hspelled.1 c (heq ▸ hspelled.2)
  rw [hupper] at hlower
  cases hlower

/-! ### Attributes of a record -/

/-- What stands in the attributes in front of some trees. -/
def Emit.leadingAttributes : List Tree → List (List Tree)
  | .punct '#' _ :: .group .bracket body :: rest => body :: leadingAttributes rest
  | _ => []

/-- What stands in the attribute that allows names that are not in snake case. -/
def Emit.allowance : List Tree :=
  [word "allow", parens [word "non_snake_case"]]

/-- Attributes in front are read off one by one. -/
theorem Emit.leadingAttributes_attributeTrees (attributes : List (List Tree)) (rest : List Tree) :
    leadingAttributes (attributeTrees attributes ++ rest)
      = attributes ++ leadingAttributes rest := by
  induction attributes with
  | nil => rfl
  | cons body others ih =>
      show body :: leadingAttributes (attributeTrees others ++ rest) = _
      rw [ih, List.cons_append]

/-- No attribute stands in front of what is shown. -/
theorem Emit.leadingAttributes_visibility {visibility : List Tree}
    (h : visibility = [] ∨ ∃ rest, visibility = word "pub" :: rest) (rest : List Tree) :
    leadingAttributes (visibility ++ word "struct" :: rest) = [] := by
  obtain rfl | ⟨more, rfl⟩ := h
  · rfl
  · rfl

/-- The attributes in front of a record are those of its layout. -/
theorem Emit.leadingAttributes_record {item : RecordItem}
    (h : item.visibility = [] ∨ ∃ rest, item.visibility = word "pub" :: rest) :
    leadingAttributes item.trees = item.layout.attributes := by
  have hshown := leadingAttributes_visibility h
  rw [RecordItem.trees_eq, RecordLayout.trees, leadingAttributes_attributeTrees]
  -- The structure comes right behind the visibility.
  refine (congrArg _ (hshown _)).trans (List.append_nil _)

/-- The allowance stands in front of a record that is marked for it, and of no other. -/
theorem Emit.allowance_mem_iff {item : RecordItem}
    (h : item.visibility = [] ∨ ∃ rest, item.visibility = word "pub" :: rest) :
    allowance ∈ leadingAttributes item.trees ↔ item.allowsNames = true := by
  rw [leadingAttributes_record h, RecordItem.layout]
  cases item.allowsNames with
  | false =>
      -- Neither the documentation nor what is derived looks like the allowance.
      have hdoc : phrase "doc =" = [word "doc", .punct '=' false] := rfl
      exact iff_of_false (by simp [allowance, hdoc, word, Ident.plain]) Bool.false_ne_true
  | true => exact iff_of_true (by simp [allowance]) rfl

/-! ### Records of a text -/

/-- Snake case is a normal form without upper-case letters. So for ASCII names a record that
is named in snake case throughout has no allowance, and one with an upper-case letter in some
name has it. -/
theorem allowance_sound :
    (∀ text : String, IsAscii text.toList →
      NamingStyle.snake.apply (NamingStyle.snake.apply text) = NamingStyle.snake.apply text ∧
      ∀ c ∈ (NamingStyle.snake.apply text).toList, c.isUpper = false) ∧
    ∀ (text : String) (expansion : Expansion) (declaration : Declaration) (fields : List Field),
      Expansion.ofText text = .ok expansion → Declaration.ofText? text = some declaration →
      declaration.shape = .named fields →
      ∃ schema, Schema.ofDeclaration declaration = .ok schema ∧
        expansion.record = Tree.print (RecordItem.of schema).trees ∧
        (styleOf declaration = .snake →
          (∀ field ∈ fields, (optionsOf field).modelName = none) →
          (∀ field ∈ fields, ∀ name, field.name = some name → IsAscii name.text.toList) →
          schema.hasNonSnakeNames = false ∧
            allowance ∉ leadingAttributes (RecordItem.of schema).trees) ∧
        ∀ name ∈ schema.recordNames, IsAscii name.text.toList →
          (∃ c ∈ name.text.toList, c.isUpper = true) →
          schema.hasNonSnakeNames = true ∧
            allowance ∈ leadingAttributes (RecordItem.of schema).trees := by
  refine ⟨fun text hascii => ⟨snake_apply_apply hascii, isUpper_snake_apply hascii⟩, ?_⟩
  intro text expansion declaration fields h hdeclaration hshape
  obtain ⟨found, schema, hfound, hschema, rfl⟩ := Expansion.ofText_eq_ok_iff.mp h
  obtain rfl : found = declaration := Option.some.inj (hfound.symm.trans hdeclaration)
  have hvisibility : schema.visibility = found.visibility := by
    obtain ⟨_, _, _, _, _, _, hassemble⟩ := ofDeclaration_eq_ok_iff.mp hschema
    obtain ⟨_, _, _, _, _, _, _, _, rfl⟩ := assemble_eq_ok_iff.mp hassemble
    rfl
  have hshown : (RecordItem.of schema).visibility = [] ∨
      ∃ rest, (RecordItem.of schema).visibility = word "pub" :: rest := by
    rw [RecordItem.of, hvisibility]
    exact Declaration.visibility_of_ofText? hfound
  -- Without a visibility that could pass for an attribute, the flag decides.
  have hallowance : allowance ∈ leadingAttributes (RecordItem.of schema).trees ↔
      schema.hasNonSnakeNames = true := allowance_mem_iff hshown
  refine ⟨schema, hschema, rfl, ?_, ?_⟩
  · intro hstyle hnone hascii
    have hsorts := sorts_of_ofDeclaration hshape hschema
    rw [hstyle] at hsorts
    have hfalse := hasNonSnakeNames_of_snake hsorts hnone hascii
    refine ⟨hfalse, ?_⟩
    rw [hallowance, hfalse]
    exact Bool.false_ne_true
  · rintro name hname hascii ⟨c, hc, hupper⟩
    have htrue := hasNonSnakeNames_of_isUpper hname hascii hc hupper
    exact ⟨htrue, hallowance.mpr htrue⟩

namespace Sample

/-- A page whose names are brought into snake case. -/
def codeText : String :=
  "#[dao(rename_all = \"snake_case\")] struct Page \x7b theKey: Identity, HTTPCode2: u16 \x7d"

/-- Whether names are brought into snake case, with none given and all of them ASCII. -/
def isSnakeOnly (declaration : Declaration) (fields : List Field) : Bool :=
  styleOf declaration = .snake && fields.all fun field =>
    (optionsOf field).modelName.isNone && field.name.all fun name => IsAscii name.text.toList

/-- A page is accepted, in snake case and with no name given. -/
theorem accepts_codeText :
    accepts isSnakeOnly [.plain "the_key", .plain "http_code_2"] codeText = true := by
  decide +kernel

end Sample

/-- A page in snake case has no allowance, and a shelf in camel case has it. -/
theorem allowance_sound_page :
    (∃ expansion schema, Expansion.ofText Sample.codeText = .ok expansion ∧
      expansion.record = Tree.print (RecordItem.of schema).trees ∧
      schema.hasNonSnakeNames = false ∧
      allowance ∉ leadingAttributes (RecordItem.of schema).trees) ∧
    ∃ expansion schema, Expansion.ofText Sample.shelfText = .ok expansion ∧
      expansion.record = Tree.print (RecordItem.of schema).trees ∧
      schema.hasNonSnakeNames = true ∧
      allowance ∈ leadingAttributes (RecordItem.of schema).trees := by
  constructor
  · obtain ⟨declaration, fields, schema, htext, hshape, hschema, hcheck, _⟩ :=
      Sample.exists_of_accepts Sample.accepts_codeText
    have hexpansion := Expansion.ofText_of_schema htext hschema
    obtain ⟨found, _, hrecord, hsnake, _⟩ :=
      allowance_sound.2 _ _ declaration fields hexpansion htext hshape
    simp only [Sample.isSnakeOnly, Bool.and_eq_true, decide_eq_true_eq, List.all_eq_true,
      Option.isNone_iff_eq_none] at hcheck
    obtain ⟨hstyle, hfields⟩ := hcheck
    have hascii : ∀ field ∈ fields, ∀ name, field.name = some name →
        IsAscii name.text.toList := by
      intro field hfield name hname
      simpa [hname] using (hfields field hfield).2
    exact ⟨_, found, hexpansion, hrecord,
      hsnake hstyle (fun field hfield => (hfields field hfield).1) hascii⟩
  · obtain ⟨declaration, fields, schema, htext, hshape, hschema, _, hnames⟩ :=
      Sample.exists_of_accepts Sample.accepts_shelfText
    have hexpansion := Expansion.ofText_of_schema htext hschema
    obtain ⟨found, hfound, hrecord, _, hupper⟩ :=
      allowance_sound.2 _ _ declaration fields hexpansion htext hshape
    obtain rfl : found = schema := Except.ok.inj (hfound.symm.trans hschema)
    -- One name with a capital is enough.
    have hmem : Ident.plain "pageCount" ∈ found.recordNames := by
      rw [hnames]
      exact List.mem_cons_of_mem _ List.mem_cons_self
    exact ⟨_, found, hexpansion, hrecord,
      hupper (.plain "pageCount") hmem (by decide) ⟨'C', by decide, by decide⟩⟩

end Recordsmith
