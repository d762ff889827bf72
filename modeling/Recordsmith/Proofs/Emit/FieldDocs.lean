import Recordsmith.Proofs.Emit.RecordNames
import Recordsmith.Proofs.Schema.Documentation
import Recordsmith.Proofs.Text.Quoted

/-!
# `Recordsmith.Proofs.Emit.FieldDocs`: the documentation of record fields

The fields of a record carry the documentation of the fields they stem from. It is printed as
an attribute with a string literal, and whoever reads the record has to find the same text
there. `field_docs_survive` says so for every text from which items are generated.

There are three ways back from an attribute as it is printed, and each has its lemma. Its
literal means the text (`Literal.ofText_literal`). Its characters are the lexemes it was
printed from (`Tree.ofText?_documented`); where the literal ends is decided by the quoting
alone, since no word can follow it in brackets. And its trees are read as the attribute
`doc = "text"`, whatever the rest of the grammar is (`runAll_documented`). From there on it is
documentation like any other, and since it is trimmed already, it stays as it is.
-/

set_option autoImplicit false

namespace Recordsmith

open Recordsmith.Source Recordsmith.Source.Tree Recordsmith.Schema Recordsmith.Emit
  Recordsmith.Text

/-! ### String literals -/

/-- What a text is written as means this text. -/
theorem Source.Literal.ofText_literal (text : String) :
    Literal.ofText (Quoted.literal text) = .string text := by
  unfold Literal.ofText
  dsimp only
  rw [Quoted.value?_literal]
  exact congrArg Literal.string String.ofList_toList

namespace Source.Lexeme

section

variable (text : String) (rest : List Char) (h : bareIdent? rest = none)

include h

/-- A string literal ends with its closing mark, unless a word follows. -/
theorem skipLiteral?_literal :
    skipLiteral? ((Quoted.literal text).toList ++ rest) = some rest := by
  have hbody := Quoted.readBody_literalBody text.toList rest
  have hsuffix : skipSuffix rest = rest := by
    unfold skipSuffix
    rw [h]
  have hcooked : skipCooked? .text ((Quoted.literal text).toList ++ rest) = some rest := by
    rw [Quoted.literal, String.toList_ofList]
    show skipCooked? .text ('"' :: (Quoted.literalBody text.toList ++ ['"'] ++ rest)) = _
    rw [List.append_assoc, skipCooked?, List.singleton_append, hbody, Option.map_some]
    exact congrArg some hsuffix
  unfold skipLiteral?
  rw [hcooked]
  rfl

/-- The scanner finds the literal that a text is written as, and stops behind it. -/
theorem literal?_literal :
    literal? ((Quoted.literal text).toList ++ rest) = some (Tree.string text, rest) := by
  unfold literal?
  rw [skipLiteral?_literal text rest h, Option.map_some, List.length_append, Nat.add_sub_cancel,
    List.take_left, String.ofList_toList]
  rfl

/-- This literal is what comes next. -/
theorem next?_literal :
    next? ((Quoted.literal text).toList ++ rest) = some ([.leaf (Tree.string text)], rest) := by
  obtain ⟨more, hmore⟩ : ∃ more, (Quoted.literal text).toList ++ rest = '"' :: more := by
    rw [Quoted.literal, String.toList_ofList]
    exact ⟨_, rfl⟩
  have hliteral := literal?_literal text rest h
  rw [hmore] at hliteral ⊢
  -- A quotation mark starts neither a blank nor a comment, and opens and closes no group.
  show ((literal? ('"' :: more) <|> _).map _) = _
  rw [hliteral]
  rfl

end

/-- There is nothing to be scanned in an empty text. -/
theorem scan_nil : scan [] = some [] := by
  rw [scan]
  rfl

/-- Scanning goes on behind what comes next. -/
theorem scan_of_next? {cs rest : List Char} {lexemes : List Lexeme}
    (h : next? cs = some (lexemes, rest)) (hlength : rest.length < cs.length) :
    scan cs = (scan rest).map (lexemes ++ ·) := by
  have hne : cs.isEmpty = false := by
    cases cs with
    | nil => cases h
    | cons c more => rfl
  rw [scan, hne, h]
  simp only [Bool.false_eq_true, if_false, if_pos hlength]

/-- The lexemes of a documentation attribute, wherever it stands. -/
theorem scan_documented (text : String) (rest : List Char) :
    scan ("# [doc = ".toList ++ ((Quoted.literal text).toList ++ ']' :: rest))
      = (scan rest).map ([.leaf (.punct '#' false), .opens .bracket, .leaf (word "doc"),
          .leaf (.punct '=' false), .leaf (Tree.string text), .closes .bracket] ++ ·) := by
  have hclosed : scan (']' :: rest) = (scan rest).map ([.closes .bracket] ++ ·) :=
    scan_of_next? rfl (by simp)
  have hliteral : scan ((Quoted.literal text).toList ++ ']' :: rest)
      = (scan (']' :: rest)).map ([.leaf (Tree.string text)] ++ ·) := by
    refine scan_of_next? (next?_literal text (']' :: rest) rfl) ?_
    simp only [Quoted.literal, String.toList_ofList, List.length_append, List.length_cons]
    omega
  generalize (Quoted.literal text).toList ++ ']' :: rest = quoted at hliteral
  -- In front of the literal the text is fixed, and every lexeme of it is found by looking.
  have hblank : ∀ cs : List Char, scan (' ' :: cs) = scan cs := by
    intro cs
    have hscan : scan (' ' :: cs) = (scan cs).map ([] ++ ·) := scan_of_next? rfl (by simp)
    simpa using hscan
  have hequals : scan ('=' :: ' ' :: quoted)
      = (scan (' ' :: quoted)).map ([.leaf (.punct '=' false)] ++ ·) :=
    scan_of_next? rfl (by simp)
  have hword : scan ('d' :: 'o' :: 'c' :: ' ' :: '=' :: ' ' :: quoted)
      = (scan (' ' :: '=' :: ' ' :: quoted)).map ([.leaf (word "doc")] ++ ·) :=
    scan_of_next? rfl (by simp)
  have hopened : scan ('[' :: 'd' :: 'o' :: 'c' :: ' ' :: '=' :: ' ' :: quoted)
      = (scan ('d' :: 'o' :: 'c' :: ' ' :: '=' :: ' ' :: quoted)).map ([.opens .bracket] ++ ·) :=
    scan_of_next? rfl (by simp)
  have hhash : scan ("# [doc = ".toList ++ quoted)
      = (scan (' ' :: '[' :: 'd' :: 'o' :: 'c' :: ' ' :: '=' :: ' ' :: quoted)).map
          ([.leaf (.punct '#' false)] ++ ·) :=
    scan_of_next? rfl (by simp)
  rw [hhash, hblank, hopened, hword, hblank, hequals, hblank, hliteral, hclosed]
  simp only [Option.map_map]
  rfl

end Source.Lexeme

/-- A text that starts with no byte order mark has the trees of its lexemes. -/
theorem Source.Tree.ofText?_of_scan {text : String} {c : Char} {more : List Char}
    {lexemes : List Lexeme} (htext : text.toList = c :: more) (hc : c ≠ Char.ofNat 0xFEFF)
    (hscan : Lexeme.scan text.toList = some lexemes) :
    Tree.ofText? text = Lexeme.nest [] [] lexemes := by
  unfold Tree.ofText?
  rw [htext] at hscan ⊢
  have hmark : (c == Char.ofNat 0xFEFF) = false := beq_eq_false_iff_ne.mpr hc
  simp only [hmark, Bool.false_eq_true, if_false, hscan, Option.bind_some]

/-- A string literal alone is one tree. -/
theorem Source.Tree.ofText?_literal (text : String) :
    Tree.ofText? (Quoted.literal text) = some [Tree.string text] := by
  have hnext := Lexeme.next?_literal text [] rfl
  rw [List.append_nil] at hnext
  have hscan : Lexeme.scan (Quoted.literal text).toList = some [.leaf (Tree.string text)] := by
    rw [Lexeme.scan_of_next? hnext (by simp [Quoted.literal]), Lexeme.scan_nil]
    rfl
  have hmark : (Quoted.literal text).toList
      = '"' :: (Quoted.literalBody text.toList ++ ['"']) := by
    rw [Quoted.literal, String.toList_ofList]
    rfl
  rw [Tree.ofText?_of_scan hmark (by decide) hscan]
  rfl

/-! ### Documentation attributes -/

/-- Documentation is printed as an attribute around the literal of its text. -/
theorem Emit.print_documented (text : String) :
    (Tree.print (documented text)).toList
      = "# [doc = ".toList ++ ((Quoted.literal text).toList ++ [']']) := by
  show (Tree.print [.punct '#' false,
    .group .bracket [word "doc", .punct '=' false, Tree.string text]]).toList = _
  simp [Tree.print, Tree.printOne, Tree.isJoint, Delimiter.opening, Delimiter.closing, word,
    Ident.spelled, Ident.plain, Tree.string]

/-- A documentation attribute is printed so that its trees can be told from the text. -/
theorem Source.Tree.ofText?_documented (text : String) :
    Tree.ofText? (Tree.print (documented text)) = some (documented text) := by
  have hscan := Lexeme.scan_documented text []
  rw [← Emit.print_documented, Lexeme.scan_nil, Option.map_some] at hscan
  have hhash : (Tree.print (documented text)).toList
      = '#' :: (" [doc = ".toList ++ ((Quoted.literal text).toList ++ [']'])) :=
    Emit.print_documented text
  rw [Tree.ofText?_of_scan hhash (by decide) hscan]
  rfl

/-- A documentation attribute is read as such, whatever else can be read. -/
theorem Emit.runAll_documented (inner : Grammar) (text : String) :
    Reader.runAll (Grammar.attributes inner) (documented text) = .ok [.doc text] := by
  have hread : Reader.runAll (Grammar.attributes inner) (documented text)
      = .ok [⟨false, [.plain "doc"], .value (.literal (Literal.ofText (Quoted.literal text)))⟩] :=
    rfl
  rw [hread, Literal.ofText_literal]
  rfl

/-- Whether an attribute as it is printed keeps a text as documentation: its literal means
the text, its characters are those of its trees, and these are read as one attribute, whose
documentation is the text. -/
structure Emit.KeepsDoc (doc : String) (attr : List Tree) : Prop where
  quoted : ∃ literal, attr = [.punct '#' false,
      .group .bracket [word "doc", .punct '=' false, .literal literal]] ∧
    Tree.ofText? literal = some [.literal literal] ∧ Literal.ofText literal = .string doc
  printed : Tree.ofText? (Tree.print attr) = some attr
  read : ∀ inner : Grammar, ∃ found,
    Reader.runAll (Grammar.attributes inner) attr = .ok [found] ∧
      found.doc? = some doc ∧ Docs.comments? [found] = some doc

/-- Documentation is trimmed, so as the only text of an item it stays as it is. -/
theorem Schema.Docs.comments?_doc {attributes : List Attribute} {doc : String}
    (h : comments? attributes = some doc) : comments? [.doc doc] = some doc := by
  obtain ⟨hdoc, hne⟩ := toList_of_comments? h
  have htrimmed : IsTrimmed doc.toList := by
    rw [hdoc]
    exact isTrimmed_trim _
  have hjoined : joined (values [.doc doc]) = doc.toList := by
    have hvalues : values [.doc doc] = [doc.toList] := rfl
    rw [hvalues, joined, List.map_singleton, List.intercalate_singleton,
      trim_of_isTrimmed htrimmed, trim_of_isTrimmed htrimmed]
  unfold comments?
  rw [hjoined]
  simp [hne]

/-- The attribute that is generated keeps the documentation. -/
theorem Emit.keepsDoc_documented {attributes : List Attribute} {doc : String}
    (h : Docs.comments? attributes = some doc) : KeepsDoc doc (documented doc) where
  quoted := ⟨Quoted.literal doc, rfl, Tree.ofText?_literal doc, Literal.ofText_literal doc⟩
  printed := Tree.ofText?_documented doc
  read := fun inner => ⟨.doc doc, runAll_documented inner doc, rfl, Docs.comments?_doc h⟩

/-! ### The fields of a record -/

/-- Whether trees declare the record field of a property, with the documentation of the
property as their only attribute, and with none if it has no documentation. -/
def Emit.DeclaresProperty (property : Property) (entry : List Tree) : Prop :=
  ∃ attr, entry = attr ++ word "pub" :: .ident property.modelName :: .punct ':' false ::
      storedTypeTrees (StoredType.of property) ∧
    match property.doc with
    | some doc => KeepsDoc doc attr
    | none => attr = []

/-- The entry of a property declares it, with its documentation or with none. -/
theorem Emit.declaresProperty_fieldTrees {attributes : List Attribute} {property : Property}
    (h : property.doc = Docs.comments? attributes) :
    DeclaresProperty property (RecordItem.fieldTrees
      ⟨property.doc, property.modelName, StoredType.of property⟩) := by
  refine ⟨(property.doc.map documented).getD [], ?_, ?_⟩
  · simp only [RecordItem.fieldTrees, List.append_assoc]
    rfl
  cases hdoc : property.doc with
  | none => rfl
  | some doc => exact keepsDoc_documented (h.symm.trans hdoc)

/-- A property has the documentation of its field. -/
theorem Schema.doc_of_class? {style : NamingStyle} {field : Field} {property : Property}
    (h : class? style field = some (.property property)) :
    field.name = some property.name ∧ property.doc = Docs.comments? field.attributes := by
  obtain ⟨spec, hread, hclass⟩ := class?_eq_some_iff.mp h
  obtain ⟨_, rfl⟩ := readField_eq_ok_iff.mp hread
  obtain ⟨name, hproperty⟩ := propertyOf_of_classify hclass
  -- None of the steps that make a property looks at the documentation.
  obtain ⟨kind, _, hproperty⟩ := exists_of_bind_eq_ok hproperty
  obtain ⟨_, _, hproperty⟩ := exists_of_bind_eq_ok hproperty
  obtain ⟨model, _, hproperty⟩ := exists_of_bind_eq_ok hproperty
  cases hproperty
  exact ⟨(class?_cases h).2.1, rfl⟩

/-- Properties have the names and the documentation of their fields, in order. -/
theorem Schema.docs_of_ofDeclaration {declaration : Declaration} {fields : List Field}
    {schema : Schema} (hshape : declaration.shape = .named fields)
    (h : Schema.ofDeclaration declaration = .ok schema) :
    List.Forall₂ (fun field property => field.name = some property.name ∧
        property.doc = Docs.comments? field.attributes)
      (withRole .property fields) schema.properties := by
  obtain ⟨found, hfound, _, _, _, hall, hassemble⟩ := ofDeclaration_eq_ok_iff.mp h
  obtain rfl : found = fields := by simpa [hfound] using hshape
  obtain ⟨_, _, _, _, _, _, _, _, rfl⟩ := assemble_eq_ok_iff.mp hassemble
  refine (forall₂_withRole FieldClass.role_eq_property_iff hall).imp ?_
  rintro field property ⟨found, hclass, hpick⟩
  -- Only a property is picked.
  cases found with
  | property kept =>
      cases hpick
      exact doc_of_class? hclass
  | _ => cases hpick

/-- Values that go together with others one by one each go with one of them. -/
theorem exists_of_forall₂_of_mem {α β : Type} {R : α → β → Prop} {left : List α} {right : List β}
    (h : List.Forall₂ R left right) {b : β} (hb : b ∈ right) : ∃ a, R a b := by
  induction h with
  | nil => cases hb
  | @cons first _ _ _ hfirst _ ih =>
      rcases List.mem_cons.mp hb with rfl | hlater
      · exact ⟨first, hfirst⟩
      · exact ih hlater

/-- Documentation of fields survives. Any text at all is read back from the literal that it
is written as. In the record that is generated from a text, the entries behind that of the
identity are those of the fields that are properties, in order, each with the documentation
of its field of the declaration, in an attribute that keeps it, or with no attribute if it
has none. -/
theorem field_docs_survive :
    (∀ doc : String, Tree.ofText? (Quoted.literal doc) = some [.literal (Quoted.literal doc)] ∧
      Literal.ofText (Quoted.literal doc) = .string doc) ∧
    ∀ (text : String) (expansion : Expansion), Expansion.ofText text = .ok expansion →
      ∃ (declaration : Declaration) (fields : List Field) (schema : Schema)
        (layout : RecordLayout) (identity : List Tree) (entries : List (List Tree)),
        Declaration.ofText? text = some declaration ∧ declaration.shape = .named fields ∧
        Schema.ofDeclaration declaration = .ok schema ∧
        expansion.record = Tree.print layout.trees ∧
        layout.trees = (RecordItem.of schema).trees ∧
        layout.name = schema.record ∧ layout.fields = identity :: entries ∧
        List.Forall₂ (fun field property => field.name = some property.name ∧
            property.doc = Docs.comments? field.attributes)
          (withRole .property fields) schema.properties ∧
        List.Forall₂ DeclaresProperty schema.properties entries := by
  refine ⟨fun doc => ⟨Tree.ofText?_literal doc, Literal.ofText_literal doc⟩, ?_⟩
  intro text expansion h
  obtain ⟨declaration, schema, htext, hschema, rfl⟩ := Expansion.ofText_eq_ok_iff.mp h
  obtain ⟨fields, hshape, _⟩ := ofDeclaration_eq_ok_iff.mp hschema
  have hdocs := docs_of_ofDeclaration hshape hschema
  have htrees := RecordItem.trees_eq (RecordItem.of schema)
  refine ⟨declaration, fields, schema, (RecordItem.of schema).layout, _, _, htext, hshape,
    hschema, congrArg Tree.print htrees, htrees.symm, rfl, rfl, hdocs, ?_⟩
  rw [List.forall₂_map_right_iff, RecordItem.of, List.forall₂_map_right_iff, List.forall₂_same]
  intro property hproperty
  -- What an entry needs to know of its property is that the documentation came from some field.
  obtain ⟨field, _, hdoc⟩ := exists_of_forall₂_of_mem hdocs hproperty
  exact declaresProperty_fieldTrees hdoc

namespace Sample

/-- A quote whose text is documented with marks, a backslash, a line end, NUL in front of a
digit and an accent of its own. -/
def quoteText : String :=
  "struct Quote \x7b id: Identity, " ++
    "#[doc = \" A \\\"mark\\\" \\\\ \\n \\05 e\\u\x7b301\x7d \"] text: String, by: String \x7d"

/-- The documentation of a quote, as it is meant. -/
def quoteDoc : String :=
  "A \"mark\" \\ \n \x005 e\u0301"

/-- Whether the properties among some fields have this documentation. -/
def areDocumented (docs : List (Option String)) (fields : List Field) : Bool :=
  (withRole .property fields).map (fun field => Docs.comments? field.attributes) = docs

/-- A quote is accepted, with documentation on its text and none on its author. -/
theorem accepts_quoteText :
    accepts (fun _ => areDocumented [some quoteDoc, none])
      [.plain "id", .plain "text", .plain "by"] quoteText = true := by
  decide +kernel

end Sample

/-- The record of a quote is printed with the documentation of its text, and with none of its
author. -/
theorem field_docs_survive_quote :
    ∃ (expansion : Expansion) (schema : Schema) (layout : RecordLayout) (identity : List Tree)
      (entries : List (List Tree)),
      Expansion.ofText Sample.quoteText = .ok expansion ∧
      expansion.record = Tree.print layout.trees ∧ layout.fields = identity :: entries ∧
      schema.properties.map (·.doc) = [some Sample.quoteDoc, none] ∧
      List.Forall₂ DeclaresProperty schema.properties entries := by
  obtain ⟨declaration, fields, schema, htext, hshape, hschema, hdocumented, _⟩ :=
    Sample.exists_of_accepts Sample.accepts_quoteText
  have hexpansion := Expansion.ofText_of_schema htext hschema
  obtain ⟨found, again, other, layout, identity, entries, hfound, hagain, _, hrecord, _, _,
    hfields, hdocs, hentries⟩ := field_docs_survive.2 Sample.quoteText (.of schema) hexpansion
  obtain rfl : found = declaration := Option.some.inj (hfound.symm.trans htext)
  obtain rfl : again = fields := by simpa [hagain] using hshape
  refine ⟨.of schema, other, layout, identity, entries, hexpansion, hrecord, hfields, ?_,
    hentries⟩
  rw [Sample.areDocumented, decide_eq_true_eq] at hdocumented
  rw [← hdocumented]
  exact (map_eq_map_of_forall₂ hdocs fun _ _ hboth => hboth.2.symm).symm

end Recordsmith
