import Recordsmith.Proofs.Text.Blank
import Recordsmith.Schema.Docs

/-!
# `Recordsmith.Proofs.Schema.Documentation`: documentation line by line

Documentation is put together from the texts of its attributes: each is trimmed, they are
joined by line ends, the whole is trimmed once more, and for the summary it is divided into
lines again. `documentation_by_lines` says that none of this shows. The summary is the first
line with something on it among the lines of all texts as they stand, and the whole
documentation has in it what is written in the texts.

The lemma behind it is `firstLine?_joined`. It rests on two facts about the first line of a
text: a line end divides it (`firstLine?_append`), and blanks at either end, line ends
included, do not matter (`firstLine?_trim`).
-/

set_option autoImplicit false

namespace Recordsmith

open Recordsmith.Source Recordsmith.Schema Recordsmith.Text

/-- The attribute `doc = "text"`. -/
def Source.Attribute.doc (text : String) : Attribute :=
  ⟨false, [.plain "doc"], .value (.literal (.string text))⟩

namespace Schema

/-! ### The texts of documentation -/

/-- The texts of the attributes `doc = "text"`, in order. Any other attribute has none. -/
inductive DocTexts : List Attribute → List (List Char) → Prop where
  | nil : DocTexts [] []
  | doc {text : String} {rest : List Attribute} {texts : List (List Char)}
      (others : DocTexts rest texts) : DocTexts (Attribute.doc text :: rest) (text.toList :: texts)
  | other {attr : Attribute} {rest : List Attribute} {texts : List (List Char)}
      (not_doc : ∀ text, attr ≠ Attribute.doc text) (others : DocTexts rest texts) :
      DocTexts (attr :: rest) texts

/-- An attribute is called doc by a path of this one plain name and nothing else. -/
theorem isNamed_doc_iff {attr : Attribute} :
    attr.isNamed "doc" = true ↔ attr.leading = false ∧ attr.path = [.plain "doc"] := by
  have hspelled : ∀ name : Ident, name.spelled = "doc" ↔ name = .plain "doc" := by
    rintro ⟨raw, text⟩
    cases raw with
    | false => simp [Ident.spelled, Ident.plain]
    | true =>
        -- A raw name starts with its mark, and so is no word.
        have hne : "r#" ++ text ≠ "doc" := by
          intro heq
          have hlist := congrArg String.toList heq
          rw [String.toList_append] at hlist
          cases hlist
        simpa [Ident.spelled, Ident.plain] using hne
  simp only [Attribute.isNamed, Bool.and_eq_true, Bool.not_eq_true', beq_iff_eq]
  refine and_congr Iff.rfl ?_
  rw [List.map_eq_singleton_iff]
  simp only [hspelled]
  exact ⟨fun ⟨name, hpath, hname⟩ => hname ▸ hpath, fun hpath => ⟨_, hpath, rfl⟩⟩

/-- A text is found in the attribute that is written for it, and in no other. -/
theorem doc?_eq_some_iff {attr : Attribute} {text : String} :
    attr.doc? = some text ↔ attr = Attribute.doc text := by
  constructor
  · intro h
    unfold Attribute.doc? at h
    split at h
    · rename_i hnamed
      obtain ⟨hleading, hpath⟩ := isNamed_doc_iff.mp hnamed
      split at h
      · rename_i found hform
        cases h
        -- Nothing of the attribute is left open: it has no leading colons, its path is the one
        -- name, and its value is the text.
        obtain ⟨leading, path, form⟩ := attr
        cases hleading
        cases hpath
        cases hform
        rfl
      · cases h
    · cases h
  · rintro rfl
    rfl

/-- The texts that are looked at are those of documentation. -/
theorem docTexts_values (attributes : List Attribute) :
    DocTexts attributes (Docs.values attributes) := by
  induction attributes with
  | nil => exact .nil
  | cons attr rest ih =>
      unfold Docs.values at ih ⊢
      cases hdoc : attr.doc? with
      | none =>
          rw [List.filterMap_cons_none (by rw [hdoc]; rfl)]
          refine .other (fun text heq => ?_) ih
          cases hdoc.symm.trans (doc?_eq_some_iff.mpr heq)
      | some text =>
          rw [List.filterMap_cons_some (by rw [hdoc]; rfl)]
          obtain rfl := doc?_eq_some_iff.mp hdoc
          exact .doc ih

/-- Attributes have one row of texts. -/
theorem DocTexts.eq_values {attributes : List Attribute} {texts : List (List Char)}
    (h : DocTexts attributes texts) : Docs.values attributes = texts := by
  induction h with
  | nil => rfl
  | @doc text rest texts _ ih => exact congrArg (text.toList :: ·) ih
  | @other attr rest texts not_doc _ ih =>
      have hnone : attr.doc? = none := by
        cases hdoc : attr.doc? with
        | none => rfl
        | some text => exact absurd (doc?_eq_some_iff.mp hdoc) (not_doc text)
      unfold Docs.values at ih ⊢
      rw [List.filterMap_cons_none (by rw [hnone]; rfl), ih]

/-! ### The first line -/

namespace Docs

/-- Whether a line has something on it. -/
def isWritten (line : List Char) : Bool :=
  !(written line).isEmpty

/-- Something is left of a line by trimming if something is written on it. -/
theorem isEmpty_trim (line : List Char) : (!(trim line).isEmpty) = isWritten line := by
  have heq := (isTrimmed_trim line).eq_nil_iff
  rw [written_trim] at heq
  rw [isWritten, Bool.eq_iff_iff]
  simpa using not_congr heq

/-- Lines may be trimmed after the search instead of before. -/
theorem firstLine?_eq (text : List Char) :
    firstLine? text = ((text.splitOn '\n').find? isWritten).map trim := by
  unfold firstLine?
  rw [List.find?_map]
  have hsame : ((fun line : List Char => !line.isEmpty) ∘ trim) = isWritten :=
    funext isEmpty_trim
  rw [hsame]

/-- An empty text has no first line. -/
@[simp]
theorem firstLine?_nil : firstLine? [] = none := rfl

/-- A line end divides a text. -/
theorem firstLine?_append (before after : List Char) :
    firstLine? (before ++ '\n' :: after) = (firstLine? before).or (firstLine? after) := by
  unfold firstLine?
  rw [List.splitOn_append_cons_self, List.map_append, List.find?_append]

/-- A text without line ends is one line. -/
theorem firstLine?_of_notMem {text : List Char} (h : '\n' ∉ text) :
    firstLine? text = if isWritten text then some (trim text) else none := by
  rw [firstLine?_eq, List.splitOn_eq_singleton h, List.find?_singleton]
  split <;> rfl

/-- A blank in front does not matter, even if it is a line end. -/
theorem firstLine?_cons_of_isBlank {c : Char} (h : isBlank c = true) (text : List Char) :
    firstLine? (c :: text) = firstLine? text := by
  by_cases hend : c = '\n'
  · subst hend
    exact firstLine?_append [] text
  · -- The blank joins the first line of the rest, where trimming takes it off.
    obtain ⟨first, others, hfirst⟩ := List.exists_cons_of_ne_nil (List.splitOn_ne_nil '\n' text)
    unfold firstLine?
    rw [List.splitOn_cons_eq_if_modifyHead, if_neg (by simpa using hend), hfirst,
      List.modifyHead_cons, List.map_cons, List.map_cons, trim_cons_of_isBlank h]

/-- A blank at the end does not matter, even if it is a line end. -/
theorem firstLine?_concat_of_isBlank {c : Char} (h : isBlank c = true) (text : List Char) :
    firstLine? (text ++ [c]) = firstLine? text := by
  by_cases hline : '\n' ∈ text
  · -- Only what stands behind the first line end matters.
    obtain ⟨before, after, rfl, _⟩ := List.eq_append_cons_of_mem hline
    have ih := firstLine?_concat_of_isBlank h after
    rw [List.append_assoc, List.cons_append, firstLine?_append, firstLine?_append, ih]
  · by_cases hend : c = '\n'
    · subst hend
      rw [firstLine?_append, firstLine?_nil, Option.or_none]
    · have hwhole : '\n' ∉ text ++ [c] := by
        simp [hline, Ne.symm hend]
      rw [firstLine?_of_notMem hwhole, firstLine?_of_notMem hline, ← isEmpty_trim,
        ← isEmpty_trim, trim_concat_of_isBlank h]
termination_by text.length
decreasing_by
  subst_vars
  simp only [List.length_append, List.length_cons]
  omega

/-- Blanks at the ends of a text do not matter, even if they are line ends. -/
theorem firstLine?_trim (text : List Char) : firstLine? (trim text) = firstLine? text := by
  have hstart : ∀ text : List Char, firstLine? (trimStart text) = firstLine? text := by
    intro text
    induction text with
    | nil => rfl
    | cons c rest ih =>
        by_cases hc : isBlank c = true
        · rw [trimStart, List.dropWhile_cons_of_pos hc, firstLine?_cons_of_isBlank hc]
          exact ih
        · rw [trimStart, List.dropWhile_cons_of_neg hc]
  -- From behind it is the same, by induction from the end.
  have hend : ∀ text : List Char, firstLine? (trimEnd text) = firstLine? text := by
    intro text
    induction text using List.reverseRecOn with
    | nil => rfl
    | append_singleton front c ih =>
        rw [trimEnd_eq_rdropWhile] at ih ⊢
        by_cases hc : isBlank c = true
        · rw [List.rdropWhile_concat_pos _ _ _ hc, firstLine?_concat_of_isBlank hc, ih]
        · rw [List.rdropWhile_concat_neg _ _ _ hc]
  rw [trim, hend, hstart]

/-- The first line of texts that are joined by line ends is the first that one of them has. -/
theorem firstLine?_intercalate (texts : List (List Char)) :
    firstLine? (List.intercalate ['\n'] texts) = texts.findSome? firstLine? := by
  induction texts with
  | nil => rfl
  | cons text rest ih =>
      cases rest with
      | nil => simp
      | cons next more =>
          rw [List.intercalate_cons_cons, List.append_assoc, List.singleton_append,
            firstLine?_append, ih, List.findSome?_cons (a := text)]
          cases firstLine? text <;> rfl

/-- Putting texts together does not change which line is the first. -/
theorem firstLine?_joined (texts : List (List Char)) :
    firstLine? (joined texts)
      = ((texts.flatMap (·.splitOn '\n')).find? isWritten).map trim := by
  have htrim : firstLine? ∘ trim = firstLine? := funext firstLine?_trim
  rw [joined, firstLine?_trim, firstLine?_intercalate, List.findSome?_map, htrim,
    List.find?_flatMap]
  induction texts with
  | nil => rfl
  | cons text rest ih =>
      rw [List.findSome?_cons, List.findSome?_cons, ih, firstLine?_eq]
      cases (text.splitOn '\n').find? isWritten <;> rfl

/-! ### What is written -/

/-- Line ends between texts are not counted as written. -/
theorem written_intercalate (texts : List (List Char)) :
    written (List.intercalate ['\n'] texts) = texts.flatMap written := by
  induction texts with
  | nil => rfl
  | cons text rest ih =>
      cases rest with
      | nil => simp
      | cons next more =>
          have hend : written ['\n'] = [] := by decide
          have happend : ∀ before after : List Char,
              written (before ++ after) = written before ++ written after :=
            fun before after => List.filter_append ..
          rw [List.intercalate_cons_cons, happend, happend, hend, ih, List.append_nil]
          rfl

/-- What is written in texts is in the documentation, in order. -/
theorem written_joined (texts : List (List Char)) :
    written (joined texts) = texts.flatMap written := by
  have htrim : (fun text => written (trim text)) = written := funext written_trim
  rw [joined, written_trim, written_intercalate, List.flatMap_map, htrim]

/-- Nothing is left of texts that are blank, and only of these. -/
theorem joined_eq_nil_iff {texts : List (List Char)} :
    joined texts = [] ↔ ∀ text ∈ texts, ∀ c ∈ text, isBlank c = true := by
  have htrimmed : IsTrimmed (joined texts) := isTrimmed_trim _
  rw [htrimmed.eq_nil_iff, written_joined, List.flatMap_eq_nil_iff]
  simp only [written_eq_nil_iff]

/-- There is a first line unless there are only blanks. -/
theorem firstLine?_eq_none_iff {text : List Char} :
    firstLine? text = none ↔ written text = [] := by
  have hwhole := written_intercalate (text.splitOn '\n')
  rw [List.intercalate_splitOn] at hwhole
  rw [firstLine?_eq, Option.map_eq_none_iff, List.find?_eq_none, hwhole, List.flatMap_eq_nil_iff]
  simp [isWritten]

/-- The lines of a text have no line end in them. -/
theorem notMem_of_mem_splitOn {text line : List Char} (h : line ∈ text.splitOn '\n') :
    '\n' ∉ line := by
  induction text generalizing line with
  | nil =>
      obtain rfl := List.mem_singleton.mp h
      exact List.not_mem_nil
  | cons c rest ih =>
      obtain ⟨first, others, hfirst⟩ := List.exists_cons_of_ne_nil (List.splitOn_ne_nil '\n' rest)
      rw [hfirst] at ih
      rw [List.splitOn_cons_eq_if_modifyHead, hfirst] at h
      -- A line end starts a line, and any other character goes to the first line of the rest.
      split at h
      · rcases List.mem_cons.mp h with rfl | hmem
        · exact List.not_mem_nil
        · exact ih hmem
      · rename_i hend
        rw [List.modifyHead_cons] at h
        rcases List.mem_cons.mp h with rfl | hmem
        · have hc : c ≠ '\n' := by simpa using hend
          exact List.not_mem_cons_of_ne_of_not_mem hc.symm (ih List.mem_cons_self)
        · exact ih (List.mem_cons_of_mem _ hmem)

/-- A first line has something on it, and it is one line. -/
theorem firstLine?_sound {text line : List Char} (h : firstLine? text = some line) :
    line ≠ [] ∧ '\n' ∉ line := by
  rw [firstLine?_eq, Option.map_eq_some_iff] at h
  obtain ⟨whole, hfind, rfl⟩ := h
  have hwritten := List.find?_some hfind
  rw [← isEmpty_trim] at hwritten
  refine ⟨by simpa using hwritten, fun hmem => ?_⟩
  -- A line of a text holds no line end, and trimming adds none.
  have hline : '\n' ∈ whole := by
    have hstart := (List.rdropWhile_prefix isBlank (l := trimStart whole)).subset hmem
    exact (List.dropWhile_suffix isBlank).subset hstart
  exact notMem_of_mem_splitOn (List.mem_of_find?_eq_some hfind) hline

/-! ### Whole documentation -/

/-- There is no documentation if nothing is left of its texts. -/
theorem comments?_eq_none_iff {attributes : List Attribute} :
    comments? attributes = none ↔ joined (values attributes) = [] := by
  simp [comments?]

/-- Documentation is what is left of its texts, and it is not empty. -/
theorem toList_of_comments? {attributes : List Attribute} {doc : String}
    (h : comments? attributes = some doc) :
    doc.toList = joined (values attributes) ∧ doc.toList ≠ [] := by
  have hsome : joined (values attributes) ≠ [] :=
    mt comments?_eq_none_iff.mpr (by rw [h]; exact Option.some_ne_none doc)
  unfold comments? at h
  rw [if_neg (by simpa using hsome), Option.some.injEq] at h
  subst h
  rw [String.toList_ofList]
  exact ⟨rfl, hsome⟩

/-- The summary is the first line of the texts put together. -/
theorem summary?_eq (attributes : List Attribute) :
    summary? attributes = (firstLine? (joined (values attributes))).map String.ofList := by
  unfold summary?
  cases hdoc : comments? attributes with
  | none =>
      rw [comments?_eq_none_iff.mp hdoc]
      rfl
  | some doc =>
      rw [← (toList_of_comments? hdoc).1]
      rfl

/-- There is a summary whenever there is documentation. -/
theorem summary?_eq_none_iff {attributes : List Attribute} :
    summary? attributes = none ↔ comments? attributes = none := by
  have htrimmed : IsTrimmed (joined (values attributes)) := isTrimmed_trim _
  rw [summary?_eq, Option.map_eq_none_iff, firstLine?_eq_none_iff, ← htrimmed.eq_nil_iff,
    comments?_eq_none_iff]

end Docs

open Docs in
/-- Documentation means its lines. It is there unless its texts have nothing but blanks in
them. Its summary is the first line among all lines of its texts that has something on it,
trimmed, and the whole has in it what is written in the texts, with no blank at either end. No
other attribute matters. -/
theorem documentation_by_lines (attributes : List Attribute) :
    ∃ texts, DocTexts attributes texts ∧
      (∀ others, DocTexts others texts →
        comments? others = comments? attributes ∧ summary? others = summary? attributes) ∧
      (comments? attributes = none ↔ ∀ text ∈ texts, ∀ c ∈ text, isBlank c = true) ∧
      (∀ doc, comments? attributes = some doc →
        IsTrimmed doc.toList ∧ written doc.toList = texts.flatMap written) ∧
      (summary? attributes = none ↔ comments? attributes = none) ∧
      summary? attributes = ((texts.flatMap (·.splitOn '\n')).find? isWritten).map
        (fun line => String.ofList (trim line)) ∧
      ∀ line, summary? attributes = some line → line ≠ "" ∧ '\n' ∉ line.toList := by
  have hfirst := firstLine?_joined (values attributes)
  refine ⟨values attributes, docTexts_values attributes, ?_, ?_, ?_, summary?_eq_none_iff, ?_, ?_⟩
  -- Both are computed from the texts alone.
  · intro others hothers
    have hvalues := hothers.eq_values
    refine ⟨?_, ?_⟩
    · unfold comments?
      rw [hvalues]
    · rw [summary?_eq, summary?_eq, hvalues]
  · rw [comments?_eq_none_iff, joined_eq_nil_iff]
  · intro doc hdoc
    rw [(toList_of_comments? hdoc).1]
    exact ⟨isTrimmed_trim _, written_joined _⟩
  · rw [summary?_eq, hfirst, Option.map_map]
    rfl
  · intro line hline
    rw [summary?_eq, Option.map_eq_some_iff] at hline
    obtain ⟨found, hfound, rfl⟩ := hline
    obtain ⟨hne, hend⟩ := firstLine?_sound hfound
    rw [String.toList_ofList]
    refine ⟨?_, hend⟩
    intro heq
    refine hne ?_
    rw [← String.toList_ofList (l := found), heq]
    rfl

end Schema

/-- The attributes of a page: some documentation, of which the first part is blank, a mark for
documentation of another form, and an option. -/
def Sample.pageAttributes : List Attribute := [
  .doc " \r\n\t", ⟨false, [.plain "doc"], .list [Tree.word "hidden"]⟩,
  .doc "\n  First line.\r\n\n  Second. ", ⟨false, [.plain "dao"], .word⟩, .doc " Third."]

/-- The summary of a page is found behind blank lines, and no word of the page is lost. -/
theorem documentation_by_lines_page :
    Docs.summary? Sample.pageAttributes = some "First line." ∧
    ∃ doc, Docs.comments? Sample.pageAttributes = some doc ∧ IsTrimmed doc.toList ∧
      written doc.toList = "Firstline.Second.Third.".toList := by
  obtain ⟨texts, htexts, _, _, hdoc, hnone, hsummary, _⟩ :=
    documentation_by_lines Sample.pageAttributes
  obtain rfl := htexts.eq_values
  have hfound : Docs.summary? Sample.pageAttributes = some "First line." := by
    rw [hsummary]
    decide
  refine ⟨hfound, ?_⟩
  cases hcomments : Docs.comments? Sample.pageAttributes with
  | none => cases hfound.symm.trans (hnone.mpr hcomments)
  | some doc =>
      obtain ⟨htrimmed, hwritten⟩ := hdoc doc hcomments
      refine ⟨doc, rfl, htrimmed, ?_⟩
      rw [hwritten]
      decide

end Recordsmith
