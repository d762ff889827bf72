import Recordsmith.Proofs.Text.Words
import Recordsmith.Schema.Classify

/-!
# `Recordsmith.Proofs.Schema.Naming`: names in a style

A style changes the case of a name and the underscores in it. `naming_keeps_letters` says
that it changes nothing else, and what follows for the names of record fields.

The letters and digits of a name are kept one by one, for all that is lost when a name is
divided into words is its underscores (`flatten_words_of_ident`). So camel and Pascal case
leave the letters and digits alone, and these make an identifier unless there are none or
the first is a digit (`isIdentText_filter_iff`). Snake case puts underscores back, also in
front, and always makes an identifier (`isIdentText_snake`).
-/

set_option autoImplicit false

/-! ### Identifiers -/

namespace Recordsmith.Source

open Recordsmith.Text

/-- No identifier starts with a digit. -/
theorem isDigit_of_isIdentStart {c : Char} (h : isIdentStart c = true) : c.isDigit = false := by
  by_cases hc : c.toNat < 128
  · exact of_ascii (P := fun c => isIdentStart c = true → c.isDigit = false) (by decide) hc h
  · by_contra hdigit
    have hle : c.val.toNat ≤ 57 := by
      simp only [Char.isDigit, Bool.not_eq_false, Bool.and_eq_true, decide_eq_true_eq,
        UInt32.le_iff_toNat_le] at hdigit
      exact hdigit.2
    have hval : c.toNat = c.val.toNat := rfl
    omega

/-- A text spells an identifier if it has the form of one. -/
theorem Ident.ofText_eq_ok_iff {text : String} {name : Ident} :
    Ident.ofText text = .ok name ↔ isIdentText text.toList = true ∧ name = .plain text := by
  unfold Ident.ofText
  cases hcs : text.toList with
  | nil => simp [isIdentText]
  | cons c rest =>
      by_cases hident : isIdentText (c :: rest) = true
      · have hstart : isIdentStart c = true := by
          simp only [isIdentText, Bool.and_eq_true] at hident
          exact hident.1
        have hnumber : (c :: rest).all Char.isDigit = false := by
          simp [isDigit_of_isIdentStart hstart]
        simp [hnumber, hident, eq_comm]
      · simp only [List.isEmpty_cons, Bool.false_eq_true, if_false, hident, false_and, iff_false]
        split <;> simp

/-- Only a name that is not raw takes an ending. -/
theorem Ident.withSuffix_eq_ok {name built : Ident} {ending : String}
    (h : name.withSuffix ending = .ok built) :
    name.raw = false ∧ built = .plain (name.text ++ ending) := by
  obtain ⟨hident, rfl⟩ := Ident.ofText_eq_ok_iff.mp h
  obtain ⟨raw, text⟩ := name
  cases raw with
  | false => exact ⟨rfl, rfl⟩
  | true =>
      -- The mark in front has a character that no identifier has.
      have hmark : (Ident.spelled ⟨true, text⟩ ++ ending).toList
          = 'r' :: '#' :: (text.toList ++ ending.toList) := by
        simp [Ident.spelled]
      rw [hmark] at hident
      have hhash : isIdentContinue '#' = false := by decide
      simp [isIdentText, hhash] at hident

/-- An ending keeps names apart. -/
theorem Ident.withSuffix_inj {name other built : Ident} {ending : String}
    (h : name.withSuffix ending = .ok built) (hother : other.withSuffix ending = .ok built) :
    name = other := by
  obtain ⟨hraw, rfl⟩ := withSuffix_eq_ok h
  obtain ⟨hotherRaw, hbuilt⟩ := withSuffix_eq_ok hother
  obtain ⟨raw, text⟩ := name
  obtain ⟨otherRaw, otherText⟩ := other
  cases hraw
  cases hotherRaw
  have htext : text ++ ending = otherText ++ ending := congrArg Ident.text hbuilt
  rw [String.append_left_inj] at htext
  rw [htext]

/-- The characters of an ASCII identifier. -/
theorem isIdentContinue_of_mem {cs : List Char} (h : isIdentText cs = true) (hascii : IsAscii cs)
    {c : Char} (hc : c ∈ cs) : isIdentContinue c = true := by
  cases cs with
  | nil => cases hc
  | cons d rest =>
      simp only [isIdentText, Bool.and_eq_true, List.all_eq_true] at h
      rcases List.mem_cons.mp hc with rfl | hmem
      · exact of_ascii (P := fun c => isIdentStart c = true → isIdentContinue c = true)
          (by decide) (hascii c hc) h.1
      · exact h.2 c hmem

/-- Lowering a character keeps it one that an identifier may start with, or not. -/
theorem isIdentStart_toLower {c : Char} (hc : c.toNat < 128) :
    isIdentStart c.toLower = isIdentStart c :=
  of_ascii (P := fun c => isIdentStart c.toLower = isIdentStart c) (by decide) hc

/-- Lowering a character keeps it one that may stand in an identifier, or not. -/
theorem isIdentContinue_toLower {c : Char} (hc : c.toNat < 128) :
    isIdentContinue c.toLower = isIdentContinue c :=
  of_ascii (P := fun c => isIdentContinue c.toLower = isIdentContinue c) (by decide) hc

/-- Case does not matter for the form of an identifier. -/
theorem isIdentText_map_toLower {cs : List Char} (h : IsAscii cs) :
    isIdentText (cs.map Char.toLower) = isIdentText cs := by
  cases cs with
  | nil => rfl
  | cons c rest =>
      obtain ⟨hc, hrest⟩ := isAscii_cons.mp h
      rw [List.map_cons, isIdentText, isIdentText, isIdentStart_toLower hc, List.all_map]
      congr 1
      rw [Bool.eq_iff_iff, List.all_eq_true, List.all_eq_true]
      refine forall₂_congr fun d hd => ?_
      rw [Function.comp_apply, isIdentContinue_toLower (hrest d hd)]

/-- Without its underscores an identifier is one if a letter comes first. -/
theorem isIdentText_filter_iff {cs : List Char} (h : isIdentText cs = true)
    (hascii : IsAscii cs) :
    isIdentText (cs.filter (· ≠ '_')) = true ↔
      ∃ c, cs.find? (· ≠ '_') = some c ∧ c.isDigit = false := by
  rw [← List.head?_filter]
  have hall : ∀ c ∈ cs.filter (· ≠ '_'), c.toNat < 128 ∧ c ≠ '_' ∧ isIdentContinue c = true := by
    intro c hc
    obtain ⟨hmem, hother⟩ := List.mem_filter.mp hc
    exact ⟨hascii c hmem, by simpa using hother, isIdentContinue_of_mem h hascii hmem⟩
  -- All that is left may stand in an identifier, so its first character decides.
  cases hletters : cs.filter (· ≠ '_') with
  | nil => simp [isIdentText]
  | cons c rest =>
      rw [hletters] at hall
      obtain ⟨⟨hc, hother, hcontinue⟩, hrest⟩ := List.forall_mem_cons.mp hall
      have hstart : isIdentStart c = !c.isDigit :=
        of_ascii (P := fun c => c ≠ '_' → isIdentContinue c = true →
          isIdentStart c = !c.isDigit) (by decide) hc hother hcontinue
      have hcontinues : rest.all isIdentContinue = true :=
        List.all_eq_true.mpr fun d hd => (hrest d hd).2.2
      simp [isIdentText, hstart, hcontinues]

end Recordsmith.Source

namespace Recordsmith.Schema

open Recordsmith.Source Recordsmith.Text

/-! ### Letters -/

/-- The text without its underscores, in lower case. -/
def lettersOf (text : String) : List Char :=
  lower (text.toList.filter (· ≠ '_'))

/-- The words of an identifier one after the other are what is left without underscores. -/
theorem flatten_words_of_ident {cs : List Char} (h : isIdentText cs = true)
    (hascii : IsAscii cs) : (words cs).flatten = cs.filter (· ≠ '_') := by
  rw [flatten_words hascii]
  refine List.filter_congr fun c hc => ?_
  exact of_ascii (P := fun c => isIdentContinue c = true →
      decide (signKind [c] ≠ .delimiter) = decide (c ≠ '_'))
    (by decide) (hascii c hc) (isIdentContinue_of_mem h hascii hc)

/-- Underscores between pieces do not matter where underscores are dropped. -/
theorem filter_intercalate (pieces : List (List Char)) :
    (List.intercalate ['_'] pieces).filter (· ≠ '_') = pieces.flatten.filter (· ≠ '_') := by
  induction pieces with
  | nil => rfl
  | cons piece others ih =>
      cases others with
      | nil => simp
      | cons next more =>
          rw [List.intercalate_cons_cons, List.filter_append, List.filter_append, ih,
            List.flatten_cons, List.filter_append]
          simp

/-- Underscores can be taken out before or after lowering. -/
theorem filter_map_toLower {cs : List Char} (h : IsAscii cs) :
    (cs.map Char.toLower).filter (· ≠ '_') = (cs.filter (· ≠ '_')).map Char.toLower := by
  rw [List.filter_map]
  refine congrArg _ (List.filter_congr fun c hc => ?_)
  exact of_ascii (P := fun c => decide (c.toLower ≠ '_') = decide (c ≠ '_')) (by decide) (h c hc)

/-- Without its underscores snake case is the lowered name without its own. -/
theorem filter_snake {cs : List Char} (h : isIdentText cs = true) (hascii : IsAscii cs) :
    (snake cs).filter (· ≠ '_') = lower (cs.filter (· ≠ '_')) := by
  have hletters : IsAscii (cs.filter (· ≠ '_')) := hascii.filter _
  rw [snake, map_lower_words hascii, filter_intercalate, ← List.map_flatten,
    flatten_words_of_ident h hascii, filter_map_toLower hletters, List.filter_filter,
    lower_of_ascii hletters]
  simp

/-- A text that is the letters of a name but for case has these letters. -/
theorem lower_filter_of_map_toLower {cs ts : List Char} (hascii : IsAscii cs)
    (h : ts.map Char.toLower = (cs.filter (· ≠ '_')).map Char.toLower) :
    lower (ts.filter (· ≠ '_')) = lower (cs.filter (· ≠ '_')) := by
  have hletters : IsAscii (cs.filter (· ≠ '_')) := hascii.filter _
  have hts : IsAscii ts := isAscii_of_map_toLower (h ▸ isAscii_map_toLower hletters)
  rw [lower_of_ascii (hts.filter _), ← filter_map_toLower hts, h,
    filter_map_toLower hletters, List.filter_filter, lower_of_ascii hletters]
  simp

/-- A style keeps letters. -/
theorem lettersOf_apply (style : NamingStyle) {text : String}
    (h : isIdentText text.toList = true) (hascii : IsAscii text.toList) :
    lettersOf (style.apply text) = lettersOf text := by
  have hflatten := flatten_words_of_ident h hascii
  unfold lettersOf
  cases style with
  | preserve => rfl
  | camel =>
      rw [NamingStyle.apply, String.toList_ofList]
      exact lower_filter_of_map_toLower hascii (hflatten ▸ map_toLower_camel hascii)
  | pascal =>
      rw [NamingStyle.apply, String.toList_ofList]
      exact lower_filter_of_map_toLower hascii (hflatten ▸ map_toLower_pascal hascii)
  | snake =>
      rw [NamingStyle.apply, String.toList_ofList, filter_snake h hascii]
      exact lower_lower (hascii.filter _)

/-! ### Names that can be built -/

/-- Snake case makes an identifier of an identifier. -/
theorem isIdentText_snake {cs : List Char} (h : isIdentText cs = true) (hascii : IsAscii cs) :
    isIdentText (snake cs) = true := by
  have hcontinue : ∀ c ∈ snake cs, isIdentContinue c = true := by
    refine forall_mem_snake hascii (by decide) fun c hc => ?_
    rw [isIdentContinue_toLower (hascii c hc)]
    exact isIdentContinue_of_mem h hascii hc
  cases cs with
  | nil => cases h
  | cons c rest =>
      have hc := (isAscii_cons.mp hascii).1
      have hstart : isIdentStart c = true := by
        simp only [isIdentText, Bool.and_eq_true] at h
        exact h.1
      obtain ⟨tail, hsnake⟩ := List.head?_eq_some_iff.mp (head?_snake hascii)
      rw [hsnake] at hcontinue ⊢
      rw [isIdentText, Bool.and_eq_true, List.all_eq_true]
      refine ⟨?_, fun d hd => hcontinue d (List.mem_cons_of_mem _ hd)⟩
      -- An underscore may have come in front, and else the first character is that of the name,
      -- lowered.
      split
      · decide
      · rwa [isIdentStart_toLower hc]

/-- In camel and Pascal case a name makes an identifier if it has a letter that comes before
all digits. -/
theorem isIdentText_of_map_toLower {cs ts : List Char} (h : isIdentText cs = true)
    (hascii : IsAscii cs)
    (hts : ts.map Char.toLower = (cs.filter (· ≠ '_')).map Char.toLower) :
    isIdentText ts = true ↔ ∃ c, cs.find? (· ≠ '_') = some c ∧ c.isDigit = false := by
  have hletters : IsAscii (cs.filter (· ≠ '_')) := hascii.filter _
  have hasciits : IsAscii ts := isAscii_of_map_toLower (hts ▸ isAscii_map_toLower hletters)
  rw [← isIdentText_map_toLower hasciits, hts, isIdentText_map_toLower hletters]
  exact isIdentText_filter_iff h hascii

/-- Whether a name has nothing but underscores, or a digit as the first of what else it
has. -/
def LacksStart (cs : List Char) : Prop :=
  (∀ c ∈ cs, c = '_') ∨ ∃ c, cs.find? (· ≠ '_') = some c ∧ c.isDigit = true

/-- An identifier can start with the first character that is no underscore, unless it is a digit
or there is none. -/
theorem not_lacksStart_iff {cs : List Char} :
    ¬ LacksStart cs ↔ ∃ c, cs.find? (· ≠ '_') = some c ∧ c.isDigit = false := by
  unfold LacksStart
  cases hfind : cs.find? (· ≠ '_') with
  | none =>
      have hall : ∀ c ∈ cs, c = '_' := by simpa using hfind
      simpa using hall
  | some c =>
      have hother : ¬ ∀ d ∈ cs, d = '_' := by
        intro hall
        have hc : c ≠ '_' := by simpa using List.find?_some hfind
        exact hc (hall c (List.mem_of_find?_eq_some hfind))
      simp [hother]

/-- A name that is built is there if it has the form of an identifier, and else it cannot be
built. -/
theorem modelName_built {style : NamingStyle} {options : FieldOptions} (name : Ident)
    (hstyle : style ≠ .preserve) (hnone : options.modelName = none) :
    ((∃ model, modelName options name style = .ok model) ↔
      isIdentText (style.apply name.text).toList = true) ∧
    ((∃ fault, modelName options name style = .error (.fault fault)) ↔
      isIdentText (style.apply name.text).toList = false) := by
  have hmodel : modelName options name style
      = (Ident.ofText (style.apply name.text)).mapError .fault := by
    simp [modelName, hnone, hstyle]
  rw [hmodel]
  -- With no name given, all that can fail is to build one.
  cases htext : Ident.ofText (style.apply name.text) with
  | ok model =>
      have hident := (Ident.ofText_eq_ok_iff.mp htext).1
      simp [Except.mapError, hident]
  | error fault =>
      have hident : isIdentText (style.apply name.text).toList = false := by
        rw [← Bool.not_eq_true]
        intro hident
        rw [Ident.ofText_eq_ok_iff.mpr ⟨hident, rfl⟩] at htext
        cases htext
      simp [Except.mapError, hident]

/-- A style keeps the letters and digits of an ASCII name, each once and in order. So a name
for a record field can be built unless camel or Pascal case is asked for and the name has
nothing but underscores, or a digit as the first of what else it has. -/
theorem naming_keeps_letters (style : NamingStyle) (name : Ident)
    (hname : isIdentText name.text.toList = true) (hascii : IsAscii name.text.toList) :
    lettersOf (style.apply name.text) = lettersOf name.text ∧
    ∀ options : FieldOptions, options.modelName = none →
      (style = .preserve ∨ style = .snake →
        ∃ model, modelName options name style = .ok model) ∧
      (style = .camel ∨ style = .pascal →
        ((∃ fault, modelName options name style = .error (.fault fault)) ↔
          LacksStart name.text.toList) ∧
        ((∃ model, modelName options name style = .ok model) ↔
          ¬ LacksStart name.text.toList)) := by
  refine ⟨lettersOf_apply style hname hascii, fun options hnone => ⟨?_, ?_⟩⟩
  · rintro (rfl | rfl)
    · exact ⟨name, by simp [modelName, hnone]⟩
    · have hother : NamingStyle.snake ≠ .preserve := nofun
      rw [(modelName_built name hother hnone).1, NamingStyle.apply, String.toList_ofList]
      exact isIdentText_snake hname hascii
  · intro hstyle
    have hflatten := flatten_words_of_ident hname hascii
    -- Both styles leave the letters and digits of the name, in some case.
    obtain ⟨hother, hletters⟩ : style ≠ .preserve ∧
        (style.apply name.text).toList.map Char.toLower
          = (name.text.toList.filter (· ≠ '_')).map Char.toLower := by
      rcases hstyle with rfl | rfl
      · refine ⟨nofun, ?_⟩
        rw [NamingStyle.apply, String.toList_ofList, map_toLower_camel hascii, hflatten]
      · refine ⟨nofun, ?_⟩
        rw [NamingStyle.apply, String.toList_ofList, map_toLower_pascal hascii, hflatten]
    obtain ⟨hok, hfault⟩ := modelName_built name hother hnone
    have hident := isIdentText_of_map_toLower hname hascii hletters
    rw [← not_lacksStart_iff] at hident
    refine ⟨?_, hok.trans hident⟩
    rw [hfault, ← Bool.not_eq_true, hident, not_not]

/-- Nothing of `__page2Count` is lost but underscores, and in camel case it names a record
field; `__2x` does not, since its digit comes first. -/
theorem naming_keeps_letters_page :
    lettersOf (NamingStyle.camel.apply "__page2Count") = "page2count".toList ∧
    (∃ model, modelName {} (.plain "__page2Count") .camel = .ok model) ∧
    ∃ fault, modelName {} (.plain "__2x") .camel = .error (.fault fault) := by
  obtain ⟨hletters, hpage⟩ := naming_keeps_letters .camel (.plain "__page2Count")
    (by decide) (by decide)
  obtain ⟨_, hdigit⟩ := naming_keeps_letters .camel (.plain "__2x")
    (by decide) (by decide)
  refine ⟨hletters.trans (by decide), ?_, ?_⟩
  · refine ((hpage {} rfl).2 (.inl rfl)).2.mpr (not_lacksStart_iff.mpr ⟨'p', ?_⟩)
    decide
  · refine ((hdigit {} rfl).2 (.inl rfl)).1.mpr (.inr ⟨'2', ?_⟩)
    decide

end Recordsmith.Schema
