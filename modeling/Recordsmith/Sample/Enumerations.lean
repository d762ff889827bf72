import Recordsmith.Data.Enumeration

/-!
# `Recordsmith.Sample.Enumerations`: the enumerations of the sample catalog

Three are kept as texts and three as whole numbers. Among them are a raw
value that is the default of its type (`calm`, `paperback`, `off`), variants
with several raw values, and the ends of the ranges of numbers.
-/

set_option autoImplicit false

namespace Recordsmith.Sample

/-- A variant with texts as raw values. -/
def textVariant (name raw : String) (others : List String) : Variant :=
  ⟨name, .text raw, others.map .text⟩

/-- A variant with whole numbers as raw values. -/
def numberVariant (name : String) (raw : Int) (others : List Int) : Variant :=
  ⟨name, .integer raw, others.map .integer⟩

/-- What a book is. -/
def genre : Enumeration :=
  ⟨"Genre", .text, [textVariant "Fiction" "fiction" [], textVariant "Poetry" "poetry" [],
    textVariant "Essay" "essay" []]⟩

/-- A variant has the empty text, and one a text beyond ASCII. -/
def mood : Enumeration :=
  ⟨"Mood", .text, [textVariant "Calm" "" [], textVariant "Tense" "tense" [],
    textVariant "Odd" "Ünï☃" []]⟩

/-- Variants with several texts. -/
def flag : Enumeration :=
  ⟨"Flag", .text, [textVariant "Yes" "yes" ["y", "YES"], textVariant "No" "no" ["n"]]⟩

/-- How a book is bound. -/
def binding : Enumeration :=
  ⟨"Binding", .integer ⟨true, 64⟩, [numberVariant "Paperback" 0 [],
    numberVariant "Hardcover" 1 []]⟩

/-- No variant has zero, and one has two numbers. -/
def grade : Enumeration :=
  ⟨"Grade", .integer ⟨true, 32⟩, [numberVariant "Low" 1 [], numberVariant "High" 2 [],
    numberVariant "Neg" (-7) [-2147483648]]⟩

/-- The two ends of a range. -/
def level : Enumeration :=
  ⟨"Level", .integer ⟨false, 8⟩, [numberVariant "Off" 0 [], numberVariant "Max" 255 []]⟩

/-- All of them. -/
def enumerations : List Enumeration :=
  [genre, mood, flag, binding, grade, level]

end Recordsmith.Sample
