import Mathlib.Data.List.DropRight
import Recordsmith.Text.Blank

/-!
# `Recordsmith.Proofs.Text.Blank`: what trimming takes and leaves

`trim` takes blanks off both ends of a text. Two views of a text say all that is needed of
it: `written` keeps the characters that are not blanks, which trimming leaves alone
(`written_trim`), and `IsTrimmed` says that there is nothing left to take, which is so of
what has been trimmed (`isTrimmed_trim`) and is then kept as it is (`trim_of_isTrimmed`).

One blank more or less at either end makes no difference (`trim_cons_of_isBlank`,
`trim_concat_of_isBlank`). Proofs about whole texts go by these two.
-/

set_option autoImplicit false

namespace Recordsmith.Text

/-- The characters of a text that are not blanks, in order. -/
def written (cs : List Char) : List Char :=
  cs.filter fun c => !isBlank c

/-- Whether a text neither starts nor ends with a blank. -/
def IsTrimmed (cs : List Char) : Prop :=
  (∀ c, cs.head? = some c → isBlank c = false) ∧ ∀ c, cs.getLast? = some c → isBlank c = false

section

variable {c : Char} {cs : List Char}

/-- Trimming the end drops blanks from behind. -/
theorem trimEnd_eq_rdropWhile (cs : List Char) : trimEnd cs = cs.rdropWhile isBlank := rfl

/-! ### One blank more -/

/-- A blank in front is trimmed. -/
theorem trim_cons_of_isBlank (h : isBlank c = true) : trim (c :: cs) = trim cs := by
  unfold trim trimStart
  rw [List.dropWhile_cons_of_pos h]

/-- A blank at the end is trimmed. -/
theorem trim_concat_of_isBlank (h : isBlank c = true) : trim (cs ++ [c]) = trim cs := by
  induction cs with
  | nil => exact trim_cons_of_isBlank h
  | cons d rest ih =>
      by_cases hd : isBlank d = true
      · rw [List.cons_append, trim_cons_of_isBlank hd, trim_cons_of_isBlank hd, ih]
      · -- From here on nothing is taken off the front.
        have hstart : ∀ more, trimStart (d :: more) = d :: more := fun more =>
          List.dropWhile_cons_of_neg hd
        unfold trim
        rw [List.cons_append, hstart, hstart, trimEnd_eq_rdropWhile, trimEnd_eq_rdropWhile,
          ← List.cons_append, List.rdropWhile_concat_pos _ _ _ h]

/-! ### What is left -/

/-- A blank is not counted as written. -/
theorem written_cons_of_isBlank (h : isBlank c = true) : written (c :: cs) = written cs :=
  List.filter_cons_of_neg (by simp [h])

/-- Trimming the front takes nothing that is written. -/
theorem written_trimStart (cs : List Char) : written (trimStart cs) = written cs := by
  induction cs with
  | nil => rfl
  | cons c rest ih =>
      by_cases hc : isBlank c = true
      · rw [trimStart, List.dropWhile_cons_of_pos hc, written_cons_of_isBlank hc]
        exact ih
      · rw [trimStart, List.dropWhile_cons_of_neg hc]

/-- Trimming takes blanks only. -/
theorem written_trim (cs : List Char) : written (trim cs) = written cs := by
  have hend : ∀ more : List Char, written (trimEnd more) = written more := by
    intro more
    have hstart := written_trimStart more.reverse
    unfold written at hstart ⊢
    rw [trimEnd, List.filter_reverse, hstart, List.filter_reverse, List.reverse_reverse]
  rw [trim, hend, written_trimStart]

/-- Nothing is written where there are blanks only. -/
theorem written_eq_nil_iff : written cs = [] ↔ ∀ c ∈ cs, isBlank c = true := by
  simp [written]

/-- What has been trimmed has no blank at either end. -/
theorem isTrimmed_trim (cs : List Char) : IsTrimmed (trim cs) := by
  have hnot : ∀ more : List Char, ∀ c, (trimStart more).head? = some c → isBlank c = false := by
    intro more c hc
    have hhead := List.head?_dropWhile_not isBlank more
    rw [trimStart] at hc
    rw [hc] at hhead
    simpa using hhead
  constructor
  · -- The end is taken off behind the first character, unless nothing is left.
    intro c hc
    obtain ⟨rest, hrest⟩ := List.rdropWhile_prefix isBlank (l := trimStart cs)
    rw [← trimEnd_eq_rdropWhile, ← trim] at hrest
    refine hnot cs c ?_
    rw [← hrest, List.head?_append, hc]
    rfl
  · intro c hc
    rw [trim, trimEnd, List.getLast?_reverse] at hc
    exact hnot _ c hc

/-- Trimming leaves a text alone that has no blank at either end. -/
theorem trim_of_isTrimmed (h : IsTrimmed cs) : trim cs = cs := by
  have hstart : trimStart cs = cs := by
    cases cs with
    | nil => rfl
    | cons c rest =>
        rw [trimStart, List.dropWhile_cons_of_neg]
        rw [h.1 c rfl]
        exact Bool.false_ne_true
  -- The front is done, and the end is the same with the last character.
  rw [trim, hstart, trimEnd_eq_rdropWhile, List.rdropWhile_eq_self_iff]
  intro hne
  rw [h.2 _ (List.getLast?_eq_some_getLast hne)]
  exact Bool.false_ne_true

/-- A trimmed text with nothing written in it is empty. -/
theorem IsTrimmed.eq_nil_iff (h : IsTrimmed cs) : cs = [] ↔ written cs = [] := by
  constructor
  · rintro rfl
    rfl
  · intro hnone
    cases cs with
    | nil => rfl
    | cons c rest =>
        have hblank := written_eq_nil_iff.mp hnone c List.mem_cons_self
        rw [h.1 c rfl] at hblank
        cases hblank

end

end Recordsmith.Text
