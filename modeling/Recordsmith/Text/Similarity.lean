/-!
# `Recordsmith.Text.Similarity`: how alike two names are

The Jaro–Winkler similarity of two texts, a number between zero (nothing
in common) and one (equal). It is used to suggest a known name for a
misspelt one.

Two characters match if they are equal and at most `reach` places apart;
each is matched once, the earliest first. Matched characters that stand
in a different order count half. A common start of up to four characters
lifts the value of texts that are fairly alike already.
-/

set_option autoImplicit false

namespace Recordsmith.Text.Similarity

/-- Finds the first free partner of `c` between the places `lo` and `hi`,
and gives the row back with that partner taken. The row holds each
character with a mark that says whether it is taken; `place` is the place of
its head. -/
def takePartner (c : Char) (lo hi : Nat) (place : Nat) :
    List (Char × Bool) → Option (List (Char × Bool))
  | [] => none
  | (d, taken) :: rest =>
    if lo ≤ place ∧ place < hi ∧ c = d ∧ taken = false then
      some ((d, true) :: rest)
    else
      (takePartner c lo hi (place + 1) rest).map ((d, taken) :: ·)

/-- The matched characters of the first text, in order, and the second text
with its matched characters marked. -/
def matchFrom (reach : Nat) (place : Nat) (row : List (Char × Bool)) :
    List Char → List Char × List (Char × Bool)
  | [] => ([], row)
  | c :: rest =>
    match takePartner c (place - reach) (place + reach + 1) 0 row with
    | some row' =>
      let (matched, final) := matchFrom reach (place + 1) row' rest
      (c :: matched, final)
    | none => matchFrom reach (place + 1) row rest

/-- The Jaro similarity. -/
def jaro (a b : List Char) : Float :=
  if a.isEmpty && b.isEmpty then 1.0
  else if a.isEmpty || b.isEmpty then 0.0
  else
    let reach := max a.length b.length / 2 - 1
    let (inA, row) := matchFrom reach 0 (b.map (·, false)) a
    let inB := (row.filter (·.2)).map (·.1)
    let moved := ((inA.zip inB).filter fun pair => pair.1 != pair.2).length / 2
    let count := inA.length
    if count == 0 then 0.0
    else
      (count.toFloat / a.length.toFloat + count.toFloat / b.length.toFloat +
        (count - moved).toFloat / count.toFloat) / 3.0

/-- The number of characters that two texts have in common at the start,
four at most. -/
def commonStart (a b : List Char) : Nat :=
  (((a.take 4).zip b).takeWhile fun pair => pair.1 == pair.2).length

/-- The Jaro–Winkler similarity. -/
def jaroWinkler (a b : List Char) : Float :=
  let base := jaro a b
  if base > 0.7 then base + 0.1 * (commonStart a b).toFloat * (1.0 - base) else base

/-- The candidate most like a name, if any is more alike than `0.8`. Of
equally good candidates the first is taken. -/
def suggest (name : String) (candidates : List String) : Option String :=
  let rated := candidates.map fun candidate =>
    (jaroWinkler name.toList candidate.toList, candidate)
  (rated.foldl
    (fun best next =>
      if next.1 > 0.8 then
        match best with
        | none => some next
        | some held => if held.1 < next.1 then some next else best
      else best)
    (none : Option (Float × String))).map (·.2)

end Recordsmith.Text.Similarity
