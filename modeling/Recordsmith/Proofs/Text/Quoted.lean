import Mathlib.Data.List.Basic
import Recordsmith.Text.Quoted

/-!
# `Recordsmith.Proofs.Text.Quoted`: quoted texts are read back

A text that is written as a string literal is read back as it was, whatever characters it
has: `readBody_literalBody` for what stands between the marks, and `value?_literal` for the
whole literal.

A literal is written and read one character at a time, so there is one lemma for a character
(`readBody_escape`), with any rest behind it. Its one case with an argument of its own is a
character that is written by its code point. That number has at most six digits, which is as
many as are read, and the digits spell the number again (`Hex.value_digits`).
-/

set_option autoImplicit false

namespace Recordsmith.Text

/-! ### Hexadecimal digits -/

namespace Hex

/-- A digit has the value that it is written for. -/
theorem digitValue?_digitChar {digit : Nat} (h : digit < 16) :
    digitValue? (Nat.digitChar digit) = some digit := by
  have hall : ∀ digit : Fin 16, digitValue? (Nat.digitChar digit) = some digit.val := by decide
  exact hall ⟨digit, h⟩

/-- The last digit counts once, and those above it sixteen times. -/
theorem value_concat (front : List Char) (c : Char) :
    value (front ++ [c]) = 16 * value front + (digitValue? c).getD 0 := by
  simp [value, List.foldl_append]

/-- The digits of a number: its lowest one, behind those of what is above it. -/
theorem digits_eq (n : Nat) :
    digits n = (if n < 16 then [] else digits (n / 16)) ++ [Nat.digitChar (n % 16)] := by
  unfold digits
  rw [Nat.toDigits_eq_if (by decide)]
  split
  · rename_i h
    rw [Nat.mod_eq_of_lt h]
    rfl
  · rfl

/-- The digits of a number spell it. -/
theorem value_digits (n : Nat) : value (digits n) = n := by
  have hlowest : n % 16 < 16 := Nat.mod_lt n (by decide)
  rw [digits_eq, value_concat, digitValue?_digitChar hlowest, Option.getD_some]
  by_cases h : n < 16
  · rw [if_pos h, Nat.mod_eq_of_lt h]
    exact Nat.zero_add n
  · rw [if_neg h, value_digits (n / 16)]
    omega
termination_by n

/-- The digits of a number are digits. -/
theorem isSome_digitValue? {n : Nat} {c : Char} (h : c ∈ digits n) :
    (digitValue? c).isSome = true := by
  rw [digits_eq, List.mem_append, List.mem_singleton] at h
  rcases h with habove | rfl
  · split at habove
    · cases habove
    · exact isSome_digitValue? habove
  · rw [digitValue?_digitChar (Nat.mod_lt n (by decide))]
    rfl
termination_by n

end Hex

namespace Quoted

/-! ### Code points -/

/-- Digits in front of the closing brace are taken one by one, as long as there are at most
six. -/
theorem readCode_append {found more : List Char} (rest : List Char)
    (hdigits : ∀ c ∈ more, (Hex.digitValue? c).isSome = true)
    (hlength : found.length + more.length ≤ 6) :
    readCode found (more ++ '}' :: rest) = readCode (more.reverse ++ found) ('}' :: rest) := by
  induction more generalizing found with
  | nil => rfl
  | cons c others ih =>
      obtain ⟨hc, hothers⟩ := List.forall_mem_cons.mp hdigits
      rw [List.length_cons] at hlength
      -- Neither the brace nor the underscore is a digit, so the last case applies.
      have hbrace : c ≠ '}' := by
        rintro rfl
        cases hc
      have hunderscore : c ≠ '_' := by
        rintro rfl
        cases hc
      have hroom : found.length < 6 := by omega
      rw [List.cons_append, readCode, if_neg hbrace, if_neg hunderscore,
        if_pos (by simp [hc, hroom]), ih hothers (by rw [List.length_cons]; omega),
        List.reverse_cons, List.append_assoc]
      rfl

/-- The code point of a character is one that a literal may name. -/
theorem isScalar_toNat (c : Char) : isScalar c.toNat = true := by
  have hvalid : c.toNat < 0xD800 ∨ 0xDFFF < c.toNat ∧ c.toNat < 0x110000 := c.valid
  simp only [isScalar, Bool.or_eq_true, Bool.and_eq_true, decide_eq_true_eq]
  omega

/-- A code point is read back from its digits. -/
theorem readCode_digits (c : Char) (rest : List Char) :
    readCode [] (Hex.digits c.toNat ++ '}' :: rest) = some (c.toNat, rest) := by
  -- A code point has at most six digits, which is all that an escape has room for.
  have hlength : (Hex.digits c.toNat).length ≤ 6 := by
    have hscalar := isScalar_toNat c
    simp only [isScalar, Bool.or_eq_true, Bool.and_eq_true, decide_eq_true_eq] at hscalar
    exact (Nat.length_toDigits_le_iff (by decide) (by decide)).mpr (by omega)
  have hsome : (Hex.digits c.toNat).reverse.isEmpty = false := by
    rw [Hex.digits_eq]
    simp
  rw [readCode_append rest (fun _ => Hex.isSome_digitValue?) (by simpa using hlength),
    List.append_nil, readCode, if_pos rfl, hsome, List.reverse_reverse, Hex.value_digits,
    isScalar_toNat]
  rfl

/-! ### Characters -/

/-- A reading with one more character in front. -/
def withFirst (c : Char) (reading : Option (List Char × List Char)) :
    Option (List Char × List Char) :=
  reading.map fun (value, rest) => (c :: value, rest)

/-- A backslash gives the character of its escape, unless it hides the end of a line. -/
theorem readBody_of_readEscape {c : Char} {escaped rest : List Char}
    (hline : startsLineEnd escaped = false) (hread : readEscape .text escaped = some (c, rest))
    (hlength : rest.length ≤ escaped.length) :
    readBody .text ('\\' :: escaped) = withFirst c (readBody .text rest) := by
  rw [readBody, hline, hread]
  simp only [Bool.false_eq_true, if_false, if_pos hlength]
  rfl

/-- A character that is no mark, no backslash and no carriage return stands for itself. -/
theorem readBody_plain {c : Char} (hmark : c ≠ '"') (hslash : c ≠ '\\') (hreturn : c ≠ '\r')
    (rest : List Char) :
    readBody .text (c :: rest) = withFirst c (readBody .text rest) := by
  rw [readBody.eq_6 _ _ _ hmark (fun _ h _ => hreturn h) hreturn hslash]
  rfl

/-- NUL is the only character with the code point zero. -/
theorem eq_ofNat_zero {c : Char} (h : c.toNat = 0) : c = Char.ofNat 0 := by
  rw [← h, Char.ofNat_toNat]

/-- A character is read back from between the marks, whatever stands behind it. -/
theorem readBody_escape (c : Char) (rest : List Char) :
    readBody .text (escape c ++ rest) = withFirst c (readBody .text rest) := by
  -- The short escapes come first, one case for each of the writer's.
  by_cases hmark : c = '"'
  · subst hmark
    exact readBody_of_readEscape rfl rfl (by simp)
  by_cases hslash : c = '\\'
  · subst hslash
    exact readBody_of_readEscape rfl rfl (by simp)
  by_cases hend : c = '\n'
  · subst hend
    exact readBody_of_readEscape rfl rfl (by simp)
  by_cases hreturn : c = '\r'
  · subst hreturn
    exact readBody_of_readEscape rfl rfl (by simp)
  by_cases htab : c = '\t'
  · subst htab
    exact readBody_of_readEscape rfl rfl (by simp)
  by_cases hnul : c.toNat = 0
  · rw [eq_ofNat_zero hnul]
    exact readBody_of_readEscape rfl rfl (by simp)
  rw [escape, if_neg hmark, if_neg hslash, if_neg hend, if_neg hreturn, if_neg htab, if_neg hnul]
  split
  · exact readBody_plain hmark hslash hreturn rest
  · -- What is left is written by its code point.
    have hread : readEscape .text ('u' :: '{' :: (Hex.digits c.toNat ++ '}' :: rest))
        = some (c, rest) := by
      rw [readEscape, readCode_digits]
      simp [Char.ofNat_toNat]
    have hbody := readBody_of_readEscape rfl hread (by simp; omega)
    simpa [byCode] using hbody

/-! ### Whole texts -/

/-- What is written between the marks is read back, up to the closing mark. -/
theorem readBody_literalBody (cs rest : List Char) :
    readBody .text (literalBody cs ++ '"' :: rest) = some (cs, rest) := by
  induction cs with
  | nil => exact readBody.eq_2 _ _
  | cons c others ih =>
      -- NUL is written in a long form in front of a digit, every other character as it is
      -- alone.
      have hfirst : readBody .text
          ((if c.toNat = 0 && startsOctal others then ['\\', 'x', '0', '0'] else escape c) ++
            (literalBody others ++ '"' :: rest))
          = withFirst c (readBody .text (literalBody others ++ '"' :: rest)) := by
        split
        · -- The long form of NUL means the same as the short one.
          rename_i hlong
          rw [Bool.and_eq_true, decide_eq_true_eq] at hlong
          rw [eq_ofNat_zero hlong.1]
          exact readBody_of_readEscape rfl rfl (by simp; omega)
        · exact readBody_escape c _
      rw [literalBody, List.append_assoc, hfirst, ih]
      rfl

/-- A string literal means the text it was written for. -/
theorem value?_literal (text : String) : value? (literal text).toList = some text.toList := by
  have hbody := readBody_literalBody text.toList []
  rw [literal, String.toList_ofList]
  show (readBody .text (literalBody text.toList ++ ['"'])).map (·.1) = _
  rw [hbody]
  rfl

end Quoted

end Recordsmith.Text
