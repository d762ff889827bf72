import Recordsmith.Proofs.Text.Words

/-!
# `Recordsmith.Proofs.Text.JoinedWords`: words that are found again without delimiters

Camel and Pascal case put words together with nothing between them. Where one word ends and
the next begins can then be told from case and digits alone, and not always: `a_b` becomes
`aB`, but in Pascal case `AB`, which is one word.

`OrdinaryWords` are words for which it can be told. Each has two letters at least, all in
lower case, or it is a number, and no two numbers stand side by side. Without a delimiter
between them two numbers would run together, and a single letter would be taken for a part
of what follows.

`words_flatten` is the step from delimiters to mere neighbours: unbroken words are the words
of what they make together, if a word ends wherever two of them meet, whatever comes after
(`Parted`). Capitals make ordinary words meet in this way (`isChain_apart`). So snake case
restores what camel and Pascal case were made of (`snake_camel`, `snake_pascal`).
-/

set_option autoImplicit false

namespace Recordsmith.Text

/-! ### Words side by side -/

/-- Whether a word always ends between two characters. -/
def Parted (a b : Char) : Prop :=
  ∀ more, endsWord (signKind [a]) (signKind [b] :: more) = true

/-- Whether a word ends where two words meet. -/
def Apart (word next : List Char) : Prop :=
  ∃ a ∈ word.getLast?, ∃ b ∈ next.head?, Parted a b

/-- An unbroken word is read to its end, if a word ends there. -/
theorem wordsFrom_append_of_apart {word next : List Char} (h : Unbroken word)
    (hapart : Apart word next) (current rest : List Char) :
    wordsFrom current ((word ++ (next ++ rest)).map ([·]))
      = (current ++ word) :: wordsFrom [] ((next ++ rest).map ([·])) := by
  obtain ⟨last, hlast, first, hfirst, hparted⟩ := hapart
  obtain ⟨tail, rfl⟩ := List.head?_eq_some_iff.mp hfirst
  -- No place inside the word ends it, since it is unbroken. Its last character does, since it
  -- is parted from the one that follows.
  induction word generalizing current with
  | nil => cases hlast
  | cons c word ih =>
      obtain ⟨hplain, hbonded⟩ := h
      have hkind := hplain c List.mem_cons_self
      rw [List.cons_append, List.map_cons, wordsFrom, if_neg hkind]
      cases word with
      | nil =>
          obtain rfl : c = last := by simpa using hlast
          rw [List.nil_append]
          exact if_pos (hparted _)
      | cons d word =>
          have hjoins : endsWord (signKind [c])
              ((((d :: word ++ (first :: tail ++ rest)).map ([·])).take 2).map signKind)
                = false := hbonded.rel _
          have htail : Unbroken (d :: word) :=
            ⟨fun e he => hplain e (List.mem_cons_of_mem _ he), hbonded.tail⟩
          have hrest := ih htail (current ++ [c]) (by simpa using hlast)
          rw [hjoins, if_neg Bool.false_ne_true, hrest, List.append_assoc]
          rfl

/-- Unbroken words that end where they meet are found again. -/
theorem divide_flatten {word : List Char} {others : List (List Char)}
    (h : ∀ w ∈ word :: others, Unbroken w) (hapart : (word :: others).IsChain Apart) :
    divide (word :: others).flatten = word :: others := by
  induction others generalizing word with
  | nil =>
      have hend : ∀ sign ∈ ([] : List (List Char)).head?, signKind sign = .delimiter := nofun
      simpa [divide, wordsFrom] using wordsFrom_append (h word List.mem_cons_self) [] hend
  | cons next others ih =>
      obtain ⟨hword, hothers⟩ := List.forall_mem_cons.mp h
      have hrest := ih hothers hapart.tail
      unfold divide at hrest ⊢
      -- The first word ends where the next one starts, and the rest is read as if it were the
      -- whole text.
      rw [List.flatten_cons, List.flatten_cons,
        wordsFrom_append_of_apart hword hapart.rel [] others.flatten, ← List.flatten_cons, hrest,
        List.nil_append]

/-- The words of a text that is made of words with nothing between them. -/
theorem words_flatten {pieces : List (List Char)} (hascii : ∀ piece ∈ pieces, IsAscii piece)
    (h : ∀ piece ∈ pieces, Unbroken piece) (hsome : ∀ piece ∈ pieces, piece ≠ [])
    (hapart : pieces.IsChain Apart) : words pieces.flatten = pieces := by
  cases pieces with
  | nil => rfl
  | cons word others =>
      have hne : (word :: others).flatten ≠ [] := by
        simp [hsome word List.mem_cons_self]
      have hall : IsAscii (word :: others).flatten := by
        intro c hc
        obtain ⟨piece, hpiece, hmem⟩ := List.mem_flatten.mp hc
        exact hascii piece hpiece c hmem
      rw [words_of_ascii hall hne, divide_flatten h hapart]

/-! ### Ordinary words -/

/-- Whether a word consists of letters in lower case, two at least. -/
def IsLetters (word : List Char) : Prop :=
  2 ≤ word.length ∧ ∀ c ∈ word, c.isLower = true

/-- Whether a word is a number. -/
def IsNumber (word : List Char) : Prop :=
  word ≠ [] ∧ ∀ c ∈ word, c.isDigit = true

/-- Whether words can be told apart without delimiters. -/
structure OrdinaryWords (pieces : List (List Char)) : Prop where
  lettersOrNumber : ∀ piece ∈ pieces, IsLetters piece ∨ IsNumber piece
  separate : pieces.IsChain fun word next => ¬ (IsNumber word ∧ IsNumber next)

-- The instance for all characters would be found first, and goes through every one of them.
instance (word : List Char) : Decidable (IsLetters word) :=
  @instDecidableAnd _ _ _ (List.decidableBAll (·.isLower = true) word)

instance (word : List Char) : Decidable (IsNumber word) :=
  @instDecidableAnd _ _ _ (List.decidableBAll (·.isDigit = true) word)

instance (pieces : List (List Char)) : Decidable (OrdinaryWords pieces) :=
  decidable_of_iff
    ((∀ piece ∈ pieces, IsLetters piece ∨ IsNumber piece) ∧
      pieces.IsChain fun word next => ¬ (IsNumber word ∧ IsNumber next))
    ⟨fun h => ⟨h.1, h.2⟩, fun h => ⟨h.1, h.2⟩⟩

/-- Without the first of them, ordinary words are ordinary still. -/
theorem OrdinaryWords.tail {word : List Char} {others : List (List Char)}
    (h : OrdinaryWords (word :: others)) : OrdinaryWords others :=
  ⟨fun piece hpiece => h.lettersOrNumber piece (List.mem_cons_of_mem _ hpiece), h.separate.tail⟩

/-- Letters in lower case are ASCII. -/
theorem toNat_of_isLower {c : Char} (h : c.isLower = true) : c.toNat < 128 := by
  have hle : c.val.toNat ≤ 122 := by
    simp only [Char.isLower, ge_iff_le, Bool.and_eq_true, decide_eq_true_eq,
      UInt32.le_iff_toNat_le] at h
    exact h.2
  have hval : c.toNat = c.val.toNat := rfl
  omega

/-- Digits are ASCII. -/
theorem toNat_of_isDigit {c : Char} (h : c.isDigit = true) : c.toNat < 128 := by
  have hle : c.val.toNat ≤ 57 := by
    simp only [Char.isDigit, Bool.and_eq_true, decide_eq_true_eq, UInt32.le_iff_toNat_le] at h
    exact h.2
  have hval : c.toNat = c.val.toNat := rfl
  omega

/-- A letter in lower case, and its capital. -/
theorem letter_facts {c : Char} (h : c.isLower = true) :
    signKind [c] = .lower ∧ signKind [c.toUpper] = .upper ∧ c.toUpper.toNat < 128 ∧
      c.toLower = c :=
  of_ascii (P := fun c => c.isLower = true → signKind [c] = .lower ∧
      signKind [c.toUpper] = .upper ∧ c.toUpper.toNat < 128 ∧ c.toLower = c)
    (by decide) (toNat_of_isLower h) h

/-- A digit, which has no case. -/
theorem digit_facts {c : Char} (h : c.isDigit = true) :
    signKind [c] = .digit ∧ c.toUpper = c ∧ c.toLower = c :=
  of_ascii (P := fun c => c.isDigit = true → signKind [c] = .digit ∧ c.toUpper = c ∧
      c.toLower = c)
    (by decide) (toNat_of_isDigit h) h

/-- Letters in lower case and digits are ASCII, and lowering leaves them as they are. -/
theorem plain_of_forall {word : List Char}
    (h : (∀ c ∈ word, c.isLower = true) ∨ ∀ c ∈ word, c.isDigit = true) :
    IsAscii word ∧ lower word = word := by
  have hall : ∀ c ∈ word, c.toNat < 128 ∧ c.toLower = c := by
    rcases h with hletters | hdigits
    · intro c hc
      exact ⟨toNat_of_isLower (hletters c hc), (letter_facts (hletters c hc)).2.2.2⟩
    · intro c hc
      exact ⟨toNat_of_isDigit (hdigits c hc), (digit_facts (hdigits c hc)).2.2⟩
  have hascii : IsAscii word := fun c hc => (hall c hc).1
  refine ⟨hascii, ?_⟩
  calc lower word = word.map Char.toLower := lower_of_ascii hascii
    _ = word.map id := List.map_congr_left fun c hc => (hall c hc).2
    _ = word := List.map_id word

/-- An ordinary word is ASCII and in lower case. -/
theorem plain_of_lettersOrNumber {word : List Char} (h : IsLetters word ∨ IsNumber word) :
    IsAscii word ∧ lower word = word :=
  plain_of_forall (h.imp And.right And.right)

/-- Only the first letter of a word in lower case changes with a capital. -/
theorem capitalize_of_isLetters {word : List Char} (h : IsLetters word) :
    ∃ c d rest, word = c :: d :: rest ∧ capitalize word = c.toUpper :: d :: rest := by
  obtain ⟨hlength, hletters⟩ := h
  match word with
  | c :: d :: rest =>
      have hrest : ∀ e ∈ d :: rest, e.isLower = true :=
        fun e he => hletters e (List.mem_cons_of_mem _ he)
      refine ⟨c, d, rest, rfl, ?_⟩
      rw [capitalize, upperChar_of_ascii (toNat_of_isLower (hletters c List.mem_cons_self)),
        (plain_of_forall (.inl hrest)).2]
      rfl
  | [_] => simp at hlength
  | [] => simp at hlength

/-- A number has no capital. -/
theorem capitalize_of_isNumber {word : List Char} (h : IsNumber word) :
    capitalize word = word := by
  obtain ⟨_, hdigits⟩ := h
  cases word with
  | nil => rfl
  | cons c rest =>
      obtain ⟨hc, hrest⟩ := List.forall_mem_cons.mp hdigits
      rw [capitalize, upperChar_of_ascii (toNat_of_isDigit hc), (digit_facts hc).2.1,
        (plain_of_forall (.inr hrest)).2]
      rfl

/-- Characters of one kind make an unbroken word, unless the kind marks the end of words. -/
theorem unbroken_of_kind {word : List Char} {kind : SignKind}
    (h : ∀ c ∈ word, signKind [c] = kind) (hplain : kind ≠ .delimiter)
    (hbonded : ∀ more, endsWord kind (kind :: more) = false) : Unbroken word := by
  constructor
  · intro c hc
    rw [h c hc]
    exact hplain
  · refine (List.pairwise_of_forall_mem_list ?_).isChain
    intro a ha b hb more
    rw [h a ha, h b hb]
    exact hbonded more

/-- No word ends among letters in lower case. -/
theorem unbroken_of_isLetters {word : List Char} (h : IsLetters word) : Unbroken word :=
  unbroken_of_kind (fun c hc => (letter_facts (h.2 c hc)).1) nofun fun _ => rfl

/-- No word ends among digits. -/
theorem unbroken_of_isNumber {word : List Char} (h : IsNumber word) : Unbroken word :=
  unbroken_of_kind (fun c hc => (digit_facts (h.2 c hc)).1) nofun fun _ => rfl

/-- A capital belongs to the letters after it. -/
theorem unbroken_capitalize {word : List Char} (h : IsLetters word ∨ IsNumber word) :
    Unbroken (capitalize word) := by
  -- A number has no capital, and letters have at least two characters, so that something in
  -- lower case follows the capital.
  rcases h with hletters | hnumber
  · obtain ⟨c, d, rest, rfl, hcapital⟩ := capitalize_of_isLetters hletters
    have hc := letter_facts (hletters.2 c (by simp))
    have hd := letter_facts (hletters.2 d (by simp))
    obtain ⟨hplain, hbonded⟩ := unbroken_of_isLetters hletters
    rw [hcapital]
    refine ⟨List.forall_mem_cons.mpr ⟨?_, (List.forall_mem_cons.mp hplain).2⟩,
      .cons_cons ?_ hbonded.tail⟩
    · rw [hc.2.1]
      exact nofun
    · intro more
      rw [hc.2.1, hd.1]
      rfl
  · rw [capitalize_of_isNumber hnumber]
    exact unbroken_of_isNumber hnumber

/-! ### Ordinary words with capitals -/

/-- Whether a word stands for an ordinary word, with a capital or without. -/
def StandsFor (word joined : List Char) : Prop :=
  (IsLetters word ∨ IsNumber word) ∧ (joined = word ∨ joined = capitalize word)

section

variable {word joined next : List Char} {others : List (List Char)}

/-- What stands for a word is unbroken, with a capital or without. -/
theorem StandsFor.unbroken (h : StandsFor word joined) : Unbroken joined := by
  obtain ⟨hword, rfl | rfl⟩ := h
  · rcases hword with hletters | hnumber
    · exact unbroken_of_isLetters hletters
    · exact unbroken_of_isNumber hnumber
  · exact unbroken_capitalize hword

/-- Lowering restores the word. -/
theorem StandsFor.lower_eq (h : StandsFor word joined) :
    IsAscii joined ∧ lower joined = word := by
  obtain ⟨hword, rfl | rfl⟩ := h
  · exact plain_of_lettersOrNumber hword
  · obtain ⟨hascii, hlower⟩ := plain_of_lettersOrNumber hword
    have hsame := map_toLower_capitalize hascii
    have hcapital : IsAscii (capitalize word) :=
      isAscii_of_map_toLower (hsame ▸ isAscii_map_toLower hascii)
    refine ⟨hcapital, ?_⟩
    rw [lower_of_ascii hcapital, hsame, ← lower_of_ascii hascii, hlower]

/-- Letters end in a letter in lower case, and a number in a digit. -/
theorem StandsFor.last (h : StandsFor word joined) :
    ∃ a ∈ joined.getLast?, signKind [a] = .lower ∨ IsNumber word ∧ signKind [a] = .digit := by
  obtain ⟨hletters | hnumber, hjoined⟩ := h
  -- Only the first of at least two letters changes, so the last is in lower case either way.
  · obtain ⟨c, d, rest, rfl, hcapital⟩ := capitalize_of_isLetters hletters
    have hlast : joined.getLast? = some ((d :: rest).getLast (List.cons_ne_nil d rest)) := by
      rcases hjoined with rfl | rfl
      · rw [List.getLast?_cons_cons, List.getLast?_eq_some_getLast]
      · rw [hcapital, List.getLast?_cons_cons, List.getLast?_eq_some_getLast]
    refine ⟨_, hlast, .inl (letter_facts (hletters.2 _ ?_)).1⟩
    exact List.mem_cons_of_mem _ (List.getLast_mem _)
  · have hsame : joined = word := by
      rcases hjoined with rfl | rfl
      · rfl
      · exact capitalize_of_isNumber hnumber
    rw [hsame]
    refine ⟨word.getLast hnumber.1, List.getLast?_eq_some_getLast hnumber.1,
      .inr ⟨hnumber, (digit_facts (hnumber.2 _ (List.getLast_mem _))).1⟩⟩

/-- With a capital letters start in upper case; a number still starts with a digit. -/
theorem head_capitalize (h : IsLetters next ∨ IsNumber next) :
    ∃ b ∈ (capitalize next).head?,
      signKind [b] = .upper ∨ IsNumber next ∧ signKind [b] = .digit := by
  rcases h with hletters | hnumber
  · obtain ⟨c, d, rest, rfl, hcapital⟩ := capitalize_of_isLetters hletters
    exact ⟨c.toUpper, by rw [hcapital]; rfl, .inl (letter_facts (hletters.2 c (by simp))).2.1⟩
  · rw [capitalize_of_isNumber hnumber]
    obtain ⟨c, rest, rfl⟩ := List.exists_cons_of_ne_nil hnumber.1
    exact ⟨c, rfl, .inr ⟨hnumber, (digit_facts (hnumber.2 c List.mem_cons_self)).1⟩⟩

/-- Two ordinary words are apart if the second has a capital, unless both are numbers. -/
theorem StandsFor.apart (h : StandsFor word joined) (hnext : IsLetters next ∨ IsNumber next)
    (hseparate : ¬ (IsNumber word ∧ IsNumber next)) : Apart joined (capitalize next) := by
  obtain ⟨a, ha, hlast⟩ := h.last
  obtain ⟨b, hb, hfirst⟩ := head_capitalize hnext
  refine ⟨a, ha, b, hb, fun more => ?_⟩
  -- A letter in lower case or a digit meets a capital or a digit.
  rcases hlast with hlower | ⟨hnumber, hdigit⟩ <;>
    rcases hfirst with hupper | ⟨hother, hdigit'⟩
  · rw [hlower, hupper]
    rfl
  · rw [hlower, hdigit']
    rfl
  · rw [hdigit, hupper]
    rfl
  · exact absurd ⟨hnumber, hother⟩ hseparate

/-- Ordinary words of which all but the first have a capital are apart. -/
theorem isChain_apart (h : OrdinaryWords (word :: others)) (hjoined : joined = word ∨
    joined = capitalize word) : (joined :: others.map capitalize).IsChain Apart := by
  -- Only the first word may be without a capital, so the induction leaves both open for it.
  induction others generalizing word joined with
  | nil => exact .singleton joined
  | cons next others ih =>
      have hword := h.lettersOrNumber word List.mem_cons_self
      have hnext := h.lettersOrNumber next (by simp)
      exact .cons_cons (StandsFor.apart ⟨hword, hjoined⟩ hnext h.separate.rel)
        (ih h.tail (.inr rfl))

/-- Ordinary words of which all but the first have a capital are found again. -/
theorem snake_joined (h : OrdinaryWords (word :: others))
    (hjoined : joined = word ∨ joined = capitalize word) :
    snake (joined :: others.map capitalize).flatten
      = List.intercalate ['_'] (word :: others) := by
  obtain ⟨hword, hothers⟩ := List.forall_mem_cons.mp h.lettersOrNumber
  have hfirst : StandsFor word joined := ⟨hword, hjoined⟩
  have hrest : ∀ piece ∈ others, StandsFor piece (capitalize piece) :=
    fun piece hpiece => ⟨hothers piece hpiece, .inr rfl⟩
  have hstands : ∀ piece ∈ joined :: others.map capitalize, ∃ word, StandsFor word piece := by
    refine List.forall_mem_cons.mpr ⟨⟨word, hfirst⟩, ?_⟩
    intro piece hpiece
    obtain ⟨plain, hplain, rfl⟩ := List.mem_map.mp hpiece
    exact ⟨plain, hrest plain hplain⟩
  have hwords : words (joined :: others.map capitalize).flatten
      = joined :: others.map capitalize := by
    -- The words are found where they were joined, which takes that no two of them run together.
    refine words_flatten ?_ ?_ ?_ (isChain_apart h hjoined)
    · intro piece hpiece
      obtain ⟨plain, hplain⟩ := hstands piece hpiece
      exact hplain.lower_eq.1
    · intro piece hpiece
      obtain ⟨plain, hplain⟩ := hstands piece hpiece
      exact hplain.unbroken
    · rintro piece hpiece rfl
      obtain ⟨plain, hplain⟩ := hstands [] hpiece
      obtain ⟨a, ha, _⟩ := hplain.last
      cases ha
  -- Lowering undoes the capitals.
  have hlower : others.map (lower ∘ capitalize) = others :=
    calc others.map (lower ∘ capitalize) = others.map id :=
          List.map_congr_left fun piece hpiece => (hrest piece hpiece).lower_eq.2
      _ = others := List.map_id others
  rw [snake, hwords, List.map_cons, List.map_map, hfirst.lower_eq.2, hlower]

end

/-! ### Names in camel and Pascal case -/

section

variable {pieces : List (List Char)}

/-- The words of a name are the ordinary words that it is made of. -/
theorem OrdinaryWords.words_intercalate (h : OrdinaryWords pieces) :
    words (List.intercalate ['_'] pieces) = pieces := by
  refine Text.words_intercalate ?_ ?_ ?_
  · intro piece hpiece
    exact (plain_of_lettersOrNumber (h.lettersOrNumber piece hpiece)).1
  · intro piece hpiece
    exact StandsFor.unbroken ⟨h.lettersOrNumber piece hpiece, .inl rfl⟩
  · rintro rfl
    rcases h.lettersOrNumber [] List.mem_cons_self with ⟨hlength, _⟩ | ⟨hsome, _⟩
    · simp at hlength
    · exact hsome rfl

/-- Snake case leaves ordinary words as they are. -/
theorem OrdinaryWords.snake_eq (h : OrdinaryWords pieces) :
    snake (List.intercalate ['_'] pieces) = List.intercalate ['_'] pieces := by
  have hlower : pieces.map lower = pieces :=
    calc pieces.map lower = pieces.map id := List.map_congr_left fun piece hpiece =>
          (plain_of_lettersOrNumber (h.lettersOrNumber piece hpiece)).2
      _ = pieces := List.map_id pieces
  rw [snake, h.words_intercalate, hlower]

/-- Snake case restores what camel case was made of. -/
theorem OrdinaryWords.snake_camel (h : OrdinaryWords pieces) :
    snake (camel (List.intercalate ['_'] pieces)) = List.intercalate ['_'] pieces := by
  rw [camel, h.words_intercalate]
  cases pieces with
  | nil => rfl
  | cons word others =>
      have hword := h.lettersOrNumber word List.mem_cons_self
      show snake (lower word ++ (others.map capitalize).flatten) = _
      rw [(plain_of_lettersOrNumber hword).2]
      exact snake_joined h (.inl rfl)

/-- Snake case restores what Pascal case was made of. -/
theorem OrdinaryWords.snake_pascal (h : OrdinaryWords pieces) :
    snake (pascal (List.intercalate ['_'] pieces)) = List.intercalate ['_'] pieces := by
  rw [pascal, h.words_intercalate]
  cases pieces with
  | nil => rfl
  | cons word others => exact snake_joined h (.inr rfl)

end

end Recordsmith.Text
