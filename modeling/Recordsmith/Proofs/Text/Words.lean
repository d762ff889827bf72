import Mathlib
import Recordsmith.Text.Words

/-!
# `Recordsmith.Proofs.Text.Words`: the words of ASCII text

What dividing a text into words keeps, and what it leaves of the text when the words are
put together again. All statements are about ASCII text, whose signs are its characters.

* `flatten_words`: the words one after the other are the text without its delimiters, so
  nothing else is lost and nothing is added.
* `words_intercalate`: words that have no place for a division inside are found again
  between underscores.
* `words_snake`: the words of a text in snake case are the lowered words of the text.
  Hence `snake_snake`: snake case is a normal form.

The last rests on a step about two neighbours. If no word ends between two characters,
then none ends between their lower-case forms, whatever comes after
(`Neighbours.bonded_toLower`). It would not hold of the characters themselves: in `ABc`
the two capitals are parted only because of the letter after them.
-/

set_option autoImplicit false

namespace Recordsmith.Text

/-! ### ASCII characters -/

/-- Whether a text is ASCII. -/
def IsAscii (cs : List Char) : Prop :=
  ∀ c ∈ cs, c.toNat < 128

instance (cs : List Char) : Decidable (IsAscii cs) :=
  decidable_of_iff (cs.all (·.toNat < 128) = true) (by simp [IsAscii])

/-- A text is ASCII if its first character and the rest of it are. -/
theorem isAscii_cons {c : Char} {cs : List Char} :
    IsAscii (c :: cs) ↔ c.toNat < 128 ∧ IsAscii cs :=
  List.forall_mem_cons

/-- Two texts are ASCII together if each of them is. -/
theorem isAscii_append {cs ds : List Char} :
    IsAscii (cs ++ ds) ↔ IsAscii cs ∧ IsAscii ds :=
  List.forall_mem_append

/-- What is left of an ASCII text when characters are dropped is ASCII. -/
theorem IsAscii.filter {cs : List Char} (h : IsAscii cs) (p : Char → Bool) :
    IsAscii (cs.filter p) :=
  fun c hc => h c (List.mem_filter.mp hc).1

/-- What holds of the first 128 code points holds of every ASCII character. -/
theorem of_ascii {P : Char → Prop} (h : ∀ n < 128, P (Char.ofNat n)) {c : Char}
    (hc : c.toNat < 128) : P c := by
  have hn := h c.toNat hc
  rwa [Char.ofNat_toNat] at hn

/-- Lowering stays within ASCII. -/
theorem toNat_toLower {c : Char} (hc : c.toNat < 128) : c.toLower.toNat < 128 :=
  of_ascii (P := fun c => c.toLower.toNat < 128) (by decide) hc

/-- The full mapping to capitals is the simple one on ASCII. -/
theorem upperChar_of_ascii {c : Char} (hc : c.toNat < 128) : upperChar c = [c.toUpper] :=
  if_pos hc

/-- Lowering goes character by character on ASCII, whatever stands before. -/
theorem lowerAfter_of_ascii (before : List Char) {cs : List Char} (h : IsAscii cs) :
    lowerAfter before cs = cs.map Char.toLower := by
  induction cs generalizing before with
  | nil => rfl
  | cons c rest ih =>
      obtain ⟨hc, hrest⟩ := isAscii_cons.mp h
      -- The one letter that looks at its surroundings is not ASCII.
      have hsigma : (c == 'Σ') = false := of_ascii (P := fun c => (c == 'Σ') = false) (by decide) hc
      simp [lowerAfter, hsigma, lowerChar, hc, ih _ hrest]

/-- The full mapping to small letters is the simple one on ASCII. -/
theorem lower_of_ascii {cs : List Char} (h : IsAscii cs) : lower cs = cs.map Char.toLower :=
  lowerAfter_of_ascii [] h

/-- An ASCII text stays ASCII when it is lowered. -/
theorem isAscii_map_toLower {cs : List Char} (h : IsAscii cs) :
    IsAscii (cs.map Char.toLower) := by
  intro d hd
  obtain ⟨c, hc, rfl⟩ := List.mem_map.mp hd
  exact toNat_toLower (h c hc)

/-- Lowering leaves a character that is not ASCII as it is. -/
theorem isAscii_of_map_toLower {cs : List Char} (h : IsAscii (cs.map Char.toLower)) :
    IsAscii cs := by
  intro c hc
  by_cases hupper : c.isUpper = true
  · have hle : c.val.toNat ≤ 90 := by
      simp only [Char.isUpper, decide_eq_true_eq, UInt32.le_iff_toNat_le] at hupper
      exact hupper.2
    have hval : c.toNat = c.val.toNat := rfl
    omega
  · have hsame := h c.toLower (List.mem_map_of_mem hc)
    rwa [Char.toLower_eq_of_not_isUpper hupper] at hsame

/-! ### Signs -/

/-- An ASCII character joins none before it. -/
theorem joinsCluster_of_ascii {last c : Char} (hlast : last.toNat < 128) (hc : c.toNat < 128) :
    joinsCluster [last] c = false := by
  have hattaching : isAttaching c = false := by simp [isAttaching, hc]
  have hprepended : isPrepended last = false := by simp [isPrepended, hlast]
  have hpicture : isPicture c = false := by simp [isPicture, hc]
  simp [joinsCluster, hattaching, hprepended, hpicture]

/-- Characters do not join in an ASCII text, so each is a cluster of its own. -/
theorem clustersFrom_of_ascii {c : Char} {cs : List Char} (h : IsAscii (c :: cs)) :
    clustersFrom [c] cs = (c :: cs).map ([·]) := by
  induction cs generalizing c with
  | nil => rfl
  | cons d rest ih =>
      obtain ⟨hc, hrest⟩ := isAscii_cons.mp h
      have hd := (isAscii_cons.mp hrest).1
      rw [clustersFrom, joinsCluster_of_ascii hc hd, ih hrest]
      rfl

/-- The signs of ASCII text are its characters. -/
theorem clusters_of_ascii {cs : List Char} (h : IsAscii cs) : clusters cs = cs.map ([·]) := by
  cases cs with
  | nil => rfl
  | cons c rest => exact clustersFrom_of_ascii h

/-! ### Dividing -/

/-- The words of a row of characters that are signs on their own. An empty row makes one
empty word. -/
def divide (cs : List Char) : List (List Char) :=
  wordsFrom [] (cs.map ([·]))

/-- The words of an ASCII text are found character by character, if there is any text. -/
theorem words_of_ascii {cs : List Char} (h : IsAscii cs) (hne : cs ≠ []) :
    words cs = divide cs := by
  have hsome : cs.isEmpty = false := by simpa using hne
  rw [words, hsome, clusters_of_ascii h]
  rfl

/-- A word that has begun is put in front of the first word of the rest. -/
theorem wordsFrom_eq_modifyHead (current : List Char) (signs : List (List Char)) :
    wordsFrom current signs = (wordsFrom [] signs).modifyHead (current ++ ·) := by
  induction signs generalizing current with
  | nil => simp [wordsFrom]
  | cons sign rest ih =>
      simp only [wordsFrom]
      split
      · simp
      · split
        · simp
        · rw [ih, ih ([] ++ sign), List.modifyHead_modifyHead]
          simp [Function.comp_def]

/-- There is always a word, if only an empty one. -/
theorem wordsFrom_ne_nil (current : List Char) (signs : List (List Char)) :
    wordsFrom current signs ≠ [] := by
  induction signs generalizing current with
  | nil => simp [wordsFrom]
  | cons sign rest ih =>
      rw [wordsFrom]
      split
      · simp
      · split
        · simp
        · exact ih _

/-- What a character does to the words of the text after it: it stands before them as a
delimiter or as a word of its own, or it goes to the first of them. -/
theorem divide_cons_cases (c : Char) (rest : List Char) :
    ∃ first others, divide rest = first :: others ∧
      (signKind [c] = .delimiter ∧ divide (c :: rest) = [] :: first :: others ∨
        signKind [c] ≠ .delimiter ∧ divide (c :: rest) = [c] :: first :: others ∨
        signKind [c] ≠ .delimiter ∧
          endsWord (signKind [c]) ((rest.take 2).map fun d => signKind [d]) = false ∧
          divide (c :: rest) = (c :: first) :: others) := by
  obtain ⟨first, others, hrest⟩ := List.exists_cons_of_ne_nil
    (wordsFrom_ne_nil [] (rest.map ([·])))
  refine ⟨first, others, hrest, ?_⟩
  unfold divide
  rw [List.map_cons, wordsFrom, hrest]
  by_cases hdelimiter : signKind [c] = .delimiter
  · exact .inl ⟨hdelimiter, if_pos hdelimiter⟩
  · rw [if_neg hdelimiter, List.nil_append, wordsFrom_eq_modifyHead [c], hrest, ← List.map_take,
      List.map_map]
    cases hends : endsWord (signKind [c]) ((rest.take 2).map (signKind ∘ ([·]))) with
    | true => exact .inr (.inl ⟨hdelimiter, rfl⟩)
    | false => exact .inr (.inr ⟨hdelimiter, hends, rfl⟩)

/-- Dividing loses delimiters and nothing else. -/
theorem flatten_divide (cs : List Char) :
    (divide cs).flatten = cs.filter fun c => signKind [c] ≠ .delimiter := by
  -- One character at a time: a delimiter is dropped, and any other character is kept, as a word
  -- of its own or at the front of the first word of the rest.
  induction cs with
  | nil => rfl
  | cons c rest ih =>
      obtain ⟨first, others, hrest, hcases⟩ := divide_cons_cases c rest
      rw [hrest] at ih
      rcases hcases with ⟨hkind, hdivide⟩ | ⟨hkind, hdivide⟩ | ⟨hkind, _, hdivide⟩
      · rw [hdivide, List.flatten_cons, List.nil_append, ih,
          List.filter_cons_of_neg (by simpa using hkind)]
      · rw [hdivide, List.flatten_cons, List.singleton_append, ih,
          List.filter_cons_of_pos (by simpa using hkind)]
      · rw [hdivide, List.filter_cons_of_pos (by simpa using hkind), ← ih]
        rfl

/-- The words of an ASCII text are the text without its delimiters. -/
theorem flatten_words {cs : List Char} (h : IsAscii cs) :
    (words cs).flatten = cs.filter fun c => signKind [c] ≠ .delimiter := by
  by_cases hne : cs = []
  · rw [hne]
    rfl
  · rw [words_of_ascii h hne, flatten_divide]

/-- The characters of a word are those of the text, and none of them is a delimiter. -/
theorem mem_of_mem_words {cs : List Char} (h : IsAscii cs) {word : List Char}
    (hword : word ∈ words cs) {c : Char} (hc : c ∈ word) :
    c ∈ cs ∧ signKind [c] ≠ .delimiter := by
  have hmem : c ∈ (words cs).flatten := List.mem_flatten.mpr ⟨word, hword, hc⟩
  rw [flatten_words h] at hmem
  simpa using hmem

/-- The words of an ASCII text are ASCII. -/
theorem isAscii_of_mem_words {cs : List Char} (h : IsAscii cs) {word : List Char}
    (hword : word ∈ words cs) : IsAscii word :=
  fun c hc => h c (mem_of_mem_words h hword hc).1

/-- The words are never a single empty one. -/
theorem words_ne_blank {cs : List Char} (h : IsAscii cs) : words cs ≠ [[]] := by
  cases cs with
  | nil => exact nofun
  | cons c rest =>
      rw [words_of_ascii h (List.cons_ne_nil c rest)]
      obtain ⟨first, others, _, hcases⟩ := divide_cons_cases c rest
      rcases hcases with ⟨_, hdivide⟩ | ⟨_, hdivide⟩ | ⟨_, _, hdivide⟩ <;> simp [hdivide]

/-! ### Neighbours inside a word -/

/-- Whether two characters can stand side by side in a word: there is a text after them
for which no word ends between them. -/
def Neighbours (a b : Char) : Prop :=
  ∃ more, endsWord (signKind [a]) (signKind [b] :: more) = false

/-- Whether no word ever ends between two characters. -/
def Bonded (a b : Char) : Prop :=
  ∀ more, endsWord (signKind [a]) (signKind [b] :: more) = false

/-- The kind of a sign after lowering. -/
def SignKind.lowered : SignKind → SignKind
  | .upper => .lower
  | kind => kind

/-- Lowering a character turns the kind of a capital into that of a small letter. -/
theorem signKind_toLower {c : Char} (hc : c.toNat < 128) :
    signKind [c.toLower] = (signKind [c]).lowered :=
  of_ascii (P := fun c => signKind [c.toLower] = (signKind [c]).lowered) (by decide) hc

/-- Without capitals what comes after does not matter. -/
theorem endsWord_lowered {first second : SignKind} {more : List SignKind}
    (h : endsWord first (second :: more) = false) (others : List SignKind) :
    endsWord first.lowered (second.lowered :: others) = false := by
  cases first <;> cases second <;> simp_all [endsWord, SignKind.lowered]

/-- Characters that can stand side by side in a word stay together when they are lowered. -/
theorem Neighbours.bonded_toLower {a b : Char} (h : Neighbours a b) (ha : a.toNat < 128)
    (hb : b.toNat < 128) : Bonded a.toLower b.toLower := by
  obtain ⟨more, hmore⟩ := h
  intro others
  rw [signKind_toLower ha, signKind_toLower hb]
  exact endsWord_lowered hmore others

/-- The first word starts where the text does, if it starts with anything. -/
theorem head?_of_divide {cs word : List Char} {others : List (List Char)} {c : Char}
    (h : divide cs = (c :: word) :: others) : cs.head? = some c := by
  cases cs with
  | nil => simp [divide, wordsFrom] at h
  | cons d rest =>
      obtain ⟨first, more, _, hcases⟩ := divide_cons_cases d rest
      rcases hcases with ⟨_, hdivide⟩ | ⟨_, hdivide⟩ | ⟨_, _, hdivide⟩ <;> simp_all

/-- Neighbours in a word can stand side by side. -/
theorem isChain_of_mem_divide {cs word : List Char} (hword : word ∈ divide cs) :
    word.IsChain Neighbours := by
  induction cs generalizing word with
  | nil => simp_all [divide, wordsFrom]
  | cons c rest ih =>
      obtain ⟨first, others, hrest, hcases⟩ := divide_cons_cases c rest
      rw [hrest] at ih
      rcases hcases with ⟨_, hdivide⟩ | ⟨_, hdivide⟩ | ⟨_, hjoins, hdivide⟩
      · rw [hdivide, List.mem_cons] at hword
        rcases hword with rfl | hmem
        · exact .nil
        · exact ih hmem
      · rw [hdivide, List.mem_cons] at hword
        rcases hword with rfl | hmem
        · exact .singleton c
        · exact ih hmem
      · rw [hdivide, List.mem_cons] at hword
        rcases hword with rfl | hmem
        · -- The first word of the rest goes on with the character after this one.
          have hchain := ih List.mem_cons_self
          cases first with
          | nil => exact .singleton c
          | cons d word =>
              obtain ⟨tail, rfl⟩ := List.head?_eq_some_iff.mp (head?_of_divide hrest)
              exact .cons_cons ⟨_, hjoins⟩ hchain
        · exact ih (List.mem_cons_of_mem _ hmem)

/-! ### Words between underscores -/

/-- Whether a word has no delimiter and no other place for a division inside. -/
structure Unbroken (word : List Char) : Prop where
  plain : ∀ c ∈ word, signKind [c] ≠ .delimiter
  bonded : word.IsChain Bonded

/-- No word ends before a delimiter, for the delimiter does that. -/
theorem endsWord_delimiter (kind : SignKind) (more : List SignKind) :
    endsWord kind (.delimiter :: more) = false := by
  cases kind <;> rfl

/-- No word ends at a sign that is the last one. -/
theorem endsWord_nil (kind : SignKind) : endsWord kind [] = false := by
  cases kind <;> rfl

/-- An unbroken word is read to its end, if that is the end of the text or a delimiter. -/
theorem wordsFrom_append {word : List Char} (h : Unbroken word) (current : List Char)
    {rest : List (List Char)} (hrest : ∀ sign ∈ rest.head?, signKind sign = .delimiter) :
    wordsFrom current (word.map ([·]) ++ rest) = wordsFrom (current ++ word) rest := by
  induction word generalizing current with
  | nil => simp
  | cons c word ih =>
      obtain ⟨hplain, hbonded⟩ := h
      have htail : Unbroken word := ⟨fun d hd => hplain d (List.mem_cons_of_mem _ hd), hbonded.tail⟩
      -- No word ends inside: what follows is the next character of this one, or a delimiter.
      have hjoins : endsWord (signKind [c])
          (((word.map ([·]) ++ rest).take 2).map signKind) = false := by
        cases word with
        | cons d word => exact hbonded.rel _
        | nil =>
            cases rest with
            | nil => exact endsWord_nil _
            | cons sign rest =>
                rw [List.map_nil, List.nil_append, List.take_succ_cons, List.map_cons,
                  hrest sign rfl]
                exact endsWord_delimiter _ _
      rw [List.map_cons, List.cons_append, wordsFrom, if_neg (hplain c List.mem_cons_self),
        hjoins, if_neg Bool.false_ne_true, ih htail, List.append_assoc]
      rfl

/-- Unbroken words with underscores between them are divided into these words again. -/
theorem divide_intercalate {word : List Char} {others : List (List Char)}
    (h : ∀ w ∈ word :: others, Unbroken w) :
    divide (List.intercalate ['_'] (word :: others)) = word :: others := by
  unfold divide
  -- The word that is read is generalised, as reading goes on with the next one.
  induction others generalizing word with
  | nil =>
      have hend : ∀ sign ∈ ([] : List (List Char)).head?, signKind sign = .delimiter := nofun
      simpa [wordsFrom] using wordsFrom_append (h word List.mem_cons_self) [] hend
  | cons next others ih =>
      obtain ⟨hword, hothers⟩ := List.forall_mem_cons.mp h
      rw [List.intercalate_cons_cons, List.append_assoc, List.map_append,
        wordsFrom_append hword [] (by simp [signKind]), List.singleton_append, List.map_cons,
        wordsFrom, if_pos (by simp [signKind]), ih hothers, List.nil_append]

/-- What holds of the underscore and of all characters of some pieces holds of all
characters of the pieces with underscores between them. -/
theorem forall_mem_intercalate {P : Char → Prop} (hbetween : P '_') {pieces : List (List Char)}
    (h : ∀ piece ∈ pieces, ∀ c ∈ piece, P c) : ∀ c ∈ List.intercalate ['_'] pieces, P c := by
  induction pieces with
  | nil => exact nofun
  | cons piece others ih =>
      obtain ⟨hpiece, hothers⟩ := List.forall_mem_cons.mp h
      cases others with
      | nil => simpa using hpiece
      | cons next more =>
          rw [List.intercalate_cons_cons, List.forall_mem_append, List.forall_mem_append]
          exact ⟨⟨hpiece, by simpa using hbetween⟩, ih hothers⟩

/-- Unbroken words with underscores between them are the words of that text. One empty
word alone is left out: the empty text has no words. -/
theorem words_intercalate {pieces : List (List Char)} (hascii : ∀ piece ∈ pieces, IsAscii piece)
    (h : ∀ piece ∈ pieces, Unbroken piece) (hblank : pieces ≠ [[]]) :
    words (List.intercalate ['_'] pieces) = pieces := by
  cases pieces with
  | nil => rfl
  | cons piece others =>
      have hne : List.intercalate ['_'] (piece :: others) ≠ [] := by
        cases others with
        | nil => simpa using hblank
        | cons next more => simp [List.intercalate_cons_cons]
      have hall : IsAscii (List.intercalate ['_'] (piece :: others)) :=
        forall_mem_intercalate (by decide) hascii
      rw [words_of_ascii hall hne, divide_intercalate h]

/-! ### Snake case -/

/-- Lowering twice is lowering once, on ASCII. -/
theorem lower_lower {cs : List Char} (h : IsAscii cs) : lower (lower cs) = lower cs := by
  rw [lower_of_ascii h, lower_of_ascii (isAscii_map_toLower h), List.map_map]
  exact List.map_congr_left fun c _ => Char.toLower_toLower_eq_toLower c

/-- The lowered words of a text, character by character. -/
theorem map_lower_words {cs : List Char} (h : IsAscii cs) :
    (words cs).map lower = (words cs).map (List.map Char.toLower) :=
  List.map_congr_left fun _ hword => lower_of_ascii (isAscii_of_mem_words h hword)

/-- The words of a text are unbroken when they are lowered. -/
theorem unbroken_of_mem_words {cs : List Char} (h : IsAscii cs) {word : List Char}
    (hword : word ∈ words cs) : Unbroken (word.map Char.toLower) := by
  have hascii := isAscii_of_mem_words h hword
  constructor
  · intro d hd
    obtain ⟨c, hc, rfl⟩ := List.mem_map.mp hd
    have hkind := (mem_of_mem_words h hword hc).2
    rw [signKind_toLower (hascii c hc)]
    cases hfound : signKind [c] <;> simp_all [SignKind.lowered]
  · have hne : cs ≠ [] := by
      rintro rfl
      cases hword
    rw [words_of_ascii h hne] at hword
    -- Capitals decide where words end, so neighbours are compared before they are lowered.
    rw [List.isChain_map]
    refine (isChain_of_mem_divide hword).imp_of_mem_imp ?_
    intro a b ha hb hneighbours
    exact hneighbours.bonded_toLower (hascii a ha) (hascii b hb)

/-- The words of a text in snake case are the lowered words of the text. -/
theorem words_snake {cs : List Char} (h : IsAscii cs) :
    words (snake cs) = (words cs).map lower := by
  unfold snake
  rw [map_lower_words h]
  -- Lowered words are unbroken, and that is all that dividing them again needs.
  refine words_intercalate ?_ ?_ ?_
  · intro piece hpiece
    obtain ⟨word, hword, rfl⟩ := List.mem_map.mp hpiece
    exact isAscii_map_toLower (isAscii_of_mem_words h hword)
  · intro piece hpiece
    obtain ⟨word, hword, rfl⟩ := List.mem_map.mp hpiece
    exact unbroken_of_mem_words h hword
  · intro hblank
    obtain ⟨word, hwords, hword⟩ := List.map_eq_singleton_iff.mp hblank
    rw [List.map_eq_nil_iff.mp hword] at hwords
    exact words_ne_blank h hwords

/-- Snake case is a normal form. -/
theorem snake_snake {cs : List Char} (h : IsAscii cs) : snake (snake cs) = snake cs := by
  rw [snake, words_snake h, List.map_map, snake]
  congr 1
  exact List.map_congr_left fun word hword => lower_lower (isAscii_of_mem_words h hword)

/-- What holds of the underscore and of the lower-case forms of a text holds of the text in
snake case. -/
theorem forall_mem_snake {P : Char → Prop} {cs : List Char} (h : IsAscii cs)
    (hbetween : P '_') (hlower : ∀ c ∈ cs, P c.toLower) : ∀ c ∈ snake cs, P c := by
  unfold snake
  rw [map_lower_words h]
  refine forall_mem_intercalate hbetween ?_
  intro piece hpiece d hd
  obtain ⟨word, hword, rfl⟩ := List.mem_map.mp hpiece
  obtain ⟨c, hc, rfl⟩ := List.mem_map.mp hd
  exact hlower c (mem_of_mem_words h hword hc).1

/-- Snake case starts with an underscore if the text starts with a delimiter, and else with
the first character of the text. -/
theorem head?_snake {c : Char} {rest : List Char} (h : IsAscii (c :: rest)) :
    (snake (c :: rest)).head?
      = some (if signKind [c] = .delimiter then '_' else c.toLower) := by
  unfold snake
  rw [map_lower_words h, words_of_ascii h (List.cons_ne_nil c rest)]
  obtain ⟨first, others, _, hcases⟩ := divide_cons_cases c rest
  rcases hcases with ⟨hkind, hdivide⟩ | ⟨hkind, hdivide⟩ | ⟨hkind, _, hdivide⟩
  · simp [hdivide, hkind, List.intercalate_cons_cons]
  · simp [hdivide, hkind, List.intercalate_cons_cons]
  · cases others with
    | nil => simp [hdivide, hkind]
    | cons next more => simp [hdivide, hkind, List.intercalate_cons_cons]

/-! ### Capitalized words -/

/-- A capital at the front does not matter once a word is lowered. -/
theorem map_toLower_capitalize {word : List Char} (h : IsAscii word) :
    (capitalize word).map Char.toLower = word.map Char.toLower := by
  cases word with
  | nil => rfl
  | cons c rest =>
      obtain ⟨hc, hrest⟩ := isAscii_cons.mp h
      rw [capitalize, upperChar_of_ascii hc, lower_of_ascii hrest]
      simp [Function.comp_def]

/-- Words that are capitalized have the letters of the words. -/
theorem map_toLower_flatten_capitalize {pieces : List (List Char)}
    (h : ∀ piece ∈ pieces, IsAscii piece) :
    ((pieces.map capitalize).flatten).map Char.toLower = pieces.flatten.map Char.toLower := by
  rw [List.map_flatten, List.map_flatten, List.map_map]
  exact congrArg List.flatten
    (List.map_congr_left fun piece hpiece => map_toLower_capitalize (h piece hpiece))

/-- Pascal case keeps the letters of the words, up to capitals. -/
theorem map_toLower_pascal {cs : List Char} (h : IsAscii cs) :
    (pascal cs).map Char.toLower = (words cs).flatten.map Char.toLower :=
  map_toLower_flatten_capitalize fun _ hword => isAscii_of_mem_words h hword

/-- Camel case keeps the letters of the words, up to capitals. -/
theorem map_toLower_camel {cs : List Char} (h : IsAscii cs) :
    (camel cs).map Char.toLower = (words cs).flatten.map Char.toLower := by
  have hascii : ∀ word ∈ words cs, IsAscii word := fun _ hword => isAscii_of_mem_words h hword
  unfold camel
  cases hwords : words cs with
  | nil => rfl
  | cons first rest =>
      rw [hwords] at hascii
      obtain ⟨hfirst, hrest⟩ := List.forall_mem_cons.mp hascii
      rw [List.map_append, map_toLower_flatten_capitalize hrest, lower_of_ascii hfirst,
        List.flatten_cons, List.map_append, List.map_map]
      simp [Function.comp_def]

end Recordsmith.Text
