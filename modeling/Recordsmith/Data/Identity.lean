import Recordsmith.Text.Hex

/-!
# `Recordsmith.Data.Identity`: keys of entities

An identity is a text that an entity and its record share. The empty text
means that no identity has been given yet. Identities are ordered by their
characters, which is also the order of their UTF-8 bytes.
-/

set_option autoImplicit false

namespace Recordsmith

/-- The key of an entity. -/
structure Identity where
  text : String
  deriving DecidableEq, Repr

namespace Identity

/-- The identity of an entity that has none yet. -/
def empty : Identity :=
  ⟨""⟩

/-- Whether an identity is the empty one. -/
def isEmpty (identity : Identity) : Bool :=
  identity.text == ""

instance : LT Identity := ⟨fun a b => a.text < b.text⟩

instance (a b : Identity) : Decidable (a < b) :=
  inferInstanceAs (Decidable (a.text < b.text))

instance : Ord Identity := ⟨fun a b => compare a.text b.text⟩

/-- No identity comes before itself. -/
theorem lt_irrefl (a : Identity) : ¬ a < a :=
  String.lt_irrefl a.text

/-- What comes before an earlier identity comes before a later one. -/
theorem lt_trans {a b c : Identity} (hab : a < b) (hbc : b < c) : a < c :=
  String.lt_trans hab hbc

/-- Of two different identities one comes before the other. -/
theorem lt_trichotomy (a b : Identity) : a < b ∨ a = b ∨ b < a := by
  rcases Std.lt_trichotomy a.text b.text with h | h | h
  · exact .inl h
  · exact .inr (.inl (by cases a; cases b; simp_all))
  · exact .inr (.inr h)

/-- Identities in ascending order. -/
def sort (identities : List Identity) : List Identity :=
  identities.mergeSort fun a b => (compare a b).isLE

/-- The identity made of 128 random bits: five groups of hexadecimal digits,
with the digits that mark a random identity set. -/
def ofBits (bits : Nat) : Identity :=
  let part (shift width : Nat) : String :=
    Text.Hex.padded width (bits / Nat.pow 16 shift % Nat.pow 16 width)
  let variant := Text.Hex.padded 1 (8 + bits / Nat.pow 16 15 % 4)
  ⟨part 24 8 ++ "-" ++ part 20 4 ++ "-4" ++ part 16 3 ++ "-" ++ variant ++ part 12 3 ++ "-" ++
    part 0 12⟩

/-- A new identity from a source of random numbers. -/
def generate {gen : Type} [RandomGen gen] (source : gen) : Identity × gen :=
  let (bits, rest) := randNat source 0 (Nat.pow 2 128 - 1)
  (ofBits bits, rest)

end Identity

end Recordsmith
