/-!
# Texts as bytes

The bytes of a text are those of its characters in UTF-8.  Bytes and characters
order texts alike, since two characters differ within the bytes of both.
-/

namespace Formula.Text

/-- The bytes of a text in UTF-8. -/
def bytes (text : String) : List UInt8 :=
  text.toByteArray.data.toList

theorem bytes_eq (text : String) :
    bytes text = text.toList.flatMap String.utf8EncodeChar := by
  rw [bytes, ← String.utf8Encode_toList, List.utf8Encode]
  simp

/-- A character has one to four bytes.  The first of them tells how many there are,
and the others hold six bits each. -/
theorem utf8EncodeChar_cases (c : Char) :
    (c.val.toNat ≤ 0x7f ∧ String.utf8EncodeChar c = [.ofNat c.val.toNat]) ∨
      (0x7f < c.val.toNat ∧ c.val.toNat ≤ 0x7ff ∧
        String.utf8EncodeChar c =
          [.ofNat (c.val.toNat / 64 + 192), .ofNat (c.val.toNat % 64 + 128)]) ∨
      (0x7ff < c.val.toNat ∧ c.val.toNat ≤ 0xffff ∧
        String.utf8EncodeChar c =
          [.ofNat (c.val.toNat / 4096 + 224), .ofNat (c.val.toNat / 64 % 64 + 128),
            .ofNat (c.val.toNat % 64 + 128)]) ∨
      (0xffff < c.val.toNat ∧ c.val.toNat < 0x110000 ∧
        String.utf8EncodeChar c =
          [.ofNat (c.val.toNat / 262144 + 240),
            .ofNat (c.val.toNat / 4096 % 64 + 128),
            .ofNat (c.val.toNat / 64 % 64 + 128),
            .ofNat (c.val.toNat % 64 + 128)]) := by
  have valid : c.val.toNat < 0x110000 := by
    rcases c.valid with low | ⟨_, high⟩
    · omega
    · exact high
  rw [String.utf8EncodeChar]
  split
  case isTrue one => exact .inl ⟨one, rfl⟩
  right
  split
  case isTrue two =>
    have first : c.val.toNat / 64 % 0x20 = c.val.toNat / 64 := by omega
    exact .inl ⟨by omega, two, by rw [first]⟩
  right
  split
  case isTrue three =>
    have first : c.val.toNat / 4096 % 0x10 = c.val.toNat / 4096 := by omega
    exact .inl ⟨by omega, three, by rw [first]⟩
  case isFalse four =>
    have first : c.val.toNat / 262144 % 8 = c.val.toNat / 262144 := by omega
    exact .inr ⟨by omega, valid, by rw [first]⟩

/-! ## Order -/

/-- Numbers with the same digits in front are in the order of their last ones. -/
theorem lt_digits
    {v w : Nat}
    (below : v < w) :
    v / 64 < w / 64 ∨ v / 64 = w / 64 ∧ v % 64 < w % 64 := by
  omega

theorem lt_three_digits
    {v w : Nat}
    (below : v < w) :
    v / 4096 < w / 4096 ∨ v / 4096 = w / 4096 ∧
      (v / 64 % 64 < w / 64 % 64 ∨
        v / 64 % 64 = w / 64 % 64 ∧ v % 64 < w % 64) := by
  rcases lt_digits below with lower | ⟨same, last⟩
  · have front := lt_digits lower
    omega
  · omega

theorem lt_four_digits
    {v w : Nat}
    (below : v < w) :
    v / 262144 < w / 262144 ∨ v / 262144 = w / 262144 ∧
      (v / 4096 % 64 < w / 4096 % 64 ∨ v / 4096 % 64 = w / 4096 % 64 ∧
        (v / 64 % 64 < w / 64 % 64 ∨
          v / 64 % 64 = w / 64 % 64 ∧ v % 64 < w % 64)) := by
  rcases lt_three_digits below with lower | ⟨same, last⟩
  · have front := lt_digits lower
    omega
  · omega

/-- Whatever follows, the bytes of a character come before those of a later one. -/
theorem utf8EncodeChar_append_lt
    {c d : Char}
    (before : c < d)
    (x y : List UInt8) :
    String.utf8EncodeChar c ++ x < String.utf8EncodeChar d ++ y := by
  have below : c.val.toNat < d.val.toNat := before
  have two := lt_digits below
  have three := lt_three_digits below
  have four := lt_four_digits below
  -- with equally many bytes the digits decide, and with
  -- more of them the first byte
  rcases utf8EncodeChar_cases c with
    ⟨_, bytes⟩ | ⟨_, _, bytes⟩ | ⟨_, _, bytes⟩ | ⟨_, _, bytes⟩ <;>
    rcases utf8EncodeChar_cases d with
      ⟨_, bytes'⟩ | ⟨_, _, bytes'⟩ | ⟨_, _, bytes'⟩ | ⟨_, _, bytes'⟩ <;>
    rw [bytes, bytes'] <;>
    simp (disch := omega) only [List.cons_append, List.nil_append,
      List.cons_lt_cons_iff, UInt8.lt_iff_toNat_lt, ← UInt8.toNat_inj,
      UInt8.toNat_ofNat', Nat.mod_eq_of_lt] <;>
    omega

/-- The order of characters is that of their bytes, and so it is for runs of
them. -/
theorem flatMap_utf8EncodeChar_lt
    {chars chars' : List Char}
    (before : chars < chars') :
    chars.flatMap String.utf8EncodeChar <
      chars'.flatMap String.utf8EncodeChar := by
  induction before with
  | @nil c chars' =>
      rw [List.flatMap_cons]
      cases encoded : String.utf8EncodeChar c with
      | nil => exact absurd encoded String.utf8EncodeChar_ne_nil
      | cons first others => exact List.nil_lt_cons first _
  | rel before => exact utf8EncodeChar_append_lt before _ _
  | cons _ ih => exact List.append_left_lt ih

/-- Texts are in the order of their bytes. -/
theorem bytes_lt_bytes_iff {a b : String} : bytes a < bytes b ↔ a < b := by
  rw [bytes_eq, bytes_eq]
  constructor
  · intro below
    refine Decidable.byContradiction fun notBefore => ?_
    by_cases after : b < a
    · exact List.lt_asymm below (flatMap_utf8EncodeChar_lt after)
    · have same : a = b := String.le_antisymm after notBefore
      rw [same] at below
      exact List.lt_irrefl _ below
  · exact flatMap_utf8EncodeChar_lt

end Formula.Text
