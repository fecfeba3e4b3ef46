import Mathlib.Data.String.Basic
/-!
# Texts in byte order

Names are kept and compared in the order of texts, character by character by code point. Sorting
by UTF-8 bytes gives the same order: a larger code point is encoded by bytes that are larger at the
first byte where the two encodings differ, and no character's bytes begin another's
(`utf8EncodeChar_before`). A text is therefore smaller than another exactly when its UTF-8 bytes
are (`lt_iff_utf8_lt`), so "the least name" means the same in either order.
-/

namespace Stencil.Text

/-- Bytes `p` come before bytes `q` whatever follows each. -/
def BytesBefore (p q : List UInt8) : Prop := ∀ x y, p ++ x < q ++ y

/-- Bytes that start alike come before others as the first differing byte says. -/
lemma bytesBefore_cons_cons {a b : UInt8} {p q : List UInt8} :
    BytesBefore (a :: p) (b :: q) ↔ a < b ∨ a = b ∧ BytesBefore p q := by
  constructor
  · intro h
    rcases List.cons_lt_cons_iff.1 (h [] []) with hab | ⟨rfl, -⟩
    · exact .inl hab
    · exact .inr ⟨rfl, fun x y => by
        rcases List.cons_lt_cons_iff.1 (h x y) with hab | ⟨-, hxy⟩
        · exact absurd hab (UInt8.lt_irrefl _)
        · simpa using hxy⟩
  · rintro (hab | ⟨rfl, h⟩) x y
    · exact List.cons_lt_cons_iff.2 (.inl hab)
    · exact List.cons_lt_cons_iff.2 (.inr ⟨rfl, h x y⟩)

/-- No bytes come before themselves. -/
lemma not_bytesBefore_nil : ¬ BytesBefore [] [] := fun h => List.not_lt_nil _ (h [] [])

/-- Code points stop below `0x110000`. -/
lemma val_toNat_lt (c : Char) : c.val.toNat < 0x110000 := by
  have := c.valid
  simp only [UInt32.isValidChar, Nat.isValidChar] at this
  omega

/-- A smaller character is encoded by bytes that come before those of a larger one. -/
lemma utf8EncodeChar_before {c d : Char} (h : c < d) :
    BytesBefore (String.utf8EncodeChar c) (String.utf8EncodeChar d) := by
  have hcd : c.val.toNat < d.val.toNat := UInt32.lt_iff_toNat_lt.1 (Char.lt_def.1 h)
  have hd := val_toNat_lt d
  -- Each byte is a base-64 digit of the code point (or the leading digits). Writing every
  -- divisor as repeated division by 64 lets `omega` see the digits of the two code points as
  -- nested quotients, which it compares one after another.
  have h4096 : ∀ n : Nat, n / 4096 = n / 64 / 64 := fun n => by rw [Nat.div_div_eq_div_mul]
  have h262144 : ∀ n : Nat, n / 262144 = n / 64 / 64 / 64 := fun n => by
    rw [Nat.div_div_eq_div_mul, Nat.div_div_eq_div_mul]
  simp only [String.utf8EncodeChar]
  split_ifs <;>
    simp only [bytesBefore_cons_cons, UInt8.lt_iff_toNat_lt, UInt8.ext_iff, UInt8.toNat_ofNat',
      not_bytesBefore_nil, and_false, or_false, h4096, h262144] <;>
    omega

/-- Appending to one start keeps the order of what follows. -/
lemma append_lt_append_iff (l : List UInt8) {x y : List UInt8} : l ++ x < l ++ y ↔ x < y := by
  induction l with
  | nil => rfl
  | cons a l ih => simp [ih]

/-- Characters compare as their UTF-8 bytes do. -/
lemma lt_iff_flatMap_utf8EncodeChar_lt :
    ∀ a b : List Char, a < b ↔ a.flatMap String.utf8EncodeChar < b.flatMap String.utf8EncodeChar
  | [], [] => by simp
  | [], d :: b => by
    obtain ⟨e, es, he⟩ := List.exists_cons_of_ne_nil (String.utf8EncodeChar_ne_nil (c := d))
    simp [he, List.nil_lt_cons]
  | c :: a, [] => by simp [List.not_lt_nil]
  | c :: a, d :: b => by
    rw [List.cons_lt_cons_iff, List.flatMap_cons, List.flatMap_cons]
    rcases lt_trichotomy c d with hlt | rfl | hgt
    · exact iff_of_true (.inl hlt) (utf8EncodeChar_before hlt _ _)
    · rw [append_lt_append_iff, ← lt_iff_flatMap_utf8EncodeChar_lt a b]
      simp
    · refine iff_of_false ?_ (List.lt_asymm (utf8EncodeChar_before hgt _ _))
      rintro (hlt | ⟨rfl, -⟩)
      · exact Char.lt_asymm hlt hgt
      · exact Char.lt_irrefl _ hgt

/-- The UTF-8 bytes of a text are the encodings of its characters in turn. -/
lemma toUTF8_bytes (s : String) :
    s.toUTF8.data.toList = s.toList.flatMap String.utf8EncodeChar := by
  rw [String.toUTF8_eq_toByteArray, ← String.ofList_toList (s := s), String.toByteArray_ofList,
    String.toList_ofList, List.utf8Encode, List.toList_data_toByteArray]

/-- Texts compare as their UTF-8 bytes do, byte by byte. -/
theorem lt_iff_utf8_lt (s t : String) : s < t ↔ s.toUTF8.data.toList < t.toUTF8.data.toList := by
  rw [toUTF8_bytes, toUTF8_bytes, String.lt_iff]
  exact lt_iff_flatMap_utf8EncodeChar_lt _ _

end Stencil.Text
