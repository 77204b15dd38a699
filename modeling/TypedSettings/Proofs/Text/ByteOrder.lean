/-!
# The order of texts and of their bytes

Texts are ordered by their code points. In UTF-8 the first byte of a character tells how many bytes
it has, more bytes go with larger first bytes, and characters with as many bytes are written in the
digits of one positional notation, so the order of texts is that of their bytes.
-/

namespace TypedSettings.Text
set_option autoImplicit false

/-- The UTF-8 bytes of a text. -/
def bytes (s : String) : List UInt8 := s.toUTF8.data.toList

theorem bytes_eq_flatMap (s : String) : bytes s = s.toList.flatMap String.utf8EncodeChar := by
  rw [bytes, String.toUTF8, ← String.utf8Encode_toList, List.utf8Encode,
    List.toList_data_toByteArray]

/-! ## One character -/

/-- The bytes of the character with a code, by their number. All but the first one hold a digit to
the base 64. -/
inductive Encoded (n : Nat) : List UInt8 → Prop where
  | one (small : n < 128) : Encoded n [.ofNat n]
  | two {a b : Nat} (value : n = 64 * a + b) (large : 128 ≤ n) (ha : a < 32) (hb : b < 64) :
      Encoded n [.ofNat (a + 192), .ofNat (b + 128)]
  | three {a b c : Nat} (value : n = 4096 * a + 64 * b + c) (large : 2048 ≤ n) (ha : a < 16)
      (hb : b < 64) (hc : c < 64) :
      Encoded n [.ofNat (a + 224), .ofNat (b + 128), .ofNat (c + 128)]
  | four {a b c d : Nat} (value : n = 262144 * a + 4096 * b + 64 * c + d) (large : 65536 ≤ n)
      (ha : a < 8) (hb : b < 64) (hc : c < 64) (hd : d < 64) :
      Encoded n [.ofNat (a + 240), .ofNat (b + 128), .ofNat (c + 128), .ofNat (d + 128)]

theorem encoded_utf8EncodeChar (c : Char) : Encoded c.toNat (String.utf8EncodeChar c) := by
  have range : c.toNat < 1114112 := by
    rcases c.valid with low | ⟨-, high⟩
    · exact Nat.lt_trans low (by decide)
    · exact high
  unfold String.utf8EncodeChar
  dsimp only
  rw [Char.toNat_val]
  split
  · exact .one (by omega)
  · split
    · exact .two (by omega) (by omega) (by omega) (by omega)
    · split
      · exact .three (by omega) (by omega) (by omega) (by omega) (by omega)
      · exact .four (by omega) (by omega) (by omega) (by omega) (by omega) (by omega)

/-- The bytes of the smaller character come first, whatever follows them. -/
theorem Encoded.append_lt {m n : Nat} {as bs : List UInt8} (h : Encoded m as) (k : Encoded n bs)
    (less : m < n) (ps qs : List UInt8) : as ++ ps < bs ++ qs := by
  cases h <;> cases k <;>
    simp only [List.cons_append, List.cons_lt_cons_iff, UInt8.lt_iff_toNat_lt, ← UInt8.toNat_inj,
      UInt8.toNat_ofNat'] <;>
    omega

/-! ## Texts -/

theorem flatMap_lt_of_lt {cs ds : List Char} (less : cs < ds) :
    cs.flatMap String.utf8EncodeChar < ds.flatMap String.utf8EncodeChar := by
  induction less with
  | nil =>
    next d ds =>
    rw [List.flatMap_nil, List.flatMap_cons]
    obtain ⟨b, bs, bytes⟩ := List.exists_cons_of_ne_nil (String.utf8EncodeChar_ne_nil (c := d))
    rw [bytes]
    exact .nil
  | rel less =>
    rw [List.flatMap_cons, List.flatMap_cons]
    exact (encoded_utf8EncodeChar _).append_lt (encoded_utf8EncodeChar _) less _ _
  | cons less ih =>
    rw [List.flatMap_cons, List.flatMap_cons]
    exact List.append_left_lt ih

theorem bytes_lt_of_compare {s t : String} (less : compare s t = .lt) : bytes s < bytes t := by
  rw [bytes_eq_flatMap, bytes_eq_flatMap]
  exact flatMap_lt_of_lt (String.lt_iff.1 (compareOfLessAndEq_eq_lt.1 less))

/-- The order of texts is the order of their bytes. -/
theorem compare_eq_lt_iff_bytes {s t : String} : compare s t = .lt ↔ bytes s < bytes t := by
  constructor
  · exact bytes_lt_of_compare
  · intro less
    cases order : compare s t with
    | lt => rfl
    | eq =>
      obtain rfl := Std.LawfulEqOrd.eq_of_compare order
      exact absurd less (List.lt_irrefl _)
    | gt =>
      have greater := bytes_lt_of_compare (Std.OrientedCmp.lt_of_gt order)
      exact absurd greater (List.lt_asymm less)

end TypedSettings.Text
