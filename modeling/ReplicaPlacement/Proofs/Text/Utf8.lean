import ReplicaPlacement.Proofs.Outcome
import ReplicaPlacement.Text.Utf8

/-!
# Text survives UTF-8

Decoding what was encoded gives back every character, so a text is read back from its bytes.
-/

namespace ReplicaPlacement.Utf8

/-! ## Bytes -/

theorem toNat_byte {n : Nat} (h : n < 0x100) : (byte n).toNat = n := by
  rw [byte, UInt8.toNat_ofNat']
  omega

theorem toNat_tail (n : Nat) : (tail n).toNat = 0x80 + n % 0x40 := toNat_byte (by omega)

theorem isTail_iff {b : UInt8} : isTail b = true ↔ 0x80 ≤ b.toNat ∧ b.toNat < 0xC0 := by
  simp [isTail, UInt8.le_iff_toNat_le, UInt8.lt_iff_toNat_lt]

theorem isTail_tail (n : Nat) : isTail (tail n) = true := by
  rw [isTail_iff, toNat_tail]
  omega

theorem isSecond_iff {a b : UInt8} : isSecond a b = true ↔
    (a.toNat = 0xE0 → 0xA0 ≤ b.toNat) ∧ (a.toNat = 0xED → b.toNat < 0xA0) ∧
      (a.toNat = 0xF0 → 0x90 ≤ b.toNat) ∧ (a.toNat = 0xF4 → b.toNat < 0x90) ∧
        0x80 ≤ b.toNat ∧ b.toNat < 0xC0 := by
  simp only [isSecond, isTail, beq_iff_eq, ← UInt8.toNat_inj, UInt8.le_iff_toNat_le,
    UInt8.lt_iff_toNat_lt, UInt8.reduceToNat]
  split_ifs <;> simp only [Bool.and_eq_true, decide_eq_true_eq] <;> omega

/-! ## One character -/

section

variable {n : Nat} (rest : Bytes)

theorem decode_one (h : n < 0x80) : decode (byte n :: rest) = some (Char.ofNat n) :: decode rest := by
  have hn : (byte n).toNat = n := toNat_byte (by omega)
  rw [decode.eq_def]
  simp [UInt8.lt_iff_toNat_lt, hn, h]

theorem decode_two (h : 0x80 ≤ n) (h' : n < 0x800) :
    decode (byte (0xC0 + n / 0x40) :: tail n :: rest) = some (Char.ofNat n) :: decode rest := by
  have ha : (byte (0xC0 + n / 0x40)).toNat = 0xC0 + n / 0x40 := toNat_byte (by omega)
  have hb := toNat_tail n
  have hsecond : isSecond (byte (0xC0 + n / 0x40)) (tail n) = true := by
    rw [isSecond_iff]
    omega
  have hjoin : join ((0xC0 + n / 0x40) % 0x20) [tail n] = Char.ofNat n := by
    rw [join, List.foldl_cons, List.foldl_nil, hb]
    congr 1
    omega
  rw [decode.eq_def]
  simp only [UInt8.lt_iff_toNat_lt, ha, UInt8.reduceToNat, hsecond, Bool.not_true, hjoin,
    Bool.or_eq_true, decide_eq_true_eq]
  rw [if_neg (by omega), if_neg (by omega), if_neg (by simp), if_pos (by omega)]

theorem decode_three (h : 0x800 ≤ n) (h' : n < 0x10000) (hvalid : n < 0xD800 ∨ 0xDFFF < n) :
    decode (byte (0xE0 + n / 0x1000) :: tail (n / 0x40) :: tail n :: rest) =
      some (Char.ofNat n) :: decode rest := by
  have ha : (byte (0xE0 + n / 0x1000)).toNat = 0xE0 + n / 0x1000 := toNat_byte (by omega)
  have hb := toNat_tail (n / 0x40)
  have hc := toNat_tail n
  have hsecond : isSecond (byte (0xE0 + n / 0x1000)) (tail (n / 0x40)) = true := by
    rw [isSecond_iff]
    omega
  have hjoin : join ((0xE0 + n / 0x1000) % 0x10) [tail (n / 0x40), tail n] = Char.ofNat n := by
    rw [join, List.foldl_cons, List.foldl_cons, List.foldl_nil, hb, hc]
    congr 1
    omega
  rw [decode.eq_def]
  simp only [UInt8.lt_iff_toNat_lt, ha, UInt8.reduceToNat, hsecond, isTail_tail, Bool.not_true, hjoin,
    Bool.or_eq_true, decide_eq_true_eq]
  rw [if_neg (by omega), if_neg (by omega), if_neg (by simp), if_neg (by omega), if_neg (by simp),
    if_pos (by omega)]

theorem decode_four (h : 0x10000 ≤ n) (h' : n < 0x110000) :
    decode (byte (0xF0 + n / 0x40000) :: tail (n / 0x1000) :: tail (n / 0x40) :: tail n :: rest) =
      some (Char.ofNat n) :: decode rest := by
  have ha : (byte (0xF0 + n / 0x40000)).toNat = 0xF0 + n / 0x40000 := toNat_byte (by omega)
  have hb := toNat_tail (n / 0x1000)
  have hc := toNat_tail (n / 0x40)
  have hd := toNat_tail n
  have hsecond : isSecond (byte (0xF0 + n / 0x40000)) (tail (n / 0x1000)) = true := by
    rw [isSecond_iff]
    omega
  have hjoin : join ((0xF0 + n / 0x40000) % 0x08) [tail (n / 0x1000), tail (n / 0x40), tail n] =
      Char.ofNat n := by
    rw [join, List.foldl_cons, List.foldl_cons, List.foldl_cons, List.foldl_nil, hb, hc, hd]
    congr 1
    omega
  rw [decode.eq_def]
  simp only [UInt8.lt_iff_toNat_lt, ha, UInt8.reduceToNat, hsecond, isTail_tail, Bool.not_true, hjoin,
    Bool.or_eq_true, decide_eq_true_eq]
  rw [if_neg (by omega), if_neg (by omega), if_neg (by simp), if_neg (by omega), if_neg (by simp),
    if_neg (by omega), if_neg (by simp)]

theorem decode_encodeChar (c : Char) : decode (encodeChar c ++ rest) = some c :: decode rest := by
  have hvalid : c.toNat < 0xD800 ∨ 0xDFFF < c.toNat ∧ c.toNat < 0x110000 := c.valid
  have hchar : decode (encodeChar c ++ rest) = some (Char.ofNat c.toNat) :: decode rest := by
    simp only [encodeChar]
    split_ifs with h1 h2 h3
    · exact decode_one rest h1
    · exact decode_two rest (Nat.not_lt.1 h1) h2
    · exact decode_three rest (Nat.not_lt.1 h2) h3 (hvalid.imp_right And.left)
    · exact decode_four rest (Nat.not_lt.1 h3) (by omega)
  rwa [Char.ofNat_toNat] at hchar

end

/-! ## Texts -/

theorem decode_encode (s : String) : decode (encode s) = s.toList.map some := by
  unfold encode
  induction s.toList with
  | nil => simp [decode]
  | cons c cs ih => rw [List.flatMap_cons, decode_encodeChar, ih, List.map_cons]

theorem text?_encode (s : String) : text? (encode s) = some s := by
  have hread : (s.toList.map some).mapM id = some s.toList := Outcome.mapM_map_eq_pure fun _ _ => rfl
  rw [text?, decode_encode, hread, Option.map_some, String.ofList_toList]

theorem lossy_encode (s : String) : lossy (encode s) = s := by
  simp [lossy, decode_encode, Function.comp_def]

theorem encode_append (s t : String) : encode (s ++ t) = encode s ++ encode t := by
  simp [encode]

end ReplicaPlacement.Utf8
