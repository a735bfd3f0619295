import TurtleGraphics.Proofs.Text.Lines

/-!
# Lines of encoded texts

In UTF-8 a byte below 128 is a character of its own and never a part of another one
(`utf8EncodeChar_of_mem`). So the bytes of a text may be cut into lines before they are decoded, and
the lines are the same (`cutLines_encode`).
-/

namespace TurtleGraphics.Text

/-- The bytes of `cs` in UTF-8. -/
def encode (cs : List Char) : List UInt8 :=
  cs.flatMap String.utf8EncodeChar

theorem toUTF8_eq (text : String) : text.toUTF8 = ⟨(encode text.toList).toArray⟩ := by
  rw [String.toUTF8_eq_toByteArray, ← String.utf8Encode_toList, List.utf8Encode]
  exact ByteArray.ext List.data_toByteArray

/-- `fromUTF8?` is the partial inverse of `toUTF8`. -/
theorem fromUTF8?_eq_some_iff {bytes : ByteArray} {text : String} :
    String.fromUTF8? bytes = some text ↔ text.toUTF8 = bytes := by
  rw [String.toUTF8_eq_toByteArray, String.fromUTF8?]
  constructor
  · intro h
    split at h
    · cases h
      rfl
    · cases h
  · rintro rfl
    exact dif_pos text.isValidUTF8

/-- A byte below 128 is all of its character `c`. -/
theorem utf8EncodeChar_of_mem {c : Char} {b : UInt8} (h : b ∈ String.utf8EncodeChar c)
    (hb : b.toNat < 128) : String.utf8EncodeChar c = [b] ∧ c.toNat = b.toNat := by
  by_cases hc : c.val.toNat ≤ 0x7f
  · have he : String.utf8EncodeChar c = [UInt8.ofNat c.val.toNat] := if_pos hc
    rw [he] at h ⊢
    obtain rfl := List.mem_singleton.1 h
    rw [UInt8.toNat_ofNat', Nat.mod_eq_of_lt (by omega)]
    exact ⟨rfl, rfl⟩
  · -- every byte of a longer form has its highest bit set
    exfalso
    simp only [String.utf8EncodeChar, if_neg hc] at h
    split at h
    · simp only [List.mem_cons, List.not_mem_nil, or_false] at h
      obtain rfl | rfl := h <;> rw [UInt8.toNat_ofNat'] at hb <;> omega
    split at h
    · simp only [List.mem_cons, List.not_mem_nil, or_false] at h
      obtain rfl | rfl | rfl := h <;> rw [UInt8.toNat_ofNat'] at hb <;> omega
    · simp only [List.mem_cons, List.not_mem_nil, or_false] at h
      obtain rfl | rfl | rfl | rfl := h <;> rw [UInt8.toNat_ofNat'] at hb <;> omega

/-- If `b` below 128 is all of `d`, no other character has the byte `b`. -/
theorem mem_utf8EncodeChar_iff {b : UInt8} {c d : Char} (hb : b.toNat < 128)
    (hd : String.utf8EncodeChar d = [b]) : b ∈ String.utf8EncodeChar c ↔ c = d := by
  constructor
  · intro h
    obtain ⟨-, hc⟩ := utf8EncodeChar_of_mem h hb
    obtain ⟨-, hd⟩ := utf8EncodeChar_of_mem (hd ▸ List.mem_singleton_self b) hb
    exact Char.toNat_inj.1 (hc.trans hd.symm)
  · rintro rfl
    rw [hd]
    exact List.mem_singleton_self b

theorem mem_newline_iff {c : Char} : 10 ∈ String.utf8EncodeChar c ↔ c = '\n' :=
  mem_utf8EncodeChar_iff (by decide) rfl

theorem mem_carriageReturn_iff {c : Char} : 13 ∈ String.utf8EncodeChar c ↔ c = '\r' :=
  mem_utf8EncodeChar_iff (by decide) rfl

/-- The first byte is a newline (10) only if the first character is. -/
theorem head?_of_encode {cs : List Char} (h : (encode cs).head? = some 10) :
    cs.head? = some '\n' := by
  cases cs with
  | nil => cases h
  | cons c cs =>
    obtain ⟨b, bs, hb⟩ := List.exists_cons_of_ne_nil (String.utf8EncodeChar_ne_nil (c := c))
    rw [encode, List.flatMap_cons, hb] at h
    obtain rfl : b = 10 := Option.some.inj h
    exact congrArg some (mem_newline_iff.1 (hb ▸ List.mem_cons_self))

/-- `cutLines` on the bytes of `cs` gives the bytes of the lines of `cs`. -/
theorem cutLines_encode (cs : List Char) :
    cutLines 10 13 (encode cs) = (cutLines '\n' '\r' cs).map encode := by
  induction cs using line_induction '\n' '\r' with
  | nil => rfl
  | newline cs ih =>
    have he : encode ('\n' :: cs) = 10 :: encode cs := rfl
    rw [he, cutLines_newline, cutLines_newline, ih]
    rfl
  | dropped cs hne ih =>
    have he : encode ('\r' :: '\n' :: cs) = 13 :: 10 :: encode cs := rfl
    rw [he, cutLines_carriageReturn (by decide) rfl, cutLines_carriageReturn hne rfl]
    exact ih
  | kept c cs hc hr ih =>
    have he : encode (c :: cs) = String.utf8EncodeChar c ++ encode cs := List.flatMap_cons
    have hcr : (String.utf8EncodeChar c).getLast? = some 13 → (encode cs).head? ≠ some 10 := by
      intro hl hh
      exact hr ⟨mem_carriageReturn_iff.1 (List.mem_of_getLast? hl), head?_of_encode hh⟩
    rw [he, cutLines_append_left String.utf8EncodeChar_ne_nil (mt mem_newline_iff.1 hc) hcr, ih,
      cutLines_cons hc hr]
    cases cutLines '\n' '\r' cs <;> simp [encode]

end TurtleGraphics.Text
