import Mathlib.Tactic.Lemma
import StackMachine.Source.Row

/-!
# Text and its bytes

A line is a list of characters, but the splitter reads its bytes.  In UTF-8 an ASCII character is
one byte, which is its code, and all bytes of any other character lie above those codes.  So a test
for certain ASCII characters has one answer for all bytes of a character, and the first byte that
fails it is the first byte of a character.

* `utf8` — the bytes of some characters; `toList_toUTF8` and `decode?_utf8` for the way back.
* `Tests` — a test of bytes that is a test of characters, with `Tests.of_ascii`.
* `Tests.takeWhile_utf8`, `Tests.dropWhile_utf8` — where such a test cuts.
-/

namespace StackMachine

/-- The UTF-8 bytes of some characters. -/
def utf8 (cs : List Char) : List UInt8 := cs.flatMap String.utf8EncodeChar

@[simp]
lemma utf8_nil : utf8 [] = [] := rfl

lemma utf8_cons (c : Char) (cs : List Char) :
    utf8 (c :: cs) = String.utf8EncodeChar c ++ utf8 cs := rfl

lemma utf8_append (cs ds : List Char) : utf8 (cs ++ ds) = utf8 cs ++ utf8 ds := List.flatMap_append

lemma utf8_ne_nil {cs : List Char} : utf8 cs ≠ [] ↔ cs ≠ [] := by
  cases cs with
  | nil => simp
  | cons c cs => simp [utf8_cons, String.utf8EncodeChar_ne_nil]

/-! ## There and back -/

/-- The loop puts the bytes from a place on behind those that it has read. -/
lemma toList_loop (bytes : ByteArray) (i : Nat) (read : List UInt8) :
    ByteArray.toList.loop bytes i read = read.reverse ++ bytes.data.toList.drop i := by
  rw [ByteArray.toList.loop]
  split
  next inside =>
    have hcons : bytes.data.toList.drop i = bytes.get! i :: bytes.data.toList.drop (i + 1) := by
      rw [List.drop_eq_getElem_cons (show i < bytes.data.toList.length from inside)]
      exact congrArg (· :: _) (getElem!_pos bytes.data i inside).symm
    rw [toList_loop bytes (i + 1), hcons, List.reverse_cons, List.append_assoc,
      List.singleton_append]
  next outside =>
    rw [List.drop_eq_nil_of_le (Nat.le_of_not_lt outside), List.append_nil]
termination_by bytes.size - i

lemma toList_eq_data (bytes : ByteArray) : bytes.toList = bytes.data.toList := by
  simp [ByteArray.toList, toList_loop]

lemma toList_toUTF8 (text : String) : text.toUTF8.toList = utf8 text.toList := by
  rw [toList_eq_data, String.toUTF8_eq_toByteArray, ← String.utf8Encode_toList, List.utf8Encode,
    List.toList_data_toByteArray, utf8]

lemma decode?_utf8 (cs : List Char) : Row.decode? (utf8 cs) = some (String.ofList cs) := by
  have hbytes : (utf8 cs).toByteArray = (String.ofList cs).toByteArray :=
    String.toByteArray_ofList.symm
  rw [Row.decode?, hbytes, String.fromUTF8?, dif_pos (String.ofList cs).isValidUTF8]
  rfl

/-! ## Tests -/

lemma utf8EncodeChar_of_ascii {c : Char} (h : c.toNat < 0x80) :
    String.utf8EncodeChar c = [UInt8.ofNat c.toNat] :=
  if_pos (show c.val.toNat ≤ 0x7f from Nat.le_of_lt_succ h)

lemma le_of_mem_utf8EncodeChar {c : Char} (h : 0x80 ≤ c.toNat) {byte : UInt8}
    (hbyte : byte ∈ String.utf8EncodeChar c) : 0x80 ≤ byte.toNat := by
  have wide : ¬ c.val.toNat ≤ 0x7f := Nat.not_le.mpr h
  simp only [String.utf8EncodeChar, wide, if_false] at hbyte
  split at hbyte
  · simp only [List.mem_cons, List.not_mem_nil, or_false] at hbyte
    rcases hbyte with rfl | rfl <;> simp only [UInt8.toNat_ofNat'] <;> omega
  split at hbyte
  · simp only [List.mem_cons, List.not_mem_nil, or_false] at hbyte
    rcases hbyte with rfl | rfl | rfl <;> simp only [UInt8.toNat_ofNat'] <;> omega
  · simp only [List.mem_cons, List.not_mem_nil, or_false] at hbyte
    rcases hbyte with rfl | rfl | rfl | rfl <;> simp only [UInt8.toNat_ofNat'] <;> omega

/-- **A test of bytes that is a test of characters**: all bytes of a character have the answer of
the character. -/
def Tests (p : UInt8 → Bool) (q : Char → Bool) : Prop :=
  ∀ c, ∀ byte ∈ String.utf8EncodeChar c, p byte = q c

namespace Tests

variable {p : UInt8 → Bool} {q : Char → Bool}

/-- A test that tells apart no two bytes beyond ASCII is a test of characters. -/
lemma of_ascii (wide : Bool) (ascii : ∀ n < 0x80, p (UInt8.ofNat n) = q (Char.ofNat n))
    (hp : ∀ byte : UInt8, 0x80 ≤ byte.toNat → p byte = wide)
    (hq : ∀ c : Char, 0x80 ≤ c.toNat → q c = wide) : Tests p q := by
  intro c byte hbyte
  by_cases h : c.toNat < 0x80
  · rw [utf8EncodeChar_of_ascii h, List.mem_singleton] at hbyte
    rw [hbyte, ascii _ h, Char.ofNat_toNat]
  · have hwide := Nat.le_of_not_lt h
    rw [hp byte (le_of_mem_utf8EncodeChar hwide hbyte), hq c hwide]

/-- The first byte of a character that fails is the first byte that fails. -/
lemma takeWhile_utf8 (h : Tests p q) (cs : List Char) :
    (utf8 cs).takeWhile p = utf8 (cs.takeWhile q) := by
  induction cs with
  | nil => rfl
  | cons c cs ih =>
      by_cases hc : q c = true
      · rw [utf8_cons, List.takeWhile_append_of_pos fun byte hbyte => (h c byte hbyte).trans hc, ih,
          List.takeWhile_cons_of_pos hc, utf8_cons]
      · have hbytes := String.utf8EncodeChar_ne_nil (c := c)
        obtain ⟨byte, rest, hbytes⟩ := List.exists_cons_of_ne_nil hbytes
        have hbyte : ¬ p byte = true := by
          rw [h c byte (by simp [hbytes])]
          exact hc
        rw [utf8_cons, hbytes, List.cons_append, List.takeWhile_cons_of_neg hbyte,
          List.takeWhile_cons_of_neg hc, utf8_nil]

lemma dropWhile_utf8 (h : Tests p q) (cs : List Char) :
    (utf8 cs).dropWhile p = utf8 (cs.dropWhile q) := by
  have hsplit : utf8 (cs.takeWhile q) ++ utf8 (cs.dropWhile q) = utf8 cs := by
    rw [← utf8_append, List.takeWhile_append_dropWhile]
  have hbytes := List.takeWhile_append_dropWhile (p := p) (l := utf8 cs)
  rw [h.takeWhile_utf8, ← hsplit] at hbytes
  rw [← hsplit]
  exact List.append_cancel_left hbytes

end Tests

end StackMachine
