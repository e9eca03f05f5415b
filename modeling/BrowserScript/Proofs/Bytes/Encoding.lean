import BrowserScript.Proofs.Wrapper.LiteralForm
import BrowserScript.Wrapper.ByteScanner

/-!
Characters in the bytes of a text. A character of ASCII is one byte, which stands for the character
on its own, and every byte of another character is at least 128, so a byte that is compared with a
character of ASCII is never a part of another one (`Stands.any_head?`, `Stands.eq_of_passed`).
-/

set_option autoImplicit false
set_option relaxedAutoImplicit false

namespace BrowserScript.Wrapper.Bytes

open Text

/-! ### Encoded text -/

@[simp] theorem encode_nil : encode [] = [] := rfl

@[simp] theorem encode_cons (c : Char) (text : List Char) :
    encode (c :: text) = String.utf8EncodeChar c ++ encode text := rfl

@[simp] theorem encode_append (first second : List Char) :
    encode (first ++ second) = encode first ++ encode second :=
  List.flatMap_append

@[simp] theorem length_encode (text : List Char) : (encode text).length = byteSize text := by
  induction text with
  | nil => rfl
  | cons c text ih => simp [ih]

theorem encode_injective {first second : List Char} (h : encode first = encode second) :
    first = second := by
  have hbytes : (String.ofList first).toByteArray = (String.ofList second).toByteArray := by
    rw [String.toByteArray_ofList, String.toByteArray_ofList]
    exact congrArg List.toByteArray h
  exact String.ofList_inj.mp (String.toByteArray_inj.mp hbytes)

/-- A character of ASCII is one byte. -/
theorem utf8EncodeChar_of_ascii {c : Char} (hc : c.toNat < 128) :
    String.utf8EncodeChar c = [c.toUInt8] :=
  String.utf8EncodeChar_eq_singleton (utf8Size_of_ascii hc)

theorem asChar_toUInt8 {c : Char} (hc : c.toNat < 128) : asChar c.toUInt8 = c := by
  apply Char.ext
  apply UInt32.toNat_inj.mp
  have hval : c.val.toNat < 128 := hc
  show (c.val.toUInt8.toUInt32).toNat = c.val.toNat
  rw [UInt8.toNat_toUInt32, UInt32.toNat_toUInt8]
  omega

/-- The bytes of all other characters are none of ASCII. -/
theorem le_asChar_of_mem {c : Char} (hc : 128 ≤ c.toNat) {b : UInt8}
    (hb : b ∈ String.utf8EncodeChar c) : 128 ≤ (asChar b).toNat := by
  have hb' : 128 ≤ b.toNat := by
    have hval : ¬c.val.toNat ≤ 127 := Nat.not_le.mpr (Nat.lt_of_succ_le hc)
    unfold String.utf8EncodeChar at hb
    simp only [hval, if_false] at hb
    split at hb
    · simp only [List.mem_cons, List.not_mem_nil, or_false] at hb
      rcases hb with rfl | rfl <;> simp only [UInt8.toNat_ofNat'] <;> omega
    · split at hb
      · simp only [List.mem_cons, List.not_mem_nil, or_false] at hb
        rcases hb with rfl | rfl | rfl <;> simp only [UInt8.toNat_ofNat'] <;> omega
      · simp only [List.mem_cons, List.not_mem_nil, or_false] at hb
        rcases hb with rfl | rfl | rfl | rfl <;> simp only [UInt8.toNat_ofNat'] <;> omega
  exact hb'

/-! ### Places in a text -/

/-- From the byte `pos` on the bytes are those of a text. -/
def Stands (src : List UInt8) (pos : Nat) (text : List Char) : Prop := src.drop pos = encode text

/-- Bytes of characters beyond ASCII, `n` of them. -/
def WideFrom (src : List UInt8) (pos n : Nat) : Prop :=
  ∀ i < n, ∃ b, src[pos + i]? = some b ∧ 128 ≤ (asChar b).toNat

variable {src : List UInt8} {pos : Nat} {c : Char} {text rest : List Char}

namespace Stands

theorem whole (text : List Char) : Stands (encode text) 0 text := rfl

theorem append (h : Stands src pos (text ++ rest)) : Stands src (pos + byteSize text) rest := by
  rw [Stands, ← List.drop_drop, show src.drop pos = encode (text ++ rest) from h, encode_append,
    ← length_encode, List.drop_left]

theorem getElem?_eq (h : Stands src pos text) (i : Nat) : src[pos + i]? = (encode text)[i]? := by
  rw [← List.getElem?_drop, show src.drop pos = encode text from h]

theorem getElem?_nil (h : Stands src pos []) : src[pos]? = none := by
  simpa using h.getElem?_eq 0

theorem getElem?_ascii (h : Stands src pos (c :: rest)) (hc : c.toNat < 128) :
    src[pos]? = some c.toUInt8 := by
  simpa [utf8EncodeChar_of_ascii hc] using h.getElem?_eq 0

theorem tail (h : Stands src pos (c :: rest)) : Stands src (pos + c.utf8Size) rest := by
  have htail : Stands src (pos + byteSize [c]) rest := append h
  simpa using htail

theorem tail_ascii (h : Stands src pos (c :: rest)) (hc : c.toNat < 128) :
    Stands src (pos + 1) rest := by
  have htail := h.tail
  rwa [utf8Size_of_ascii hc] at htail

/-- What stands at a place that is not behind the end ends where the text does. -/
theorem length_eq (h : Stands src pos text) (hpos : pos ≤ src.length) :
    src.length = pos + byteSize text := by
  have hlength := congrArg List.length h
  rw [List.length_drop, length_encode] at hlength
  omega

theorem wideFrom (h : Stands src pos (c :: rest)) (hc : 128 ≤ c.toNat) :
    WideFrom src pos c.utf8Size := by
  intro i hi
  rw [← String.length_utf8EncodeChar] at hi
  refine ⟨(String.utf8EncodeChar c)[i], ?_, le_asChar_of_mem hc (List.getElem_mem hi)⟩
  rw [h.getElem?_eq, encode_cons, List.getElem?_append_left hi, List.getElem?_eq_getElem hi]

/-- The byte at a place, if the text there starts with a character of ASCII; otherwise a byte that
is none. -/
theorem exists_getElem? (h : Stands src pos (c :: rest)) :
    ∃ b, src[pos]? = some b ∧ (c.toNat < 128 ∧ asChar b = c ∨
      128 ≤ c.toNat ∧ 128 ≤ (asChar b).toNat) := by
  rcases Nat.lt_or_ge c.toNat 128 with hc | hc
  · exact ⟨_, h.getElem?_ascii hc, .inl ⟨hc, asChar_toUInt8 hc⟩⟩
  · obtain ⟨b, hb, hwide⟩ := h.wideFrom hc 0 c.utf8Size_pos
    exact ⟨b, hb, .inr ⟨hc, hwide⟩⟩

/-- A byte is a character of ASCII where the text is. -/
theorem any_head? (h : Stands src pos text) {d : Char} (hd : d.toNat < 128) :
    src[pos]?.any (asChar · = d) ↔ text.head? = some d := by
  cases text with
  | nil => simp [h.getElem?_nil]
  | cons c rest =>
    obtain ⟨b, hb, ⟨hc, hchar⟩ | ⟨hc, hwide⟩⟩ := h.exists_getElem?
    · simp [hb, hchar]
    · have hbyte : asChar b ≠ d := fun heq ↦ by rw [heq] at hwide; omega
      have hne : c ≠ d := fun heq ↦ by rw [heq] at hc; omega
      simp [hb, hbyte, hne]

end Stands

/-! ### Bytes that are passed one by one -/

variable {α : Type} {f : Nat → α}

/-- Assumes: a function of a place that is the same behind a byte that is none of ASCII. It is the
same behind any number of them. -/
theorem WideFrom.eq_of_passed {n : Nat} (h : WideFrom src pos n)
    (hf : ∀ i b, src[i]? = some b → 128 ≤ (asChar b).toNat → f i = f (i + 1)) :
    f pos = f (pos + n) := by
  induction n with
  | zero => rfl
  | succ n ih =>
    obtain ⟨b, hb, hwide⟩ := h n (Nat.lt_succ_self n)
    rw [ih fun i hi ↦ h i (Nat.lt_succ_of_lt hi), hf _ b hb hwide]
    rfl

/-- Assumes: a function of a place that is the same behind a byte that is `c`, or none of ASCII. It
is the same behind the character. -/
theorem Stands.eq_of_passed (h : Stands src pos (c :: rest))
    (hf : ∀ i b, src[i]? = some b → asChar b = c ∨ 128 ≤ (asChar b).toNat → f i = f (i + 1)) :
    f pos = f (pos + c.utf8Size) := by
  rcases Nat.lt_or_ge c.toNat 128 with hc | hc
  · rw [hf pos _ (h.getElem?_ascii hc) (.inl (asChar_toUInt8 hc)), utf8Size_of_ascii hc]
  · exact (h.wideFrom hc).eq_of_passed fun i b hb hwide ↦ hf i b hb (.inr hwide)

/-- Behind an escape the scanner stands behind the first byte of the escaped character. What is left
of this is passed. -/
theorem Stands.eq_of_escaped (h : Stands src pos (c :: rest))
    (hf : ∀ i b, src[i]? = some b → 128 ≤ (asChar b).toNat → f i = f (i + 1)) :
    f (pos + 1) = f (pos + c.utf8Size) := by
  have hsize := c.utf8Size_pos
  rcases Nat.lt_or_ge c.toNat 128 with hc | hc
  · rw [utf8Size_of_ascii hc]
  · have hwide : WideFrom src (pos + 1) (c.utf8Size - 1) := fun i hi ↦ by
      have hbyte := h.wideFrom hc (1 + i) (by omega)
      rwa [← Nat.add_assoc] at hbyte
    rw [hwide.eq_of_passed hf, Nat.add_assoc, Nat.add_sub_cancel' hsize]

end BrowserScript.Wrapper.Bytes
