import Mathlib.Data.List.Basic
import Mathlib.Data.Nat.Init
import Mathlib.Data.String.Basic

/-!
# Framed byte strings

A list of byte strings is framed by writing each string behind its length, in eight bytes. The frames of
strings shorter than `2^64` bytes can be told apart, so that a framed list is determined by its bytes.
-/

namespace Framing

/-- The last `k` bytes of a number, the most significant one first. -/
def bigEndian : ℕ → ℕ → List UInt8
  | 0, _ => []
  | k + 1, n => bigEndian k (n / 256) ++ [UInt8.ofNat (n % 256)]

@[simp] theorem length_bigEndian (k : ℕ) : ∀ n, (bigEndian k n).length = k := by
  induction k with
  | zero => exact fun _ => rfl
  | succ k ih =>
    intro n
    rw [bigEndian, List.length_append, ih, List.length_singleton]

/-- Numbers of `k` bytes are determined by them. -/
theorem bigEndian_inj (k : ℕ) : ∀ {m n : ℕ}, m < 256^k → n < 256^k → bigEndian k m = bigEndian k n →
    m = n := by
  induction k with
  | zero =>
    intro m n hm hn _
    omega
  | succ k ih =>
    intro m n hm hn h
    obtain ⟨hhigh, hlow⟩ := List.append_inj h (by rw [length_bigEndian, length_bigEndian])
    have hquotient : m / 256 = n / 256 := by
      refine ih ?_ ?_ hhigh
      · rw [Nat.div_lt_iff_lt_mul (by omega), ← Nat.pow_succ]
        exact hm
      · rw [Nat.div_lt_iff_lt_mul (by omega), ← Nat.pow_succ]
        exact hn
    have hremainder : m % 256 = n % 256 := by
      have hbyte : UInt8.ofNat (m % 256) = UInt8.ofNat (n % 256) := (List.cons_eq_cons.mp hlow).1
      have hnat := congrArg UInt8.toNat hbyte
      rw [UInt8.toNat_ofNat', UInt8.toNat_ofNat'] at hnat
      omega
    omega

/-- The frame of a byte string: its length, and the string. -/
def frame (part : List UInt8) : List UInt8 := bigEndian 8 part.length ++ part

/-- The frames of a list of byte strings, one after the other. -/
def frames (parts : List (List UInt8)) : List UInt8 := parts.flatMap frame

/-- A framed string is determined by any bytes that it begins. -/
theorem frame_append_inj {a b rest rest' : List UInt8} (ha : a.length < 2^64) (hb : b.length < 2^64)
    (h : frame a ++ rest = frame b ++ rest') : a = b ∧ rest = rest' := by
  unfold frame at h
  rw [List.append_assoc, List.append_assoc] at h
  obtain ⟨hlength, htail⟩ := List.append_inj h (by rw [length_bigEndian, length_bigEndian])
  have hsame : a.length = b.length := bigEndian_inj 8 (by omega) (by omega) hlength
  exact List.append_inj htail hsame

/-- A framed list is determined by its bytes: induction on the two lists. -/
theorem frames_inj {xs : List (List UInt8)} :
    ∀ {ys : List (List UInt8)}, (∀ x ∈ xs, x.length < 2^64) → (∀ y ∈ ys, y.length < 2^64) →
      frames xs = frames ys → xs = ys := by
  induction xs with
  | nil =>
    intro ys _ _ h
    cases ys with
    | nil => rfl
    | cons y ys =>
      have hlength := congrArg List.length h
      simp only [frames, frame, List.flatMap_nil, List.flatMap_cons, List.length_nil,
        List.length_append, length_bigEndian] at hlength
      omega
  | cons x xs ih =>
    intro ys hxs hys h
    cases ys with
    | nil =>
      have hlength := congrArg List.length h
      simp only [frames, frame, List.flatMap_nil, List.flatMap_cons, List.length_nil,
        List.length_append, length_bigEndian] at hlength
      omega
    | cons y ys =>
      obtain ⟨hx, hxs⟩ := List.forall_mem_cons.mp hxs
      obtain ⟨hy, hys⟩ := List.forall_mem_cons.mp hys
      have hcons : frame x ++ frames xs = frame y ++ frames ys := by
        unfold frames at h
        rwa [List.flatMap_cons, List.flatMap_cons] at h
      obtain ⟨hsame, hrest⟩ := frame_append_inj hx hy hcons
      rw [hsame, ih hxs hys hrest]

/-! ## Texts -/

/-- The UTF-8 bytes of a text. -/
def textBytes (text : String) : List UInt8 := text.toByteArray.data.toList

theorem textBytes_inj {a b : String} (h : textBytes a = textBytes b) : a = b := by
  refine String.toByteArray_inj.mp ?_
  have hdata : a.toByteArray.data = b.toByteArray.data := Array.toList_inj.mp h
  cases ha : a.toByteArray
  cases hb : b.toByteArray
  rw [ha, hb] at hdata
  exact congrArg ByteArray.mk hdata

/-- A character has four bytes at most. -/
theorem utf8ByteSize_le (text : String) : text.utf8ByteSize ≤ 4 * text.length := by
  have hsize := String.utf8ByteSize_ofList text.toList
  rw [String.ofList_toList] at hsize
  rw [hsize, ← String.length_toList]
  induction text.toList with
  | nil => exact Nat.le_refl 0
  | cons c cs ih =>
    have hc : c.utf8Size ≤ 4 := Char.utf8Size_le_four c
    rw [List.length_cons, String.utf8Len_cons]
    omega

/-- The frames of the bytes of some texts. -/
def framedTexts (texts : List String) : List UInt8 := frames (texts.map textBytes)

/-- Framed texts are determined by their bytes. -/
theorem framedTexts_inj {xs ys : List String} (hxs : ∀ x ∈ xs, x.utf8ByteSize < 2^64)
    (hys : ∀ y ∈ ys, y.utf8ByteSize < 2^64) (h : framedTexts xs = framedTexts ys) : xs = ys := by
  have hbytes : xs.map textBytes = ys.map textBytes := by
    refine frames_inj ?_ ?_ h
    · intro bytes hmem
      obtain ⟨x, hx, rfl⟩ := List.mem_map.mp hmem
      exact hxs x hx
    · intro bytes hmem
      obtain ⟨y, hy, rfl⟩ := List.mem_map.mp hmem
      exact hys y hy
  exact List.map_injective_iff.mpr (fun _ _ => textBytes_inj) hbytes

end Framing
