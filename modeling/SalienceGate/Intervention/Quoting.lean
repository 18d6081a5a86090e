import SalienceGate.Intervention.Rendering

/-!
# Quoted evidence

The evidence in a reminder is untrusted, and quoted. A quote is printable, and ends where the renderer ended it: whatever comes
after it, a reader finds out which text was quoted.
-/

namespace SalienceGate

/-- What a byte is escaped to. -/
def escapedByte (byte : UInt8) : List Char :=
  if isSafeEvidenceByte byte then [Char.ofNat byte.toNat] else '\\' :: 'x' :: Hex.digits 2 byte.toNat

theorem isSafeEvidenceByte_char {byte : UInt8} (h : isSafeEvidenceByte byte = true) :
    (Char.ofNat byte.toNat).toNat = byte.toNat ∧ 32 ≤ byte.toNat ∧ byte.toNat < 127 ∧ Char.ofNat byte.toNat ≠ '"'
      ∧ Char.ofNat byte.toNat ≠ '\\' := by
  have hall : ∀ n < 128, isSafeEvidenceByte (.ofNat n) = true →
      (Char.ofNat n).toNat = n ∧ 32 ≤ n ∧ n < 127 ∧ Char.ofNat n ≠ '"' ∧ Char.ofNat n ≠ '\\' := by decide +kernel
  rw [← UInt8.ofNat_toNat (x := byte)] at h
  refine hall _ ?_ h
  rw [UInt8.ofNat_toNat, isSafeEvidenceByte, Bool.and_eq_true] at h
  exact of_decide_eq_true h.1

theorem escapedByte_printable (byte : UInt8) : ∀ c ∈ escapedByte byte, 32 ≤ c.toNat ∧ c.toNat < 127 := by
  have hdigit : ∀ n < 16, 32 ≤ (Hex.digit n).toNat ∧ (Hex.digit n).toNat < 127 := by decide
  intro c hc
  unfold escapedByte at hc
  split at hc
  · next hsafe =>
    obtain ⟨hsame, hlow, hhigh, -⟩ := isSafeEvidenceByte_char hsafe
    rw [List.mem_singleton.mp hc, hsame]
    exact ⟨hlow, hhigh⟩
  · simp only [Hex.digits, List.nil_append, List.cons_append, List.mem_cons, List.not_mem_nil, or_false] at hc
    rcases hc with rfl | rfl | rfl | rfl
    · decide
    · decide
    · exact hdigit _ (Nat.mod_lt _ (by decide))
    · exact hdigit _ (Nat.mod_lt _ (by decide))

/-- No escape begins another one. -/
theorem escapedByte_append_inj {a b : UInt8} {cs ds : List Char} (h : escapedByte a ++ cs = escapedByte b ++ ds) :
    a = b ∧ cs = ds := by
  unfold escapedByte at h
  rw [← UInt8.toNat_inj]
  split at h <;> split at h
  · next ha hb =>
    obtain ⟨hchar, hrest⟩ := List.cons.inj h
    refine ⟨?_, hrest⟩
    rw [← (isSafeEvidenceByte_char ha).1, ← (isSafeEvidenceByte_char hb).1, hchar]
  · next ha _ => exact absurd (List.cons.inj h).1 (isSafeEvidenceByte_char ha).2.2.2.2
  · next _ hb => exact absurd (List.cons.inj h).1.symm (isSafeEvidenceByte_char hb).2.2.2.2
  · have htail := (List.cons.inj (List.cons.inj h).2).2
    have hlength : (Hex.digits 2 a.toNat).length = (Hex.digits 2 b.toNat).length := by
      rw [Hex.length_digits, Hex.length_digits]
    obtain ⟨hdigits, hrest⟩ := List.append_inj htail hlength
    have hvalue := congrArg Hex.value? hdigits
    rw [Hex.value?_digits a.toNat_lt, Hex.value?_digits b.toNat_lt] at hvalue
    exact ⟨Option.some.inj hvalue, hrest⟩

/-- Bytes are determined by their escapes up to a quotation mark, for there is none in an escape. -/
theorem escaped_quote_inj {as bs : List UInt8} {cs ds : List Char}
    (h : as.flatMap escapedByte ++ '"' :: cs = bs.flatMap escapedByte ++ '"' :: ds) : as = bs ∧ cs = ds := by
  have hmark : ∀ {byte : UInt8} {xs ys : List Char}, '"' :: xs ≠ escapedByte byte ++ ys := by
    intro byte xs ys heq
    unfold escapedByte at heq
    split at heq
    · next hsafe => exact (isSafeEvidenceByte_char hsafe).2.2.2.1 (List.cons.inj heq).1.symm
    · exact absurd (List.cons.inj heq).1 (by decide)
  induction as generalizing bs with
  | nil =>
    cases bs with
    | nil => exact ⟨rfl, (List.cons.inj h).2⟩
    | cons b bs =>
      rw [List.flatMap_cons, List.append_assoc] at h
      exact absurd h hmark
  | cons a as ih =>
    cases bs with
    | nil =>
      rw [List.flatMap_cons, List.append_assoc] at h
      exact absurd h.symm hmark
    | cons b bs =>
      rw [List.flatMap_cons, List.flatMap_cons, List.append_assoc, List.append_assoc] at h
      obtain ⟨rfl, hrest⟩ := escapedByte_append_inj h
      obtain ⟨rfl, hsame⟩ := ih hrest
      exact ⟨rfl, hsame⟩

theorem utf8Bytes_inj {a b : String} (h : utf8Bytes a = utf8Bytes b) : a = b := by
  rw [← String.toByteArray_inj, ← String.utf8Encode_toList, ← String.utf8Encode_toList]
  exact congrArg List.toByteArray h

theorem toList_quote (text : String) :
    (quoteUntrustedEvidence text).toList = '"' :: ((utf8Bytes text).flatMap escapedByte ++ ['"']) := by
  have hescaped : (escapedAscii (utf8Bytes text)).toList = (utf8Bytes text).flatMap escapedByte := String.toList_ofList
  unfold quoteUntrustedEvidence
  rw [String.toList_append, String.toList_append, hescaped]
  rfl

/-- The quote of a text is printable, and two quotes with anything after them are the same only if they are of the same text and
the same comes after them. -/
theorem quoteUntrustedEvidence_delimits (a b rest rest' : String) :
    (∀ c ∈ (quoteUntrustedEvidence a).toList, 32 ≤ c.toNat ∧ c.toNat < 127)
      ∧ (quoteUntrustedEvidence a ++ rest = quoteUntrustedEvidence b ++ rest' ↔ a = b ∧ rest = rest') := by
  constructor
  · intro c hc
    rw [toList_quote] at hc
    rcases List.mem_cons.mp hc with rfl | hc
    · decide
    · rcases List.mem_append.mp hc with hinner | hlast
      · obtain ⟨byte, -, hbyte⟩ := List.mem_flatMap.mp hinner
        exact escapedByte_printable byte c hbyte
      · rw [List.mem_singleton.mp hlast]
        decide
  · constructor
    · intro h
      rw [← String.toList_inj, String.toList_append, String.toList_append, toList_quote, toList_quote, List.cons_append,
        List.cons_append, List.append_assoc, List.append_assoc] at h
      obtain ⟨hbytes, hrest⟩ := escaped_quote_inj (List.cons.inj h).2
      exact ⟨utf8Bytes_inj hbytes, String.toList_inj.mp hrest⟩
    · rintro ⟨rfl, rfl⟩
      rfl

end SalienceGate
