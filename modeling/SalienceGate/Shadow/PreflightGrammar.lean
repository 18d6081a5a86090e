import Mathlib.Algebra.GroupWithZero.Nat
import SalienceGate.Shadow.Preflight

/-!
# What the preflight accepts

On a text of the grammar the preflight is a test on the tree: it accepts the texts whose strings are well-formed,
which have no constant, and whose tree is within the limits (`run_iff`).
-/

namespace SalienceGate

open Checked JsonText

namespace JSONPreflight

/-- Every code point is a character, so that a surrogate is only ever half of a pair. -/
def WellFormedText (us : List ℕ) : Prop := ∀ u ∈ us, isScalar u = true

/-- The bytes of a string in UTF-8. -/
def decodedBytes (us : List ℕ) : ℕ := (us.map utf8Length).sum

/-! ## Strings -/

theorem isScalar_iff {u : ℕ} : isScalar u = true ↔ isHighSurrogate u = false ∧ isLowSurrogate u = false := by
  unfold isScalar
  rw [Bool.and_eq_true, Bool.not_eq_true', Bool.not_eq_true']

theorem isScalar_toNat (c : Char) : isScalar c.toNat = true := by
  have hvalid := c.valid
  have hnat : c.toNat < 0xD800 ∨ 0xDFFF < c.toNat := by
    rcases hvalid with h | ⟨h, -⟩
    · exact .inl h
    · exact .inr h
  rw [isScalar_iff]
  unfold isHighSurrogate isLowSurrogate
  rw [decide_eq_false_iff_not, decide_eq_false_iff_not]
  constructor <;> omega

theorem joinPairs_cons {u : ℕ} {us : List ℕ} (h : isHighSurrogate u = false) : joinPairs (u :: us) = u :: joinPairs us := by
  cases us with
  | nil => rfl
  | cons v us =>
    rw [joinPairs, if_neg]
    rw [h]
    exact fun hpair => by cases hpair.1

theorem joinPairs_pair {u v : ℕ} {us : List ℕ} (hu : isHighSurrogate u = true) (hv : isLowSurrogate v = true) :
    joinPairs (u :: v :: us) = (0x10000 + (u - 0xD800) * 0x400 + (v - 0xDC00)) :: joinPairs us := by
  rw [joinPairs, if_pos ⟨hu, hv⟩]

/-- A first half that no second half follows stays alone, so that the string is not well-formed. -/
theorem not_wellFormed_of_alone {u : ℕ} {us : List ℕ} (hu : isHighSurrogate u = true)
    (hus : ∀ v vs, us = v :: vs → isLowSurrogate v = false) : ¬WellFormedText (joinPairs (u :: us)) := by
  have hcons : joinPairs (u :: us) = u :: joinPairs us := by
    cases us with
    | nil => rfl
    | cons v vs =>
      rw [joinPairs, if_neg]
      rw [hus v vs rfl]
      exact fun hpair => by cases hpair.2
  intro h
  rw [hcons] at h
  have hscalar := (isScalar_iff.mp (h u List.mem_cons_self)).1
  rw [hu] at hscalar
  cases hscalar

theorem decodedBytes_cons (u : ℕ) (us : List ℕ) : decodedBytes (u :: us) = utf8Length u + decodedBytes us := by
  unfold decodedBytes
  rw [List.map_cons, List.sum_cons]

theorem wellFormed_cons {u : ℕ} {us : List ℕ} : WellFormedText (u :: us) ↔ isScalar u = true ∧ WellFormedText us :=
  List.forall_mem_cons

/-- The letters of the escapes. -/
theorem simpleEscape_spec {c : Char} {u : ℕ} (h : simpleEscape c = some u) :
    c ∈ ['"', '\\', '/', 'b', 'f', 'n', 'r', 't'] ∧ utf8Length u = 1 ∧ isScalar u = true := by
  unfold simpleEscape at h
  repeat' split at h
  all_goals first | (subst_vars; cases h; decide) | cases h

theorem checkBytes_bind {α : Type} {k : ℕ} {scan : Except ScanError α} {r : α} :
    (checkBytes k >>= fun _ => scan) = .ok r ↔ k ≤ maxStringBytes ∧ scan = .ok r := by
  unfold checkBytes
  rw [raiseIf_bind_eq_ok, Nat.not_lt]

/-- A surrogate pair is a character of four bytes. -/
theorem pair_spec (u v : ℕ) :
    utf8Length (0x10000 + (u - 0xD800) * 0x400 + (v - 0xDC00)) = 4
    ∧ isScalar (0x10000 + (u - 0xD800) * 0x400 + (v - 0xDC00)) = true := by
  constructor
  · unfold utf8Length
    rw [if_neg (by omega), if_neg (by omega), if_neg (by omega)]
  · rw [isScalar_iff]
    unfold isHighSurrogate isLowSurrogate
    rw [decide_eq_false_iff_not, decide_eq_false_iff_not]
    constructor <;> omega

/-- What is one character of a string, and the scan of what follows it. -/
theorem scan_cons {u decoded : ℕ} {us : List ℕ} {scan : Except ScanError (List Char)} {r rest : List Char}
    (hu : isScalar u = true)
    (h : decoded + utf8Length u ≤ maxStringBytes →
      (scan = .ok r ↔ WellFormedText us ∧ decoded + utf8Length u + decodedBytes us ≤ maxStringBytes ∧ r = rest)) :
    (decoded + utf8Length u ≤ maxStringBytes ∧ scan = .ok r)
      ↔ WellFormedText (u :: us) ∧ decoded + decodedBytes (u :: us) ≤ maxStringBytes ∧ r = rest := by
  rw [wellFormed_cons, decodedBytes_cons]
  constructor
  · rintro ⟨hle, hscan⟩
    obtain ⟨hwell, hbytes, hr⟩ := (h hle).mp hscan
    exact ⟨⟨hu, hwell⟩, by omega, hr⟩
  · rintro ⟨⟨-, hwell⟩, hbytes, hr⟩
    have hle : decoded + utf8Length u ≤ maxStringBytes := by omega
    exact ⟨hle, (h hle).mpr ⟨hwell, by omega, hr⟩⟩

/-- The inside of a string is accepted exactly if it is well-formed and not too long. -/
theorem parseString_iff {body : List Char} {us : List ℕ} (h : StringText body us) {decoded : ℕ}
    (hdecoded : decoded ≤ maxStringBytes) {r rest : List Char} :
    parseString (body ++ '"' :: rest) decoded = .ok r
      ↔ WellFormedText (joinPairs us) ∧ decoded + decodedBytes (joinPairs us) ≤ maxStringBytes ∧ r = rest := by
  -- an escape that is the first half of a pair is read together with the second, so that the induction is on the length
  induction hlength : body.length using Nat.strong_induction_on generalizing body us decoded with
  | _ n ih =>
  have step {body' : List Char} {us' : List ℕ} {decoded' : ℕ} (h' : StringText body' us')
      (hle : decoded' ≤ maxStringBytes) (hlt : body'.length < body.length) :
      parseString (body' ++ '"' :: rest) decoded' = .ok r
        ↔ WellFormedText (joinPairs us') ∧ decoded' + decodedBytes (joinPairs us') ≤ maxStringBytes ∧ r = rest :=
    ih body'.length (by omega) h' hle rfl
  cases h with
  | nil =>
    rw [List.nil_append]
    unfold parseString
    rw [if_pos rfl]
    constructor
    · intro heq
      cases heq
      exact ⟨fun u hu => (by cases hu), hdecoded, rfl⟩
    · rintro ⟨-, -, rfl⟩
      rfl
  | @plain c body us hquote hbackslash hcontrol hbody =>
    have hscalar := isScalar_toNat c
    rw [List.cons_append]
    unfold parseString
    rw [if_neg hquote, if_neg (by omega), if_pos hbackslash, checkBytes_bind,
      joinPairs_cons (isScalar_iff.mp hscalar).1]
    exact scan_cons hscalar fun hle => step hbody hle (by simp only [List.length_cons]; omega)
  | @escape c u body us hescape hbody =>
    obtain ⟨hmem, hone, hscalar⟩ := simpleEscape_spec hescape
    rw [List.cons_append, List.cons_append]
    unfold parseString
    rw [if_neg (by decide), if_neg (by decide), if_neg (by decide)]
    dsimp only
    rw [if_pos hmem, checkBytes_bind, joinPairs_cons (isScalar_iff.mp hscalar).1, ← hone]
    exact scan_cons hscalar fun hle => step hbody hle (by simp only [List.length_cons]; omega)
  | @unicode x y z w u body us hvalue hbody =>
    simp only [List.cons_append]
    unfold parseString
    rw [if_neg (by decide), if_neg (by decide), if_neg (by decide)]
    dsimp only
    rw [if_neg (by decide), if_pos rfl]
    simp only [hvalue]
    split
    next hhigh =>
      have halone (hus : ∀ v vs, us = v :: vs → isLowSurrogate v = false) :
          ¬(WellFormedText (joinPairs (u :: us)) ∧ decoded + decodedBytes (joinPairs (u :: us)) ≤ maxStringBytes ∧ r = rest) :=
        fun hall => not_wellFormed_of_alone hhigh hus hall.1
      cases hbody with
      | nil =>
        refine iff_of_false (fun heq => ?_) (halone fun v vs heq => by cases heq)
        cases heq
      | @plain c body us hquote hbackslash hcontrol hbody =>
        refine iff_of_false (fun heq => ?_) (halone fun v vs heq => ?_)
        · rw [List.cons_append] at heq
          split at heq
          next hcons =>
            exact hbackslash (List.cons.inj hcons).1
          next => cases heq
        · rw [← (List.cons.inj heq).1]
          exact (isScalar_iff.mp (isScalar_toNat c)).2
      | @escape c v body us hescape hbody =>
        obtain ⟨hmem, -, hscalar⟩ := simpleEscape_spec hescape
        refine iff_of_false (fun heq => ?_) (halone fun v vs heq => ?_)
        · rw [List.cons_append, List.cons_append] at heq
          split at heq
          next hcons =>
            rw [(List.cons.inj (List.cons.inj hcons).2).1] at hmem
            exact absurd hmem (by decide)
          next => cases heq
        · rw [← (List.cons.inj heq).1]
          exact (isScalar_iff.mp hscalar).2
      | @unicode x' y' z' w' v body us hvalue' hbody =>
        simp only [List.cons_append]
        rw [hvalue']
        dsimp only
        split
        next hlow =>
          obtain ⟨hfour, hscalar⟩ := pair_spec u v
          rw [checkBytes_bind, joinPairs_pair hhigh hlow, ← hfour]
          exact scan_cons hscalar fun hle => step hbody hle (by simp only [List.length_cons]; omega)
        next hlow =>
          refine iff_of_false (fun heq => by cases heq) (halone fun v' vs heq => ?_)
          cases heq
          simpa using hlow
    next hhigh =>
      have hhigh' : isHighSurrogate u = false := by simpa using hhigh
      rw [joinPairs_cons hhigh']
      split
      next hlow =>
        refine iff_of_false (fun heq => by cases heq) fun hall => ?_
        have hscalar := (isScalar_iff.mp (wellFormed_cons.mp hall.1).1).2
        rw [hlow] at hscalar
        cases hscalar
      next hlow =>
        have hscalar : isScalar u = true := isScalar_iff.mpr ⟨hhigh', by simpa using hlow⟩
        rw [checkBytes_bind]
        exact scan_cons hscalar fun hle => step hbody hle (by simp only [List.length_cons]; omega)

/-! ## Numbers -/

section grammar

variable [UnicodeDigits]

open UnicodeDigits (isdigit)

/-- After a value there is no digit of any alphabet. -/
theorem ends_isdigit {rest : List Char} (h : AfterValue rest) :
    Ends (fun c => isdigit c = true ∨ c = '.' ∨ c = 'e' ∨ c = 'E') rest := by
  rintro c cs rfl hstop
  obtain ⟨hdigit, hdot, he, hE⟩ := h.head
  have hlt : c.toNat < 128 := by
    rcases h c cs rfl with hblank | rfl | rfl | rfl
    · rcases isBlank_iff.mp hblank with rfl | rfl | rfl | rfl <;> decide
    · decide
    · decide
    · decide
  rcases hstop with hstop | hstop | hstop | hstop
  · rw [UnicodeDigits.ascii c hlt, hdigit] at hstop
    cases hstop
  · exact hdot hstop
  · exact he hstop
  · exact hE hstop

theorem not_isdigit {stop : Char → Prop} {rest : List Char} (h : Ends stop rest)
    (hstop : ∀ c, isdigit c = true → stop c) : ∀ c cs, rest = c :: cs → isdigit c = false := by
  intro c cs heq
  have hc := h c cs heq
  by_contra hdigit
  exact hc (hstop c (by simpa using hdigit))

/-- The digits of the grammar, and then no more digits. -/
theorem drop_digits {ds rest : List Char} (hds : IsDigits ds) (hrest : ∀ c cs, rest = c :: cs → isdigit c = false) :
    ((ds ++ rest).takeWhile isdigit).isEmpty = false ∧ (ds ++ rest).dropWhile isdigit = rest := by
  obtain ⟨htake, hdrop⟩ := takeWhile_append_of_stop (fun d hd => isdigit_of_isDigit (hds.2 d hd)) hrest
  rw [htake, List.isEmpty_eq_false_iff]
  exact ⟨hds.1, hdrop⟩

theorem parseExponentDigits_append {ds rest : List Char} (hds : IsDigits ds)
    (hrest : ∀ c cs, rest = c :: cs → isdigit c = false) : parseExponentDigits (ds ++ rest) = .ok rest := by
  obtain ⟨htake, hdrop⟩ := drop_digits hds hrest
  unfold parseExponentDigits
  rw [htake, hdrop]
  rfl

theorem parseExponent_append {exponent rest : List Char} (h : IsExponent exponent) (hrest : AfterValue rest) :
    parseExponent (exponent ++ rest) = .ok rest := by
  have hends := ends_isdigit hrest
  have hdigit := not_isdigit hends fun _ hc => .inl hc
  rcases h with rfl | ⟨e, sign, ds, rfl, he, hsign, hds⟩
  · rw [List.nil_append]
    cases rest with
    | nil => rfl
    | cons c cs =>
      rw [parseExponent.eq_def]
      dsimp only
      rw [if_neg fun hc => hends c cs rfl (.inr (.inr hc))]
  · rw [List.cons_append, List.append_assoc, parseExponent.eq_def]
    dsimp only
    rw [if_pos he]
    rcases hsign with rfl | rfl | rfl
    · obtain ⟨d, more, rfl⟩ := List.exists_cons_of_ne_nil hds.1
      have hd := hds.2 d List.mem_cons_self
      have hsign : ¬(d = '+' ∨ d = '-') := by
        rintro (rfl | rfl) <;> exact absurd hd (by decide)
      rw [List.nil_append, List.cons_append]
      dsimp only
      rw [if_neg hsign, ← List.cons_append]
      exact parseExponentDigits_append hds hdigit
    · exact parseExponentDigits_append hds hdigit
    · exact parseExponentDigits_append hds hdigit

theorem ends_isdigit_exponent {exponent rest : List Char} (h : IsExponent exponent) (hrest : AfterValue rest) :
    Ends (fun c => isdigit c = true ∨ c = '.') (exponent ++ rest) := by
  intro c cs heq hc
  rcases h with rfl | ⟨e, sign, ds, rfl, he, -, -⟩
  · exact ends_isdigit hrest c cs heq (hc.imp_right .inl)
  · rw [List.cons_append] at heq
    obtain ⟨rfl, -⟩ := List.cons.inj heq
    rcases he with rfl | rfl <;> rw [UnicodeDigits.ascii _ (by decide)] at hc <;> exact absurd hc (by decide)

theorem parseFraction_append {fraction exponent rest : List Char} (h : IsFraction fraction)
    (hexponent : IsExponent exponent) (hrest : AfterValue rest) :
    parseFraction (fraction ++ (exponent ++ rest)) = .ok (exponent ++ rest) := by
  have hends := ends_isdigit_exponent hexponent hrest
  rcases h with rfl | ⟨ds, rfl, hds⟩
  · rw [List.nil_append]
    generalize exponent ++ rest = text at hends
    cases text with
    | nil => rfl
    | cons c cs => rw [parseFraction, if_neg fun hc => hends c cs rfl (.inr hc)]
  · obtain ⟨htake, hdrop⟩ := drop_digits hds (not_isdigit hends fun _ hc => .inl hc)
    rw [List.cons_append, parseFraction, if_pos rfl, htake, hdrop]
    rfl

theorem ends_isdigit_fraction {fraction exponent rest : List Char} (h : IsFraction fraction)
    (hexponent : IsExponent exponent) (hrest : AfterValue rest) :
    Ends (fun c => isdigit c = true) (fraction ++ (exponent ++ rest)) := by
  intro c cs heq hc
  rcases h with rfl | ⟨ds, rfl, -⟩
  · exact ends_isdigit_exponent hexponent hrest c cs heq (.inl hc)
  · rw [List.cons_append] at heq
    obtain ⟨rfl, -⟩ := List.cons.inj heq
    rw [UnicodeDigits.ascii _ (by decide)] at hc
    exact absurd hc (by decide)

theorem parseInteger_append {integer rest : List Char} (h : IsInteger integer)
    (hrest : Ends (fun c => isdigit c = true) rest) : parseInteger (integer ++ rest) = .ok rest := by
  have hdigit := not_isdigit hrest fun _ hc => hc
  rw [parseInteger.eq_def]
  rcases h with rfl | ⟨d, ds, rfl, hd, hzero, hds⟩
  · cases rest with
    | nil => rfl
    | cons c cs =>
      have hc := hdigit c cs rfl
      show (if isdigit c then _ else _) = _
      rw [hc]
      rfl
  · have hrange : '1' ≤ d ∧ d ≤ '9' := by
      have hne : d.toNat ≠ 48 := fun h48 => hzero (Char.ext (UInt32.toNat_inj.mp h48))
      have hbounds := isDigit_iff.mp hd
      rw [one_le_and_le_nine]
      omega
    have hall : IsDigits (d :: ds) := by
      refine ⟨List.cons_ne_nil _ _, fun x hx => ?_⟩
      rcases List.mem_cons.mp hx with rfl | hx
      · exact hd
      · exact hds x hx
    rw [List.cons_append]
    dsimp only
    rw [if_neg hzero, if_pos hrange, ← List.cons_append, (drop_digits hall hdigit).2]

/-- The numbers of the grammar are numbers of the preflight. -/
theorem parseNumber_append {token rest : List Char} {isInteger : Bool} (h : NumberText token isInteger)
    (hrest : AfterValue rest) : parseNumber (token ++ rest) = .ok rest := by
  obtain ⟨sign, integer, fraction, exponent, rfl, hsign, hinteger, hfraction, hexponent, rfl⟩ := h
  have hread := parseInteger_append hinteger (ends_isdigit_fraction hfraction hexponent hrest)
  have hminus : (if (sign ++ (integer ++ (fraction ++ exponent)) ++ rest).head? = some '-'
      then (sign ++ (integer ++ (fraction ++ exponent)) ++ rest).tail
      else sign ++ (integer ++ (fraction ++ exponent)) ++ rest) = integer ++ (fraction ++ (exponent ++ rest)) := by
    simp only [List.append_assoc]
    rcases hsign with rfl | rfl
    · obtain ⟨d, ds, rfl, hd⟩ := hinteger.head
      rw [List.nil_append, List.cons_append, List.head?_cons, if_neg]
      intro heq
      rw [Option.some.inj heq] at hd
      exact absurd hd (by decide)
    · rfl
  unfold parseNumber
  rw [hminus, hread]
  show (parseFraction (fraction ++ (exponent ++ rest)) >>= _) = _
  rw [parseFraction_append hfraction hexponent hrest]
  exact parseExponent_append hexponent hrest

end grammar

/-! ## Values -/

/-- What the preflight asks of a string or a name. -/
def AcceptedString (us : List ℕ) : Prop := WellFormedText us ∧ decodedBytes us ≤ maxStringBytes

/-- What the preflight asks of one part of a tree. -/
def AcceptedPart : Tree → Prop
  | .constant _ => False
  | .string us => AcceptedString us
  | .array ts => ts.length ≤ maxArrayItems
  | .object ms => ms.length ≤ maxObjectMembers ∧ ∀ m ∈ ms, AcceptedString m.1
  | _ => True

theorem parseString_quoted {us : List ℕ} {text : List Char} (h : QuotedText us text) (rest : List Char) :
    ∃ body, text ++ rest = '"' :: body ∧ ∀ r, parseString body 0 = .ok r ↔ AcceptedString us ∧ r = rest := by
  obtain ⟨body, units, hbody, rfl, rfl⟩ := h
  refine ⟨body ++ '"' :: rest, ?_, ?_⟩
  · rw [List.cons_append, List.append_assoc]
    rfl
  · intro r
    rw [parseString_iff hbody (Nat.zero_le _), Nat.zero_add, ← and_assoc]
    rfl

theorem consumeLiteral_append (value rest : List Char) : consumeLiteral value (value ++ rest) = .ok rest := by
  unfold consumeLiteral
  rw [List.dropPrefix?_append_of_beq rest (beq_self_eq_true value)]
  rfl

theorem addNode_bind {α : Type} {nodes : ℕ} {next : ℕ → Except ScanError α} {r : α} :
    (addNode nodes >>= next) = .ok r ↔ nodes + 1 ≤ maxJsonNodes ∧ next (nodes + 1) = .ok r := by
  unfold addNode
  split
  next h =>
    refine iff_of_false (fun heq => by cases heq) fun hall => ?_
    omega
  next h => exact ⟨fun heq => ⟨by omega, heq⟩, fun hall => hall.2⟩

theorem map_node {nodes : ℕ} {scan : Except ScanError (List Char)} {r : List Char × ℕ} :
    ((·, nodes) <$> scan) = .ok r ↔ scan = .ok r.1 ∧ r.2 = nodes := by
  cases scan with
  | error e => exact iff_of_false (fun heq => by cases heq) fun hall => by cases hall.1
  | ok text =>
    constructor
    · intro heq
      cases heq
      exact ⟨rfl, rfl⟩
    · rintro ⟨heq, hnodes⟩
      cases heq
      rw [← hnodes]
      rfl

section values

variable [UnicodeDigits]

open UnicodeDigits (isdigit)

open Tree.parts Tree.depth

omit [UnicodeDigits] in
/-- The scan of a leaf, which is one node. -/
theorem leaf_iff {nodes : ℕ} {scan : Except ScanError (List Char)} {rest : List Char} {r : List Char × ℕ} {t : Tree}
    (hparts : t.parts = [t]) (hdepth : t.depth = 0) {depth : ℕ} (hle : depth ≤ maxJsonDepth)
    (hscan : ∀ text, scan = .ok text ↔ AcceptedPart t ∧ text = rest) :
    (nodes + 1 ≤ maxJsonNodes ∧ ((·, nodes + 1) <$> scan) = .ok r)
      ↔ (∀ p ∈ t.parts, AcceptedPart p) ∧ depth + t.depth ≤ maxJsonDepth ∧ nodes + t.parts.length ≤ maxJsonNodes
        ∧ r = (rest, nodes + t.parts.length) := by
  rw [map_node, hscan, hparts, hdepth]
  constructor
  · rintro ⟨hnodes, ⟨hpart, hrest⟩, hcount⟩
    refine ⟨fun p hp => ?_, hle, hnodes, Prod.ext hrest hcount⟩
    rw [List.mem_singleton.mp hp]
    exact hpart
  · rintro ⟨hparts, -, hnodes, rfl⟩
    exact ⟨hnodes, ⟨hparts t (List.mem_singleton.mpr rfl), rfl⟩, rfl⟩

/-- What the scan of a value does on the texts of the grammar: what it accepts, where it ends and what it counts. -/
def ValueSpec (fuel : ℕ) : Prop :=
  ∀ {t text}, ValueText t text → 3 * text.length + 1 ≤ fuel → ∀ rest, AfterValue rest →
    ∀ depth nodes r, depth ≤ maxJsonDepth →
    (parseValue fuel depth (text ++ rest) nodes = .ok r
      ↔ (∀ p ∈ t.parts, AcceptedPart p) ∧ depth + t.depth ≤ maxJsonDepth
        ∧ nodes + t.parts.length ≤ maxJsonNodes ∧ r = (rest, nodes + t.parts.length))

/-- `ValueSpec` for the loop of an array. -/
def ItemsSpec (fuel : ℕ) : Prop :=
  ∀ {ts text}, ItemsText ts text → 3 * text.length ≤ fuel →
    ∀ rest depth items nodes r, depth ≤ maxJsonDepth →
    (parseItems fuel depth items (text ++ rest) nodes = .ok r
      ↔ (∀ p ∈ partsOfList ts, AcceptedPart p) ∧ depth + depthOfList ts ≤ maxJsonDepth
        ∧ items + ts.length ≤ maxArrayItems
        ∧ nodes + (partsOfList ts).length ≤ maxJsonNodes ∧ r = (rest, nodes + (partsOfList ts).length))

/-- `ValueSpec` for the loop of an object. -/
def MembersSpec (fuel : ℕ) : Prop :=
  ∀ {ms text}, MembersText ms text → 3 * text.length ≤ fuel →
    ∀ rest depth members nodes r, depth ≤ maxJsonDepth →
    (parseMembers fuel depth members (text ++ rest) nodes = .ok r
      ↔ ((∀ p ∈ partsOfMembers ms, AcceptedPart p) ∧ ∀ m ∈ ms, AcceptedString m.1)
        ∧ depth + depthOfMembers ms ≤ maxJsonDepth ∧ members + ms.length ≤ maxObjectMembers
        ∧ nodes + (partsOfMembers ms).length ≤ maxJsonNodes
        ∧ r = (rest, nodes + (partsOfMembers ms).length))

theorem parseItems_step {fuel : ℕ} (hvalue : ValueSpec fuel) (hitems : ItemsSpec fuel) : ItemsSpec (fuel + 1) := by
  intro ts text h hfuel rest depth items nodes r hdepth
  cases h with
  | @last t value blanks htext hblanks =>
    simp only [List.length_append, List.length_cons, List.length_nil] at hfuel
    have hskip : skip (blanks ++ ']' :: rest) = ']' :: rest := skip_append hblanks (ends_blank_cons (by decide))
    rw [List.append_assoc, List.append_assoc, List.cons_append, List.nil_append, parseItems, raiseIf_bind_eq_ok,
      bind_eq_ok, Nat.not_lt]
    simp only [partsOfList, depthOfList, List.append_nil, Nat.max_zero, List.length_singleton]
    have hiff (v : List Char × ℕ) := hvalue htext (by omega) (blanks ++ ']' :: rest)
      (follows_blanks hblanks (.inr (.inl rfl))) depth nodes v hdepth
    constructor
    · rintro ⟨hcount, v, hv, hnext⟩
      obtain ⟨hparts, hle, hnodes, rfl⟩ := (hiff v).mp hv
      dsimp only at hnext
      rw [hskip] at hnext
      cases hnext
      exact ⟨hparts, hle, hcount, hnodes, rfl⟩
    · rintro ⟨hparts, hle, hcount, hnodes, rfl⟩
      refine ⟨hcount, _, (hiff _).mpr ⟨hparts, hle, hnodes, rfl⟩, ?_⟩
      dsimp only
      rw [hskip]
      rfl
  | @more t ts value blanks blanks' more htext hblanks hblanks' hmore =>
    simp only [List.length_append, List.length_cons] at hfuel
    have hskip : skip (blanks ++ ',' :: (blanks' ++ (more ++ rest))) = ',' :: (blanks' ++ (more ++ rest)) :=
      skip_append hblanks (ends_blank_cons (by decide))
    have hskip' := skip_append hblanks' ((hmore.ends rest).mono fun _ hc => .inl hc)
    simp only [List.append_assoc, List.cons_append]
    rw [parseItems, raiseIf_bind_eq_ok, bind_eq_ok, Nat.not_lt]
    simp only [partsOfList, depthOfList, List.length_append, List.length_cons, List.forall_mem_append]
    have hiff (v : List Char × ℕ) := hvalue htext (by omega) (blanks ++ ',' :: (blanks' ++ (more ++ rest)))
      (follows_blanks hblanks (.inl rfl)) depth nodes v hdepth
    have hiff' (count : ℕ) := hitems hmore (by omega) rest depth (items + 1) count r hdepth
    constructor
    · rintro ⟨hcount, v, hv, hnext⟩
      obtain ⟨hparts, hle, hnodes, rfl⟩ := (hiff v).mp hv
      dsimp only at hnext
      rw [hskip] at hnext
      change parseItems fuel depth (items + 1) (skip (blanks' ++ (more ++ rest))) _ = .ok r at hnext
      rw [hskip', hiff'] at hnext
      obtain ⟨hparts', hle', hcount', hnodes', rfl⟩ := hnext
      refine ⟨⟨hparts, hparts'⟩, by omega, by omega, by omega, ?_⟩
      rw [Nat.add_assoc]
    · rintro ⟨⟨hparts, hparts'⟩, hle, hcount, hnodes, rfl⟩
      refine ⟨by omega, _, (hiff _).mpr ⟨hparts, by omega, by omega, rfl⟩, ?_⟩
      dsimp only
      rw [hskip]
      show parseItems fuel depth (items + 1) (skip (blanks' ++ (more ++ rest))) _ = _
      rw [hskip', hiff']
      refine ⟨hparts', by omega, by omega, by omega, ?_⟩
      rw [Nat.add_assoc]

theorem parseMembers_step {fuel : ℕ} (hvalue : ValueSpec fuel) (hmembers : MembersSpec fuel) :
    MembersSpec (fuel + 1) := by
  intro ms text h hfuel rest depth members nodes r hdepth
  cases h with
  | @last us t name before after value blanks hname hbefore hafter htext hblanks =>
    simp only [List.length_append, List.length_cons, List.length_nil] at hfuel
    obtain ⟨body, hbody, hstring⟩ := parseString_quoted hname
      (before ++ ':' :: (after ++ (value ++ (blanks ++ '}' :: rest))))
    have hskip : skip (before ++ ':' :: (after ++ (value ++ (blanks ++ '}' :: rest))))
        = ':' :: (after ++ (value ++ (blanks ++ '}' :: rest))) := skip_append hbefore (ends_blank_cons (by decide))
    have hskipAfter := skip_append hafter ((htext.ends (blanks ++ '}' :: rest)).mono fun _ hc => .inl hc)
    have hskipEnd : skip (blanks ++ '}' :: rest) = '}' :: rest := skip_append hblanks (ends_blank_cons (by decide))
    have hiff (v : List Char × ℕ) := hvalue htext (by omega) (blanks ++ '}' :: rest)
      (follows_blanks hblanks (.inr (.inr rfl))) depth nodes v hdepth
    simp only [List.append_assoc, List.cons_append, List.nil_append]
    rw [hbody, parseMembers.eq_def]
    dsimp only
    rw [raiseIf_bind_eq_ok]
    change (¬members + 1 > maxObjectMembers ∧ (parseString body 0 >>= _) = .ok r) ↔ _
    rw [bind_eq_ok, Nat.not_lt]
    simp only [partsOfMembers, depthOfMembers, List.append_nil, Nat.max_zero, List.length_singleton,
      List.forall_mem_singleton]
    constructor
    · rintro ⟨hcount, afterName, hread, hnext⟩
      obtain ⟨haccepted, rfl⟩ := (hstring _).mp hread
      rw [hskip] at hnext
      change (parseValue fuel depth (skip (after ++ (value ++ (blanks ++ '}' :: rest)))) nodes >>= _) = .ok r at hnext
      rw [hskipAfter] at hnext
      obtain ⟨v, hv, hlast⟩ := bind_eq_ok.mp hnext
      obtain ⟨hparts, hle, hnodes, rfl⟩ := (hiff v).mp hv
      dsimp only at hlast
      rw [hskipEnd] at hlast
      cases hlast
      exact ⟨⟨hparts, haccepted⟩, hle, hcount, hnodes, rfl⟩
    · rintro ⟨⟨hparts, haccepted⟩, hle, hcount, hnodes, rfl⟩
      refine ⟨hcount, _, (hstring _).mpr ⟨haccepted, rfl⟩, ?_⟩
      rw [hskip]
      show (parseValue fuel depth (skip (after ++ (value ++ (blanks ++ '}' :: rest)))) nodes >>= _) = _
      rw [hskipAfter]
      refine bind_eq_ok.mpr ⟨_, (hiff _).mpr ⟨hparts, hle, hnodes, rfl⟩, ?_⟩
      dsimp only
      rw [hskipEnd]
      rfl
  | @more us t ms name before after value blanks blanks' more hname hbefore hafter htext hblanks hblanks' hmore =>
    simp only [List.length_append, List.length_cons] at hfuel
    obtain ⟨body, hbody, hstring⟩ := parseString_quoted hname
      (before ++ ':' :: (after ++ (value ++ (blanks ++ ',' :: (blanks' ++ (more ++ rest))))))
    have hskip : skip (before ++ ':' :: (after ++ (value ++ (blanks ++ ',' :: (blanks' ++ (more ++ rest))))))
        = ':' :: (after ++ (value ++ (blanks ++ ',' :: (blanks' ++ (more ++ rest))))) :=
      skip_append hbefore (ends_blank_cons (by decide))
    have hskipAfter := skip_append hafter
      ((htext.ends (blanks ++ ',' :: (blanks' ++ (more ++ rest)))).mono fun _ hc => .inl hc)
    have hskipEnd : skip (blanks ++ ',' :: (blanks' ++ (more ++ rest))) = ',' :: (blanks' ++ (more ++ rest)) :=
      skip_append hblanks (ends_blank_cons (by decide))
    have hskip' : skip (blanks' ++ (more ++ rest)) = more ++ rest := by
      obtain ⟨tail, hhead⟩ := hmore.head
      exact skip_append hblanks' (by rw [hhead]; exact ends_blank_cons (by decide))
    have hiff (v : List Char × ℕ) := hvalue htext (by omega) (blanks ++ ',' :: (blanks' ++ (more ++ rest)))
      (follows_blanks hblanks (.inl rfl)) depth nodes v hdepth
    have hiff' (count : ℕ) := hmembers hmore (by omega) rest depth (members + 1) count r hdepth
    simp only [List.append_assoc, List.cons_append]
    rw [hbody, parseMembers.eq_def]
    dsimp only
    rw [raiseIf_bind_eq_ok]
    change (¬members + 1 > maxObjectMembers ∧ (parseString body 0 >>= _) = .ok r) ↔ _
    rw [bind_eq_ok, Nat.not_lt]
    simp only [partsOfMembers, depthOfMembers, List.length_append, List.length_cons, List.forall_mem_append,
      List.forall_mem_cons]
    constructor
    · rintro ⟨hcount, afterName, hread, hnext⟩
      obtain ⟨haccepted, rfl⟩ := (hstring _).mp hread
      rw [hskip] at hnext
      change (parseValue fuel depth (skip (after ++ (value ++ (blanks ++ ',' :: (blanks' ++ (more ++ rest)))))) nodes
        >>= _) = .ok r at hnext
      rw [hskipAfter] at hnext
      obtain ⟨v, hv, hlast⟩ := bind_eq_ok.mp hnext
      obtain ⟨hparts, hle, hnodes, rfl⟩ := (hiff v).mp hv
      dsimp only at hlast
      rw [hskipEnd] at hlast
      change parseMembers fuel depth (members + 1) (skip (blanks' ++ (more ++ rest))) _ = .ok r at hlast
      rw [hskip', hiff'] at hlast
      obtain ⟨⟨hparts', haccepted'⟩, hle', hcount', hnodes', rfl⟩ := hlast
      refine ⟨⟨⟨hparts, hparts'⟩, haccepted, haccepted'⟩, by omega, by omega, by omega, ?_⟩
      rw [Nat.add_assoc]
    · rintro ⟨⟨⟨hparts, hparts'⟩, haccepted, haccepted'⟩, hle, hcount, hnodes, rfl⟩
      refine ⟨by omega, _, (hstring _).mpr ⟨haccepted, rfl⟩, ?_⟩
      rw [hskip]
      show (parseValue fuel depth (skip (after ++ (value ++ (blanks ++ ',' :: (blanks' ++ (more ++ rest)))))) nodes
        >>= _) = _
      rw [hskipAfter]
      refine bind_eq_ok.mpr ⟨_, (hiff _).mpr ⟨hparts, by omega, by omega, rfl⟩, ?_⟩
      dsimp only
      rw [hskipEnd]
      show parseMembers fuel depth (members + 1) (skip (blanks' ++ (more ++ rest))) _ = _
      rw [hskip', hiff']
      refine ⟨⟨hparts', haccepted'⟩, by omega, by omega, by omega, ?_⟩
      rw [Nat.add_assoc]

omit [UnicodeDigits] in
theorem scan_ok_iff {scan : Except ScanError (List Char)} {rest : List Char} {t : Tree} (hscan : scan = .ok rest)
    (hpart : AcceptedPart t) (text : List Char) : scan = .ok text ↔ AcceptedPart t ∧ text = rest := by
  rw [hscan]
  constructor
  · intro heq
    cases heq
    exact ⟨hpart, rfl⟩
  · rintro ⟨-, rfl⟩
    rfl

omit [UnicodeDigits] in
/-- The scan of an array or an object between its brackets: its depth is checked, and then what is in it. -/
theorem nested_iff {t : Tree} {inside : List Tree} {within depth nodes : ℕ} {scan : Except ScanError (List Char × ℕ)}
    {r : List Char × ℕ} {rest : List Char} (hparts : t.parts = t :: inside) (hdepth : t.depth = 1 + within)
    (hscan : depth + 1 ≤ maxJsonDepth → nodes + 1 ≤ maxJsonNodes → (scan = .ok r
      ↔ AcceptedPart t ∧ (∀ p ∈ inside, AcceptedPart p) ∧ depth + 1 + within ≤ maxJsonDepth
        ∧ nodes + 1 + inside.length ≤ maxJsonNodes ∧ r = (rest, nodes + 1 + inside.length))) :
    (nodes + 1 ≤ maxJsonNodes ∧ (if depth + 1 > maxJsonDepth then .error .limit else scan) = .ok r)
      ↔ (∀ p ∈ t.parts, AcceptedPart p) ∧ depth + t.depth ≤ maxJsonDepth ∧ nodes + t.parts.length ≤ maxJsonNodes
        ∧ r = (rest, nodes + t.parts.length) := by
  rw [hparts, hdepth, List.forall_mem_cons, List.length_cons]
  have hcount : nodes + (inside.length + 1) = nodes + 1 + inside.length := by omega
  rw [hcount]
  split
  next hdeep =>
    refine iff_of_false (fun hall => by cases hall.2) fun hall => ?_
    have hle := hall.2.1
    omega
  next hdeep =>
    constructor
    · rintro ⟨hnode, hok⟩
      obtain ⟨hpart, hinside, hle, hnodes, hr⟩ := (hscan (by omega) hnode).mp hok
      exact ⟨⟨hpart, hinside⟩, by omega, hnodes, hr⟩
    · rintro ⟨⟨hpart, hinside⟩, hle, hnodes, hr⟩
      have hnode : nodes + 1 ≤ maxJsonNodes := by omega
      exact ⟨hnode, (hscan (by omega) hnode).mpr ⟨hpart, hinside, by omega, hnodes, hr⟩⟩

omit [UnicodeDigits] in
/-- An array or an object without anything in it. -/
theorem empty_iff {t : Tree} {depth nodes : ℕ} {r : List Char × ℕ} {rest : List Char} (hpart : AcceptedPart t)
    (hdeep : depth + 1 ≤ maxJsonDepth) (hnode : nodes + 1 ≤ maxJsonNodes) :
    (.ok (rest, nodes + 1) : Except ScanError (List Char × ℕ)) = .ok r
      ↔ AcceptedPart t ∧ (∀ p ∈ ([] : List Tree), AcceptedPart p) ∧ depth + 1 + 0 ≤ maxJsonDepth
        ∧ nodes + 1 + ([] : List Tree).length ≤ maxJsonNodes ∧ r = (rest, nodes + 1 + ([] : List Tree).length) := by
  constructor
  · intro heq
    cases heq
    exact ⟨hpart, fun p hp => (by cases hp), hdeep, hnode, rfl⟩
  · rintro ⟨-, -, -, -, rfl⟩
    rfl

omit [UnicodeDigits] in
/-- No constant is accepted. -/
theorem constant_iff {name : String} {t : Tree} {scan : Except ScanError (List Char × ℕ)} {r : List Char × ℕ} {Q : Prop}
    (hmem : .constant name ∈ t.parts) (hscan : scan ≠ .ok r) :
    scan = .ok r ↔ (∀ p ∈ t.parts, AcceptedPart p) ∧ Q :=
  iff_of_false hscan fun hall => hall.1 _ hmem

omit [UnicodeDigits] in
theorem not_ok_of_node {nodes : ℕ} {next : ℕ → Except ScanError (List Char × ℕ)} {r : List Char × ℕ}
    (h : next (nodes + 1) ≠ .ok r) : (addNode nodes >>= next) ≠ .ok r := fun hok => h (addNode_bind.mp hok).2

theorem not_ok_of_isdigit {c : Char} {scan : Except ScanError (List Char × ℕ)} {r : List Char × ℕ} (hc : c ≠ '-')
    (h : isdigit c = false) : (if c = '-' ∨ isdigit c = true then scan else .error .malformed) ≠ .ok r := by
  have hneither : ¬(c = '-' ∨ isdigit c = true) := by
    rw [h]
    exact fun hor => hor.elim hc fun hd => by cases hd
  rw [if_neg hneither]
  exact fun heq => by cases heq

theorem parseValue_step {fuel : ℕ} (ih : ∀ m < fuel, ItemsSpec m ∧ MembersSpec m) : ValueSpec fuel := by
  intro t text h hfuel rest hrest depth nodes r hdepth
  obtain ⟨fuel, rfl⟩ : ∃ f, fuel = f + 1 := ⟨fuel - 1, by omega⟩
  cases h with
  | literal hmem =>
    simp only [literals, List.mem_cons, Prod.mk.injEq, List.not_mem_nil, or_false] at hmem
    rcases hmem with ⟨rfl, rfl⟩ | ⟨rfl, rfl⟩ | ⟨rfl, rfl⟩ | ⟨rfl, rfl⟩ | ⟨rfl, rfl⟩ | ⟨rfl, rfl⟩
    · rw [List.cons_append, parseValue, addNode_bind]
      exact leaf_iff rfl rfl hdepth (scan_ok_iff (consumeLiteral_append _ rest) trivial)
    · rw [List.cons_append, parseValue, addNode_bind]
      exact leaf_iff rfl rfl hdepth (scan_ok_iff (consumeLiteral_append _ rest) trivial)
    · rw [List.cons_append, parseValue, addNode_bind]
      exact leaf_iff rfl rfl hdepth (scan_ok_iff (consumeLiteral_append _ rest) trivial)
    · refine constant_iff List.mem_cons_self ?_
      have hN : isdigit 'N' = false := UnicodeDigits.ascii 'N' (by decide)
      rw [List.cons_append, parseValue]
      exact not_ok_of_node (not_ok_of_isdigit (by decide) hN)
    · refine constant_iff List.mem_cons_self ?_
      have hI : isdigit 'I' = false := UnicodeDigits.ascii 'I' (by decide)
      rw [List.cons_append, parseValue]
      exact not_ok_of_node (not_ok_of_isdigit (by decide) hI)
    · refine constant_iff List.mem_cons_self ?_
      rw [List.cons_append, parseValue]
      exact not_ok_of_node fun hok => by cases (map_node.mp hok).1
  | @number token isInteger hnumber =>
    obtain ⟨c, cs, rfl, hc⟩ := hnumber.head
    have hscan := parseNumber_append hnumber hrest
    have hne : ∀ x ∈ ['{', '[', '"', 't', 'f', 'n'], c ≠ x := by
      rintro x hx rfl
      rcases hc with hc | ⟨rfl, -⟩
      · simp only [List.mem_cons, List.not_mem_nil, or_false] at hx
        rcases hx with rfl | rfl | rfl | rfl | rfl | rfl <;> exact absurd hc (by decide)
      · exact absurd hx (by decide)
    have hdigit : c = '-' ∨ isdigit c = true := by
      rcases hc with hc | ⟨hc, -⟩
      · exact .inr (isdigit_of_isDigit hc)
      · exact .inl hc
    rw [List.cons_append] at hscan ⊢
    rw [parseValue, addNode_bind]
    dsimp only
    rw [if_neg (hne '{' (by decide)), if_neg (hne '[' (by decide)), if_neg (hne '"' (by decide)),
      if_neg (hne 't' (by decide)), if_neg (hne 'f' (by decide)), if_neg (hne 'n' (by decide)), if_pos hdigit]
    exact leaf_iff rfl rfl hdepth (scan_ok_iff hscan trivial)
  | @string us text hquoted =>
    obtain ⟨body, hbody, hstring⟩ := parseString_quoted hquoted rest
    rw [hbody, parseValue, addNode_bind]
    exact leaf_iff rfl rfl hdepth hstring
  | @emptyArray blanks hblanks =>
    simp only [List.length_append, List.length_cons, List.length_nil] at hfuel
    have hskip : skip (blanks ++ ']' :: rest) = ']' :: rest := skip_append hblanks (ends_blank_cons (by decide))
    obtain ⟨fuel, rfl⟩ : ∃ f, fuel = f + 1 := ⟨fuel - 1, by omega⟩
    rw [List.cons_append, List.append_assoc, List.cons_append, List.nil_append, parseValue, addNode_bind]
    change (nodes + 1 ≤ maxJsonNodes ∧ parseArray (fuel + 1) (depth + 1) (blanks ++ ']' :: rest) (nodes + 1) = .ok r) ↔ _
    rw [parseArray, hskip]
    refine nested_iff rfl rfl fun hdeep hnode => ?_
    exact empty_iff (Nat.zero_le _) hdeep hnode
  | @array blanks inner ts hblanks hitems =>
    rw [List.length_cons, List.length_append] at hfuel
    have hends := hitems.ends rest
    have hskip := skip_append hblanks (hends.mono fun _ hc => .inl hc)
    obtain ⟨fuel, rfl⟩ : ∃ f, fuel = f + 1 := ⟨fuel - 1, by omega⟩
    rw [List.cons_append, List.append_assoc, parseValue, addNode_bind]
    change (nodes + 1 ≤ maxJsonNodes ∧ parseArray (fuel + 1) (depth + 1) (blanks ++ (inner ++ rest)) (nodes + 1) = .ok r)
      ↔ _
    rw [parseArray, hskip]
    refine nested_iff rfl rfl fun hdeep _ => ?_
    split
    next rest' heq => exact absurd (.inr (.inr (.inl rfl))) (hends _ _ heq)
    next =>
      rw [(ih fuel (by omega)).1 hitems (by omega) rest (depth + 1) 0 (nodes + 1) r hdeep, Nat.zero_add]
      constructor
      · rintro ⟨hparts, hle, hcount, hnodes⟩
        exact ⟨hcount, hparts, hle, hnodes⟩
      · rintro ⟨hcount, hparts, hle, hnodes⟩
        exact ⟨hparts, hle, hcount, hnodes⟩
  | @emptyObject blanks hblanks =>
    simp only [List.length_append, List.length_cons, List.length_nil] at hfuel
    have hskip : skip (blanks ++ '}' :: rest) = '}' :: rest := skip_append hblanks (ends_blank_cons (by decide))
    obtain ⟨fuel, rfl⟩ : ∃ f, fuel = f + 1 := ⟨fuel - 1, by omega⟩
    rw [List.cons_append, List.append_assoc, List.cons_append, List.nil_append, parseValue, addNode_bind]
    change (nodes + 1 ≤ maxJsonNodes ∧ parseObject (fuel + 1) (depth + 1) (blanks ++ '}' :: rest) (nodes + 1) = .ok r) ↔ _
    rw [parseObject, hskip]
    refine nested_iff rfl rfl fun hdeep hnode => ?_
    exact empty_iff ⟨Nat.zero_le _, fun m hm => by cases hm⟩ hdeep hnode
  | @object blanks inner ms hblanks hmembers =>
    rw [List.length_cons, List.length_append] at hfuel
    obtain ⟨tail, hhead⟩ := hmembers.head
    have hskip : skip (blanks ++ (inner ++ rest)) = inner ++ rest :=
      skip_append hblanks (by rw [hhead]; exact ends_blank_cons (by decide))
    obtain ⟨fuel, rfl⟩ : ∃ f, fuel = f + 1 := ⟨fuel - 1, by omega⟩
    rw [List.cons_append, List.append_assoc, parseValue, addNode_bind]
    change (nodes + 1 ≤ maxJsonNodes ∧ parseObject (fuel + 1) (depth + 1) (blanks ++ (inner ++ rest)) (nodes + 1) = .ok r)
      ↔ _
    rw [parseObject, hskip]
    refine nested_iff rfl rfl fun hdeep _ => ?_
    split
    next rest' heq =>
      rw [hhead] at heq
      cases heq
    next =>
      rw [(ih fuel (by omega)).2 hmembers (by omega) rest (depth + 1) 0 (nodes + 1) r hdeep, Nat.zero_add]
      constructor
      · rintro ⟨⟨hparts, hnames⟩, hle, hcount, hnodes⟩
        exact ⟨⟨hcount, hnames⟩, hparts, hle, hnodes⟩
      · rintro ⟨⟨hcount, hnames⟩, hparts, hle, hnodes⟩
        exact ⟨⟨hparts, hnames⟩, hle, hcount, hnodes⟩

theorem parse_spec (fuel : ℕ) : ValueSpec fuel ∧ ItemsSpec fuel ∧ MembersSpec fuel := by
  induction fuel using Nat.strong_induction_on with
  | _ n ih =>
  refine ⟨parseValue_step fun m hm => (ih m hm).2, ?_⟩
  cases n with
  | zero =>
    constructor
    · intro ts text h hfuel
      cases h <;> simp only [List.length_append, List.length_cons] at hfuel <;> omega
    · intro ms text h hfuel
      obtain ⟨tail, rfl⟩ := h.head
      rw [List.length_cons] at hfuel
      omega
  | succ n =>
    obtain ⟨hvalue, hitems, hmembers⟩ := ih n (Nat.lt_succ_self n)
    exact ⟨parseItems_step hvalue hitems, parseMembers_step hvalue hmembers⟩

end values

/-! ## Texts -/

/-- The string or the names of one part. -/
def ownStrings : Tree → List (List ℕ)
  | .string us => [us]
  | .object ms => ms.map Prod.fst
  | _ => []

/-- Every string and every name in a tree. -/
def strings (t : Tree) : List (List ℕ) := t.parts.flatMap ownStrings

/-- What a tree may cost. -/
structure TreeWithinLimits (t : Tree) : Prop where
  depth : t.depth ≤ maxJsonDepth
  nodes : t.parts.length ≤ maxJsonNodes
  members : ∀ ms, .object ms ∈ t.parts → ms.length ≤ maxObjectMembers
  items : ∀ ts, .array ts ∈ t.parts → ts.length ≤ maxArrayItems
  bytes : ∀ us ∈ strings t, decodedBytes us ≤ maxStringBytes

/-- A tree of RFC 8259, with strings of characters. -/
structure Regular (t : Tree) : Prop where
  constants : ∀ name, .constant name ∉ t.parts
  strings : ∀ us ∈ strings t, WellFormedText us

/-- The parts are accepted one by one. -/
theorem forall_acceptedPart_iff {ps : List Tree} :
    (∀ p ∈ ps, AcceptedPart p) ↔ (∀ name, .constant name ∉ ps) ∧ (∀ us ∈ ps.flatMap ownStrings, AcceptedString us)
      ∧ (∀ ms, .object ms ∈ ps → ms.length ≤ maxObjectMembers) ∧ ∀ ts, .array ts ∈ ps → ts.length ≤ maxArrayItems := by
  constructor
  · intro h
    refine ⟨fun name hmem => h _ hmem, fun us hus => ?_, fun ms hmem => (h _ hmem).1, fun ts hmem => h _ hmem⟩
    obtain ⟨p, hp, hown⟩ := List.mem_flatMap.mp hus
    have hpart := h p hp
    cases p with
    | string vs =>
      rw [List.mem_singleton.mp hown]
      exact hpart
    | object ms =>
      obtain ⟨m, hm, rfl⟩ := List.mem_map.mp hown
      exact hpart.2 m hm
    | null => cases hown
    | bool b => cases hown
    | number token isInteger => cases hown
    | constant name => cases hown
    | array ts => cases hown
  · rintro ⟨hconstants, hstrings, hmembers, hitems⟩ p hp
    cases p with
    | string us => exact hstrings us (List.mem_flatMap.mpr ⟨_, hp, List.mem_singleton.mpr rfl⟩)
    | object ms =>
      exact ⟨hmembers ms hp, fun m hm => hstrings m.1 (List.mem_flatMap.mpr ⟨_, hp, List.mem_map_of_mem hm⟩)⟩
    | constant name => exact absurd hp (hconstants name)
    | array ts => exact hitems ts hp
    | null => trivial
    | bool b => trivial
    | number token isInteger => trivial

/-- The preflight accepts a text of the grammar exactly if its tree is regular and within the limits. -/
theorem run_iff [UnicodeDigits] {text : List Char} {t : Tree} (h : DocumentText t text) :
    run text = .ok () ↔ Regular t ∧ TreeWithinLimits t := by
  obtain ⟨before, value, after, rfl, hbefore, hvalue, hafter⟩ := h
  have hskip := skip_append hbefore ((hvalue.ends after).mono fun _ hc => .inl hc)
  have hfollows : AfterValue after := by
    rintro c cs rfl
    exact follows_cons (.inl (hafter c List.mem_cons_self)) c cs rfl
  have hend : skip after = [] := by
    have hnil : Ends (isBlank · = true) [] := fun c cs heq => (by cases heq)
    have heq := skip_append hafter hnil
    rw [List.append_nil] at heq
    exact heq
  have hiff (v : List Char × ℕ) := (parse_spec (3 * (before ++ (value ++ after)).length + 1)).1 hvalue
    (by simp only [List.length_append]; omega) after hfollows 0 0 v (Nat.zero_le _)
  have hrun : run (before ++ (value ++ after)) = .ok ()
      ↔ (∀ p ∈ t.parts, AcceptedPart p) ∧ t.depth ≤ maxJsonDepth ∧ t.parts.length ≤ maxJsonNodes := by
    unfold run
    rw [hskip, bind_eq_ok]
    constructor
    · rintro ⟨v, hv, -⟩
      obtain ⟨hparts, hdepth, hnodes, -⟩ := (hiff v).mp hv
      exact ⟨hparts, by omega, by omega⟩
    · rintro ⟨hparts, hdepth, hnodes⟩
      refine ⟨_, (hiff _).mpr ⟨hparts, by omega, by omega, rfl⟩, ?_⟩
      rw [if_pos hend]
  rw [hrun, forall_acceptedPart_iff]
  constructor
  · rintro ⟨⟨hconstants, hstrings, hmembers, hitems⟩, hdepth, hnodes⟩
    exact ⟨⟨hconstants, fun us hus => (hstrings us hus).1⟩, hdepth, hnodes, hmembers, hitems,
      fun us hus => (hstrings us hus).2⟩
  · rintro ⟨⟨hconstants, hwell⟩, hdepth, hnodes, hmembers, hitems, hbytes⟩
    exact ⟨⟨hconstants, fun us hus => ⟨hwell us hus, hbytes us hus⟩, hmembers, hitems⟩, hdepth, hnodes⟩

end JSONPreflight

end SalienceGate
