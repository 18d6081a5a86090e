import SalienceGate.Lib.Checked
import SalienceGate.Lib.JsonGrammar

/-!
# The JSON preflight of the ATIF importer

`_JSONPreflight` walks a text by hand before the library parser may build anything from it, and counts what the
parser would build. An index into the text is the text from there on. The functions that call each other take fuel,
and `run_terminates` is that a run never uses up what it starts with.
-/

namespace SalienceGate

open Checked JsonText

/-- `str.isdigit`, which is true of the ten digits and of many characters outside ASCII. -/
class UnicodeDigits where
  isdigit : Char → Bool
  ascii : ∀ c : Char, c.toNat < 128 → isdigit c = c.isDigit

namespace JSONPreflight

def maxJsonDepth : ℕ := 32
def maxJsonNodes : ℕ := 1000000
def maxObjectMembers : ℕ := 4096
def maxArrayItems : ℕ := 100000
def maxStringBytes : ℕ := 2 * 1024 * 1024

/-- `_JSONSyntaxError` and `_JSONLimitError`, and that the fuel is used up, which the source does not have. -/
inductive ScanError where
  | malformed
  | limit
  | fuel
  deriving DecidableEq

/-- The bytes of a code point in UTF-8. -/
def utf8Length (u : ℕ) : ℕ := if u < 0x80 then 1 else if u < 0x800 then 2 else if u < 0x10000 then 3 else 4

def addNode (nodes : ℕ) : Except ScanError ℕ :=
  if nodes + 1 > maxJsonNodes then .error .limit else .ok (nodes + 1)

/-- The check at the end of the loop of `_parse_string`. -/
def checkBytes (decodedBytes : ℕ) : Except ScanError Unit := raiseIf (decodedBytes > maxStringBytes) .limit

/-- The loop of `_parse_string`, after the opening quote. -/
def parseString : List Char → ℕ → Except ScanError (List Char)
  | [], _ => .error .malformed
  | character :: text, decodedBytes =>
    if character = '"' then .ok text
    else if character.toNat < 0x20 then .error .malformed
    else if character ≠ '\\' then do
      checkBytes (decodedBytes + utf8Length character.toNat)
      parseString text (decodedBytes + utf8Length character.toNat)
    else
      match text with
      | [] => .error .malformed
      | escape :: text =>
        if escape ∈ ['"', '\\', '/', 'b', 'f', 'n', 'r', 't'] then do
          checkBytes (decodedBytes + 1)
          parseString text (decodedBytes + 1)
        else if escape = 'u' then
          match text with
          | a :: b :: c :: d :: text =>
            match Hex.value? [a, b, c, d] with
            | none => .error .malformed
            | some codepoint =>
              if isHighSurrogate codepoint then
                match text with
                | '\\' :: 'u' :: a :: b :: c :: d :: text =>
                  match Hex.value? [a, b, c, d] with
                  | none => .error .malformed
                  | some low =>
                    if isLowSurrogate low then do
                      checkBytes (decodedBytes + 4)
                      parseString text (decodedBytes + 4)
                    else .error .malformed
                | _ => .error .malformed
              else if isLowSurrogate codepoint then .error .malformed
              else do
                checkBytes (decodedBytes + utf8Length codepoint)
                parseString text (decodedBytes + utf8Length codepoint)
          | _ => .error .malformed
        else .error .malformed

/-- `_consume_literal`. -/
def consumeLiteral (value text : List Char) : Except ScanError (List Char) :=
  expect (text.dropPrefix? value) .malformed

/-! ## Scans that come to an end -/

variable {α β : Type}

/-- The scan does not use up its fuel, and leaves less than `n` characters. -/
def Halts (left : α → List Char) (n : ℕ) (scan : Except ScanError α) : Prop :=
  scan ≠ .error .fuel ∧ ∀ a, scan = .ok a → (left a).length < n

theorem Halts.error {left : α → List Char} {n : ℕ} {e : ScanError} (h : e ≠ .fuel) : Halts left n (.error e) :=
  ⟨fun heq => h (Except.error.inj heq), fun _ heq => by cases heq⟩

theorem Halts.ok {left : α → List Char} {n : ℕ} {a : α} (h : (left a).length < n) : Halts left n (.ok a) := by
  refine ⟨fun heq => (by cases heq), fun b heq => ?_⟩
  cases heq
  exact h

theorem Halts.bind {left : α → List Char} {left' : β → List Char} {n m : ℕ} {scan : Except ScanError α}
    {next : α → Except ScanError β} (h : Halts left n scan)
    (hnext : ∀ a, (left a).length < n → Halts left' m (next a)) : Halts left' m (scan >>= next) := by
  cases scan with
  | error e => exact .error fun he => h.1 (congrArg Except.error he)
  | ok a => exact hnext a (h.2 a rfl)

theorem Halts.map {left : α → List Char} {left' : β → List Char} {n : ℕ} {scan : Except ScanError α} {f : α → β}
    (h : Halts left n scan) (hf : ∀ a, left' (f a) = left a) : Halts left' n (f <$> scan) := by
  cases scan with
  | error e => exact .error fun he => h.1 (congrArg Except.error he)
  | ok a =>
    refine .ok ?_
    rw [hf]
    exact h.2 a rfl

theorem Halts.mono {left : α → List Char} {n m : ℕ} {scan : Except ScanError α} (h : Halts left n scan) (hle : n ≤ m) :
    Halts left m scan := ⟨h.1, fun a ha => Nat.lt_of_lt_of_le (h.2 a ha) hle⟩

/-- A check in front changes nothing, if it does not raise for the fuel. -/
theorem Halts.check {left : α → List Char} {n : ℕ} {c : Prop} [Decidable c] {next : Unit → Except ScanError α}
    (h : Halts left n (next ())) : Halts left n (raiseIf c .limit >>= next) := by
  by_cases hc : c
  · have hraise : raiseIf c ScanError.limit = .error .limit := if_pos hc
    rw [hraise]
    exact .error (by decide)
  · rw [raiseIf_bind_of_not hc]
    exact h

theorem length_skip_le (text : List Char) : (skip text).length ≤ text.length :=
  (List.dropWhile_suffix _).length_le

theorem parseString_halts (text : List Char) (decodedBytes : ℕ) :
    Halts id text.length (parseString text decodedBytes) := by
  fun_induction parseString text decodedBytes with
  | case1 => exact .error (by decide)
  | case2 => exact .ok (by simp)
  | case3 => exact .error (by decide)
  | case4 _ _ _ _ _ _ ih => exact (Halts.check ih).mono (by simp)
  | _ => first | exact .error (by decide) | (refine Halts.mono (Halts.check (by assumption)) ?_; simp only [List.length_cons]; omega)

theorem length_dropWhile_le (p : Char → Bool) (text : List Char) : (text.dropWhile p).length ≤ text.length :=
  (List.dropWhile_suffix p).length_le

theorem consumeLiteral_halts {value text : List Char} (hvalue : value ≠ []) :
    Halts id text.length (consumeLiteral value text) := by
  unfold consumeLiteral
  cases hprefix : text.dropPrefix? value with
  | none => exact .error (by decide)
  | some rest =>
    obtain ⟨front, rfl, heq⟩ := List.dropPrefix?_eq_some_iff.mp hprefix
    have hfront : front = value := eq_of_beq heq
    have hpos := List.length_pos_iff.mpr hvalue
    refine .ok ?_
    rw [hfront, List.length_append]
    show rest.length < _
    omega

/-! ## The scan of a text -/

variable [UnicodeDigits]

open UnicodeDigits (isdigit)

/-- A point and its digits, if there is a point. -/
def parseFraction : List Char → Except ScanError (List Char)
  | [] => .ok []
  | c :: text =>
    if c = '.' then
      if (text.takeWhile isdigit).isEmpty then .error .malformed else .ok (text.dropWhile isdigit)
    else .ok (c :: text)

/-- The digits of an exponent, behind its sign if it has one. -/
def parseExponentDigits (text : List Char) : Except ScanError (List Char) :=
  if (text.takeWhile isdigit).isEmpty then .error .malformed else .ok (text.dropWhile isdigit)

/-- An exponent, if there is one. -/
def parseExponent : List Char → Except ScanError (List Char)
  | [] => .ok []
  | c :: text =>
    if c = 'e' ∨ c = 'E' then
      match text with
      | [] => parseExponentDigits []
      | sign :: rest => parseExponentDigits (if sign = '+' ∨ sign = '-' then rest else sign :: rest)
    else .ok (c :: text)

/-- The digits of a number before its fraction. -/
def parseInteger : List Char → Except ScanError (List Char)
  | [] => .error .malformed
  | c :: text =>
    if c = '0' then
      match text with
      | [] => .ok []
      | d :: rest => if isdigit d then .error .malformed else .ok (d :: rest)
    else if '1' ≤ c ∧ c ≤ '9' then .ok ((c :: text).dropWhile isdigit)
    else .error .malformed

/-- `_parse_number`. -/
def parseNumber (text : List Char) : Except ScanError (List Char) := do
  let text ← parseInteger (if text.head? = some '-' then text.tail else text)
  let text ← parseFraction text
  parseExponent text

mutual

/-- `_parse_value`: the text after the value, and the nodes counted so far. -/
def parseValue : ℕ → ℕ → List Char → ℕ → Except ScanError (List Char × ℕ)
  | 0, _, _, _ => .error .fuel
  | fuel + 1, depth, text, nodes => do
    let nodes ← addNode nodes
    match text with
    | [] => .error .malformed
    | token :: rest =>
      if token = '{' then parseObject fuel (depth + 1) rest nodes
      else if token = '[' then parseArray fuel (depth + 1) rest nodes
      else if token = '"' then (·, nodes) <$> parseString rest 0
      else if token = 't' then (·, nodes) <$> consumeLiteral ['t', 'r', 'u', 'e'] (token :: rest)
      else if token = 'f' then (·, nodes) <$> consumeLiteral ['f', 'a', 'l', 's', 'e'] (token :: rest)
      else if token = 'n' then (·, nodes) <$> consumeLiteral ['n', 'u', 'l', 'l'] (token :: rest)
      else if token = '-' ∨ isdigit token then (·, nodes) <$> parseNumber (token :: rest)
      else .error .malformed

/-- `_parse_object`, after the opening brace. -/
def parseObject : ℕ → ℕ → List Char → ℕ → Except ScanError (List Char × ℕ)
  | 0, _, _, _ => .error .fuel
  | fuel + 1, depth, text, nodes =>
    if depth > maxJsonDepth then .error .limit
    else
      match skip text with
      | '}' :: rest => .ok (rest, nodes)
      | inner => parseMembers fuel depth 0 inner nodes

/-- The loop of `_parse_object`. -/
def parseMembers : ℕ → ℕ → ℕ → List Char → ℕ → Except ScanError (List Char × ℕ)
  | 0, _, _, _, _ => .error .fuel
  | fuel + 1, depth, members, text, nodes => do
    raiseIf (members + 1 > maxObjectMembers) .limit
    match text with
    | '"' :: text =>
      let text ← parseString text 0
      match skip text with
      | ':' :: text =>
        let value ← parseValue fuel depth (skip text) nodes
        match skip value.1 with
        | '}' :: rest => .ok (rest, value.2)
        | ',' :: rest => parseMembers fuel depth (members + 1) (skip rest) value.2
        | _ => .error .malformed
      | _ => .error .malformed
    | _ => .error .malformed

/-- `_parse_array`, after the opening bracket. -/
def parseArray : ℕ → ℕ → List Char → ℕ → Except ScanError (List Char × ℕ)
  | 0, _, _, _ => .error .fuel
  | fuel + 1, depth, text, nodes =>
    if depth > maxJsonDepth then .error .limit
    else
      match skip text with
      | ']' :: rest => .ok (rest, nodes)
      | inner => parseItems fuel depth 0 inner nodes

/-- The loop of `_parse_array`. -/
def parseItems : ℕ → ℕ → ℕ → List Char → ℕ → Except ScanError (List Char × ℕ)
  | 0, _, _, _, _ => .error .fuel
  | fuel + 1, depth, items, text, nodes => do
    raiseIf (items + 1 > maxArrayItems) .limit
    let value ← parseValue fuel depth text nodes
    match skip value.1 with
    | ']' :: rest => .ok (rest, value.2)
    | ',' :: rest => parseItems fuel depth (items + 1) (skip rest) value.2
    | _ => .error .malformed

end

/-- `_JSONPreflight.run`. -/
def run (text : List Char) : Except ScanError Unit := do
  let value ← parseValue (3 * text.length + 1) 0 (skip text) 0
  if skip value.1 = [] then .ok () else .error .malformed


/-! ## Termination -/

omit [UnicodeDigits] in
theorem isDigit_iff {c : Char} : c.isDigit = true ↔ 48 ≤ c.toNat ∧ c.toNat ≤ 57 := by
  unfold Char.isDigit
  rw [Bool.and_eq_true, decide_eq_true_eq, decide_eq_true_eq]
  exact Iff.rfl

omit [UnicodeDigits] in
theorem one_le_and_le_nine {c : Char} : '1' ≤ c ∧ c ≤ '9' ↔ 49 ≤ c.toNat ∧ c.toNat ≤ 57 := Iff.rfl

theorem isdigit_of_isDigit {c : Char} (h : c.isDigit = true) : isdigit c = true := by
  have hle := (isDigit_iff.mp h).2
  rw [UnicodeDigits.ascii c (by omega), h]

theorem parseInteger_halts (text : List Char) : Halts id text.length (parseInteger text) := by
  cases text with
  | nil => exact .error (by decide)
  | cons c text =>
    rw [parseInteger.eq_def]
    dsimp only
    split
    next =>
      cases text with
      | nil => exact .ok (by simp)
      | cons d rest =>
        dsimp only
        split
        · exact .error (by decide)
        · exact .ok (by simp)
    next =>
      split
      next hdigit =>
        -- the digit is a digit of `isdigit` too, and is dropped
        have hc : isdigit c = true := by
          rw [one_le_and_le_nine] at hdigit
          exact isdigit_of_isDigit (isDigit_iff.mpr ⟨by omega, hdigit.2⟩)
        rw [List.dropWhile_cons_of_pos hc]
        have hle := length_dropWhile_le isdigit text
        exact .ok (by simp only [id, List.length_cons]; omega)
      next => exact .error (by decide)

theorem parseFraction_halts (text : List Char) : Halts id (text.length + 1) (parseFraction text) := by
  cases text with
  | nil => exact .ok (by simp)
  | cons c text =>
    rw [parseFraction]
    split
    next =>
      split
      next => exact .error (by decide)
      next =>
        have hle := length_dropWhile_le isdigit text
        exact .ok (by simp only [id, List.length_cons]; omega)
    next => exact .ok (by simp)

theorem parseExponentDigits_halts (text : List Char) : Halts id (text.length + 1) (parseExponentDigits text) := by
  unfold parseExponentDigits
  split
  next => exact .error (by decide)
  next =>
    have hle := length_dropWhile_le isdigit text
    exact .ok (by simp only [id]; omega)

theorem parseExponent_halts (text : List Char) : Halts id (text.length + 1) (parseExponent text) := by
  cases text with
  | nil => exact .ok (by simp)
  | cons c text =>
    rw [parseExponent.eq_def]
    dsimp only
    split
    next =>
      cases text with
      | nil => exact (parseExponentDigits_halts []).mono (by simp)
      | cons sign rest =>
        refine (parseExponentDigits_halts _).mono ?_
        split <;> simp only [List.length_cons] <;> omega
    next => exact .ok (by simp)

theorem parseNumber_halts (text : List Char) : Halts id text.length (parseNumber text) := by
  unfold parseNumber
  have hle : (if text.head? = some '-' then text.tail else text).length ≤ text.length := by
    split
    · rw [List.length_tail]
      omega
    · exact Nat.le_refl _
  refine (parseInteger_halts _).bind fun afterInteger hinteger => ?_
  refine (parseFraction_halts _).bind fun afterFraction hfraction => ?_
  simp only [id] at hinteger hfraction
  exact (parseExponent_halts _).mono (by omega)

/-- With three steps for each character, the scan of a value and of what is in it comes to its end. -/
theorem parse_halts (fuel : ℕ) :
    (∀ depth text nodes, 3 * text.length + 1 ≤ fuel →
      Halts Prod.fst text.length (parseValue fuel depth text nodes))
    ∧ (∀ depth text nodes, 3 * text.length + 3 ≤ fuel →
      Halts Prod.fst (text.length + 1) (parseObject fuel depth text nodes))
    ∧ (∀ depth members text nodes, 3 * text.length + 2 ≤ fuel →
      Halts Prod.fst text.length (parseMembers fuel depth members text nodes))
    ∧ (∀ depth text nodes, 3 * text.length + 3 ≤ fuel →
      Halts Prod.fst (text.length + 1) (parseArray fuel depth text nodes))
    ∧ ∀ depth items text nodes, 3 * text.length + 2 ≤ fuel →
      Halts Prod.fst text.length (parseItems fuel depth items text nodes) := by
  induction fuel with
  | zero =>
    exact ⟨fun _ _ _ h => by omega, fun _ _ _ h => by omega, fun _ _ _ _ h => by omega, fun _ _ _ h => by omega,
      fun _ _ _ _ h => by omega⟩
  | succ fuel ih =>
    obtain ⟨ihValue, ihObject, ihMembers, ihArray, ihItems⟩ := ih
    refine ⟨fun depth text nodes hfuel => ?_, fun depth text nodes hfuel => ?_, fun depth members text nodes hfuel => ?_,
      fun depth text nodes hfuel => ?_, fun depth items text nodes hfuel => ?_⟩
    · rw [parseValue]
      unfold addNode
      split
      next => exact .error (by decide)
      next =>
      show Halts Prod.fst _ (match text with | [] => _ | token :: rest => _)
      cases text with
      | nil => exact .error (by decide)
      | cons token rest =>
        have hlength : (token :: rest).length = rest.length + 1 := rfl
        rw [hlength] at hfuel ⊢
        have hscan {scan : Except ScanError (List Char)} {count : ℕ} (h : Halts id (rest.length + 1) scan) :
            Halts Prod.fst (rest.length + 1) ((·, count) <$> scan) := h.map fun _ => rfl
        dsimp only
        split
        next => exact ihObject _ _ _ (by omega)
        next =>
        split
        next => exact ihArray _ _ _ (by omega)
        next =>
        split
        next => exact hscan ((parseString_halts rest 0).mono (Nat.le_succ _))
        next =>
        split
        next => exact hscan (consumeLiteral_halts (by simp))
        next =>
        split
        next => exact hscan (consumeLiteral_halts (by simp))
        next =>
        split
        next => exact hscan (consumeLiteral_halts (by simp))
        next =>
        split
        next => exact hscan (parseNumber_halts _)
        next => exact .error (by decide)
    · rw [parseObject]
      have hskip := length_skip_le text
      split
      next => exact .error (by decide)
      next =>
      split
      next rest heq =>
        rw [heq, List.length_cons] at hskip
        exact .ok (by dsimp only; omega)
      next => exact (ihMembers _ _ _ _ (by omega)).mono (by omega)
    · rw [parseMembers.eq_def]
      refine Halts.check ?_
      split
      next text =>
        rw [List.length_cons] at hfuel ⊢
        refine (parseString_halts text 0).bind fun afterName hname => ?_
        have hskip := length_skip_le afterName
        split
        next afterColon hcolon =>
          rw [hcolon, List.length_cons] at hskip
          have hskipColon := length_skip_le afterColon
          simp only [id] at hname
          refine (ihValue _ _ _ (by omega)).bind fun value hvalue => ?_
          have hskipValue := length_skip_le value.1
          split
          next rest hclosed =>
            rw [hclosed, List.length_cons] at hskipValue
            exact .ok (by dsimp only; omega)
          next rest hcomma =>
            rw [hcomma, List.length_cons] at hskipValue
            have hskipRest := length_skip_le rest
            exact (ihMembers _ _ _ _ (by omega)).mono (by omega)
          next => exact .error (by decide)
        next => exact .error (by decide)
      next => exact .error (by decide)
    · rw [parseArray]
      have hskip := length_skip_le text
      split
      next => exact .error (by decide)
      next =>
      split
      next rest heq =>
        rw [heq, List.length_cons] at hskip
        exact .ok (by dsimp only; omega)
      next => exact (ihItems _ _ _ _ (by omega)).mono (by omega)
    · rw [parseItems]
      refine Halts.check ?_
      refine (ihValue _ _ _ (by omega)).bind fun value hvalue => ?_
      have hskipValue := length_skip_le value.1
      split
      next rest hclosed =>
        rw [hclosed, List.length_cons] at hskipValue
        exact .ok (by dsimp only; omega)
      next rest hcomma =>
        rw [hcomma, List.length_cons] at hskipValue
        have hskipRest := length_skip_le rest
        exact (ihItems _ _ _ _ (by omega)).mono (by omega)
      next => exact .error (by decide)

/-- The scan of a text comes to its end, whatever the text is. -/
theorem run_terminates (text : List Char) : run text ≠ .error .fuel := by
  have hskip := length_skip_le text
  have hvalue : Halts Prod.fst (skip text).length (parseValue (3 * text.length + 1) 0 (skip text) 0) :=
    (parse_halts _).1 _ _ _ (by omega)
  have hrun : Halts (fun _ => []) 1 (run text) := by
    unfold run
    refine hvalue.bind fun value _ => ?_
    split
    · exact .ok (by simp)
    · exact .error (by decide)
  exact hrun.1

end JSONPreflight

end SalienceGate
