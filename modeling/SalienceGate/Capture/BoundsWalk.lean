import SalienceGate.Capture.Schema
import SalienceGate.Lib.Loops
import SalienceGate.Lib.PyValue

/-!
# The walk that bounds a decoded document

`_json_within_capture_bounds` of the hook and `_bounded_json` of the capture schemas are one loop with other constants.
It keeps the values still to visit on a stack, counts a value when it pops it, and refuses a list or a dictionary when
its values would not all be counted within the limit. What it still has to see is the parts of the values on its stack,
in some order, and whether these fit in what is left of the limits is what no pass changes (`pass_goes`).
-/

namespace SalienceGate

open Loops

/-- `CAPTURE_NATIVE_JSON_LIMITS`. -/
def captureNativeJsonLimits : CaptureJSONLimits where
  maxBytes := 2 * 1024 * 1024
  maxDepth := 32
  maxItems := 10000
  maxStringBytes := 1 * 1024 * 1024

/-- The constants of the hook: `_MAX_CAPTURE_NATIVE_BYTES`, `_MAX_CAPTURE_JSON_DEPTH`, `_MAX_CAPTURE_JSON_ITEMS` and
`_MAX_CAPTURE_JSON_STRING_BYTES`. -/
def captureHookJsonLimits : CaptureJSONLimits where
  maxBytes := 2 * 1024 * 1024
  maxDepth := 32
  maxItems := 10000
  maxStringBytes := 1 * 1024 * 1024

/-- The variables of the loop. The value that was pushed last is the first of the stack. -/
structure BoundsWalk where
  items : ℕ
  stringBytes : ℕ
  stack : List (PyValue × ℕ)

namespace BoundsWalk

/-- One member of a dictionary: its key is counted and its value pushed. There is nothing where the walk returns `False`
or the encoding raises, which the walk answers with `False`. -/
def pushMember (depth : ℕ) (pushed : ℕ × List (PyValue × ℕ)) (member : PyKey × PyValue) :
    Option (ℕ × List (PyValue × ℕ)) :=
  match member.1 with
  | .other => none
  | .str key => (PyStr.encode key).map fun bytes => (pushed.1 + bytes.length, (member.2, depth) :: pushed.2)

/-- What a pass does with the value it has popped and counted, by its type: the bytes and the stack after it. -/
def visit (limits : CaptureJSONLimits) (items : ℕ) (item : PyValue) (depth stringBytes : ℕ)
    (stack : List (PyValue × ℕ)) : Option (ℕ × List (PyValue × ℕ)) :=
  match item with
  | .dict members =>
    if (members.length : ℤ) > limits.maxItems - items - stack.length then none
    else members.foldlM (pushMember (depth + 1)) (stringBytes, stack)
  | .list elements =>
    if (elements.length : ℤ) > limits.maxItems - items - stack.length then none
    else some (stringBytes, (elements.map fun nested => (nested, depth + 1)).reverse ++ stack)
  | .str text => (PyStr.encode text).map fun bytes => (stringBytes + bytes.length, stack)
  | .none => some (stringBytes, stack)
  | .bool _ => some (stringBytes, stack)
  | .int _ => some (stringBytes, stack)
  | .float x => if x.isFinite then some (stringBytes, stack) else none
  | .other => none

/-- A pass of the loop. -/
def pass (limits : CaptureJSONLimits) (s : BoundsWalk) : Bool ⊕ BoundsWalk :=
  match s.stack with
  | [] => .inl true
  | (item, depth) :: stack =>
    let items := s.items + 1
    if items > limits.maxItems ∨ depth > limits.maxDepth then .inl false
    else
      match visit limits items item depth s.stringBytes stack with
      | none => .inl false
      | some (stringBytes, stack) =>
        if stringBytes > limits.maxStringBytes then .inl false else .inr ⟨items, stringBytes, stack⟩

/-- Before the loop. -/
def start (value : PyValue) : BoundsWalk := ⟨0, 0, [(value, 0)]⟩

/-- The walk. Every pass but the last counts a value, so one pass more than the values that may be counted is enough
for its answer. -/
def walk (limits : CaptureJSONLimits) (value : PyValue) : Option Bool :=
  loop (pass limits) (limits.maxItems + 1) (start value)

end BoundsWalk

/-- `_json_within_capture_bounds`. -/
def jsonWithinCaptureBounds (value : PyValue) : Option Bool := BoundsWalk.walk captureHookJsonLimits value

/-- `_bounded_json`, of a decoded value. -/
def boundedPyJson (value : PyValue) (limits : CaptureJSONLimits) : Option Bool := BoundsWalk.walk limits value

/-- What the limits say of a value: how many values there are in it, how deep each lies, that each is of a JSON type
(with finite numbers and string keys), that its strings and keys are well-formed, and the bytes of all of these. -/
structure WithinCaptureBounds (limits : CaptureJSONLimits) (value : PyValue) : Prop where
  items : (value.parts 0).length ≤ limits.maxItems
  depth : ∀ part ∈ value.parts 0, part.2 ≤ limits.maxDepth
  json : ∀ part ∈ value.parts 0, part.1.isJson = true
  strings : ∀ part ∈ value.parts 0, ∀ text ∈ part.1.ownStrings, PyStr.wellFormed text = true
  stringBytes : ((value.parts 0).map fun part => part.1.ownBytes).sum ≤ limits.maxStringBytes

namespace BoundsWalk

/-! ## One value -/

theorem pushMembers_eq (depth : ℕ) (members : List (PyKey × PyValue)) (stringBytes : ℕ) (stack : List (PyValue × ℕ)) :
    members.foldlM (pushMember depth) (stringBytes, stack)
      = if (PyValue.dict members).sound then
          some (stringBytes + (PyValue.dict members).ownBytes,
            (members.map fun member => (member.2, depth)).reverse ++ stack)
        else none := by
  induction members generalizing stringBytes stack with
  | nil => rfl
  | cons member members ih =>
    obtain ⟨key, nested⟩ := member
    rw [List.foldlM_cons]
    cases key with
    | other => rfl
    | str key =>
      have hsound : (PyValue.dict ((.str key, nested) :: members)).sound
          = (key.wellFormed && (PyValue.dict members).sound) := by
        show (_ && (_ && _)) = (_ && (_ && _))
        rw [Bool.and_left_comm]
        rfl
      have hbytes : (PyValue.dict ((.str key, nested) :: members)).ownBytes
          = key.utf8Size + (PyValue.dict members).ownBytes := rfl
      rw [hsound, hbytes]
      rcases PyStr.encode_cases key with ⟨hwell, bytes, hencode, hlength⟩ | ⟨hill, hencode⟩
      · have hpush : pushMember depth (stringBytes, stack) (.str key, nested)
            = some (stringBytes + bytes.length, (nested, depth) :: stack) := by
          show (PyStr.encode key).map _ = _
          rw [hencode]
          rfl
        rw [hpush, Option.bind_eq_bind, Option.bind_some, ih, hwell, Bool.true_and, hlength, List.map_cons,
          List.reverse_cons, List.append_assoc, Nat.add_assoc]
        rfl
      · have hpush : pushMember depth (stringBytes, stack) (.str key, nested) = none := by
          show (PyStr.encode key).map _ = _
          rw [hencode]
          rfl
        rw [hpush, hill]
        rfl

/-- A value is accepted if it is sound and its values can still be counted: its bytes are added, and they are pushed. -/
theorem visit_eq {limits : CaptureJSONLimits} {items : ℕ} {stack : List (PyValue × ℕ)}
    (hleft : items + stack.length ≤ limits.maxItems) (item : PyValue) (depth stringBytes : ℕ) :
    visit limits items item depth stringBytes stack
      = if item.sound ∧ items + stack.length + item.children.length ≤ limits.maxItems then
          some (stringBytes + item.ownBytes, (item.children.map fun nested => (nested, depth + 1)).reverse ++ stack)
        else none := by
  cases item with
  | none => exact (if_pos ⟨rfl, hleft⟩).symm
  | bool b => exact (if_pos ⟨rfl, hleft⟩).symm
  | int i => exact (if_pos ⟨rfl, hleft⟩).symm
  | other => exact (if_neg fun h => absurd h.1 Bool.false_ne_true).symm
  | float x =>
    have hsound : (PyValue.float x).sound = x.isFinite := Bool.and_true _
    show (if x.isFinite = true then _ else _) = _
    by_cases hx : x.isFinite = true
    · rw [if_pos hx]
      exact (if_pos ⟨hsound.trans hx, hleft⟩).symm
    · rw [if_neg hx]
      exact (if_neg fun h => hx (hsound.symm.trans h.1)).symm
  | str text =>
    have hsound : (PyValue.str text).sound = text.wellFormed := Bool.and_true _
    show (PyStr.encode text).map _ = _
    rcases PyStr.encode_cases text with ⟨hwell, bytes, hencode, hlength⟩ | ⟨hill, hencode⟩
    · rw [hencode, Option.map_some, hlength, if_pos ⟨hsound.trans hwell, hleft⟩]
      rfl
    · rw [hencode, Option.map_none, if_neg]
      intro h
      rw [hsound, hill] at h
      exact Bool.false_ne_true h.1
  | list elements =>
    have hiff : ((elements.length : ℤ) > limits.maxItems - items - stack.length)
        ↔ ¬items + stack.length + elements.length ≤ limits.maxItems := by omega
    by_cases hfits : items + stack.length + elements.length ≤ limits.maxItems
    · exact (if_neg fun h => hiff.mp h hfits).trans (if_pos ⟨rfl, hfits⟩).symm
    · exact (if_pos (hiff.mpr hfits)).trans (if_neg fun h => hfits h.2).symm
  | dict members =>
    have hiff : ((members.length : ℤ) > limits.maxItems - items - stack.length)
        ↔ ¬items + stack.length + members.length ≤ limits.maxItems := by omega
    have hlength : (PyValue.dict members).children.length = members.length := List.length_map _
    show (if _ then _ else _) = _
    rw [hlength]
    by_cases hfits : items + stack.length + members.length ≤ limits.maxItems
    · have hpushed : (PyValue.dict members).children.map (fun nested => (nested, depth + 1))
          = members.map fun member => (member.2, depth + 1) := List.map_map
      rw [if_neg fun h => hiff.mp h hfits, pushMembers_eq, hpushed]
      by_cases hsound : (PyValue.dict members).sound = true
      · rw [if_pos hsound, if_pos ⟨hsound, hfits⟩]
      · rw [if_neg hsound, if_neg fun h => hsound h.1]
    · rw [if_pos (hiff.mpr hfits), if_neg fun h => hfits h.2]

/-! ## What is left to see -/

/-- The values that the walk has still to count. -/
def pending (stack : List (PyValue × ℕ)) : List (PyValue × ℕ) := stack.flatMap fun entry => entry.1.parts entry.2

/-- Whether so many values and bytes and the values still to count are within limits. -/
def fits (limits : CaptureJSONLimits) (items stringBytes : ℕ) (parts : List (PyValue × ℕ)) : Bool :=
  items + parts.length ≤ limits.maxItems && parts.all (fun part => part.2 ≤ limits.maxDepth && part.1.sound)
    && stringBytes + (parts.map fun part => part.1.ownBytes).sum ≤ limits.maxStringBytes

variable {limits : CaptureJSONLimits} {items stringBytes depth : ℕ} {item : PyValue} {parts others : List (PyValue × ℕ)}
  {stack : List (PyValue × ℕ)}

theorem fits_iff : fits limits items stringBytes parts = true ↔ items + parts.length ≤ limits.maxItems
    ∧ (∀ part ∈ parts, part.2 ≤ limits.maxDepth ∧ part.1.sound = true)
    ∧ stringBytes + (parts.map fun part => part.1.ownBytes).sum ≤ limits.maxStringBytes := by
  unfold fits
  simp only [Bool.and_eq_true, decide_eq_true_eq, List.all_eq_true, and_assoc]

/-- Only what is marked matters, and not its order. -/
theorem fits_congr (h : (parts.map PyValue.mark).Perm (others.map PyValue.mark)) :
    fits limits items stringBytes parts = fits limits items stringBytes others := by
  have hlength : parts.length = others.length := by
    have hmarks := h.length_eq
    rwa [List.length_map, List.length_map] at hmarks
  have hsum : (parts.map fun part => part.1.ownBytes).sum = (others.map fun part => part.1.ownBytes).sum := by
    have hbytes := (h.map fun mark => mark.2.1).sum_nat
    rwa [List.map_map, List.map_map] at hbytes
  have hall : parts.all (fun part => part.2 ≤ limits.maxDepth && part.1.sound)
      = others.all (fun part => part.2 ≤ limits.maxDepth && part.1.sound) := by
    have hmarks := h.all_eq (f := fun mark => decide (mark.2.2 ≤ limits.maxDepth) && mark.1)
    rwa [List.all_map, List.all_map] at hmarks
  unfold fits
  rw [hlength, hsum, hall]

/-- A value that is counted is within limits by itself, and the others are in what is left. -/
theorem fits_cons : fits limits items stringBytes ((item, depth) :: parts) = true
    ↔ depth ≤ limits.maxDepth ∧ item.sound = true
      ∧ fits limits (items + 1) (stringBytes + item.ownBytes) parts = true := by
  rw [fits_iff, fits_iff, List.forall_mem_cons, List.length_cons, List.map_cons, List.sum_cons]
  dsimp only
  constructor
  · rintro ⟨hitems, ⟨⟨hdepth, hsound⟩, hparts⟩, hbytes⟩
    exact ⟨hdepth, hsound, by omega, hparts, by omega⟩
  · rintro ⟨hdepth, hsound, hitems, hparts, hbytes⟩
    exact ⟨by omega, ⟨⟨hdepth, hsound⟩, hparts⟩, by omega⟩

/-- Every value on the stack is one to count. -/
theorem length_le_pending (stack : List (PyValue × ℕ)) : stack.length ≤ (pending stack).length := by
  induction stack with
  | nil => exact le_refl 0
  | cons entry stack ih =>
    have hpos := entry.1.parts_length_pos entry.2
    unfold pending at ih ⊢
    rw [List.flatMap_cons, List.length_append, List.length_cons]
    omega

/-- The stack with a value on it has still to count the value and what the stack with its values instead has. -/
theorem pending_pop (item : PyValue) (depth : ℕ) (stack : List (PyValue × ℕ)) :
    (pending ((item, depth) :: stack)).Perm ((item, depth)
      :: pending ((item.children.map fun nested => (nested, depth + 1)).reverse ++ stack)) := by
  have hpushed : (pending (item.children.map fun nested => (nested, depth + 1)).reverse).Perm
      (item.children.flatMap fun nested => nested.parts (depth + 1)) := by
    have hperm := (item.children.map fun nested => (nested, depth + 1)).reverse_perm
    have hflat := hperm.flatMap_right fun entry : PyValue × ℕ => entry.1.parts entry.2
    rwa [List.flatMap_map] at hflat
  unfold pending at hpushed ⊢
  rw [List.flatMap_cons, List.flatMap_append, PyValue.parts_eq, List.cons_append]
  exact (hpushed.symm.append_right _).cons _

/-- The bounds that hold at the head of the loop. -/
structure Within (limits : CaptureJSONLimits) (s : BoundsWalk) : Prop where
  items : s.items + s.stack.length ≤ limits.maxItems
  stringBytes : s.stringBytes ≤ limits.maxStringBytes

/-- What the walk will answer. -/
def answer (limits : CaptureJSONLimits) (s : BoundsWalk) : Bool :=
  fits limits s.items s.stringBytes (pending s.stack)

/-- A pass with a value on the stack goes on exactly if the value is within limits by itself and its values can still
be counted. -/
theorem pass_eq {s : BoundsWalk} (hs : Within limits s) (hstack : s.stack = (item, depth) :: stack) :
    pass limits s
      = if depth ≤ limits.maxDepth ∧ item.sound = true
            ∧ s.items + 1 + stack.length + item.children.length ≤ limits.maxItems
            ∧ s.stringBytes + item.ownBytes ≤ limits.maxStringBytes then
          .inr ⟨s.items + 1, s.stringBytes + item.ownBytes,
            (item.children.map fun nested => (nested, depth + 1)).reverse ++ stack⟩
        else .inl false := by
  have hitems := hs.items
  rw [hstack, List.length_cons] at hitems
  have hleft : s.items + 1 + stack.length ≤ limits.maxItems := by omega
  unfold pass
  rw [hstack]
  dsimp only
  rw [visit_eq hleft]
  by_cases hdepth : depth ≤ limits.maxDepth
  · rw [if_neg (by omega : ¬(s.items + 1 > limits.maxItems ∨ depth > limits.maxDepth))]
    by_cases hvisit : item.sound = true ∧ s.items + 1 + stack.length + item.children.length ≤ limits.maxItems
    · rw [if_pos hvisit]
      dsimp only
      by_cases hbytes : s.stringBytes + item.ownBytes ≤ limits.maxStringBytes
      · rw [if_neg (by omega), if_pos ⟨hdepth, hvisit.1, hvisit.2, hbytes⟩]
      · rw [if_pos (by omega), if_neg fun h => hbytes h.2.2.2]
    · rw [if_neg hvisit, if_neg fun h => hvisit ⟨h.2.1, h.2.2.1⟩]
  · rw [if_pos (by omega : s.items + 1 > limits.maxItems ∨ depth > limits.maxDepth), if_neg fun h => hdepth h.1]

/-- What the walk will answer at a value is what it will answer after it, if it goes on. -/
theorem answer_pop {s : BoundsWalk} (hstack : s.stack = (item, depth) :: stack) : answer limits s = true
    ↔ depth ≤ limits.maxDepth ∧ item.sound = true
      ∧ answer limits ⟨s.items + 1, s.stringBytes + item.ownBytes,
          (item.children.map fun nested => (nested, depth + 1)).reverse ++ stack⟩ = true := by
  unfold answer
  rw [hstack, fits_congr ((pending_pop item depth stack).map PyValue.mark), fits_cons]

/-- The values of an accepted value are among those still to count, and its bytes are no more than the limit's. -/
theorem room_of_answer {s : BoundsWalk} (h : answer limits s = true) :
    s.items + s.stack.length ≤ limits.maxItems ∧ s.stringBytes ≤ limits.maxStringBytes := by
  obtain ⟨hitems, -, hbytes⟩ := fits_iff.mp h
  have hstack := length_le_pending s.stack
  omega

/-- The walk leaves the loop with its answer: when nothing is pending, or at a value that is refused. -/
theorem pass_leaves {s : BoundsWalk} {b : Bool} (hs : Within limits s) (h : pass limits s = .inl b) :
    answer limits s = b := by
  cases hstack : s.stack with
  | nil =>
    have hitems := hs.items
    unfold pass at h
    rw [hstack] at h hitems
    cases h
    unfold answer
    rw [hstack, fits_iff]
    exact ⟨hitems, fun part hpart => absurd hpart List.not_mem_nil, hs.stringBytes⟩
  | cons entry stack =>
    obtain ⟨item, depth⟩ := entry
    rw [pass_eq hs hstack] at h
    split at h
    next => cases h
    next hrefused =>
      cases h
      refine Bool.eq_false_of_not_eq_true fun htrue => hrefused ?_
      obtain ⟨hdepth, hsound, hrest⟩ := (answer_pop hstack).mp htrue
      obtain ⟨hroom, hbytes⟩ := room_of_answer hrest
      simp only [List.length_append, List.length_reverse, List.length_map] at hroom
      exact ⟨hdepth, hsound, by omega, hbytes⟩

/-- A pass that goes on counts one value, and keeps the bounds and the answer. -/
theorem pass_goes {s t : BoundsWalk} (hs : Within limits s) (h : pass limits s = .inr t) :
    Within limits t ∧ t.items = s.items + 1 ∧ answer limits s = answer limits t := by
  cases hstack : s.stack with
  | nil =>
    unfold pass at h
    rw [hstack] at h
    cases h
  | cons entry stack =>
    obtain ⟨item, depth⟩ := entry
    rw [pass_eq hs hstack] at h
    split at h
    next haccepted =>
      cases h
      obtain ⟨hdepth, hsound, hroom, hbytes⟩ := haccepted
      refine ⟨⟨?_, hbytes⟩, rfl, ?_⟩
      · show s.items + 1 + ((item.children.map _).reverse ++ stack).length ≤ _
        rw [List.length_append, List.length_reverse, List.length_map]
        omega
      · rw [Bool.eq_iff_iff, answer_pop hstack]
        exact ⟨fun ⟨_, _, hrest⟩ => hrest, fun hrest => ⟨hdepth, hsound, hrest⟩⟩
    next => cases h

theorem within_start (hlimits : 1 ≤ limits.maxItems) (value : PyValue) : Within limits (start value) := by
  refine ⟨?_, Nat.zero_le _⟩
  show 0 + 1 ≤ _
  omega

/-- The walk ends, and answers whether the parts of the value are within limits. -/
theorem walk_eq (hlimits : 1 ≤ limits.maxItems) (value : PyValue) :
    walk limits value = some (fits limits 0 0 (value.parts 0)) := by
  have hanswer : answer limits (start value) = fits limits 0 0 (value.parts 0) := by
    show fits limits 0 0 ([(value, 0)].flatMap _) = _
    rw [List.flatMap_singleton]
  rw [← hanswer]
  unfold walk
  refine loop_eq_some (I := Within limits) (fun s => limits.maxItems - s.items)
    (fun s b hs hleaves => pass_leaves hs hleaves) (fun s t hs hgoes => ?_) (within_start hlimits value) ?_
  · obtain ⟨ht, hitems, hsame⟩ := pass_goes hs hgoes
    have hcounted := ht.items
    refine ⟨ht, ?_, hsame⟩
    omega
  · show limits.maxItems - 0 < limits.maxItems + 1
    omega

-- three values are within a limit of three, and a limit of two refuses them when the list is popped
example : walk ⟨1, 1, 3, 1⟩ (.list [.none, .none]) = some true := by decide
example : walk ⟨1, 1, 2, 1⟩ (.list [.none, .none]) = some false := by decide

theorem fits_parts_iff (value : PyValue) :
    fits limits 0 0 (value.parts 0) = true ↔ WithinCaptureBounds limits value := by
  rw [fits_iff, Nat.zero_add, Nat.zero_add]
  unfold PyValue.sound
  simp only [Bool.and_eq_true, List.all_eq_true]
  constructor
  · rintro ⟨hitems, hparts, hbytes⟩
    exact ⟨hitems, fun part hpart => (hparts part hpart).1, fun part hpart => (hparts part hpart).2.1,
      fun part hpart => (hparts part hpart).2.2, hbytes⟩
  · rintro ⟨hitems, hdepth, hjson, hstrings, hbytes⟩
    exact ⟨hitems, fun part hpart => ⟨hdepth part hpart, hjson part hpart, hstrings part hpart⟩, hbytes⟩

/-- The stacks that the walk holds: at the head of the loop, and while the members of a dictionary are pushed. -/
inductive Holds (limits : CaptureJSONLimits) (value : PyValue) : List (PyValue × ℕ) → Prop
  | head {s : BoundsWalk} : Reaches (pass limits) (start value) s → Holds limits value s.stack
  | pushing {s : BoundsWalk} {members : List (PyKey × PyValue)} {depth : ℕ} {stack : List (PyValue × ℕ)} (k : ℕ)
      {pushed : ℕ × List (PyValue × ℕ)} : Reaches (pass limits) (start value) s →
      s.stack = (.dict members, depth) :: stack →
      ¬(members.length : ℤ) > limits.maxItems - (s.items + 1 : ℕ) - stack.length →
      (members.take k).foldlM (pushMember (depth + 1)) (s.stringBytes, stack) = some pushed →
      Holds limits value pushed.2

/-- The values that are pending at any time are no more than the limit. -/
theorem Holds.length_le (hlimits : 1 ≤ limits.maxItems) {value : PyValue} (h : Holds limits value stack) :
    stack.length ≤ limits.maxItems := by
  have hreached : ∀ {s}, Reaches (pass limits) (start value) s → Within limits s := fun hs =>
    hs.invariant (within_start hlimits value) fun s t hs hgoes => (pass_goes hs hgoes).1
  cases h with
  | head hs =>
    have hitems := (hreached hs).items
    omega
  | @pushing s members depth stack k pushed hs hstack hguard hpushed =>
    rw [pushMembers_eq] at hpushed
    split at hpushed
    next =>
      cases hpushed
      have htake := List.length_take_le' k members
      rw [List.length_append, List.length_reverse, List.length_map]
      omega
    next => cases hpushed

end BoundsWalk

/-! ## Documents of the schemas -/

open PyValue

/-- How many values there are among some parts, the bytes of their strings, and how deep they lie. -/
structure Measures (parts : List (PyValue × ℕ)) (items stringBytes deepest : ℕ) : Prop where
  items : parts.length = items
  stringBytes : (parts.map fun part => part.1.ownBytes).sum = stringBytes
  depth : ∀ limit, (∀ part ∈ parts, part.2 ≤ limit) ↔ deepest ≤ limit

theorem measures_leaf (value : PyValue) (depth : ℕ) : Measures [(value, depth)] 1 value.ownBytes depth :=
  ⟨rfl, rfl, fun _ => List.forall_mem_singleton⟩

/-- The parts of a value join those of the values after it. -/
theorem Measures.merge {first rest : List (PyValue × ℕ)} {head : PyValue × ℕ} {items stringBytes deepest : ℕ}
    {items' stringBytes' deepest' : ℕ} (h : Measures first items stringBytes deepest)
    (h' : Measures (head :: rest) items' stringBytes' deepest') :
    Measures (head :: (first ++ rest)) (items + items') (stringBytes + stringBytes') (max deepest deepest') := by
  have hperm : (head :: (first ++ rest)).Perm (first ++ head :: rest) := List.perm_middle.symm
  refine ⟨?_, ?_, fun limit => ?_⟩
  · rw [hperm.length_eq, List.length_append, h.items, h'.items]
  · rw [(hperm.map _).sum_nat, List.map_append, List.sum_append, h.stringBytes, h'.stringBytes]
  · rw [max_le_iff, ← h.depth limit, ← h'.depth limit, ← List.forall_mem_append]
    simp only [hperm.mem_iff]

theorem ownBytes_members (key : String) (value : Json) (members : List (String × Json)) :
    (PyValue.dict (ofJson.ofMembers ((key, value) :: members))).ownBytes
      = key.utf8ByteSize + (PyValue.dict (ofJson.ofMembers members)).ownBytes := by
  have hsize : (PyStr.ofString key).utf8Size = key.utf8ByteSize := by
    rw [PyStr.utf8Size_ofString, ← Json.utf8Len_eq_sum, ← String.utf8ByteSize_ofList, String.ofList_toList]
  rw [← hsize]
  rfl

mutual

/-- The parts of a document are what its closed forms count. -/
theorem measures_ofJson : ∀ (document : Json) (depth : ℕ),
    Measures ((ofJson document).parts depth) document.items document.stringBytes (depth + document.depth)
  | .null, depth => measures_leaf .none depth
  | .bool b, depth => measures_leaf (.bool b) depth
  | .int i, depth => measures_leaf (.int i) depth
  | .float x, depth => measures_leaf (.float x) depth
  | .str s, depth => by
    have hsize : (PyValue.str (PyStr.ofString s)).ownBytes = s.utf8ByteSize := by
      show (PyStr.ofString s).utf8Size + 0 = _
      rw [PyStr.utf8Size_ofString, ← Json.utf8Len_eq_sum, ← String.utf8ByteSize_ofList, String.ofList_toList,
        Nat.add_zero]
    have hleaf := measures_leaf (.str (PyStr.ofString s)) depth
    rw [hsize] at hleaf
    exact hleaf
  | .list items, depth => by
    have hitems := measures_ofItems items depth (.list (ofJson.ofItems items)) 0 rfl
    rw [Nat.zero_add] at hitems
    exact hitems
  | .object members, depth => by
    have hmembers := measures_ofMembers members depth (.dict (ofJson.ofMembers members)) 0 (Nat.zero_add _).symm
    rw [Nat.zero_add] at hmembers
    exact hmembers

/-- `measures_ofJson` for the items of a list. -/
theorem measures_ofItems : ∀ (items : List Json) (depth : ℕ) (head : PyValue) (bytes : ℕ), head.ownBytes = bytes →
    Measures ((head, depth) :: parts.partsOfElements (ofJson.ofItems items) (depth + 1))
      (1 + Json.items.itemsOfList items) (bytes + Json.stringBytes.stringBytesOfList items)
      (depth + Json.depth.depthOfList items)
  | [], depth, head, bytes, hhead => hhead ▸ measures_leaf head depth
  | item :: items, depth, head, bytes, hhead => by
    have hmerged := (measures_ofJson item (depth + 1)).merge (measures_ofItems items depth head bytes hhead)
    have hcount : item.items + (1 + Json.items.itemsOfList items) = 1 + Json.items.itemsOfList (item :: items) := by
      show _ = 1 + (_ + _)
      omega
    have hbytes : item.stringBytes + (bytes + Json.stringBytes.stringBytesOfList items)
        = bytes + Json.stringBytes.stringBytesOfList (item :: items) := by
      show _ = bytes + (_ + _)
      omega
    have hdepth : max (depth + 1 + item.depth) (depth + Json.depth.depthOfList items)
        = depth + Json.depth.depthOfList (item :: items) := by
      show _ = depth + max _ _
      omega
    rw [hcount, hbytes, hdepth] at hmerged
    exact hmerged

/-- `measures_ofJson` for the members of an object. -/
theorem measures_ofMembers : ∀ (members : List (String × Json)) (depth : ℕ) (head : PyValue) (bytes : ℕ),
    head.ownBytes = bytes + (PyValue.dict (ofJson.ofMembers members)).ownBytes →
    Measures ((head, depth) :: parts.partsOfMembers (ofJson.ofMembers members) (depth + 1))
      (1 + Json.items.itemsOfItems members) (bytes + Json.stringBytes.stringBytesOfItems members)
      (depth + Json.depth.depthOfItems members)
  | [], depth, head, bytes, hhead => by
    have hown : head.ownBytes = bytes + Json.stringBytes.stringBytesOfItems [] := hhead
    exact hown ▸ measures_leaf head depth
  | (key, value) :: members, depth, head, bytes, hhead => by
    rw [ownBytes_members, ← Nat.add_assoc] at hhead
    have hmerged := (measures_ofJson value (depth + 1)).merge
      (measures_ofMembers members depth head (bytes + key.utf8ByteSize) hhead)
    have hcount : value.items + (1 + Json.items.itemsOfItems members)
        = 1 + Json.items.itemsOfItems ((key, value) :: members) := by
      show _ = 1 + (value.items + _)
      omega
    have hbytes : value.stringBytes + (bytes + key.utf8ByteSize + Json.stringBytes.stringBytesOfItems members)
        = bytes + Json.stringBytes.stringBytesOfItems ((key, value) :: members) := by
      show _ = bytes + (key.utf8ByteSize + value.stringBytes + _)
      omega
    have hdepth : max (depth + 1 + value.depth) (depth + Json.depth.depthOfItems members)
        = depth + Json.depth.depthOfItems ((key, value) :: members) := by
      show _ = depth + max (value.depth + 1) _
      omega
    rw [hcount, hbytes, hdepth] at hmerged
    exact hmerged

end

mutual

/-- A document whose floats are finite is sound in every part. -/
theorem sound_ofJson : ∀ {document : Json} (depth : ℕ), document.canonical = true →
    ∀ part ∈ (ofJson document).parts depth, part.1.sound = true
  | .null, _, _ => List.forall_mem_singleton.mpr rfl
  | .bool _, _, _ => List.forall_mem_singleton.mpr rfl
  | .int _, _, _ => List.forall_mem_singleton.mpr rfl
  | .float _, _, h => List.forall_mem_singleton.mpr ((Bool.and_true _).trans h)
  | .str s, _, _ => List.forall_mem_singleton.mpr ((Bool.and_true _).trans (PyStr.wellFormed_ofString s))
  | .list _, depth, h => List.forall_mem_cons.mpr ⟨rfl, sound_ofItems (depth + 1) h⟩
  | .object members, depth, h =>
    List.forall_mem_cons.mpr ⟨sound_dict members, sound_ofMembers (depth + 1) h⟩

theorem sound_ofItems : ∀ {items : List Json} (depth : ℕ), Json.canonical.canonicalList items = true →
    ∀ part ∈ parts.partsOfElements (ofJson.ofItems items) depth, part.1.sound = true
  | [], _, _ => fun _ hpart => absurd hpart List.not_mem_nil
  | _ :: _, depth, h => by
    obtain ⟨hitem, hitems⟩ := Bool.and_eq_true_iff.mp h
    exact List.forall_mem_append.mpr ⟨sound_ofJson depth hitem, sound_ofItems depth hitems⟩

theorem sound_ofMembers : ∀ {members : List (String × Json)} (depth : ℕ),
    Json.canonical.canonicalItems members = true →
    ∀ part ∈ parts.partsOfMembers (ofJson.ofMembers members) depth, part.1.sound = true
  | [], _, _ => fun _ hpart => absurd hpart List.not_mem_nil
  | (key, value) :: members, depth, h => by
    obtain ⟨hvalue, -, hmembers⟩ := Json.canonicalItems_cons.mp h
    exact List.forall_mem_append.mpr ⟨sound_ofJson depth hvalue, sound_ofMembers depth hmembers⟩

theorem sound_dict : ∀ members : List (String × Json), (PyValue.dict (ofJson.ofMembers members)).sound = true
  | [] => rfl
  | (key, value) :: members => by
    obtain ⟨hjson, hstrings⟩ := Bool.and_eq_true_iff.mp (sound_dict members)
    have hkey := PyStr.wellFormed_ofString key
    show ((true && (PyValue.dict (ofJson.ofMembers members)).isJson)
      && ((PyStr.ofString key).wellFormed && (PyValue.dict (ofJson.ofMembers members)).ownStrings.all _)) = true
    rw [hjson, hstrings, hkey]
    rfl

end

/-- On a document whose floats are finite, the walk answers what the closed form says. -/
theorem boundedPyJson_ofJson {limits : CaptureJSONLimits} (hlimits : 1 ≤ limits.maxItems) {document : Json}
    (h : document.canonical = true) : boundedPyJson (ofJson document) limits = some (boundedJson document limits) := by
  have hmeasures := measures_ofJson document 0
  rw [Nat.zero_add] at hmeasures
  have hsame : BoundsWalk.fits limits 0 0 ((ofJson document).parts 0) = boundedJson document limits := by
    have hdepth := hmeasures.depth limits.maxDepth
    have hsound := sound_ofJson 0 h
    unfold boundedJson
    rw [Bool.eq_iff_iff, BoundsWalk.fits_iff, Nat.zero_add, Nat.zero_add, hmeasures.items, hmeasures.stringBytes]
    simp only [Bool.and_eq_true, decide_eq_true_eq, ← hdepth, and_assoc]
    exact ⟨fun ⟨hitems, hparts, hbytes⟩ => ⟨hitems, fun part hpart => (hparts part hpart).1, hbytes⟩,
      fun ⟨hitems, hparts, hbytes⟩ => ⟨hitems, fun part hpart => ⟨hparts part hpart, hsound part hpart⟩, hbytes⟩⟩
  unfold boundedPyJson
  rw [BoundsWalk.walk_eq hlimits, hsame]

/-! ## What the walks decide -/

/-- One walk within limits, of any value: it ends, answers whether the value is within the limits, answers the same for
a reordered value, and never holds more pending values than may be counted. -/
structure BoundsExactly (limits : CaptureJSONLimits) (bounded : PyValue → Option Bool) (value : PyValue) : Prop where
  accepts : bounded value = some true ↔ WithinCaptureBounds limits value
  refuses : bounded value = some false ↔ ¬WithinCaptureBounds limits value
  reordered : ∀ value', value.Reordered value' → bounded value' = bounded value
  pending : ∀ stack, BoundsWalk.Holds limits value stack → stack.length ≤ limits.maxItems

theorem walk_boundsExactly {limits : CaptureJSONLimits} (hlimits : 1 ≤ limits.maxItems) (value : PyValue) :
    BoundsExactly limits (BoundsWalk.walk limits) value := by
  refine ⟨?_, ?_, fun value' hsame => ?_, fun stack hstack => hstack.length_le hlimits⟩
  · rw [BoundsWalk.walk_eq hlimits, Option.some_inj, BoundsWalk.fits_parts_iff]
  · rw [BoundsWalk.walk_eq hlimits, Option.some_inj, ← BoundsWalk.fits_parts_iff, Bool.not_eq_true]
  · rw [BoundsWalk.walk_eq hlimits, BoundsWalk.walk_eq hlimits, BoundsWalk.fits_congr (hsame.marks_perm 0)]

/-- The bounds walks of the hook and of the schemas, with the native limits, decide exactly these limits on every
value. -/
theorem captureBounds_exact (value : PyValue) :
    BoundsExactly captureHookJsonLimits jsonWithinCaptureBounds value
    ∧ BoundsExactly captureNativeJsonLimits (boundedPyJson · captureNativeJsonLimits) value := by
  have hhook : 1 ≤ captureHookJsonLimits.maxItems := by decide
  have hnative : 1 ≤ captureNativeJsonLimits.maxItems := by decide
  exact ⟨walk_boundsExactly hhook value, walk_boundsExactly hnative value⟩

end SalienceGate
