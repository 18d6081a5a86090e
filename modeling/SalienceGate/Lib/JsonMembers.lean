import SalienceGate.Lib.Json

/-!
# Objects from their members in any order

A program writes the members of an object in the order of its fields and sorts them by name at the end; a reader meets
them in any order. `sortMembers` puts them in key order, the last member of a name standing for it. Reading a member of
the sorted object is reading it where it was written, and members that stand in order already are left as they are.
-/

namespace Json

/-- The members of an object with one more, in its place. -/
def insertMember (key : String) (value : Json) : List (String × Json) → List (String × Json)
  | [] => [(key, value)]
  | (k, v) :: rest =>
    if key = k then (key, value) :: rest
    else if keyLt key.toList k.toList then (key, value) :: (k, v) :: rest
    else (k, v) :: insertMember key value rest

/-- Members in key order. -/
def sortMembers (members : List (String × Json)) : List (String × Json) :=
  members.foldl (fun sorted m => insertMember m.1 m.2 sorted) []

section Reading

variable {α : Type} {items : List (String × Json)} {key key' : String} {value : Json} {load : Json → Option α}
  {default : α}

theorem member_insertMember (items : List (String × Json)) (key key' : String) (value : Json) :
    member (insertMember key value items) key' = if key' = key then some value else member items key' := by
  unfold member
  induction items with
  | nil =>
    rw [insertMember, List.lookup_cons, List.lookup_nil]
    by_cases hsame : key' = key
    · rw [if_pos hsame, hsame, beq_self_eq_true]
    · rw [if_neg hsame, beq_false_of_ne hsame]
  | cons item items ih =>
    obtain ⟨k, v⟩ := item
    have hhead : ∀ rest : List (String × Json),
        ((key, value) :: rest).lookup key' = if key' = key then some value else rest.lookup key' := by
      intro rest
      rw [List.lookup_cons]
      by_cases hsame : key' = key
      · rw [if_pos hsame, hsame, beq_self_eq_true]
      · rw [if_neg hsame, beq_false_of_ne hsame]
    rw [insertMember]
    by_cases heq : key = k
    · subst heq
      rw [if_pos rfl, hhead, List.lookup_cons]
      by_cases hsame : key' = key
      · rw [if_pos hsame, if_pos hsame]
      · rw [if_neg hsame, if_neg hsame, beq_false_of_ne hsame]
    · rw [if_neg heq]
      by_cases hlt : keyLt key.toList k.toList = true
      · rw [if_pos hlt, hhead]
      · rw [if_neg hlt, List.lookup_cons, List.lookup_cons, ih]
        by_cases hsame : key' = key
        · subst hsame
          rw [if_pos rfl, if_pos rfl, beq_false_of_ne heq]
        · rw [if_neg hsame, if_neg hsame]

@[simp] theorem required_insertMember_self : required (insertMember key value items) key load = load value := by
  unfold required
  rw [member_insertMember, if_pos rfl, Option.bind_some]

@[simp] theorem required_insertMember_of_ne (h : key ≠ key') :
    required (insertMember key' value items) key load = required items key load := by
  unfold required
  rw [member_insertMember, if_neg h]

@[simp] theorem defaulted_insertMember_self :
    defaulted (insertMember key value items) key load default = load value := by
  unfold defaulted
  rw [member_insertMember, if_pos rfl]

@[simp] theorem defaulted_insertMember_of_ne (h : key ≠ key') :
    defaulted (insertMember key' value items) key load default = defaulted items key load default := by
  unfold defaulted
  rw [member_insertMember, if_neg h]

@[simp] theorem onlyMembers_nil (names : List String) : onlyMembers [] names = true := rfl

/-- The names of the members are those that were inserted. -/
@[simp] theorem onlyMembers_insertMember (names : List String) :
    onlyMembers (insertMember key value items) names = (decide (key ∈ names) && onlyMembers items names) := by
  unfold onlyMembers
  induction items with
  | nil => rfl
  | cons item items ih =>
    obtain ⟨k, v⟩ := item
    rw [insertMember]
    split_ifs with heq hlt
    · subst heq
      simp only [List.map_cons, List.all_cons, ← Bool.and_assoc, Bool.and_self]
    · rfl
    · rw [List.map_cons, List.all_cons, ih, List.map_cons, List.all_cons, Bool.and_left_comm]

end Reading

/-! ## Order -/

theorem keyLt_irrefl (cs : List Char) : keyLt cs cs = false := by
  induction cs with
  | nil => rfl
  | cons c cs ih => simp [ih]

theorem keyLt_trans : ∀ {as bs cs : List Char}, keyLt as bs = true → keyLt bs cs = true → keyLt as cs = true
  | [], _ :: _, _ :: _, _, _ => rfl
  | a :: as, b :: bs, c :: cs, hab, hbc => by
    simp only [keyLt, Bool.or_eq_true, Bool.and_eq_true, decide_eq_true_eq] at hab hbc ⊢
    rcases hab with hab | ⟨rfl, hab⟩
    · rcases hbc with hbc | ⟨rfl, hbc⟩
      · exact .inl (hab.trans hbc)
      · exact .inl hab
    · rcases hbc with hbc | ⟨rfl, hbc⟩
      · exact .inl hbc
      · exact .inr ⟨rfl, keyLt_trans hab hbc⟩

/-- Of two different keys one comes first. -/
theorem keyLt_of_not : ∀ {as bs : List Char}, as ≠ bs → keyLt as bs = false → keyLt bs as = true
  | [], [], hne, _ => absurd rfl hne
  | [], _ :: _, _, h => by cases h
  | _ :: _, [], _, _ => rfl
  | a :: as, b :: bs, hne, h => by
    simp only [keyLt, Bool.or_eq_false_iff, Bool.and_eq_false_iff, decide_eq_false_iff_not] at h
    simp only [keyLt, Bool.or_eq_true, Bool.and_eq_true, decide_eq_true_eq]
    obtain ⟨hlt, hrest⟩ := h
    by_cases hsame : a = b
    · subst hsame
      refine .inr ⟨rfl, keyLt_of_not (fun heq => hne (by rw [heq])) ?_⟩
      exact hrest.resolve_left fun hne => hne rfl
    · have hcodes : a.toNat ≠ b.toNat := fun heq => hsame (Char.toNat_inj.mp heq)
      exact .inl (by omega)

/-- Members with increasing keys. -/
def Sorted (members : List (String × Json)) : Prop :=
  members.Pairwise fun a b => keyLt a.1.toList b.1.toList = true

/-- Increasing keys are all different. -/
theorem Sorted.keys_nodup {members : List (String × Json)} (h : Sorted members) : (members.map Prod.fst).Nodup := by
  unfold List.Nodup
  rw [List.pairwise_map]
  refine h.imp fun {a b} hlt hsame => ?_
  rw [hsame, keyLt_irrefl] at hlt
  cases hlt

theorem mem_insertMember {key : String} {value : Json} {items : List (String × Json)} {item : String × Json}
    (h : item ∈ insertMember key value items) : item = (key, value) ∨ item ∈ items := by
  induction items with
  | nil => exact .inl (List.mem_singleton.mp h)
  | cons first items ih =>
    obtain ⟨k, v⟩ := first
    rw [insertMember] at h
    split_ifs at h with heq hlt
    · rcases List.mem_cons.mp h with rfl | h
      · exact .inl rfl
      · exact .inr (List.mem_cons_of_mem _ h)
    · exact List.mem_cons.mp h
    · rcases List.mem_cons.mp h with rfl | h
      · exact .inr List.mem_cons_self
      · exact (ih h).imp id (List.mem_cons_of_mem _)

/-- A member is inserted in its place. -/
theorem Sorted.insertMember {items : List (String × Json)} (h : Sorted items) (key : String) (value : Json) :
    Sorted (insertMember key value items) := by
  induction items with
  | nil => exact List.pairwise_singleton _ _
  | cons first items ih =>
    obtain ⟨k, v⟩ := first
    obtain ⟨hfirst, hrest⟩ := List.pairwise_cons.mp h
    rw [Json.insertMember]
    split_ifs with heq hlt
    · subst heq
      exact List.pairwise_cons.mpr ⟨hfirst, hrest⟩
    · refine List.pairwise_cons.mpr ⟨fun item hitem => ?_, h⟩
      rcases List.mem_cons.mp hitem with rfl | hitem
      · exact hlt
      · exact keyLt_trans hlt (hfirst item hitem)
    · refine List.pairwise_cons.mpr ⟨fun item hitem => ?_, ih hrest⟩
      rcases mem_insertMember hitem with rfl | hitem
      · exact keyLt_of_not (fun hsame => heq (String.toList_inj.mp hsame)) (Bool.eq_false_of_not_eq_true hlt)
      · exact hfirst item hitem

/-- A member whose key comes after the others is inserted at the end. -/
theorem insertMember_of_last {items : List (String × Json)} {key : String} {value : Json}
    (h : ∀ item ∈ items, keyLt item.1.toList key.toList = true) :
    insertMember key value items = items ++ [(key, value)] := by
  induction items with
  | nil => rfl
  | cons first items ih =>
    obtain ⟨k, v⟩ := first
    have hfirst := h (k, v) List.mem_cons_self
    have hrest := ih fun item hitem => h item (List.mem_cons_of_mem _ hitem)
    rw [insertMember, if_neg, if_neg, hrest, List.cons_append]
    · intro hlt
      have hself := keyLt_trans hfirst hlt
      rw [keyLt_irrefl] at hself
      cases hself
    · rintro rfl
      rw [keyLt_irrefl] at hfirst
      cases hfirst

theorem sortMembers_append_singleton (members : List (String × Json)) (m : String × Json) :
    sortMembers (members ++ [m]) = insertMember m.1 m.2 (sortMembers members) := by
  unfold sortMembers
  rw [List.foldl_append]
  rfl

/-- Members in order are left as they are. -/
theorem sortMembers_of_sorted {members : List (String × Json)} (h : Sorted members) :
    sortMembers members = members := by
  induction members using List.reverseRecOn with
  | nil => rfl
  | append_singleton members m ih =>
    obtain ⟨hfront, -, hlast⟩ := List.pairwise_append.mp h
    rw [sortMembers_append_singleton, ih hfront, insertMember_of_last]
    exact fun item hitem => hlast item hitem m List.mem_cons_self

theorem sorted_sortMembers (members : List (String × Json)) : Sorted (sortMembers members) := by
  induction members using List.reverseRecOn with
  | nil => exact List.Pairwise.nil
  | append_singleton members m ih =>
    rw [sortMembers_append_singleton]
    exact ih.insertMember m.1 m.2

theorem mem_sortMembers {members : List (String × Json)} {item : String × Json} (h : item ∈ sortMembers members) :
    item ∈ members := by
  induction members using List.reverseRecOn with
  | nil => exact h
  | append_singleton members m ih =>
    rw [sortMembers_append_singleton] at h
    rcases mem_insertMember h with rfl | h
    · exact List.mem_append_right _ List.mem_cons_self
    · exact List.mem_append_left _ (ih h)

/-! ## Well-formed objects -/

/-- An object is well-formed exactly if its members are in order and well-formed. -/
theorem canonicalItems_iff {items : List (String × Json)} :
    canonical.canonicalItems items = true ↔ Sorted items ∧ ∀ item ∈ items, item.2.canonical = true := by
  induction items with
  | nil => exact ⟨fun _ => ⟨List.Pairwise.nil, fun _ hitem => absurd hitem List.not_mem_nil⟩, fun _ => rfl⟩
  | cons item items ih =>
    obtain ⟨key, value⟩ := item
    rw [canonicalItems_cons, ih]
    unfold Sorted
    rw [List.pairwise_cons, List.forall_mem_cons]
    exact ⟨fun ⟨hvalue, hkeys, hsorted, hitems⟩ => ⟨⟨hkeys, hsorted⟩, hvalue, hitems⟩,
      fun ⟨⟨hkeys, hsorted⟩, hvalue, hitems⟩ => ⟨hvalue, hkeys, hsorted, hitems⟩⟩

/-- Well-formed members make a well-formed object. -/
theorem canonical_sortMembers {members : List (String × Json)} (h : ∀ m ∈ members, m.2.canonical = true) :
    (Json.object (sortMembers members)).canonical = true :=
  canonicalItems_iff.mpr ⟨sorted_sortMembers members, fun item hitem => h item (mem_sortMembers hitem)⟩

end Json
