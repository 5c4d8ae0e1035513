import InitiatorStore.Keyed.Basic

/-!
# Laws of maps keyed by strings

What each operation on `Entries` does to look-ups (`Entries.get?`), which determine a map
(`Entries.ext_get?`).  A property of maps is proved by looking up, not by taking entries apart.
-/

namespace InitiatorStore.Entries

variable {α β : Type} {lo : Option String}

/-! ### Look-ups determine a map -/

@[simp] theorem get?_nil (k : String) : (.nil : Entries α lo).get? k = none := rfl

@[simp] theorem get?_empty (k : String) : (∅ : Keyed α).get? k = none := rfl

/-- A map that is missing has no more look-ups than the map without entries. -/
theorem bind_get? (m : Option (Keyed α)) (k : String) :
    m.bind (·.get? k) = (m.getD ∅).get? k := by
  cases m <;> rfl

@[simp] theorem get?_lower {k : String} (h : Above lo k) (m : Entries α (some k)) (k' : String) :
    (m.lower h).get? k' = m.get? k' := by
  cases m <;> rfl

/-- Keys lie above the bound. -/
theorem above_of_get? {m : Entries α lo} {k : String} {v : α} (h : m.get? k = some v) :
    Above lo k := by
  induction m with
  | nil => simp at h
  | cons k' h' v' rest ih =>
    rw [get?] at h
    split at h
    · next heq => exact heq ▸ h'
    · exact h'.trans (ih h)

/-- The bound itself has no entry. -/
theorem get?_self (k : String) (m : Entries α (some k)) : m.get? k = none := by
  cases h : m.get? k with
  | none => rfl
  | some v => exact absurd (above_of_get? h) (String.lt_irrefl k)

/-- Two maps with the same look-ups are equal. -/
theorem ext_get? {m n : Entries α lo} (h : ∀ k, m.get? k = n.get? k) : m = n := by
  induction m with
  | nil =>
    cases n with
    | nil => rfl
    | cons k _ v _ => simpa [get?] using h k
  | cons k hk v rest ih =>
    cases n with
    | nil => simpa [get?] using h k
    | cons k' hk' v' rest' =>
      have heq : k = k' := by
        have h₁ := h k
        have h₂ := h k'
        by_cases hne : k = k'
        · exact hne
        · simp only [get?, if_true, if_neg hne, if_neg (Ne.symm hne)] at h₁ h₂
          exact absurd (String.lt_trans (above_of_get? h₂) (above_of_get? h₁.symm))
            (String.lt_irrefl k)
      subst heq
      have hv : v = v' := by simpa [get?] using h k
      have hrest : rest = rest' := ih fun k' => by
        by_cases hk' : k' = k
        · rw [hk', get?_self, get?_self]
        · simpa [get?, hk'] using h k'
      rw [hv, hrest]

/-! ### Insertion and removal -/

theorem get?_insertAbove {k : String} (v : α) (h : Above lo k) (m : Entries α lo) (k' : String) :
    (m.insertAbove k v h).get? k' = if k' = k then some v else m.get? k' := by
  induction m with
  | nil => simp [insertAbove, get?]
  | cons k₁ h₁ v₁ rest ih =>
    rw [insertAbove]
    split
    · simp [get?]
    · next hlt =>
      split
      · next heq =>
        subst heq
        by_cases hk : k' = k <;> simp [get?, hk]
      · next hne =>
        have ih := ih (lt_of_not_lt_of_ne hlt hne)
        by_cases hk : k' = k
        · rw [get?, if_neg (hk ▸ hne), if_pos hk]
          exact ih.trans (if_pos hk)
        · rw [get?, get?, if_neg hk]
          split
          · rfl
          · exact ih.trans (if_neg hk)

@[simp] theorem get?_insert (k : String) (v : α) (m : Keyed α) (k' : String) :
    (m.insert k v).get? k' = if k' = k then some v else m.get? k' :=
  get?_insertAbove v (show Above none k from trivial) m k'

/-- A map that differs from another in the value under one key. -/
theorem eq_insert {m n : Keyed α} {k : String} {v : α} (h : m.get? k = some v)
    (h' : ∀ k', k' ≠ k → m.get? k' = n.get? k') : m = n.insert k v := by
  refine ext_get? fun k' => ?_
  rw [get?_insert]
  split
  · next hk => rw [hk, h]
  · next hk => exact h' k' hk

@[simp] theorem get?_insertSome (k : String) (v : Option α) (m : Keyed α) (k' : String) :
    (m.insertSome k v).get? k' = if k' = k then v.or (m.get? k) else m.get? k' := by
  cases v with
  | none => by_cases hk : k' = k <;> simp [insertSome, hk]
  | some v => simp [insertSome]

@[simp] theorem get?_erase (k : String) (m : Entries α lo) (k' : String) :
    (m.erase k).get? k' = if k' = k then none else m.get? k' := by
  induction m with
  | nil => simp [erase]
  | cons k₁ h₁ v₁ rest ih =>
    rw [erase]
    split
    · next heq =>
      subst heq
      by_cases hk : k' = k
      · rw [get?_lower, hk, get?_self, if_pos rfl]
      · simp [get?, hk]
    · next hne =>
      by_cases hk : k' = k
      · subst hk
        simp [get?, hne, ih]
      · simp [get?, hk, ih]

@[simp] theorem get?_modify (k : String) (f : α → α) (m : Entries α lo) (k' : String) :
    (m.modify k f).get? k' = if k' = k then (m.get? k').map f else m.get? k' := by
  induction m with
  | nil => simp [modify]
  | cons k₁ h₁ v₁ rest ih =>
    rw [modify]
    split
    · next heq =>
      subst heq
      by_cases hk : k' = k <;> simp [get?, hk]
    · next hne =>
      by_cases hk : k' = k
      · subst hk
        simp [get?, hne, ih]
      · simp [get?, hk, ih]

/-- A key that is missing is erased without effect. -/
theorem erase_eq_self {m : Entries α lo} {k : String} (h : m.contains k = false) :
    m.erase k = m := by
  refine ext_get? fun k' => ?_
  rw [get?_erase]
  split
  · next hk =>
    subst hk
    have hnone : m.get? k' = none := by simpa [contains] using h
    rw [hnone]
  · rfl

/-- A change that leaves the value under a key as it is leaves the map. -/
theorem modify_eq_self {m : Entries α lo} {k : String} {f : α → α}
    (h : ∀ v, m.get? k = some v → f v = v) : m.modify k f = m := by
  refine ext_get? fun k' => ?_
  rw [get?_modify]
  split
  · next hk =>
    subst hk
    cases hv : m.get? k' with
    | none => rfl
    | some v => exact congrArg some (h v hv)
  · rfl

theorem insert_comm {k k' : String} (h : k ≠ k') (v v' : α) (m : Keyed α) :
    (m.insert k v).insert k' v' = (m.insert k' v').insert k v := by
  refine ext_get? fun k₁ => ?_
  simp only [get?_insert]
  by_cases hk : k₁ = k
  · subst hk
    rw [if_neg h, if_pos rfl, if_pos rfl]
  · simp only [if_neg hk]

theorem erase_comm (k k' : String) (m : Entries α lo) :
    (m.erase k).erase k' = (m.erase k').erase k := by
  refine ext_get? fun k₁ => ?_
  simp only [get?_erase]
  split <;> split <;> rfl

/-! ### Change that may insert -/

section

variable {k k' : String} {fresh : α} {f g : α → α} {m : Keyed α}

/-- Changes the value under `k` by `f`; where there is none, it is `fresh` that is changed. -/
def upsert (k : String) (fresh : α) (f : α → α) (m : Keyed α) : Keyed α :=
  m.insert k (f ((m.get? k).getD fresh))

@[simp] theorem get?_upsert (k : String) (fresh : α) (f : α → α) (m : Keyed α) (k' : String) :
    (m.upsert k fresh f).get? k' =
      if k' = k then some (f ((m.get? k).getD fresh)) else m.get? k' :=
  get?_insert ..

/-- Two changes are the same if they make the same of the value. -/
theorem upsert_congr (h : f ((m.get? k).getD fresh) = g ((m.get? k).getD fresh)) :
    m.upsert k fresh f = m.upsert k fresh g :=
  congrArg (m.insert k) h

/-- A value that is there and is not changed stays. -/
theorem upsert_id_of_some {v : α} (h : m.get? k = some v) : m.upsert k fresh id = m := by
  refine (eq_insert ?_ fun _ _ => rfl).symm
  rw [h]
  rfl

theorem upsert_of_none (h : m.get? k = none) : m.upsert k fresh f = m.insert k (f fresh) := by
  rw [upsert, h, Option.getD_none]

theorem modify_upsert (k : String) (fresh : α) (f g : α → α) (m : Keyed α) :
    (m.upsert k fresh g).modify k f = m.upsert k fresh fun v => f (g v) := by
  refine ext_get? fun k' => ?_
  rw [get?_modify, get?_upsert, get?_upsert]
  split <;> rfl

/-- Changes commute if they are of different values or commute on the one that they change. -/
theorem upsert_comm (h : k = k' → ∀ v, f (g v) = g (f v)) :
    (m.upsert k' fresh g).upsert k fresh f = (m.upsert k fresh f).upsert k' fresh g := by
  refine ext_get? fun k₁ => ?_
  simp only [get?_upsert]
  by_cases hk : k = k'
  · subst hk
    simp only [if_true, Option.getD_some, h rfl]
    split <;> rfl
  · simp only [if_neg hk, if_neg (Ne.symm hk)]
    by_cases hk₁ : k₁ = k
    · subst hk₁
      rw [if_pos rfl, if_neg hk, if_pos rfl]
    · simp only [if_neg hk₁]

theorem upsert_erase (h : k ≠ k') :
    (m.erase k').upsert k fresh f = (m.upsert k fresh f).erase k' := by
  refine ext_get? fun k₁ => ?_
  simp only [get?_upsert, get?_erase, if_neg h]
  by_cases hk₁ : k₁ = k
  · subst hk₁
    rw [if_pos rfl, if_neg h, if_pos rfl]
  · simp only [if_neg hk₁]

end

/-! ### Change of all values -/

@[simp] theorem get?_mapVals (f : α → β) (m : Entries α lo) (k : String) :
    (m.mapVals f).get? k = (m.get? k).map f := by
  induction m with
  | nil => rfl
  | cons k₁ h₁ v₁ rest ih => by_cases hk : k = k₁ <;> simp [mapVals, get?, hk, ih]

@[simp] theorem get?_filterMapVals (f : α → Option β) (m : Entries α lo) (k : String) :
    (m.filterMapVals f).get? k = (m.get? k).bind f := by
  induction m with
  | nil => rfl
  | cons k₁ h₁ v₁ rest ih =>
    cases hf : f v₁ with
    | some w => by_cases hk : k = k₁ <;> simp [filterMapVals, get?, hf, hk, ih]
    | none =>
      by_cases hk : k = k₁
      · subst hk
        simp [filterMapVals, get?, hf, get?_self]
      · simp [filterMapVals, get?, hf, hk, ih]

@[simp] theorem get?_filter (p : String → α → Bool) (m : Entries α lo) (k : String) :
    (m.filter p).get? k = (m.get? k).filter (p k) := by
  induction m with
  | nil => rfl
  | cons k₁ h₁ v₁ rest ih =>
    by_cases hk : k = k₁
    · subst hk
      cases hp : p k v₁ <;> simp [filter, get?, hp, get?_self, Option.filter]
    · cases hp : p k₁ v₁ <;> simp [filter, get?, hp, hk, ih]

/-! ### Lists of entries -/

/-- The entries of a map are its look-ups. -/
theorem mem_toList {m : Entries α lo} {k : String} {v : α} :
    (k, v) ∈ m.toList ↔ m.get? k = some v := by
  induction m with
  | nil => simp [toList]
  | cons k₁ h₁ v₁ rest ih =>
    by_cases hk : k = k₁
    · subst hk
      simp [toList, get?, ih, get?_self, eq_comm]
    · simp [toList, get?, ih, hk]

/-- The keys of a map are where it has a value. -/
theorem mem_keys {m : Entries α lo} {k : String} : k ∈ m.keys ↔ m.contains k := by
  rw [keys, List.mem_map, contains, Option.isSome_iff_exists]
  constructor
  · rintro ⟨⟨k', v⟩, h, rfl⟩
    exact ⟨v, mem_toList.1 h⟩
  · rintro ⟨v, h⟩
    exact ⟨(k, v), mem_toList.2 h, rfl⟩

theorem keys_mapVals (f : α → β) (m : Entries α lo) : (m.mapVals f).keys = m.keys := by
  induction m with
  | nil => rfl
  | cons k h v rest ih => exact congrArg (k :: ·) ih

theorem isEmpty_mapVals (f : α → β) (m : Entries α lo) : (m.mapVals f).isEmpty = m.isEmpty := by
  cases m <;> rfl

/-- Of the values that are inserted under a key the last one stays. -/
theorem get?_foldl_insert (l : List (String × α)) (m : Keyed α) (k : String) :
    (l.foldl (fun m e => m.insert e.1 e.2) m).get? k = (l.reverse.lookup k).or (m.get? k) := by
  induction l generalizing m with
  | nil => rfl
  | cons e l ih =>
    rw [List.foldl_cons, ih, get?_insert, List.reverse_cons, List.lookup_append, Option.or_assoc,
      List.lookup_cons, List.lookup_nil]
    by_cases hk : k = e.1
    · simp [hk]
    · rw [if_neg hk, beq_eq_false_iff_ne.2 hk, Option.none_or]

theorem get?_ofList (l : List (String × α)) (k : String) :
    (ofList l).get? k = l.reverse.lookup k := by
  rw [ofList, get?_foldl_insert]
  exact Option.or_none

/-- What stands in a map that is built from a list comes from the list. -/
theorem mem_of_get?_ofList {l : List (String × α)} {k : String} {v : α}
    (h : (ofList l).get? k = some v) : (k, v) ∈ l := by
  rw [get?_ofList, List.lookup_eq_some_iff] at h
  obtain ⟨l₁, l₂, hl, -⟩ := h
  rw [← List.mem_reverse, hl]
  exact List.mem_append_right l₁ (List.mem_cons_self ..)

/-- A key has one entry, and so it is the same from which end the entries are searched. -/
theorem lookup_reverse_toList (m : Entries α lo) (k : String) :
    m.toList.reverse.lookup k = m.get? k := by
  induction m with
  | nil => rfl
  | cons k₁ h₁ v₁ rest ih =>
    rw [toList, List.reverse_cons, List.lookup_append, ih, List.lookup_cons, List.lookup_nil]
    by_cases hk : k = k₁
    · subst hk
      simp [get?, get?_self]
    · rw [get?, if_neg hk, beq_eq_false_iff_ne.2 hk, Option.or_none]

/-- A map that is overlaid with another keeps what the other leaves alone. -/
@[simp] theorem get?_merge (m upper : Keyed α) (k : String) :
    (m.merge upper).get? k = (upper.get? k).or (m.get? k) := by
  rw [merge, get?_foldl_insert, lookup_reverse_toList]

/-- A map that is overlaid on the map without entries stays as it is. -/
theorem empty_merge (m : Keyed α) : Entries.merge ∅ m = m :=
  ext_get? fun k => by simp

/-- A map that is overlaid with another once more stays as it is. -/
theorem merge_merge_self (m upper : Keyed α) : (m.merge upper).merge upper = m.merge upper := by
  refine ext_get? fun k => ?_
  rw [get?_merge, get?_merge, ← Option.or_assoc, Option.or_self]

/-- A map is empty when it has no look-ups. -/
theorem isEmpty_iff {m : Entries α lo} : m.isEmpty ↔ ∀ k, m.get? k = none := by
  cases m with
  | nil => simp [isEmpty]
  | cons k h v rest =>
    simp only [isEmpty, Bool.false_eq_true, false_iff]
    intro h'
    simpa [get?] using h' k

theorem eq_empty_of_isEmpty {m : Keyed α} (h : m.isEmpty) : m = ∅ :=
  ext_get? (isEmpty_iff.1 h)

/-- A map is not empty when it has a look-up. -/
theorem isEmpty_eq_false_iff {m : Entries α lo} :
    m.isEmpty = false ↔ ∃ k v, m.get? k = some v := by
  cases m with
  | nil => simp [isEmpty]
  | cons k h v rest => exact ⟨fun _ => ⟨k, v, by simp [get?]⟩, fun _ => rfl⟩

/-! ### Conditions on all entries -/

section

variable {P : String → α → Prop} {m : Keyed α} {k : String} {v : α}

/-- Each value of a map satisfies a condition on its key and itself. -/
def All (P : String → α → Prop) (m : Keyed α) : Prop := ∀ k v, m.get? k = some v → P k v

theorem all_empty : All P ∅ := nofun

theorem all_getD {m : Option (Keyed α)} (h : ∀ m', m = some m' → All P m') :
    All P (m.getD ∅) := by
  cases m with
  | none => exact all_empty
  | some m => exact h m rfl

theorem All.insert (h : All P m) (hv : P k v) : All P (m.insert k v) := by
  intro k' v' h'
  rw [get?_insert] at h'
  split at h'
  · next hk =>
    subst hk
    exact Option.some.inj h' ▸ hv
  · exact h k' v' h'

theorem All.erase (h : All P m) (k : String) : All P (m.erase k) := by
  intro k' v' h'
  rw [get?_erase] at h'
  split at h'
  · cases h'
  · exact h k' v' h'

theorem All.upsert {fresh : α} (h : All P m) (hfresh : P k fresh) {f : α → α}
    (hf : ∀ v, P k v → P k (f v)) : All P (m.upsert k fresh f) := by
  refine h.insert (hf _ ?_)
  cases hv : m.get? k with
  | none => exact hfresh
  | some v => exact h k v hv

theorem All.modify (h : All P m) {f : α → α} (hf : ∀ v, P k v → P k (f v)) :
    All P (m.modify k f) := by
  intro k' v' h'
  rw [get?_modify] at h'
  split at h'
  · next hk =>
    subst hk
    obtain ⟨v, hv, rfl⟩ := Option.map_eq_some_iff.1 h'
    exact hf v (h k' v hv)
  · exact h k' v' h'

end

end InitiatorStore.Entries
