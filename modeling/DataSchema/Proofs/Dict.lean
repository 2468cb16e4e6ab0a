import DataSchema.Dict
import Mathlib.Data.String.Basic

/-!
# Laws of dictionaries

Look-ups after a change of values, and what an insertion does to the entries. A sorted dictionary
stays sorted by `insert` (`Sorted.insert`), its keys are distinct (`Sorted.nodup`), and its entries
say what it is (`Sorted.ext`).
-/

namespace DataSchema.Dict

variable {α β : Type}

/-! ## Look-ups -/

theorem get?_map (d : Dict α) (f : α → β) (key : String) :
    get? (d.map fun e => (e.1, f e.2)) key = (d.get? key).map f := by
  induction d with
  | nil => rfl
  | cons e rest ih =>
    obtain ⟨k, v⟩ := e
    simp only [List.map_cons, get?_cons, ih]
    split <;> rfl

/-- What the values become may depend on their keys. -/
theorem get?_map_entries (d : Dict α) (f : String → α → β) (key : String) :
    get? (d.map fun e => (e.1, f e.1 e.2)) key = (d.get? key).map (f key) := by
  induction d with
  | nil => rfl
  | cons e rest ih =>
    obtain ⟨k, v⟩ := e
    simp only [List.map_cons, get?_cons, ih]
    split
    · next hk => rw [hk]; rfl
    · rfl

theorem get?_modify (d : Dict α) (key : String) (f : α → α) (other : String) :
    (d.modify key f).get? other = if key = other then (d.get? other).map f else d.get? other := by
  induction d with
  | nil => simp [modify]
  | cons e rest ih =>
    obtain ⟨k, v⟩ := e
    change get? ((if k = key then (k, f v) else (k, v)) :: modify rest key f) other = _
    by_cases hk : k = key
    · subst hk
      by_cases ho : k = other
      · simp [get?_cons, ho]
      · simp [get?_cons, ho, ih]
    · by_cases ho : k = other
      · subst ho
        simp [get?_cons, hk, Ne.symm hk]
      · simp [get?_cons, hk, ho, ih]

theorem get?_filter (d : Dict α) (p : String → Bool) (key : String) :
    get? (d.filter fun e => p e.1) key = if p key then d.get? key else none := by
  induction d with
  | nil => simp
  | cons e rest ih =>
    obtain ⟨k, v⟩ := e
    by_cases hk : k = key
    · subst hk
      by_cases hp : p k = true
      · simp [hp, get?_cons]
      · simpa [List.filter_cons, hp] using ih
    · by_cases hp : p k = true
      · simpa [List.filter_cons, hp, get?_cons, hk] using ih
      · simpa [List.filter_cons, hp, get?_cons, hk] using ih

theorem mem_of_get? {d : Dict α} {key : String} {value : α} (h : d.get? key = some value) :
    (key, value) ∈ d := by
  induction d with
  | nil => cases h
  | cons e rest ih =>
    obtain ⟨k, v⟩ := e
    rw [get?_cons] at h
    split at h
    · next hk =>
      obtain rfl : v = value := Option.some.inj h
      exact hk ▸ List.mem_cons_self
    · exact List.mem_cons_of_mem _ (ih h)

theorem get?_eq_none_of_not_mem {d : Dict α} {key : String} (h : key ∉ d.keys) :
    d.get? key = none := by
  cases hget : d.get? key with
  | none => rfl
  | some value => exact absurd (List.mem_map.2 ⟨_, mem_of_get? hget, rfl⟩) h

theorem get?_of_mem {d : Dict α} (h : d.keys.Nodup) {key : String} {value : α}
    (hmem : (key, value) ∈ d) : d.get? key = some value := by
  induction d with
  | nil => cases hmem
  | cons e rest ih =>
    obtain ⟨k, v⟩ := e
    obtain ⟨hk, hrest⟩ := List.nodup_cons.1 h
    rw [get?_cons]
    rcases List.mem_cons.1 hmem with heq | hmem
    · obtain ⟨rfl, rfl⟩ := Prod.mk.inj heq
      rw [if_pos rfl]
    · have hne : k ≠ key := by
        rintro rfl
        exact hk (List.mem_map.2 ⟨(k, value), hmem, rfl⟩)
      rw [if_neg hne, ih hrest hmem]

theorem get?_eq_some_iff {d : Dict α} (h : d.keys.Nodup) {key : String} {value : α} :
    d.get? key = some value ↔ (key, value) ∈ d :=
  ⟨mem_of_get?, get?_of_mem h⟩

theorem contains_iff {d : Dict α} {key : String} :
    d.contains key = true ↔ ∃ value, (key, value) ∈ d := by
  induction d with
  | nil => simp [contains]
  | cons e rest ih =>
    obtain ⟨k, v⟩ := e
    by_cases hk : k = key
    · subst hk
      simp [contains, get?_cons]
    · have hne : ¬ key = k := fun h => hk h.symm
      simpa [contains, get?_cons, hk, hne] using ih

theorem contains_insert (d : Dict α) (key : String) (value : α) (other : String) :
    (d.insert key value).contains other = (key == other || d.contains other) := by
  by_cases h : key = other <;> simp [contains, get?_insert, h]

/-! ## Look-ups beside each other -/

theorem isSome_of_rel {R : α → β → Prop} {a : Option α} {b : Option β} (h : Option.Rel R a b) :
    b.isSome = a.isSome := by
  cases h <;> rfl

theorem exists_of_rel {R : α → β → Prop} {a : Option α} {b : Option β} {value : α}
    (h : Option.Rel R a b) (ha : a = some value) : ∃ value', b = some value' ∧ R value value' := by
  subst ha
  cases h with
  | some hvalues => exact ⟨_, rfl, hvalues⟩

/-! ## Entries after an insertion -/

theorem mem_insert {d : Dict α} {key : String} {value : α} {e : String × α}
    (h : e ∈ d.insert key value) : e = (key, value) ∨ e ∈ d := by
  induction d with
  | nil => simpa [insert] using h
  | cons f rest ih =>
    obtain ⟨k, v⟩ := f
    rw [insert] at h
    split at h
    · rcases List.mem_cons.1 h with h | h
      · exact .inl h
      · exact .inr (List.mem_cons_of_mem _ h)
    · split at h
      · exact List.mem_cons.1 h
      · rcases List.mem_cons.1 h with h | h
        · exact .inr (h ▸ List.mem_cons_self)
        · exact (ih h).imp_right (List.mem_cons_of_mem _)

theorem length_insert_le (d : Dict α) (key : String) (value : α) :
    (d.insert key value).length ≤ d.length + 1 := by
  induction d with
  | nil => exact Nat.le_refl _
  | cons e rest ih =>
    obtain ⟨k, v⟩ := e
    rw [insert]
    split
    · exact Nat.le_succ _
    · split
      · exact Nat.le_refl _
      · exact Nat.succ_le_succ ih

/-- A new key adds one entry. -/
theorem perm_insert {d : Dict α} {key : String} (h : d.get? key = none) (value : α) :
    (d.insert key value).Perm ((key, value) :: d) := by
  induction d with
  | nil => exact List.Perm.refl _
  | cons e rest ih =>
    obtain ⟨k, v⟩ := e
    rw [get?_cons] at h
    split at h
    · cases h
    · next hk =>
      rw [insert, if_neg (Ne.symm hk)]
      split
      · exact List.Perm.refl _
      · exact ((ih h).cons _).trans (List.Perm.swap ..)

theorem keys_modify (d : Dict α) (key : String) (f : α → α) : (d.modify key f).keys = d.keys := by
  simp only [keys, modify, List.map_map]
  refine List.map_congr_left fun e _ => ?_
  simp only [Function.comp_apply]
  split <;> rfl

/-! ## Sorted dictionaries -/

theorem sorted_nil : Sorted ([] : Dict α) := List.Pairwise.nil

theorem sorted_cons {k : String} {v : α} {rest : Dict α} :
    Sorted ((k, v) :: rest) ↔ (∀ e ∈ rest, k < e.1) ∧ Sorted rest := by
  simp [Sorted, keys, List.pairwise_cons]

/-- The first key does not occur again. -/
theorem Sorted.get?_tail {k : String} {v : α} {rest : Dict α} (h : Sorted ((k, v) :: rest)) :
    get? rest k = none := by
  rw [← Option.not_isSome_iff_eq_none]
  intro hsome
  obtain ⟨value, hvalue⟩ := Option.isSome_iff_exists.1 hsome
  have hlt : k < k := (sorted_cons.1 h).1 _ (mem_of_get? hvalue)
  exact lt_irrefl k hlt

theorem Sorted.insert {d : Dict α} (h : Sorted d) (key : String) (value : α) :
    Sorted (d.insert key value) := by
  induction d with
  | nil => simp [Dict.insert, Sorted, keys]
  | cons e rest ih =>
    obtain ⟨k, v⟩ := e
    obtain ⟨hk, hrest⟩ := sorted_cons.1 h
    rw [Dict.insert]
    split
    · next heq => exact sorted_cons.2 ⟨heq ▸ hk, hrest⟩
    · next hne =>
      split
      · next hlt =>
        refine sorted_cons.2 ⟨fun e he => ?_, h⟩
        rcases List.mem_cons.1 he with rfl | he
        · exact hlt
        · exact lt_trans hlt (hk e he)
      · next hnlt =>
        refine sorted_cons.2 ⟨fun e he => ?_, ih hrest⟩
        rcases mem_insert he with rfl | he
        · exact lt_of_le_of_ne (not_lt.1 hnlt) fun heq => hne heq.symm
        · exact hk e he

theorem Sorted.nodup {d : Dict α} (h : Sorted d) : d.keys.Nodup :=
  h.imp fun hlt => ne_of_lt hlt

/-- Sorted dictionaries with the same entries are equal. -/
theorem Sorted.ext {d d' : Dict α} (h : Sorted d) (h' : Sorted d') (hmem : ∀ e, e ∈ d ↔ e ∈ d') :
    d = d' := by
  have hlt : d.Pairwise fun e f => e.1 < f.1 := List.pairwise_map.1 h
  have hlt' : d'.Pairwise fun e f => e.1 < f.1 := List.pairwise_map.1 h'
  have hne : ∀ {e f : String × α}, e.1 < f.1 → e ≠ f := by
    rintro e _ hef rfl
    exact lt_irrefl _ hef
  have hnodup : d.Nodup := hlt.imp hne
  have hnodup' : d'.Nodup := hlt'.imp hne
  have hperm : d.Perm d' := (List.perm_ext_iff_of_nodup hnodup hnodup').2 hmem
  exact hperm.eq_of_pairwise
    (fun e f _ _ hef hfe => absurd (lt_trans hef hfe) (lt_irrefl _)) hlt hlt'

end DataSchema.Dict
