import DataSchema.Json
import DataSchema.Proofs.Dict

/-!
# Laws of JSON values

A value is deeper than everything that stands in it, and no deeper than it is large. Whether the
keys of its objects are sorted can be decided; they stay so when a field is set
(`SortedKeys.insert`).
-/

namespace DataSchema.Json

theorem field?_eq_some {j value : Json} {key : String} :
    j.field? key = some value ↔
      ∃ fields : Dict Json, j = obj fields ∧ fields.get? key = some value := by
  cases j <;> simp [field?, obj?]

theorem depth_le_depthItems {items : List Json} {x : Json} (h : x ∈ items) :
    x.depth ≤ depth.depthItems items := by
  induction items with
  | nil => cases h
  | cons y rest ih =>
    rw [depth.depthItems]
    rcases List.mem_cons.1 h with rfl | h
    · exact Nat.le_max_left _ _
    · exact Nat.le_trans (ih h) (Nat.le_max_right _ _)

theorem depth_lt_arr {items : List Json} {x : Json} (h : x ∈ items) :
    x.depth < (arr items).depth := by
  rw [depth]
  exact Nat.lt_succ_of_le (depth_le_depthItems h)

theorem depth_le_depthFields {fields : Dict Json} {e : String × Json} (h : e ∈ fields) :
    e.2.depth ≤ depth.depthFields fields := by
  induction fields with
  | nil => cases h
  | cons f rest ih =>
    rw [depth.depthFields]
    rcases List.mem_cons.1 h with rfl | h
    · exact Nat.le_max_left _ _
    · exact Nat.le_trans (ih h) (Nat.le_max_right _ _)

theorem depth_lt_obj {fields : Dict Json} {e : String × Json} (h : e ∈ fields) :
    e.2.depth < (obj fields).depth := by
  rw [depth]
  exact Nat.lt_succ_of_le (depth_le_depthFields h)

theorem depth_pos (j : Json) : 0 < j.depth := by
  cases j <;> simp [depth]

/-! ## Sizes -/

theorem size_pos (j : Json) : 0 < j.size := by
  cases j <;> simp [size]

theorem size_le_sizeFields {fields : Dict Json} {e : String × Json} (h : e ∈ fields) :
    e.2.size ≤ size.sizeFields fields := by
  induction fields with
  | nil => cases h
  | cons f rest ih =>
    rw [size.sizeFields]
    rcases List.mem_cons.1 h with rfl | h
    · exact Nat.le_add_right _ _
    · exact Nat.le_trans (ih h) (Nat.le_add_left _ _)

theorem length_le_sizeFields (fields : Dict Json) : fields.length ≤ size.sizeFields fields := by
  induction fields with
  | nil => exact Nat.zero_le _
  | cons f rest ih =>
    have hpos := f.2.size_pos
    rw [size.sizeFields, List.length_cons]
    omega

mutual

/-- A value is no deeper than it is large. -/
theorem depth_le_size : ∀ j : Json, j.depth ≤ j.size
  | .null | .bool _ | .num _ | .str _ => by simp [depth, size]
  | .arr items => by
    have hitems := depthItems_le_sizeItems items
    simpa [depth, size] using hitems
  | .obj fields => by
    have hfields := depthFields_le_sizeFields fields
    simpa [depth, size] using hfields

theorem depthItems_le_sizeItems : ∀ items : List Json,
    depth.depthItems items ≤ size.sizeItems items
  | [] => Nat.le_refl _
  | j :: rest => by
    have hj := depth_le_size j
    have hrest := depthItems_le_sizeItems rest
    rw [depth.depthItems, size.sizeItems]
    omega

theorem depthFields_le_sizeFields : ∀ fields : List (String × Json),
    depth.depthFields fields ≤ size.sizeFields fields
  | [] => Nat.le_refl _
  | (_, j) :: rest => by
    have hj := depth_le_size j
    have hrest := depthFields_le_sizeFields rest
    rw [depth.depthFields, size.sizeFields]
    omega

end

/-! ## Sorted keys -/

mutual

/-- Whether every object lists its fields in increasing order of the keys. -/
def sortedKeys : Json → Bool
  | .arr items => sortedKeysItems items
  | .obj fields => decide ((fields.map Prod.fst).Pairwise (· < ·)) && sortedKeysFields fields
  | _ => true

def sortedKeysItems : List Json → Bool
  | [] => true
  | j :: rest => j.sortedKeys && sortedKeysItems rest

def sortedKeysFields : List (String × Json) → Bool
  | [] => true
  | (_, j) :: rest => j.sortedKeys && sortedKeysFields rest

end

mutual

theorem sortedKeys_iff : ∀ j : Json, j.sortedKeys = true ↔ j.SortedKeys
  | .null => ⟨fun _ => .null, fun _ => rfl⟩
  | .bool b => ⟨fun _ => .bool b, fun _ => rfl⟩
  | .num n => ⟨fun _ => .num n, fun _ => rfl⟩
  | .str s => ⟨fun _ => .str s, fun _ => rfl⟩
  | .arr items => by
    rw [sortedKeys, sortedKeysItems_iff items]
    refine ⟨.arr, fun h => ?_⟩
    cases h with | arr h => exact h
  | .obj fields => by
    rw [sortedKeys, Bool.and_eq_true, decide_eq_true_eq, sortedKeysFields_iff fields]
    refine ⟨fun h => .obj h.1 h.2, fun h => ?_⟩
    cases h with | obj hsorted h => exact ⟨hsorted, h⟩

theorem sortedKeysItems_iff : ∀ items : List Json,
    sortedKeysItems items = true ↔ ∀ j ∈ items, j.SortedKeys
  | [] => by simp [sortedKeysItems]
  | j :: rest => by
    rw [sortedKeysItems, Bool.and_eq_true, sortedKeys_iff j, sortedKeysItems_iff rest,
      List.forall_mem_cons]

theorem sortedKeysFields_iff : ∀ fields : List (String × Json),
    sortedKeysFields fields = true ↔ ∀ e ∈ fields, e.2.SortedKeys
  | [] => by simp [sortedKeysFields]
  | (_, j) :: rest => by
    rw [sortedKeysFields, Bool.and_eq_true, sortedKeys_iff j, sortedKeysFields_iff rest,
      List.forall_mem_cons]

end

instance (j : Json) : Decidable j.SortedKeys := decidable_of_iff _ (sortedKeys_iff j)

theorem SortedKeys.insert {fields : Dict Json} (h : (Json.obj fields).SortedKeys) (key : String)
    {j : Json} (hj : j.SortedKeys) : (Json.obj (fields.insert key j)).SortedKeys := by
  cases h with
  | obj hsorted hfields =>
    refine .obj (hsorted.insert key j) fun e he => ?_
    rcases Dict.mem_insert he with rfl | he
    · exact hj
    · exact hfields e he

/-- Entries may come in any order, and some with the same key. -/
theorem sortedKeys_ofList {entries : List (String × Json)} (h : ∀ e ∈ entries, e.2.SortedKeys) :
    (obj (Dict.ofList entries)).SortedKeys := by
  have hnil : (obj []).SortedKeys := .obj Dict.sorted_nil nofun
  exact List.foldlRecOn (motive := fun d => (obj d).SortedKeys) entries _ hnil
    fun _ hd e he => hd.insert e.1 (h e he)

/-! ## Equality of values -/

mutual

theorem same_refl : ∀ j : Json, j.same j = true
  | .null => rfl
  | .bool b => beq_self_eq_true b
  | .num (.int n) => beq_self_eq_true n
  | .num (.float x) => beq_self_eq_true x.signedUnits
  | .str s => beq_self_eq_true s
  | .arr items => sameItems_refl items
  | .obj fields => sameFields_refl fields

theorem sameItems_refl : ∀ items : List Json, sameItems items items = true
  | [] => rfl
  | j :: rest => by
    rw [sameItems, same_refl j, sameItems_refl rest]
    rfl

theorem sameFields_refl : ∀ fields : List (String × Json), sameFields fields fields = true
  | [] => rfl
  | (key, j) :: rest => by
    rw [sameFields, same_refl j, sameFields_refl rest, beq_self_eq_true]
    rfl

end

theorem sameOption_refl : ∀ j : Option Json, sameOption j j = true
  | none => rfl
  | some j => same_refl j

/-! ## Values that are set -/

theorem present_ne_null {j : Option Json} : present j ≠ some .null := by
  unfold present
  split
  · simp
  · next h => exact h

theorem present_of_ne_null {j : Option Json} (h : j ≠ some .null) : present j = j := by
  unfold present
  split
  · exact absurd rfl h
  · rfl

theorem eq_some_of_present {j : Option Json} {value : Json} (h : present j = some value) :
    j = some value := by
  unfold present at h
  split at h
  · cases h
  · exact h

/-- What is present in two optional values is the same if they are, or if neither is set. -/
theorem eq_or_unset_of_present {j j' : Option Json} (h : present j = present j') :
    j = j' ∨ (j = none ∨ j = some .null) ∧ (j' = none ∨ j' = some .null) := by
  have hunset : ∀ {j : Option Json}, present j = none → j = none ∨ j = some .null := by
    intro j hj
    by_cases hnull : j = some .null
    · exact .inr hnull
    · exact .inl (present_of_ne_null hnull ▸ hj)
  cases hpresent : present j with
  | none => exact .inr ⟨hunset hpresent, hunset (h ▸ hpresent)⟩
  | some value =>
    exact .inl ((eq_some_of_present hpresent).trans (eq_some_of_present (h ▸ hpresent)).symm)

end DataSchema.Json
