import DataSchema.Proofs.Validate.Repeats

/-!
# Validating always returns

**Theorem (`validate_returns`).** However the references of a whole schema lead to one another, and
whether or not they use up data, validating comes to an end: it makes no difference how anything is
answered that is nested deeper than the bound on the depth, that is entered while more references
are followed than the limit allows, or while their number does not fit in a machine word. Every
nested validation, and every reference that is followed, leaves the number as it was.

Neither the data nor the schema need get smaller where a reference is followed. What does is
`(limit - count) * height + s.height`: a child is lower than its schema, and following a reference
leads to a schema that is at most as high as the whole one, with one reference less to go.
-/

namespace DataSchema

/-! ## Heights of whole schemas -/

theorem le_foldl_height (definitions : Dict DefinitionSchema) (n : Nat) :
    n ≤ definitions.foldl (fun h d => max h d.2.schema.height) n ∧
      ∀ d ∈ definitions,
        d.2.schema.height ≤ definitions.foldl (fun h d => max h d.2.schema.height) n := by
  induction definitions generalizing n with
  | nil => exact ⟨Nat.le_refl n, fun _ hd => nomatch hd⟩
  | cons e rest ih =>
    obtain ⟨hstart, hrest⟩ := ih (max n e.2.schema.height)
    rw [List.foldl_cons]
    refine ⟨Nat.le_trans (Nat.le_max_left _ _) hstart, List.forall_mem_cons.2 ⟨?_, hrest⟩⟩
    exact Nat.le_trans (Nat.le_max_right _ _) hstart

theorem TopSchema.height_le_of_mem_roots {top : TopSchema} {s : Schema} (h : s ∈ top.roots) :
    s.height ≤ top.height := by
  obtain ⟨hbody, hdefinitions⟩ := le_foldl_height top.definitions top.schema.height
  rcases List.mem_cons.1 h with rfl | h
  · exact hbody
  · obtain ⟨d, hd, rfl⟩ := List.mem_map.1 h
    exact hdefinitions d hd

theorem Schema.judged_subset {s c : Schema} (h : c ∈ s.judged) : c ∈ s.children := by
  unfold judged at h
  split at h
  · next o hkind =>
    rw [children, hkind]
    exact List.mem_append_right _ h
  · exact h
  · cases h

namespace Validator

/-- The number of references that are being followed is within the limit, and fits in a machine
word. -/
def Counts (options : ValidatorOptions) (count : Nat) : Prop :=
  count ≤ options.maxRefDepth.toNat ∧ count < UInt64.size

instance (options : ValidatorOptions) (count : Nat) : Decidable (Counts options count) :=
  inferInstanceAs (Decidable (_ ∧ _))

/-- A number up to the limit fits in a machine word, since the limit does. -/
theorem counts_of_le {options : ValidatorOptions} {count : Nat}
    (h : count ≤ options.maxRefDepth.toNat) : Counts options count :=
  ⟨h, Nat.lt_of_le_of_lt h options.maxRefDepth.toNat_lt⟩

/-- Validates as `validateWithin` does, but answers in another way beyond the depth, and where the
number of references that are being followed on entry is not one that may come up. -/
def validateBounded (v : Validator) (top : TopSchema)
    (beyond : Schema → Option Json → Validate.Run) : Nat → Schema → Option Json → Validate.Run
  | 0, s, data => beyond s data
  | n + 1, s, data => fun count =>
    if Counts v.options count then
      let ctx := { v.context (some top) n with nested := v.validateBounded top beyond n }
      v.validateIn ctx s data count
    else beyond s data count

/-- The depth that validating against a schema of a whole schema needs, while references are being
followed. -/
def depthFor (options : ValidatorOptions) (top : TopSchema) (count : Nat) (s : Schema) : Nat :=
  (options.maxRefDepth.toNat - count) * top.height + s.height

variable {options : ValidatorOptions} {top : TopSchema} {count : Nat} {s : Schema}

theorem depthFor_pos : 0 < depthFor options top count s := Nat.add_pos_right _ s.height_pos

theorem depthFor_child {c : Schema} (h : c ∈ s.children) :
    depthFor options top count c < depthFor options top count s :=
  Nat.add_lt_add_left (Schema.height_lt_of_mem_children h) _

/-- Following a reference needs less depth than the schema that holds it. -/
theorem depthFor_target {target : Schema} (hcount : count < options.maxRefDepth.toNat)
    (h : target ∈ top.roots) :
    depthFor options top (count + 1) target < depthFor options top count s := by
  have hsucc : options.maxRefDepth.toNat - count =
      (options.maxRefDepth.toNat - (count + 1)) + 1 := by omega
  have hlow := TopSchema.height_le_of_mem_roots h
  have hpos := s.height_pos
  unfold depthFor
  rw [hsucc, Nat.succ_mul]
  omega

/-- The bound on the depth is enough for the body. -/
theorem depthFor_le_depthBound (options : ValidatorOptions) (top : TopSchema) :
    depthFor options top 0 top.schema ≤ (builtin options).depthBound top.height := by
  have hbody : top.schema.height ≤ top.height :=
    TopSchema.height_le_of_mem_roots List.mem_cons_self
  change _ ≤ (options.maxRefDepth.toNat + 1) * top.height
  rw [Nat.succ_mul]
  exact Nat.add_le_add_left hbody _

/-- **Depth enough is all that a validation needs**: nothing is answered beyond the bounds. -/
theorem same_validateBounded (beyond : Schema → Option Json → Validate.Run) {n m : Nat}
    (hcount : count ≤ options.maxRefDepth.toNat) (hn : depthFor options top count s ≤ n)
    (hm : depthFor options top count s ≤ m) (data : Option Json) :
    Run.Same count ((builtin options).validateWithin (some top) n s data)
      ((builtin options).validateBounded top beyond m s data) := by
  induction n generalizing m s count data with
  | zero =>
    have hpos : 0 < depthFor options top count s := depthFor_pos
    omega
  | succ n ih =>
    obtain _ | m := m
    · have hpos : 0 < depthFor options top count s := depthFor_pos
      omega
    let ctx' : Validate.Context := { (builtin options).context (some top) m with
      nested := (builtin options).validateBounded top beyond m }
    have hchild : ∀ c ∈ s.children, ∀ data,
        Run.Same count (((builtin options).context (some top) n).nested c data)
          (ctx'.nested c data) := fun c hc data =>
      have hless : depthFor options top count c < depthFor options top count s := depthFor_child hc
      ih hcount (by omega) (by omega) data
    have hrepeats : ((builtin options).context (some top) n).Repeats (fun _ => True) count s ctx' :=
      { child := fun c hc data => (hchild c hc data).repeats
        judged := fun c hc data => hchild c (Schema.judged_subset hc) data
        follow := fun reference _ data => by
          have htarget : ctx'.target? = ((builtin options).context (some top) n).target? := rfl
          have hoptions : ctx'.options = ((builtin options).context (some top) n).options := rfl
          refine Validate.repeats_follow htarget (Nat.le_refl _) (.inl hoptions) ?_ data
          intro hlimit target htarget data
          have hless : depthFor options top (count + 1) target < depthFor options top count s :=
            depthFor_target hlimit (TopSchema.mem_roots_of_definition? htarget)
          have hwithin : count + 1 ≤ options.maxRefDepth.toNat := hlimit
          exact (ih hwithin (by omega) (by omega) data).repeats }
    obtain ⟨hkept, hsame⟩ :=
      (repeats_validateIn options options passes_true hrepeats data).same
    refine ⟨hkept, ?_⟩
    change (if Counts options count then _ else _) = _
    rw [if_pos (counts_of_le hcount)]
    exact hsame

theorem framed_follow_context (options : ValidatorOptions) (top : Option TopSchema) (n : Nat)
    (reference : String) (data : Option Json) :
    Run.Framed (((builtin options).context top n).follow reference data) :=
  Validate.framed_follow (fun s data => framed_validateWithin options top n s data) reference data

/-- **Validating returns, within the limit on references and with the count as it was.** How
anything is answered beyond the depth, or at a count of references that is over the limit or does
not fit in a machine word, makes no difference. -/
theorem validate_returns (options : ValidatorOptions) (top : TopSchema)
    (beyond : Schema → Option Json → Validate.Run) (n : Nat) (data : Option Json) :
    (builtin options).validateBounded top beyond ((builtin options).depthBound top.height + n)
        top.schema data 0 = ((builtin options).validate top data, 0) ∧
      (∀ m s data count,
        ((builtin options).validateWithin (some top) m s data count).2 = count) ∧
      ∀ m reference data count,
        (((builtin options).context (some top) m).follow reference data count).2 = count := by
  have henough := depthFor_le_depthBound options top
  have hsame := same_validateBounded beyond (Nat.zero_le _) henough
    (Nat.le_trans henough (Nat.le_add_right _ n)) data
  refine ⟨?_, fun m s data => framed_validateWithin options (some top) m s data,
    fun m reference data => framed_follow_context options (some top) m reference data⟩
  rw [hsame.2]
  exact Prod.ext rfl hsame.1

end Validator

end DataSchema
