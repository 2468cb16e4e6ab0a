import DataSchema.Proofs.Dict
import DataSchema.Schema

/-!
# Schemas within a schema

`Schema.children` lists the schemas that stand directly in a schema, whatever its kind, and
`Schema.Within` those at any depth, the schema itself included. `Schema.Everywhere P` says that `P`
holds of every node; it is shown by `everywhere_iff`, at the root and everywhere in each child.

Children are lower than the schema (`height_lt_of_mem_children`), so recursion on schemas and
bounds on its depth need not look at the lists in which the children are kept.
-/

namespace DataSchema

/-! ## Children and nodes -/

namespace Schema

/-- The schemas that stand directly in a schema. -/
def children (s : Schema) : List Schema :=
  match s.kind with
  | .array items _ => [items]
  | .object o =>
    (o.properties.getD []).map (·.2) ++ (o.regexNameProperties.getD []).map (·.2) ++
      o.propertyNames.toList
  | .combine c => c.allOf.getD [] ++ c.anyOf.getD [] ++ c.oneOf.getD []
  | _ => []

/-- A node of a schema: the schema itself, or a node of a child. -/
inductive Within : Schema → Schema → Prop
  | self (s : Schema) : Within s s
  | child {node c s : Schema} : c ∈ s.children → Within node c → Within node s

/-- The property holds of every node of the schema. -/
def Everywhere (P : Schema → Prop) (s : Schema) : Prop := ∀ node : Schema, node.Within s → P node

theorem Everywhere.root {P : Schema → Prop} {s : Schema} (h : s.Everywhere P) : P s := h s (.self s)

theorem Everywhere.child {P : Schema → Prop} {s c : Schema} (h : s.Everywhere P)
    (hc : c ∈ s.children) : c.Everywhere P :=
  fun node hnode => h node (.child hc hnode)

theorem everywhere_iff {P : Schema → Prop} {s : Schema} :
    s.Everywhere P ↔ P s ∧ ∀ c ∈ s.children, c.Everywhere P := by
  constructor
  · exact fun h => ⟨h.root, fun _ => h.child⟩
  · rintro ⟨hs, hc⟩ node hnode
    cases hnode with
    | self => exact hs
    | child hmem hnode => exact hc _ hmem node hnode

end Schema

/-! ## Whole schemas -/

namespace TopSchema

/-- The schemas of a whole schema: its body, and those of its definitions. -/
def roots (top : TopSchema) : List Schema := top.schema :: top.definitions.map (·.2.schema)

/-- The property holds of every node of the body and of the definitions. -/
def Everywhere (P : Schema → Prop) (top : TopSchema) : Prop := ∀ root ∈ top.roots, root.Everywhere P

/-- A reference names one of the schemas of the whole schema. -/
theorem mem_roots_of_definition? {top : TopSchema} {reference pathPrefix : String} {s : Schema}
    (h : top.definition? reference pathPrefix = some s) : s ∈ top.roots := by
  have hdefinition : ∀ e ∈ top.definitions, e.2.schema ∈ top.roots := fun e he =>
    List.mem_cons_of_mem _ (List.mem_map_of_mem he)
  unfold definition? at h
  split at h
  · next d hd =>
    obtain rfl := Option.some.inj h
    obtain ⟨name, -, hname⟩ := Option.bind_eq_some_iff.1 hd
    exact hdefinition _ (Dict.mem_of_get? hname)
  · split at h
    · next d hd =>
      obtain rfl := Option.some.inj h
      exact hdefinition _ (List.mem_of_find?_eq_some hd)
    · split at h
      · obtain rfl := Option.some.inj h
        exact List.mem_cons_self
      · cases h

end TopSchema

/-! ## Heights -/

theorem height_le_heightOfSchemas {ss : List Schema} {s : Schema} (h : s ∈ ss) :
    s.height ≤ heightOfSchemas ss := by
  induction ss with
  | nil => cases h
  | cons t rest ih =>
    rw [heightOfSchemas]
    rcases List.mem_cons.1 h with rfl | h
    · exact Nat.le_max_left _ _
    · exact Nat.le_trans (ih h) (Nat.le_max_right _ _)

theorem heightOfSchemas_le {ss : List Schema} {n : Nat} (h : ∀ s ∈ ss, s.height ≤ n) :
    heightOfSchemas ss ≤ n := by
  induction ss with
  | nil => exact Nat.zero_le n
  | cons s rest ih =>
    rw [heightOfSchemas]
    exact Nat.max_le.2 ⟨h s List.mem_cons_self, ih fun t ht => h t (List.mem_cons_of_mem _ ht)⟩

theorem heightOfGroup_eq (group : Option (List Schema)) :
    heightOfGroup group = heightOfSchemas (group.getD []) := by
  cases group <;> rfl

theorem heightOfPropertyList_eq (ps : List (String × Schema)) :
    heightOfPropertyList ps = heightOfSchemas (ps.map (·.2)) := by
  induction ps with
  | nil => rfl
  | cons p rest ih => rw [heightOfPropertyList, ih, List.map_cons, heightOfSchemas]

theorem heightOfProperties_eq (ps : Option (List (String × Schema))) :
    heightOfProperties ps = heightOfSchemas ((ps.getD []).map (·.2)) := by
  cases ps with
  | none => rfl
  | some ps => exact heightOfPropertyList_eq ps

theorem heightOfRegexPropertyList_eq (ps : List (Pattern × Schema)) :
    heightOfRegexPropertyList ps = heightOfSchemas (ps.map (·.2)) := by
  induction ps with
  | nil => rfl
  | cons p rest ih => rw [heightOfRegexPropertyList, ih, List.map_cons, heightOfSchemas]

theorem heightOfRegexProperties_eq (ps : Option (List (Pattern × Schema))) :
    heightOfRegexProperties ps = heightOfSchemas ((ps.getD []).map (·.2)) := by
  cases ps with
  | none => rfl
  | some ps => exact heightOfRegexPropertyList_eq ps

theorem heightOfOption_eq (s : Option Schema) :
    heightOfOption s = heightOfSchemas s.toList := by
  cases s with
  | none => rfl
  | some s => simp [heightOfOption, heightOfSchemas]

namespace Schema

theorem height_pos (s : Schema) : 0 < s.height := by
  obtain ⟨_, _, kind⟩ := s
  exact Nat.succ_pos _

/-- **A child is lower than its schema.** -/
theorem height_lt_of_mem_children {s c : Schema} (h : c ∈ s.children) : c.height < s.height := by
  obtain ⟨required, default, kind⟩ := s
  change c.height < kind.height + 1
  refine Nat.lt_succ_of_le ?_
  cases kind with
  | array items unique =>
    obtain rfl : c = items := by simpa [children] using h
    exact Nat.le_refl _
  | object o =>
    obtain ⟨properties, patterns, names, _, _, _, _⟩ := o
    change c.height ≤ max (heightOfProperties properties)
      (max (heightOfRegexProperties patterns) (heightOfOption names))
    rw [heightOfProperties_eq, heightOfRegexProperties_eq, heightOfOption_eq]
    simp only [children, List.mem_append] at h
    rcases h with (h | h) | h <;> have := height_le_heightOfSchemas h <;> omega
  | combine g =>
    obtain ⟨_, allOf, anyOf, oneOf⟩ := g
    change c.height ≤ max (heightOfGroup allOf) (max (heightOfGroup anyOf) (heightOfGroup oneOf))
    simp only [heightOfGroup_eq]
    simp only [children, List.mem_append] at h
    rcases h with (h | h) | h <;> have := height_le_heightOfSchemas h <;> omega
  | boolean | null | number | integer | string | ref | custom => simp [children] at h

/-- A schema is at most one higher than its highest child. -/
theorem height_le_succ {s : Schema} {n : Nat} (h : ∀ c ∈ s.children, c.height ≤ n) :
    s.height ≤ n + 1 := by
  obtain ⟨required, default, kind⟩ := s
  change kind.height + 1 ≤ n + 1
  refine Nat.succ_le_succ ?_
  cases kind with
  | array items unique => exact h items (by simp [children])
  | object o =>
    obtain ⟨properties, patterns, names, _, _, _, _⟩ := o
    change max (heightOfProperties properties)
      (max (heightOfRegexProperties patterns) (heightOfOption names)) ≤ n
    rw [heightOfProperties_eq, heightOfRegexProperties_eq, heightOfOption_eq]
    obtain ⟨h, h₃⟩ := List.forall_mem_append.1 h
    obtain ⟨h₁, h₂⟩ := List.forall_mem_append.1 h
    exact Nat.max_le.2 ⟨heightOfSchemas_le h₁,
      Nat.max_le.2 ⟨heightOfSchemas_le h₂, heightOfSchemas_le h₃⟩⟩
  | combine g =>
    obtain ⟨_, allOf, anyOf, oneOf⟩ := g
    change max (heightOfGroup allOf) (max (heightOfGroup anyOf) (heightOfGroup oneOf)) ≤ n
    simp only [heightOfGroup_eq]
    obtain ⟨h, h₃⟩ := List.forall_mem_append.1 h
    obtain ⟨h₁, h₂⟩ := List.forall_mem_append.1 h
    exact Nat.max_le.2 ⟨heightOfSchemas_le h₁,
      Nat.max_le.2 ⟨heightOfSchemas_le h₂, heightOfSchemas_le h₃⟩⟩
  | boolean | null | number | integer | string | ref | custom => exact Nat.zero_le n

end Schema

end DataSchema
