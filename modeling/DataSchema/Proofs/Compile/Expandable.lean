import DataSchema.Proofs.Compile.Expand

/-!
# Schemas that can be expanded

`Expandable` lists when the references of a whole schema can be replaced: each is to a definition,
what it overrides has no references in it, and no definition leads back to itself. `NoneListed`
says that no reference is listed as a required property, in an object as it is written or as the
overrides of a reference make it. A property that is listed is compiled as required, which for a
reference overrides what its definition says, and for the definition itself does not.

The conditions speak of all raw schemas at any depth. Of a schema that is given they can be tested
(`expandable_of_tests`, `of_testAll_reached`); that no definition leads back to itself is seen from
a rank of the definitions.
-/

namespace DataSchema

namespace Compile

variable {r : Registry} {raw target : RawSchema} {path : String} {own : Option String}

/-- The id under which a whole schema is registered. -/
def wholeId (raw : Json) : Option String := (normalize raw).toOption.bind registeredId

theorem wholeId_eq {whole : Json} {fields : RawSchema} (h : normalize whole = .ok fields) :
    wholeId whole = registeredId fields := by
  rw [wholeId, h]
  rfl

theorem wholeId_of_yields {ctx : Context} {whole : Json} {fields : RawSchema} {id : Option String}
    {names : List (String × String)} (hfields : normalize whole = .ok fields)
    (hyields : (registration ctx fields).Yields .empty (id, names) r) : wholeId whole = id := by
  rw [wholeId_eq hfields, ← registeredId_of_yields hyields]

/-- The raw schemas that are compiled for a whole schema: its body and its definitions. -/
inductive Root (c : Compiler) (raw : Json) : RawSchema → Prop
  | body {fields : RawSchema} (h : normalize raw = .ok fields) : Root c raw fields
  | definition {path : String} {fields : RawSchema} (h : (c.registry raw).raw? path = some fields) :
      Root c raw fields

/-- Each reference of a whole schema is to a definition and overrides nothing with references in
it, no definition leads back to itself, and none says how names of properties are meant. -/
structure Expandable (c : Compiler) (raw : Json) : Prop where
  sorted : raw.SortedKeys
  replaceable : ∀ root, Root c raw root → ∀ node : RawSchema, node.Within root →
    Compiler.typeName? node = some "ref" → Replaceable (c.registry raw) (wholeId raw) node
  acyclic : ∀ path, ¬ Relation.TransGen (Leads (c.registry raw)) path path
  nameType : ∀ path target, (c.registry raw).raw? path = some target → wholeId raw ≠ some path →
    target.get? "nameType" = none

/-- Nowhere is a reference listed as a required property, in an object as it is written or as what a
reference overrides makes it. -/
def NoneListed (c : Compiler) (raw : Json) : Prop :=
  ∀ root, Root c raw root → ∀ node, Reached (c.registry raw) node root → Unlisted node

/-! ## Tests -/

/-- Whether a raw schema and all that come after it pass a test, with a bound on how far to go. -/
def testAll (next : RawSchema → List RawSchema) (test : RawSchema → Bool) : Nat → RawSchema → Bool
  | 0, _ => false
  | n + 1, raw => test raw && (next raw).all (testAll next test n)

theorem testAll_succ {next : RawSchema → List RawSchema} {test : RawSchema → Bool} {n : Nat} :
    testAll next test (n + 1) raw = true ↔
      test raw = true ∧ ∀ c ∈ next raw, testAll next test n c = true := by
  rw [testAll, Bool.and_eq_true, List.all_eq_true]

theorem of_testAll_within {test : RawSchema → Bool} {n : Nat}
    (h : testAll RawSchema.children test n raw = true) {node : RawSchema}
    (hnode : node.Within raw) : test node = true := by
  induction hnode generalizing n with
  | self => cases n with
    | zero => cases h
    | succ n => exact (testAll_succ.1 h).1
  | child hc _ ih => cases n with
    | zero => cases h
    | succ n => exact ih ((testAll_succ.1 h).2 _ hc)

/-- What comes up next when references are replaced. -/
def successors (r : Registry) (raw : RawSchema) : List RawSchema :=
  if Compiler.typeName? raw = some "ref" then
    (referent? r raw).toList.map fun found => inherit found.2 (overrides raw)
  else raw.children

theorem mem_successors_of_child {c : RawSchema} (hc : c ∈ raw.children) : c ∈ successors r raw := by
  by_cases htype : Compiler.typeName? raw = some "ref"
  · rw [children_ref htype] at hc
    cases hc
  · rwa [successors, if_neg htype]

theorem mem_successors_of_refers (h : Refers r raw path target) :
    inherit target (overrides raw) ∈ successors r raw := by
  rw [successors, if_pos h.1, h.2]
  exact List.mem_singleton_self _

theorem of_testAll_reached {test : RawSchema → Bool} {n : Nat}
    (h : testAll (successors r) test n raw = true) {node : RawSchema} (hnode : Reached r node raw) :
    test node = true := by
  induction hnode generalizing n with
  | self => cases n with
    | zero => cases h
    | succ n => exact (testAll_succ.1 h).1
  | child hc _ ih => cases n with
    | zero => cases h
    | succ n =>
      exact ih ((testAll_succ.1 h).2 _ (mem_successors_of_child hc))
  | merged hrefers _ ih => cases n with
    | zero => cases h
    | succ n =>
      exact ih ((testAll_succ.1 h).2 _ (mem_successors_of_refers hrefers))

/-- Whether a reference is to a definition and overrides no fields that hold schemas. -/
def testReference (r : Registry) (own : Option String) (node : RawSchema) : Bool :=
  Compiler.typeName? node ≠ some "ref" ||
    (match referent? r node with
      | some found => own ≠ some found.1 && node.all fun e => e.1 ∉ RawSchema.holders
      | none => false)

theorem replaceable_of_test (h : testReference r own raw = true)
    (htype : Compiler.typeName? raw = some "ref") : Replaceable r own raw := by
  unfold testReference at h
  cases hfound : referent? r raw with
  | none => simp [htype, hfound] at h
  | some found =>
    obtain ⟨path, target⟩ := found
    obtain ⟨hown, hfields⟩ : own ≠ some path ∧ ∀ e ∈ raw, e.1 ∉ RawSchema.holders := by
      simpa [htype, hfound] using h
    refine ⟨⟨path, target, ⟨htype, hfound⟩, hown⟩, fun type part hpart => ?_⟩
    obtain ⟨e, he, hholder, -⟩ := RawSchema.holds_of_mem_partsOf hpart
    exact absurd hholder (hfields e (List.mem_of_mem_filter he))

/-- The raw schemas that are compiled for a whole schema, in a list. -/
def roots (c : Compiler) (raw : Json) : List RawSchema :=
  (normalize raw).toOption.toList ++ (c.registry raw).entries.map (·.2.raw)

theorem mem_roots {c : Compiler} {whole : Json} {root : RawSchema} (h : Root c whole root) :
    root ∈ roots c whole := by
  cases h with
  | body hfields =>
    rw [roots, hfields]
    exact List.mem_append_left _ List.mem_cons_self
  | definition hfound =>
    obtain ⟨e, he, rfl⟩ := Option.map_eq_some_iff.1 hfound
    exact List.mem_append_right _ (List.mem_map.2 ⟨_, Dict.mem_of_get? he, rfl⟩)

/-- What is related has a lower rank, so nothing is related to itself. -/
theorem acyclic_of_rank {R : String → String → Prop} (rank : String → Nat)
    (h : ∀ path path', R path path' → rank path' < rank path) (path : String) :
    ¬ Relation.TransGen R path path := by
  have htrans : ∀ path path', Relation.TransGen R path path' → rank path' < rank path := by
    intro path path' hpath
    induction hpath with
    | single hrelated => exact h _ _ hrelated
    | tail _ hrelated ih => exact lt_trans (h _ _ hrelated) ih
  exact fun hcycle => lt_irrefl _ (htrans path path hcycle)

/-- Whether the references in a raw schema are to definitions of a lower rank than the path. -/
def testLower (r : Registry) (rank : String → Nat) (path : String) (n : Nat) (raw : RawSchema) :
    Bool :=
  testAll RawSchema.children (fun node => Compiler.typeName? node ≠ some "ref" ||
    (referent? r node).all fun found => rank found.1 < rank path) n raw

theorem lower_of_test {rank : String → Nat} {n : Nat} {path' : String}
    (h : testLower r rank path n raw = true) (hmentions : Mentions r raw path') :
    rank path' < rank path := by
  obtain ⟨node, target, hnode, hrefers⟩ := hmentions
  simpa [hrefers.1, hrefers.2] using of_testAll_within h hnode

/-- No definition leads back to itself if references are to definitions of a lower rank. -/
theorem acyclic_of_ranks (rank : String → Nat) (n : Nat)
    (h : ∀ e ∈ r.entries, testLower r rank e.1 n e.2.raw = true) :
    ∀ path, ¬ Relation.TransGen (Leads r) path path := by
  refine acyclic_of_rank rank ?_
  rintro path path' ⟨raw, hfound, hmentions⟩
  obtain ⟨e, he, rfl⟩ := Option.map_eq_some_iff.1 hfound
  exact lower_of_test (h (path, e) (Dict.mem_of_get? he)) hmentions

theorem expandable_of_tests {c : Compiler} {whole : Json} (rank : String → Nat) (n : Nat)
    (hsorted : whole.SortedKeys)
    (hreferences : ∀ root ∈ roots c whole,
      testAll RawSchema.children (testReference (c.registry whole) (wholeId whole)) n root = true)
    (hranks : ∀ e ∈ (c.registry whole).entries,
      testLower (c.registry whole) rank e.1 n e.2.raw = true)
    (hnames : ∀ e ∈ (c.registry whole).entries, e.2.raw.get? "nameType" = none) :
    Expandable c whole where
  sorted := hsorted
  replaceable root hroot node hnode :=
    replaceable_of_test (of_testAll_within (hreferences root (mem_roots hroot)) hnode)
  acyclic := acyclic_of_ranks rank n hranks
  nameType path target hfound _ := by
    obtain ⟨e, he, rfl⟩ := Option.map_eq_some_iff.1 hfound
    exact hnames (path, e) (Dict.mem_of_get? he)

theorem noneListed_of_test {c : Compiler} {whole : Json} (n : Nat)
    (h : ∀ root ∈ roots c whole,
      testAll (successors (c.registry whole)) (fun node => Unlisted node) n root = true) :
    NoneListed c whole := by
  intro root hroot node hnode
  exact of_decide_eq_true (of_testAll_reached (h root (mem_roots hroot)) hnode)

end Compile

end DataSchema
