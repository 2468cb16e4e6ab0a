import DataSchema.Proofs.Compile.Meets

/-!
# Where recursion is found

A reference is recursive if its definition is being compiled. A definition is marked while it is
compiled in place of a reference, with what the reference overrides merged into it, so a reference
can be recursive for either of two reasons: the definition leads back to itself, or what overrides
it does.

**Theorem (`no_recursion`).** If no definition `Brings` itself up, as it is written or as what a
reference makes of it, and no reference is to the whole schema, then no error says that a reference is
recursive or circular, and no reference stays in what is compiled.

That the definitions as they are written do not lead back to themselves is not enough
(`recursive_site`): a reference may override a definition by a reference to the same definition.

**The invariant** (`Clear`). No definition that can be brought up is being compiled. A definition that
is marked cannot come up again, since it would have brought itself up.
-/

namespace DataSchema

namespace Compile

variable {c : Compiler} {whole : Json} {r : Registry} {raw root node target : RawSchema}
  {path path' : String}

/-! ## What a definition brings up -/

/-- Compiling one definition may bring up another: the definition has a reference to it as it is
written, or once a reference that comes up overrides it. -/
inductive Brings (c : Compiler) (whole : Json) : String → String → Prop
  | written {path path' : String} {raw : RawSchema} (found : (c.registry whole).raw? path = some raw)
      (mentions : Mentions (c.registry whole) raw path') : Brings c whole path path'
  | overridden {path path' : String} {root site target : RawSchema} (from_root : Root c whole root)
      (reached : Reached (c.registry whole) site root)
      (refers : Refers (c.registry whole) site path target)
      (mentions : Mentions (c.registry whole) (inherit target (overrides site)) path') :
      Brings c whole path path'

/-- No reference that comes up is to the whole schema. -/
def NoneToWhole (c : Compiler) (whole : Json) : Prop :=
  ∀ root, Root c whole root → ∀ node, Reached (c.registry whole) node root →
    ∀ path target, Refers (c.registry whole) node path target → wholeId whole ≠ some path

theorem Reached.of_within (h : node.Within raw) : Reached r node raw := by
  induction h with
  | self => exact .self _
  | child hc _ ih => exact .child hc ih

theorem NoneToWhole.of_mentions (h : NoneToWhole c whole) (hroot : Root c whole root)
    (hraw : Reached (c.registry whole) raw root) (hmentions : Mentions (c.registry whole) raw path) :
    wholeId whole ≠ some path := by
  obtain ⟨node, target, hnode, hrefers⟩ := hmentions
  exact h root hroot node (.trans (.of_within hnode) hraw) path target hrefers

/-- What is brought up is not the whole schema. -/
theorem NoneToWhole.of_brings (h : NoneToWhole c whole) (hbrings : Brings c whole path path') :
    wholeId whole ≠ some path' := by
  cases hbrings with
  | written found mentions => exact h.of_mentions (.definition found) (.self _) mentions
  | overridden hroot reached refers mentions =>
    exact h.of_mentions hroot (.trans (.merged refers (.self _)) reached) mentions

/-! ## The invariant -/

/-- The raw schema comes up, and no definition that it can bring up is being compiled. -/
structure Clear (c : Compiler) (whole : Json) (r : Registry) (raw : RawSchema) : Prop extends
    Arises c whole r raw where
  free : ∀ path, Mentions (c.registry whole) raw path →
    ∀ path', Relation.ReflTransGen (Brings c whole) path path' → ¬ r.Busy path'

theorem Clear.child (h : Clear c whole r raw) {f : RawSchema} (hf : f ∈ raw.children) :
    Clear c whole r f where
  toArises := h.toArises.child hf
  free path hmentions := h.free path (hmentions.child hf)

theorem Clear.merged (h : Clear c whole r raw)
    (hacyclic : ∀ path, ¬ Relation.TransGen (Brings c whole) path path)
    (hrefers : Refers (c.registry whole) raw path target) :
    Clear c whole (r.mark path .compiling) (inherit target (overrides raw)) where
  toArises := h.toArises.merged hrefers
  free other hmentions path' hpath' := by
    obtain ⟨root, hroot, hraw⟩ := h.reached
    have hbrings : Brings c whole path other := .overridden hroot hraw hrefers hmentions
    exact free_of_marked (hacyclic path)
      (fun _ hpath => h.free path ⟨raw, target, .self raw, hrefers⟩ _ hpath.to_reflTransGen)
      (.head' hbrings hpath')

/-- Where the invariant holds, no reference comes up to a definition that is being compiled. -/
theorem Clear.unmet (h : Clear c whole r raw)
    (hacyclic : ∀ path, ¬ Relation.TransGen (Brings c whole) path path) :
    ¬ Meets (fun _ => True) r raw := by
  intro hmeets
  induction hmeets with
  | here refers busy _ =>
    have hrefers := (refers_congr h.unmarked).2 refers
    exact h.free _ ⟨_, _, .self _, hrefers⟩ _ .refl busy
  | child hc _ ih => exact ih (h.child hc)
  | merged refers _ _ ih => exact ih (h.merged hacyclic ((refers_congr h.unmarked).2 refers))

theorem Starts.clear (hstarts : Starts c whole r raw) (hwhole : NoneToWhole c whole)
    (hacyclic : ∀ path, ¬ Relation.TransGen (Brings c whole) path path) :
    Clear c whole r raw := by
  refine ⟨hstarts.arises, ?_⟩
  have hbrought : ∀ {path path'}, Relation.TransGen (Brings c whole) path path' →
      ¬ (c.registry whole).Busy path' := by
    intro path path' hpath hbusy
    obtain ⟨_, -, hlast⟩ := Relation.TransGen.tail'_iff.1 hpath
    exact hwhole.of_brings hlast (busy_registry.1 hbusy)
  cases hstarts with
  | body hfields =>
    intro path hmentions path' hpath' hbusy
    have hpath := hwhole.of_mentions (.body hfields) (.self raw) hmentions
    rcases Relation.reflTransGen_iff_eq_or_transGen.1 hpath' with rfl | hbrings
    · exact hpath (busy_registry.1 hbusy)
    · exact hbrought hbrings hbusy
  | @definition path _ _ found =>
    intro other hmentions path' hpath'
    exact free_of_marked (hacyclic path) (fun _ => hbrought)
      (.head' (.written found hmentions) hpath')

/-! ## Errors and nodes -/

/-- If no reference comes up to a definition that is being compiled, no error says that one is
recursive, and no node is a reference. -/
theorem tracks_nonrecursive :
    Tracks (Unmet fun _ => True)
      (fun constraint reason => ∀ words ∈ [recursiveWords, circularWords],
        Avoids words constraint reason)
      (· ≠ "ref") where
  child h hc required := h.child hc required
  merged h hrefers hfree := h.merged hrefers hfree
  type _ _ htype := htype
  recursive h hrefers hbusy := absurd (.here hrefers hbusy trivial) h.unmet
  onReferences _ _ hconstraint words _ := onReferences_avoids words _ _ hconstraint
  unresolved name _ hwords := avoids_unresolved hwords name
  notText given _ hwords := avoids_notText hwords given

theorem not_recurs (hwhole : NoneToWhole c whole)
    (hacyclic : ∀ path, ¬ Relation.TransGen (Brings c whole) path path) :
    ¬ Recurs (fun _ => True) c whole := by
  rintro ⟨r, raw, hstarts, hmeets⟩
  exact (hstarts.clear hwhole hacyclic).unmet hacyclic hmeets

/-! ## Tests -/

/-- Whether a reference is to a definition other than the whole schema. -/
def testOther (r : Registry) (own : Option String) (node : RawSchema) : Bool :=
  Compiler.typeName? node ≠ some "ref" || (referent? r node).any fun found => own ≠ some found.1

theorem other_of_test {own : Option String} (h : testOther r own node = true)
    (htype : Compiler.typeName? node = some "ref") :
    ∃ path target, Refers r node path target ∧ own ≠ some path := by
  unfold testOther at h
  cases hfound : referent? r node with
  | none => simp [htype, hfound] at h
  | some found => exact ⟨found.1, found.2, ⟨htype, hfound⟩, by simpa [htype, hfound] using h⟩

/-- Whether a reference is not to the whole schema, and the references in what it makes of its
definition are to definitions of lower rank. -/
def testSite (r : Registry) (own : Option String) (rank : String → Nat) (n : Nat)
    (node : RawSchema) : Bool :=
  Compiler.typeName? node ≠ some "ref" || (referent? r node).all fun found =>
    own ≠ some found.1 && testLower r rank found.1 n (inherit found.2 (overrides node))

theorem site_of_test {own : Option String} {rank : String → Nat} {n : Nat}
    (h : testSite r own rank n node = true) (hrefers : Refers r node path target) :
    own ≠ some path ∧ testLower r rank path n (inherit target (overrides node)) = true := by
  simpa [testSite, hrefers.1, hrefers.2] using h

/-- What `no_recursion` asks for, tested on a whole schema that is given. -/
theorem nonrecursive_of_tests (rank : String → Nat) (n : Nat)
    (hsites : ∀ root ∈ roots c whole, testAll (successors (c.registry whole))
      (testSite (c.registry whole) (wholeId whole) rank n) n root = true)
    (hranks : ∀ e ∈ (c.registry whole).entries,
      testLower (c.registry whole) rank e.1 n e.2.raw = true) :
    NoneToWhole c whole ∧ ∀ path, ¬ Relation.TransGen (Brings c whole) path path := by
  have hsite : ∀ root, Root c whole root → ∀ node, Reached (c.registry whole) node root →
      ∀ path target, Refers (c.registry whole) node path target → wholeId whole ≠ some path ∧
        testLower (c.registry whole) rank path n (inherit target (overrides node)) = true :=
    fun root hroot node hnode path target hrefers =>
      site_of_test (of_testAll_reached (hsites root (mem_roots hroot)) hnode) hrefers
  refine ⟨fun root hroot node hnode path target hrefers =>
    (hsite root hroot node hnode path target hrefers).1, acyclic_of_rank rank ?_⟩
  intro path path' hbrings
  cases hbrings with
  | written found mentions =>
    obtain ⟨e, he, rfl⟩ := Option.map_eq_some_iff.1 found
    exact lower_of_test (hranks (path, e) (Dict.mem_of_get? he)) mentions
  | overridden hroot reached refers mentions =>
    exact lower_of_test (hsite _ hroot _ reached _ _ refers).2 mentions

end Compile

namespace Compiler

open Compile

/-- **Recursion is found only where definitions lead back to themselves.** -/
theorem no_recursion (options : CompilerOptions) {whole : Json} (hsorted : whole.SortedKeys)
    (hwhole : NoneToWhole (builtin options) whole)
    (hacyclic : ∀ path, ¬ Relation.TransGen (Brings (builtin options) whole) path path) :
    (∀ leaf ∈ ((builtin options).compile whole).flatErrors,
        ¬ Opens recursiveWords leaf.constraint leaf.reason ∧
          ¬ Opens circularWords leaf.constraint leaf.reason) ∧
      ∀ top, ((builtin options).compile whole).value? = some top →
        top.Everywhere fun node => ∀ name, node.kind ≠ .ref name := by
  have hunmet : ∀ r raw, Starts (builtin options) whole r raw → Unmet (fun _ => True) r raw :=
    fun r raw => unmet_of_not_recurs (not_recurs hwhole hacyclic) hsorted
  obtain ⟨herrors, hnodes⟩ := ensures_compile options tracks_nonrecursive hunmet
  constructor
  · intro leaf hleaf
    exact ⟨herrors leaf hleaf _ List.mem_cons_self,
      herrors leaf hleaf _ (List.mem_cons_of_mem _ List.mem_cons_self)⟩
  · intro top htop root hroot node hnode name hkind
    exact hnodes top (Outcome.value?_eq_some.1 htop).2 root hroot node hnode
      (by rw [Schema.typeName, hkind]; rfl)

/-- A page, and a text. The whole schema is a page with one more property, by a reference. -/
def extendedPage (reference : String) : Json :=
  .obj [("$ref", .str "#/definitions/page"),
    ("definitions", .obj [
      ("page", .obj [("properties", .obj [("title", .str "string")]), ("type", .str "object")]),
      ("text", .obj [("type", .str "string")])]),
    ("properties", .obj [("part", .obj [("$ref", .str reference), ("type", .str "ref")])]),
    ("type", .str "ref")]

/-- How far the definitions of `extendedPage` are from those without references. -/
def extendedRank (path : String) : Nat := if path = "#/definitions/page" then 1 else 0

set_option maxRecDepth 20000 in
theorem no_recursion_text :
    ((builtin {}).compile (extendedPage "#/definitions/text")).value?.isSome = true ∧
      ∀ top, ((builtin {}).compile (extendedPage "#/definitions/text")).value? = some top →
        top.Everywhere fun node => ∀ name, node.kind ≠ .ref name := by
  have htests : NoneToWhole (builtin {}) (extendedPage "#/definitions/text") ∧ ∀ path,
      ¬ Relation.TransGen (Brings (builtin {}) (extendedPage "#/definitions/text")) path path :=
    nonrecursive_of_tests extendedRank 4 (by decide) (by decide)
  exact ⟨rfl, (no_recursion {} (by decide) htests.1 htests.2).2⟩

set_option maxRecDepth 20000 in
/-- It is not enough that no definition leads back to itself as it is written: a reference may
override a definition by a reference to the same definition, which is recursive. -/
theorem recursive_site :
    (∀ root, Root (builtin {}) (extendedPage "#/definitions/page") root → ∀ node,
      Reached ((builtin {}).registry (extendedPage "#/definitions/page")) node root →
        Compiler.typeName? node = some "ref" → ∃ path target,
          Refers ((builtin {}).registry (extendedPage "#/definitions/page")) node path target ∧
            wholeId (extendedPage "#/definitions/page") ≠ some path) ∧
      (∀ path, ¬ Relation.TransGen
        (Leads ((builtin {}).registry (extendedPage "#/definitions/page"))) path path) ∧
      ∃ top node, ((builtin {}).compile (extendedPage "#/definitions/page")).value? = some top ∧
        node ∈ top.schema.children ∧ node.kind = .ref "#/definitions/page" := by
  have htest : ∀ root ∈ roots (builtin {}) (extendedPage "#/definitions/page"),
      testAll (successors ((builtin {}).registry (extendedPage "#/definitions/page")))
        (testOther ((builtin {}).registry (extendedPage "#/definitions/page"))
          (wholeId (extendedPage "#/definitions/page"))) 5 root = true := by decide
  refine ⟨fun root hroot node hnode htype => ?_, ?_, _, _, rfl, List.mem_cons_self, rfl⟩
  · exact other_of_test (of_testAll_reached (htest root (mem_roots hroot)) hnode) htype
  · exact acyclic_of_ranks (fun _ => 0) 4 (by decide)

end Compiler

end DataSchema
