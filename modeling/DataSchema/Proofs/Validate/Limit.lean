import DataSchema.Proofs.Compile.Lookup
import DataSchema.Proofs.Compile.Meets
import DataSchema.Proofs.Validate.Terminates

/-!
# The limit on references only rejects

**Theorem (`validate_of_lower_limit`).** Let a whole schema be compiled from a raw schema in which no
combination comes up. What it accepts with one limit on references it accepts with a higher one, with
the same value and the same warnings.

Meeting the limit is an error, and arrays, objects and references pass the errors of their parts on.
So a run without errors never met the limit (`repeats_lower_limit`). Two kinds judge a part by its
errors instead: combinations, which the raw schema excludes (`uncombined_compile`), and objects with a
schema of property names. That is one of texts in what was compiled, so no reference is followed in
it.
-/

namespace DataSchema

/-! ## No combination comes up -/

namespace Compile

variable {r r' : Registry} {raw raw' node target : RawSchema} {path : String}

theorem Reached.congr (hr : r.unmarked = r'.unmarked) (h : Reached r node raw) :
    Reached r' node raw := by
  induction h with
  | self => exact .self _
  | child hc _ ih => exact .child hc ih
  | merged hrefers _ ih => exact .merged ((refers_congr hr).1 hrefers) ih

/-- What comes up in a raw schema comes up in what is kindred, with the same type. -/
theorem Reached.kindred (h : Reached r node raw) (hr : SortedRaws r) (hk : Kindred raw raw') :
    ∃ node', Reached r node' raw' ∧ Compiler.typeName? node' = Compiler.typeName? node := by
  induction h generalizing raw' with
  | self => exact ⟨raw', .self _, hk.typeName?.symm⟩
  | child hc h => exact ⟨_, .child (hk.children ▸ hc) h, rfl⟩
  | merged hrefers _ ih =>
    obtain ⟨node', hnode', htype⟩ := ih (hk.merged (hr _ _ hrefers.found))
    exact ⟨node', .merged (hk.refers hrefers) hnode', htype⟩

/-- What holds of a raw schema, and passes on to what comes up next, holds of all that comes up. -/
theorem Reached.of_successors {P : RawSchema → Prop} (h : Reached r node raw)
    (hnext : ∀ raw, P raw → ∀ next ∈ successors r raw, P next) (hraw : P raw) : P node := by
  induction h with
  | self => exact hraw
  | child hc _ ih => exact ih (hnext _ hraw _ (mem_successors_of_child hc))
  | merged hrefers _ ih => exact ih (hnext _ hraw _ (mem_successors_of_refers hrefers))

/-- No combination comes up while references are replaced. -/
def NoneCombined (c : Compiler) (raw : Json) : Prop :=
  ∀ root, Root c raw root → ∀ node, Reached (c.registry raw) node root →
    Compiler.typeName? node ≠ some "combine"

/-- No combination comes up while the raw schema is compiled. -/
structure Uncombined (r : Registry) (raw : RawSchema) : Prop extends Ordered r raw where
  none : ∀ node, Reached r node raw → Compiler.typeName? node ≠ some "combine"

theorem Uncombined.child (h : Uncombined r raw) {c : RawSchema} (hc : c ∈ raw.children)
    (required : Bool) : Uncombined r (asProperty required c) where
  toOrdered := h.toOrdered.child hc required
  none node hnode := by
    have hk := (kindred_asProperty (h.sorted.child hc) required).symm
    obtain ⟨node', hnode', htype⟩ := hnode.kindred h.sortedRaws hk
    exact htype ▸ h.none node' (.child hc hnode')

theorem Uncombined.merged (h : Uncombined r raw) (hrefers : Refers r raw path target) :
    Uncombined (r.mark path .compiling) (inherit target (overrides raw)) where
  toOrdered := h.toOrdered.merged hrefers
  none node hnode := h.none node (.merged hrefers (hnode.congr (Registry.unmarked_mark _ _ _)))

theorem tracks_uncombined : Tracks Uncombined (fun _ _ => True) (· ≠ "combine") where
  child h := h.child
  merged h hrefers _ := h.merged hrefers
  type h htype _ hcombine := h.none _ (.self _) (hcombine ▸ htype)
  recursive _ _ _ := ⟨by decide, fun _ => ⟨fun _ _ => trivial, trivial⟩⟩
  onReferences _ _ _ := trivial
  unresolved _ := trivial
  notText _ := trivial

theorem NoneCombined.start {c : Compiler} {whole : Json} (h : NoneCombined c whole)
    (hwhole : whole.SortedKeys) (hstarts : Starts c whole r raw) : Uncombined r raw where
  toOrdered := hstarts.ordered hwhole
  none := by
    cases hstarts with
    | body hfields => exact h _ (.body hfields)
    | definition _ found =>
      exact fun node hnode =>
        h _ (.definition found) node (hnode.congr (Registry.unmarked_mark _ _ _))

/-- The names of properties have a schema of texts in what was compiled. -/
theorem Node.names_string {s : Schema} (h : Node r raw s) {o : ObjectSchema}
    (hkind : s.kind = .object o) : ∀ names ∈ o.propertyNames, ∃ c, names.kind = .string c := by
  induction h with
  | object _ _ _ _ _ names =>
    obtain rfl := SchemaKind.object.inj hkind
    exact names
  | inlined _ _ _ _ ih => exact ih hkind
  | _ => cases hkind

end Compile

/-- The schema is no combination, and if it is an object its property names have a schema of
texts. -/
structure Schema.Simple (s : Schema) : Prop where
  uncombined : s.typeName ≠ "combine"
  names : ∀ o, s.kind = .object o → ∀ names ∈ o.propertyNames, ∃ c, names.kind = .string c

/-- No combination is compiled where none comes up. -/
theorem Compiler.simple_compile (options : CompilerOptions) {raw : Json} (hraw : raw.SortedKeys)
    (h : Compile.NoneCombined (builtin options) raw) {top : TopSchema}
    (htop : ((builtin options).compile raw).value? = some top) :
    top.Everywhere Schema.Simple := by
  obtain ⟨-, htyped⟩ := ensures_compile options Compile.tracks_uncombined
    fun _ _ hstarts => h.start hraw hstarts
  obtain ⟨_, _, hfrom⟩ := compiledFrom_of_value? htop
  intro root hroot node hnode
  obtain ⟨_, hbuilt⟩ := hfrom.built hroot hnode
  exact ⟨htyped top (Outcome.value?_eq_some.1 htop).2 root hroot node hnode,
    fun _ hkind => hbuilt.names_string hkind⟩

namespace Validator

open Validate

variable {options options' : ValidatorOptions} {top : TopSchema}

/-- Texts are validated alike with any limit. -/
theorem same_validateWithin_string {names : Schema} {c : StringSchema} (hkind : names.kind = .string c)
    {n m : Nat} (hn : 0 < n) (hm : 0 < m) (count : Nat) (data : Option Json) :
    Run.Same count ((builtin options).validateWithin (some top) n names data)
      ((builtin options').validateWithin (some top) m names data) := by
  obtain ⟨n, rfl⟩ := Nat.exists_eq_add_one.2 hn
  obtain ⟨m, rfl⟩ := Nat.exists_eq_add_one.2 hm
  have htype : names.typeName = "string" := by rw [Schema.typeName, hkind]; rfl
  rw [validateWithin_succ (t := .scalar Validate.string) (by rw [htype]; rfl),
    validateWithin_succ (t := .scalar Validate.string) (by rw [htype]; rfl)]
  exact ⟨rfl, rfl⟩

/-- **A run without errors is the same with a higher limit.** -/
theorem repeats_lower_limit (hpaths : options'.definitionPathPrefix = options.definitionPathPrefix)
    (hle : options.maxRefDepth.toNat ≤ options'.maxRefDepth.toNat)
    (htop : top.Everywhere Schema.Simple) {n m count : Nat} {s : Schema}
    (hs : s.Everywhere Schema.Simple) (hcount : count ≤ options.maxRefDepth.toNat)
    (hn : depthFor options top count s ≤ n) (hm : n ≤ m) (data : Option Json) :
    Run.Repeats (· = []) count ((builtin options).validateWithin (some top) n s data)
      ((builtin options').validateWithin (some top) m s data) := by
  induction n generalizing m s count data with
  | zero =>
    have hpos : 0 < depthFor options top count s := depthFor_pos
    omega
  | succ n ih =>
    obtain ⟨m, rfl⟩ : ∃ m', m = m' + 1 := Nat.exists_eq_add_one.2 (by omega)
    rw [validateWithin_eq, validateWithin_eq]
    refine repeats_validateIn options options' passes_nil ⟨fun c hc data => ?_, fun c hc data => ?_,
      fun reference _ => ?_⟩ data
    · have hless : depthFor options top count c < depthFor options top count s := depthFor_child hc
      exact ih (hs.child hc) hcount (by omega) (by omega) data
    · -- What is judged by its errors is the schema of property names, since `s` is no combination.
      have hpos : 0 < depthFor options top count c := depthFor_pos
      have hless : depthFor options top count c < depthFor options top count s :=
        depthFor_child (Schema.judged_subset hc)
      unfold Schema.judged at hc
      split at hc
      · next o hkind =>
        obtain ⟨constraints, hstring⟩ := hs.root.names o hkind c (Option.mem_toList.1 hc)
        exact same_validateWithin_string hstring (by omega) (by omega) count data
      · next combination hkind =>
        exact absurd (by rw [Schema.typeName, hkind]; rfl) hs.root.uncombined
      · cases hc
    · have htarget : ((builtin options').context (some top) m).target? =
          ((builtin options).context (some top) n).target? := by
        simp only [context, builtin, hpaths]
      refine repeats_follow htarget hle (.inr fun d => List.cons_ne_nil d []) ?_
      intro hlimit target hfound data
      have hroot := TopSchema.mem_roots_of_definition? hfound
      have hwithin : count + 1 ≤ options.maxRefDepth.toNat := hlimit
      have hless : depthFor options top (count + 1) target < depthFor options top count s :=
        depthFor_target hwithin hroot
      exact ih (htop target hroot) hwithin (by omega) (by omega) data

/-- **The limit on references only rejects.** What is accepted with one limit is accepted with a
higher one, with the same value and the same warnings. -/
theorem validate_of_lower_limit (compilerOptions : CompilerOptions) {raw : Json}
    (hraw : raw.SortedKeys) (hcombined : Compile.NoneCombined (.builtin compilerOptions) raw)
    (htop : ((Compiler.builtin compilerOptions).compile raw).value? = some top)
    (hpaths : options'.definitionPathPrefix = options.definitionPathPrefix)
    (hle : options.maxRefDepth ≤ options'.maxRefDepth) (data : Option Json)
    (h : ((builtin options).validate top data).errors = []) :
    (builtin options').validate top data = (builtin options).validate top data := by
  have hsimple := Compiler.simple_compile compilerOptions hraw hcombined htop
  have hbody := hsimple top.schema List.mem_cons_self
  have hlimits : options.maxRefDepth.toNat ≤ options'.maxRefDepth.toNat := hle
  have hdepths : (builtin options).depthBound top.height ≤ (builtin options').depthBound top.height :=
    Nat.mul_le_mul_right _ (Nat.succ_le_succ hlimits)
  obtain ⟨-, hsame⟩ := repeats_lower_limit hpaths hlimits hsimple hbody (Nat.zero_le _)
    (depthFor_le_depthBound options top) hdepths data
  exact congrArg Prod.fst (hsame h)

end Validator

/-! ## Trees -/

namespace Compile

/-- The raw schemas that come up in trees: the body and what it becomes, and in each node an item
that becomes a node. -/
def treeNodes : List RawSchema :=
  let item : RawSchema := [("$ref", .str "tree"), ("type", .str "ref")]
  let node : RawSchema := [("$id", .str "tree"), ("items", .obj item), ("type", .str "array")]
  let body : RawSchema := [("$ref", .str "tree"), ("definitions", .obj [("node", .obj node)]),
    ("type", .str "ref")]
  [body, inherit node (overrides body), item, node]

theorem noneCombined_tree : NoneCombined (.builtin {}) Compiler.treeRaw := by
  intro root hroot node hnode
  have hroots : ∀ root ∈ roots (.builtin {}) Compiler.treeRaw, root ∈ treeNodes := by
    intro root hroot
    rcases List.mem_cons.1 hroot with rfl | hroot
    · exact .head _
    · obtain rfl := List.mem_singleton.1 hroot
      exact .tail _ (.tail _ (.tail _ (.head _)))
  have hnext : ∀ raw ∈ treeNodes,
      ∀ next ∈ successors ((Compiler.builtin {}).registry Compiler.treeRaw) raw,
        next ∈ treeNodes := by
    intro raw hraw next hnext
    simp only [treeNodes, List.mem_cons, List.not_mem_nil, or_false] at hraw
    rcases hraw with rfl | rfl | rfl | rfl <;> obtain rfl := List.mem_singleton.1 hnext
    · exact .tail _ (.head _)
    · exact .tail _ (.tail _ (.head _))
    · exact .tail _ (.tail _ (.tail _ (.head _)))
    · exact .tail _ (.tail _ (.head _))
  have htypes : ∀ raw ∈ treeNodes, Compiler.typeName? raw ≠ some "combine" := by decide
  exact htypes node (hnode.of_successors hnext (hroots root (mem_roots hroot)))

end Compile

namespace Validator

set_option maxRecDepth 10000 in
theorem validate_of_lower_limit_tree :
    ((builtin { maxRefDepth := 2 }).validate Compiler.tree
        (some (.arr [.arr []]))).errors = [] ∧
      (builtin { maxRefDepth := 5 }).validate Compiler.tree (some (.arr [.arr []])) =
        (builtin { maxRefDepth := 2 }).validate Compiler.tree (some (.arr [.arr []])) := by
  have hraw : Compiler.treeRaw.SortedKeys := by decide
  have hcompiled : ((Compiler.builtin {}).compile Compiler.treeRaw).value? = some Compiler.tree :=
    rfl
  have haccepted : ((builtin { maxRefDepth := 2 }).validate Compiler.tree
      (some (.arr [.arr []]))).errors = [] := rfl
  have hle : ({ maxRefDepth := 2 } : ValidatorOptions).maxRefDepth ≤
      ({ maxRefDepth := 5 } : ValidatorOptions).maxRefDepth := by decide
  have hpaths : ({ maxRefDepth := 5 } : ValidatorOptions).definitionPathPrefix =
      ({ maxRefDepth := 2 } : ValidatorOptions).definitionPathPrefix := rfl
  exact ⟨haccepted, validate_of_lower_limit {} hraw Compile.noneCombined_tree hcompiled hpaths hle
    _ haccepted⟩

end Validator

end DataSchema
