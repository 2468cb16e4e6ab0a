import DataSchema.Proofs.Compile.Lookup
import DataSchema.Proofs.Compile.Nests

/-!
# Compiling gives a value or an error

**Theorem (`value_or_errors`).** What is compiled has a value exactly if it has no errors: a whole
schema, and a schema on its own in any registry.

Nothing that is compiled on the way is lost (`Kept`): its errors are errors of the whole, and if the
whole has a value then the schema it gives is a node of that. A value that stands where a schema is
compiled and is none is an error too, and every definition is in the value.

One direction is that compiling without error stores a schema (`sound_compileWithin`). The other
holds of every outcome, since errors hide the value.
-/

namespace DataSchema

variable {α : Type}

/-- There is a value exactly if there are no errors. -/
def Outcome.Complete (o : Outcome α) : Prop := o.errors = [] ↔ o.value?.isSome = true

theorem Outcome.complete_of {o : Outcome α} (h : o.errors = [] → ∃ a, o.value? = some a) :
    o.Complete := by
  constructor
  · intro herrors
    obtain ⟨a, ha⟩ := h herrors
    rw [ha]
    rfl
  · intro hsome
    obtain ⟨a, ha⟩ := Option.isSome_iff_exists.1 hsome
    exact (Outcome.value?_eq_some.1 ha).1

open Diagnostic (Covers)

namespace Compile

open Step

variable {ctx : Context} {raw : RawSchema} {r r' : Registry} {path : String}

/-! ## Definitions -/

theorem yields_register {id : Option String} {complaint : RegistryError → Diagnostic}
    {registered : Bool} :
    (register path raw id complaint).Yields r registered r' ↔
      registered = true ∧ r.add path raw id = .ok r' := by
  unfold register
  simp only [yields_bind, yields_get]
  constructor
  · rintro ⟨_, _, ⟨rfl, rfl⟩, h⟩
    split at h
    · next registry hadd =>
      obtain ⟨_, _, hset, h⟩ := yields_bind.1 h
      obtain rfl := yields_set.1 hset
      obtain ⟨rfl, rfl⟩ := yields_pure.1 h
      exact ⟨rfl, hadd⟩
    · exact absurd h not_yields_noteError_bind
  · rintro ⟨rfl, hadd⟩
    refine ⟨r, r, ⟨rfl, rfl⟩, ?_⟩
    rw [hadd]
    exact yields_bind.2 ⟨(), r', yields_set.2 rfl, yields_pure.2 ⟨rfl, rfl⟩⟩

/-- Definitions that are registered without error are all registered. -/
theorem names_of_yields_registerEach {fields : List (String × Json)}
    {names : List (String × String)} (h : (registerEach ctx fields).Yields r names r') :
    names.map Prod.fst = Dict.keys fields := by
  induction fields generalizing r names with
  | nil =>
    obtain ⟨rfl, -⟩ := yields_pure.1 h
    rfl
  | cons e rest ih =>
    obtain ⟨name, j⟩ := e
    unfold registerEach at h
    split at h
    · exact absurd h not_yields_noteError_bind
    · obtain ⟨registered, u, hregistered, h⟩ := yields_bind.1 h
      obtain ⟨others, _, hothers, h⟩ := yields_bind.1 h
      obtain ⟨rfl, rfl⟩ := yields_pure.1 h
      obtain ⟨rfl, -⟩ := yields_register.1 hregistered
      rw [if_pos rfl]
      exact congrArg (name :: ·) (ih hothers)

theorem names_of_yields_registration {id : Option String} {names : List (String × String)}
    (h : (registration ctx raw).Yields r (id, names) r') {definitions : Dict Json}
    (hdefinitions : raw.get? "definitions" = some (.obj definitions)) :
    names.map Prod.fst = definitions.keys := by
  obtain ⟨-, u, -, hnames⟩ := yields_registration.1 h
  unfold registerDefinitions at hnames
  rw [hdefinitions] at hnames
  exact names_of_yields_registerEach hnames

end Compile

namespace Compiler

open Compile

variable {options : CompilerOptions} {whole : Json} {r r' : Registry} {raw raw' : RawSchema}
  {top : TopSchema}

/-- Each start of a whole schema that compiles without error is compiled to its body or to a
definition. -/
theorem exists_root_of_starts (hstarts : Starts (builtin options) whole r raw)
    (h : ((builtin options).compile whole).value? = some top) :
    ∃ root ∈ top.roots,
      CompiledTo ((builtin options).context (compileDepth whole)) r raw root := by
  have hs : Steady ((builtin options).context (compileDepth whole)) := steady_context options _
  obtain ⟨fields, names, u, v, hfields, hreg, hds, hbody⟩ := runs_of_value? h
  have hfree : ∀ e ∈ names, ¬ ((builtin options).registry whole).Busy e.2 := fun e he hbusy =>
    (registered_of_registration hreg).other e he ((busy_registration hreg e.2).1 hbusy)
  obtain ⟨hu, hall⟩ := definitions_runs hs hfree hds
  cases hstarts with
  | body hfields' =>
    obtain rfl := Except.ok.inj (hfields.symm.trans hfields')
    exact ⟨top.schema, List.mem_cons_self, u, v, hu, hbody⟩
  | @definition path _ other found =>
    obtain ⟨name, hname⟩ := exists_name hfields other found
    rw [hreg.2] at hname
    obtain ⟨d, hd, -, w, w', hw, hyields⟩ := exists_mem_of_forall₂ hall hname
    obtain ⟨-, _, raw, heq, hraw, hto⟩ := definition_steady hs
      (fun hbusy => hfree _ hname ((hw.busy path).1 hbusy)) hyields
    obtain rfl := Option.some.inj heq
    rw [Registry.raw?_congr hw.unmarked, found] at hraw
    obtain rfl := Option.some.inj hraw
    exact ⟨d.2.schema, List.mem_cons_of_mem _ (List.mem_map_of_mem hd),
      hto.alike (hw.mark path Iff.rfl)⟩

/-! ## What is kept -/

/-- What a raw schema is compiled to on the way is kept in the errors of a whole and, if the whole
has a value, in one of its schemas. -/
structure Kept (c : Compiler) (n : Nat) (r : Registry) (raw : RawSchema)
    (errors : List Diagnostic) (roots? : Option (List Schema)) : Prop where
  complete : (c.compileWithin n raw r).1.Complete
  covered : Covers errors (c.compileWithin n raw r).1.errors
  faults : ∀ place d, FaultAt raw place d → Covers errors [d]
  node : ∀ roots ∈ roots?, ∃ root ∈ roots, ∃ node,
    (c.compileWithin n raw r).1.value? = some node ∧ node.Within root

theorem kept_of_nests {most d n : Nat} (hbounded : Bounded most d n r raw)
    (h : Nests r raw r' raw') {errors : List Diagnostic} {roots? : Option (List Schema)}
    (herrors : ∀ Q, Run.Shows Q (·.Alike r) ((builtin options).compileWithin n raw) →
      ¬ Diagnostic.Leaves Q errors)
    (hroots : ∀ roots ∈ roots?, ∃ root ∈ roots,
      CompiledTo ((builtin options).context n) r raw root) :
    Kept (builtin options) n r' raw' errors roots? where
  complete := by
    have hsound : Sound ((builtin options).context n).nested := sound_compileWithin options n
    refine Outcome.complete_of fun herrors => ?_
    obtain ⟨s, hs, -⟩ := hsound.exists_value? herrors
    exact ⟨s, hs⟩
  covered := Diagnostic.covers_of_leaves fun Q hleaf =>
    herrors Q (shows_of_nests h hbounded (Nat.le_refl n) hleaf)
  faults place fault hfault := by
    refine Diagnostic.covers_of_leaves fun Q hleaf =>
      herrors Q (shows_of_nests h hbounded (Nat.le_refl n) ?_)
    obtain ⟨n, rfl⟩ := hbounded.exists_depth
    exact leaves_of_faultAt (h.ordered hbounded.ordered).sorted hfault hleaf
  node roots hmem := by
    obtain ⟨root, hroot, u, v, hu, hends⟩ := hroots roots hmem
    obtain ⟨node, hnode, hwithin⟩ := within_of_nests h hbounded (Nat.le_refl n) hu hends
    exact ⟨root, hroot, node, hnode, hwithin⟩

/-- All that is compiled on the way from the starts of a whole schema is kept. -/
def KeepsWhole (c : Compiler) (whole : Json) : Prop :=
  ∀ r raw r' raw', Starts c whole r raw → Nests r raw r' raw' →
    Kept c (compileDepth whole) r' raw' (c.compile whole).errors
      ((c.compile whole).value?.map TopSchema.roots)

/-- All that is compiled on the way from a schema on its own is kept. -/
def KeepsNode (c : Compiler) (n : Nat) (j : Json) (r : Registry) : Prop :=
  ∀ fields r' raw', normalize j = .ok fields → Nests r fields r' raw' →
    Kept c n r' raw' ((c.context n).compile j r).1.errors
      (((c.context n).compile j r).1.value?.map ([·]))

/-- If a whole schema has a value, all its definitions are in it. -/
def KeepsDefinitions (c : Compiler) (whole : Json) : Prop :=
  ∀ top fields definitions, (c.compile whole).value? = some top → normalize whole = .ok fields →
    fields.get? "definitions" = some (.obj definitions) →
      Dict.keys top.definitions = Dict.keys definitions

theorem keepsWhole (options : CompilerOptions) (hwhole : whole.SortedKeys) :
    KeepsWhole (builtin options) whole := by
  intro r raw r' raw' hstarts h
  refine kept_of_nests (hstarts.inBounds hwhole) h
    (fun Q hshows => shows_compile options hstarts hshows) ?_
  intro roots hmem
  obtain ⟨top, htop, rfl⟩ := Option.map_eq_some_iff.1 hmem
  exact exists_root_of_starts hstarts htop

theorem keepsNode (options : CompilerOptions) {n : Nat} {j : Json} (hj : j.SortedKeys)
    (hr : SortedRaws r) (hn : depthIn r j ≤ n) : KeepsNode (builtin options) n j r := by
  intro fields r' raw' hfields h
  have hcompile : ((builtin options).context n).compile j =
      (builtin options).compileWithin n fields := by
    unfold Context.compile
    rw [hfields]
    rfl
  have hbounded : Bounded (max j.depth r.depth) (max j.depth r.depth) n r fields :=
    { ordered := ⟨.normalize hj hfields, hr⟩
      rawsFit := fun path raw hraw => (r.rawsFit_depth path raw hraw).mono (Nat.le_max_right _ _)
      fits := (normalize_fits hfields).mono (Nat.le_max_left _ _)
      le := Nat.le_refl _
      depth := Nat.le_trans (enough_mono r.free_le_size)
        (Nat.le_trans (enough_le_depthIn r j) hn) }
  rw [hcompile]
  refine kept_of_nests hbounded h (fun Q hshows => hshows r (.refl r)) ?_
  intro roots hmem
  obtain ⟨s, hs, rfl⟩ := Option.map_eq_some_iff.1 hmem
  exact ⟨s, List.mem_cons_self, r, _, .refl r, Run.ends_of_value? hs⟩

theorem keepsDefinitions (options : CompilerOptions) (whole : Json) :
    KeepsDefinitions (builtin options) whole := by
  intro top fields definitions htop hfields hdefinitions
  obtain ⟨fields', names, u, v, hfields', hreg, hds, -⟩ := runs_of_value? htop
  obtain rfl := Except.ok.inj (hfields.symm.trans hfields')
  obtain ⟨-, hall⟩ := compiled_definitions (sound_compileWithin options _) hds
  exact (keys_of_definitions hall).trans (names_of_yields_registration hreg hdefinitions)

/-- **Compiling gives a value or an error.** This is so of whole schemas and of schemas on their
own, compiled in any registry to any depth. All that is compiled on the way is kept. -/
theorem value_or_errors (options : CompilerOptions) :
    (∀ whole, ((builtin options).compile whole).Complete ∧
      KeepsDefinitions (builtin options) whole ∧
      (whole.SortedKeys → KeepsWhole (builtin options) whole)) ∧
    ∀ n j r, (((builtin options).context n).compile j r).1.Complete ∧
      (j.SortedKeys → SortedRaws r → depthIn r j ≤ n → KeepsNode (builtin options) n j r) := by
  refine ⟨fun whole => ⟨?whole, keepsDefinitions options whole, keepsWhole options⟩,
    fun n j r => ⟨?node, keepsNode options⟩⟩
  case whole => exact Outcome.complete_of exists_value?_compile
  case node =>
    refine Outcome.complete_of fun herrors => ?_
    have hsound : Sound ((builtin options).context n).nested := sound_compileWithin options n
    obtain ⟨s, hs, -⟩ := hsound.exists_value?_compile herrors
    exact ⟨s, hs⟩

/-- Texts that can have no characters. -/
def emptyTexts : RawSchema := [("maxLength", .ofInt64 0), ("type", .str "string")]

/-- A list of what is referred to as a definition. -/
def listOf (definition : RawSchema) : RawSchema :=
  [("definitions", .obj [("entry", .obj definition)]),
    ("items", .obj [("$ref", .str "#/definitions/entry"), ("type", .str "ref")]),
    ("type", .str "array")]

/-- A list of objects with a property that is listed. -/
def listOfParts : RawSchema :=
  [("items", .obj [("properties", .obj [("part", .str "integer")]),
      ("requiredProperties", .arr [.str "part"]), ("type", .str "object")]),
    ("type", .str "array")]

/-- What the property of the objects in the list is compiled from. -/
def partRaw : RawSchema := [("required", .bool true), ("type", .str "integer")]

set_option maxRecDepth 20000 in
/-- The error of a definition is one of the list that refers to it, and what a property is compiled
to is in the schema that its list is compiled to. -/
theorem value_or_errors_list :
    Kept (builtin {}) (compileDepth (.obj (listOf emptyTexts)))
        (((builtin {}).registry (.obj (listOf emptyTexts))).mark "#/definitions/entry" .compiling)
        emptyTexts ((builtin {}).compile (.obj (listOf emptyTexts))).errors none ∧
      ∃ s, Kept (builtin {}) (compileDepth (.obj listOfParts)) .empty partRaw
        ((builtin {}).compileNode (.obj listOfParts)).errors (some [s]) := by
  have hentry : Nests ((builtin {}).registry (.obj (listOf emptyTexts))) (listOf emptyTexts)
      (((builtin {}).registry (.obj (listOf emptyTexts))).mark "#/definitions/entry" .compiling)
      emptyTexts :=
    .place .items rfl (.inlined "#/definitions/entry" ⟨rfl, rfl⟩ (by decide) (.self _ _))
  have hpart : Nests .empty listOfParts .empty partRaw :=
    .place .items rfl (.place (.property "part") rfl (.self _ _))
  refine ⟨((value_or_errors {}).1 _).2.2 (by decide) _ _ _ _ (.body rfl) hentry, _,
    ((value_or_errors {}).2 (compileDepth (.obj listOfParts)) _ .empty).2 (by decide)
      (by rintro _ _ ⟨⟩) (by decide) _ _ _ rfl hpart⟩

end Compiler

end DataSchema
