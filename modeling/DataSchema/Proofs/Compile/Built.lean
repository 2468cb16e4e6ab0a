import DataSchema.Proofs.Compile.Node

/-!
# All nodes of compiled schemas

**Theorem (`sound_compileWithin`).** A raw schema that compiles without error compiles to a schema,
and every node of it is a `Node`. What names stand for in the registry is unchanged.

The proof is an induction on the bound on the depth. The law `Sound` of the nested compiler is the
hypothesis under which each kind is shown to keep it; the lists in which schemas are kept
(members of groups, properties) take an induction of their own, which also says that no element
is lost.
-/

namespace DataSchema.Compile

open Step

/-- Runs that meet no error give a compiled schema, and keep the registry up to states. -/
def Sound (nested : RawSchema → Run Schema) : Prop :=
  ∀ {raw : RawSchema} {r r' : Registry} {o : Option Schema}, (nested raw).Ends r o r' →
    r'.unmarked = r.unmarked ∧ ∃ s, o = some s ∧ Compiled r.unmarked raw s

variable {ctx : Context} {raw : RawSchema} {r r' : Registry}

theorem Sound.compile (hn : Sound ctx.nested) {j : Json} {o : Option Schema}
    (h : (ctx.compile j).Ends r o r') :
    r'.unmarked = r.unmarked ∧ ∃ s, o = some s ∧ Built r.unmarked s := by
  unfold Context.compile at h
  split at h
  · obtain ⟨hr, s, rfl, hs⟩ := hn h
    exact ⟨hr, s, rfl, hs.built⟩
  · exact absurd h Run.not_ends_failed

/-- What is compiled without error has a value. -/
theorem Sound.exists_value? (hn : Sound ctx.nested) (h : (ctx.nested raw r).1.errors = []) :
    ∃ s, (ctx.nested raw r).1.value? = some s ∧ Compiled r.unmarked raw s := by
  obtain ⟨-, s, hs, hcompiled⟩ := hn ⟨h, rfl, rfl⟩
  exact ⟨s, Outcome.value?_eq_some.2 ⟨h, hs⟩, hcompiled⟩

theorem Sound.exists_value?_compile (hn : Sound ctx.nested) {j : Json}
    (h : (ctx.compile j r).1.errors = []) :
    ∃ s, (ctx.compile j r).1.value? = some s ∧ Built r.unmarked s := by
  obtain ⟨-, s, hs, hbuilt⟩ := hn.compile ⟨h, rfl, rfl⟩
  exact ⟨s, Outcome.value?_eq_some.2 ⟨h, hs⟩, hbuilt⟩

/-! ## Arrays -/

theorem built_items (hn : Sound ctx.nested) {o : Option Schema}
    (h : (items ctx raw).Yields r o r') :
    r'.unmarked = r.unmarked ∧ ∃ s, o = some s ∧ Built r.unmarked s := by
  unfold items at h
  split at h
  · exact absurd h not_yields_noteError_bind
  · exact absurd h not_yields_noteError_bind
  · exact hn.compile (yields_attach.1 h)

theorem compiled_array (hn : Sound ctx.nested) (ht : Compiler.typeName? raw = some "array")
    {o : Option Schema} (h : (array ctx raw).Yields r o r') :
    r'.unmarked = r.unmarked ∧ ∃ s, o = some s ∧ Compiled r.unmarked raw s := by
  simp only [array, yields_bind, yields_lift] at h
  obtain ⟨required, _, ⟨-, rfl⟩, unique, _, ⟨-, rfl⟩, default, _, ⟨hd, rfl⟩, items, _, hi, h⟩ := h
  obtain ⟨hr, s, rfl, hs⟩ := built_items hn hi
  obtain ⟨rfl, rfl⟩ := yields_pure.1 h
  refine ⟨hr, _, rfl, .array ht required (yields_checkedDefault hd) s unique, ?_⟩
  simpa [Schema.children] using hs

/-! ## Combinations -/

theorem built_groupMembers (hn : Sound ctx.nested) {name : String} {i : Nat} {raws : List Json}
    {members : List Schema} (h : (groupMembers ctx name i raws).Yields r members r') :
    r'.unmarked = r.unmarked ∧ members.length = raws.length ∧
      ∀ s ∈ members, Built r.unmarked s := by
  induction raws generalizing i r members with
  | nil =>
    obtain ⟨rfl, rfl⟩ := yields_pure.1 h
    simp
  | cons raw rest ih =>
    simp only [groupMembers, yields_bind, yields_attach] at h
    obtain ⟨member, u, hm, others, _, ho, h⟩ := h
    obtain ⟨rfl, rfl⟩ := yields_pure.1 h
    obtain ⟨hu, s, rfl, hs⟩ := hn.compile hm
    obtain ⟨hr, hlen, hothers⟩ := ih ho
    rw [hu] at hr hothers
    refine ⟨hr, by simp [hlen], fun t hmem => ?_⟩
    rcases List.mem_cons.1 hmem with rfl | hmem
    · exact hs
    · exact hothers t hmem

/-- The members of a group that is declared are all there. -/
theorem built_group (hn : Sound ctx.nested) {name : String} {g : Option (List Schema)}
    (h : (group ctx raw name).Yields r g r') :
    r'.unmarked = r.unmarked ∧ g ≠ some [] ∧ (declaresGroup raw name = true → g ≠ none) ∧
      ∀ s ∈ g.getD [], Built r.unmarked s := by
  unfold group at h
  split at h
  · next hraw =>
    obtain ⟨rfl, rfl⟩ := yields_pure.1 h
    simp [declaresGroup, hraw]
  · next hraw =>
    obtain ⟨rfl, rfl⟩ := yields_pure.1 h
    simp [declaresGroup, hraw]
  · next raws hraw =>
    obtain ⟨members, _, hm, h⟩ := yields_bind.1 h
    obtain ⟨hr, hlen, hmem⟩ := built_groupMembers hn hm
    obtain ⟨rfl, rfl⟩ := yields_pure.1 h
    refine ⟨hr, nonEmpty_ne_some_nil members, fun hdecl => ?_, fun s hs => hmem s ?_⟩
    · cases raws with
      | nil => simp [declaresGroup, hraw] at hdecl
      | cons raw rest =>
        have hne : members ≠ [] := by rintro rfl; simp at hlen
        simp [nonEmpty, hne]
    · unfold nonEmpty at hs
      split at hs <;> simp_all
  · exact absurd h not_yields_noteError_bind

theorem compiled_combine (hn : Sound ctx.nested) (ht : Compiler.typeName? raw = some "combine")
    {o : Option Schema} (h : (combine ctx raw).Yields r o r') :
    r'.unmarked = r.unmarked ∧ ∃ s, o = some s ∧ Compiled r.unmarked raw s := by
  simp only [combine, yields_bind, yields_lift] at h
  obtain ⟨required, _, ⟨-, rfl⟩, strategy, _, ⟨-, rfl⟩, allOf, u₁, h₁, anyOf, u₂, h₂, oneOf, u₃, h₃,
    h⟩ := h
  obtain ⟨hu₁, hne₁, hd₁, hb₁⟩ := built_group hn h₁
  obtain ⟨hu₂, hne₂, hd₂, hb₂⟩ := built_group hn h₂
  obtain ⟨hu₃, hne₃, hd₃, hb₃⟩ := built_group hn h₃
  rw [hu₁] at hu₂ hb₂
  rw [hu₂] at hu₃ hb₃
  rw [yields_ite] at h
  split at h
  · next hany =>
    obtain ⟨rfl, rfl⟩ := yields_pure.1 h
    simp only [List.any_cons, List.any_nil, Bool.or_false, Bool.or_eq_true] at hany
    have hdeclared : ∃ g ∈ [allOf, anyOf, oneOf], g ≠ none := by
      rcases hany with hany | hany | hany
      · exact ⟨allOf, by simp, hd₁ hany⟩
      · exact ⟨anyOf, by simp, hd₂ hany⟩
      · exact ⟨oneOf, by simp, hd₃ hany⟩
    refine ⟨hu₃, _, rfl,
      .combine ht required Json.present_ne_null (by simp [hne₁, hne₂, hne₃]) hdeclared, ?_⟩
    intro c hc
    simp only [Schema.children, List.mem_append] at hc
    rcases hc with (hc | hc) | hc
    · exact hb₁ c hc
    · exact hb₂ c hc
    · exact hb₃ c hc
  · exact absurd h not_yields_noteError_bind

/-! ## Objects -/

/-- The properties of a table are built. -/
def PropertyTable.Built (r : Registry) (table : PropertyTable) : Prop :=
  (∀ p ∈ table.named, Compile.Built r p.2) ∧ ∀ p ∈ table.patterns, Compile.Built r p.2

theorem built_enter {table table' : PropertyTable} {name : String} {nameType : Option Json}
    {s : Schema} (h : (enter table name nameType s).Yields r table' r') {q : Registry}
    (ht : table.Built q) (hs : Built q s) : r = r' ∧ table'.Built q := by
  simp only [enter, yields_ite] at h
  split at h
  · exact absurd h not_yields_noteError_bind
  · split at h
    · split at h
      · obtain ⟨rfl, rfl⟩ := yields_pure.1 h
        refine ⟨rfl, ht.1, fun p hp => ?_⟩
        rcases List.mem_append.1 hp with hp | hp
        · exact ht.2 p hp
        · obtain rfl := List.mem_singleton.1 hp
          exact hs
      · exact absurd h not_yields_noteError_bind
    · obtain ⟨rfl, rfl⟩ := yields_pure.1 h
      refine ⟨rfl, fun p hp => ?_, ht.2⟩
      rcases Dict.mem_insert hp with rfl | hp
      · exact hs
      · exact ht.1 p hp
    · obtain ⟨rfl, rfl⟩ := yields_pure.1 h
      refine ⟨rfl, fun p hp => ?_, ht.2⟩
      rcases Dict.mem_insert hp with rfl | hp
      · exact hs
      · exact ht.1 p hp
    · exact absurd h not_yields_noteError_bind

theorem built_property (hn : Sound ctx.nested) {table table' : PropertyTable} {name : String}
    {j : Json} (h : (property ctx table name j).Yields r table' r')
    (ht : table.Built r.unmarked) :
    r'.unmarked = r.unmarked ∧ table'.Built r.unmarked := by
  unfold property at h
  split at h
  · exact absurd h not_yields_noteError_bind
  · obtain ⟨o, u, ho, h⟩ := yields_bind.1 h
    obtain ⟨hu, s, rfl, hs⟩ := hn (yields_attach.1 ho)
    obtain ⟨rfl, henter⟩ := built_enter h ht hs.built
    exact ⟨hu, henter⟩

theorem built_propertyList (hn : Sound ctx.nested) {table table' : PropertyTable}
    {fields : List (String × Json)} (h : (propertyList ctx table fields).Yields r table' r')
    (ht : table.Built r.unmarked) :
    r'.unmarked = r.unmarked ∧ table'.Built r.unmarked := by
  induction fields generalizing table r with
  | nil =>
    obtain ⟨rfl, rfl⟩ := yields_pure.1 h
    exact ⟨rfl, ht⟩
  | cons field rest ih =>
    obtain ⟨name, j⟩ := field
    obtain ⟨mid, u, hp, h⟩ := yields_bind.1 h
    obtain ⟨hu, hmid⟩ := built_property hn hp ht
    rw [← hu] at hmid ⊢
    exact ih h hmid

theorem built_properties (hn : Sound ctx.nested) {required : List String} {table : PropertyTable}
    (h : (properties ctx raw required).Yields r table r') :
    r'.unmarked = r.unmarked ∧ table.Built r.unmarked := by
  have hempty : PropertyTable.Built r.unmarked ⟨required, [], []⟩ := by simp [PropertyTable.Built]
  unfold properties at h
  split at h
  · obtain ⟨rfl, rfl⟩ := yields_pure.1 h
    exact ⟨rfl, hempty⟩
  · obtain ⟨rfl, rfl⟩ := yields_pure.1 h
    exact ⟨rfl, hempty⟩
  · exact built_propertyList hn h hempty
  · exact absurd h not_yields_noteError_bind

theorem built_propertyNames (hn : Sound ctx.nested) {names : Option Schema}
    (h : (propertyNames ctx raw).Yields r names r') :
    r'.unmarked = r.unmarked ∧
      ∀ s ∈ names, (∃ c, s.kind = .string c) ∧ Built r.unmarked s := by
  unfold propertyNames at h
  split at h
  · obtain ⟨rfl, rfl⟩ := yields_pure.1 h
    simp
  · obtain ⟨o, u, ho, h⟩ := yields_bind.1 h
    obtain ⟨hu, s, rfl, hs⟩ := hn.compile (yields_attach.1 ho)
    split at h
    · cases ‹some s = none›
    · next s' heq =>
      obtain rfl := Option.some.inj heq
      split at h
      · next c hkind =>
        obtain ⟨rfl, rfl⟩ := yields_pure.1 h
        exact ⟨hu, by simpa using ⟨⟨c, hkind⟩, hs⟩⟩
      · exact absurd h not_yields_noteError_bind

theorem yields_dependencies {dependencies : Option (Dict (List String))}
    (h : (Compile.dependencies raw).Yields dependencies) : dependencies ≠ some [] := by
  unfold Compile.dependencies at h
  split at h
  · obtain rfl := Noted.yields_pure.1 h
    simp
  · obtain rfl := Noted.yields_pure.1 h
    simp
  · obtain ⟨list, -, h⟩ := Noted.yields_bind.1 h
    obtain rfl := Noted.yields_pure.1 h
    exact nonEmpty_ne_some_nil list
  · exact absurd h Noted.not_yields_error_bind

theorem mem_of_mem_nonEmpty {α : Type} {list : List α} {a : α}
    (h : a ∈ (nonEmpty list).getD []) : a ∈ list := by
  unfold nonEmpty at h
  split at h
  · cases h
  · exact h

theorem compiled_object (hn : Sound ctx.nested) (ht : Compiler.typeName? raw = some "object")
    {o : Option Schema} (h : (object ctx raw).Yields r o r') :
    r'.unmarked = r.unmarked ∧ ∃ s, o = some s ∧ Compiled r.unmarked raw s := by
  simp only [object, yields_bind, yields_lift] at h
  obtain ⟨required, _, ⟨-, rfl⟩, silent, _, ⟨-, rfl⟩, default, _, ⟨hd, rfl⟩, listed, _, ⟨-, rfl⟩,
    table, u₁, h₁, names, u₂, h₂, dependencies, _, ⟨hdep, rfl⟩, allow, _, ⟨-, rfl⟩, h⟩ := h
  obtain ⟨hu₁, hnamed, hpatterns⟩ := built_properties hn h₁
  obtain ⟨hu₂, hnames⟩ := built_propertyNames hn h₂
  rw [hu₁] at hu₂ hnames
  obtain ⟨rfl, rfl⟩ := yields_pure.1 h
  refine ⟨hu₂, _, rfl, .object ht required (yields_checkedDefault hd)
    (nonEmpty_ne_some_nil _) (nonEmpty_ne_some_nil _) (fun s hs => (hnames s hs).1)
    (yields_dependencies hdep), ?_⟩
  intro c hc
  simp only [Schema.children, List.mem_append, List.mem_map, Option.mem_toList] at hc
  rcases hc with (⟨p, hp, rfl⟩ | ⟨p, hp, rfl⟩) | hc
  · exact hnamed p (mem_of_mem_nonEmpty hp)
  · exact hpatterns p (mem_of_mem_nonEmpty hp)
  · exact (hnames c hc).2

/-! ## References -/

theorem typeName?_eq_some {fields : Dict Json} {name : String} :
    Compiler.typeName? fields = some name ↔ fields.get? "type" = some (.str name) ∧ name ≠ "" := by
  unfold Compiler.typeName?
  split
  · split
    · simp_all
    · next hne heq => simp_all; grind
  · simp_all

theorem target?_eq_some {name path : String} {target : RawSchema} {state : DefinitionState}
    (h : target? r name = some (path, target, state)) :
    r.resolve name = some path ∧ r.raw? path = some target ∧ r.state? path = some state := by
  unfold target? at h
  simp only [Option.bind_eq_bind, Option.bind_eq_some_iff] at h
  obtain ⟨_, hpath, _, hraw, _, hstate, h⟩ := h
  obtain ⟨rfl, rfl, rfl⟩ : _ = path ∧ _ = target ∧ _ = state := by simpa using h
  exact ⟨hpath, hraw, hstate⟩

/-- A reference that stays names a definition of a type of its own. -/
theorem yields_recursive {name : String} {target more : RawSchema} {o : Option Schema}
    (h : (recursive name target more).Yields o) :
    Compiler.typeName? target ≠ some "ref" ∧
      ∃ required, o = some ⟨required, rawDefault (inherit target more), .ref name⟩ := by
  unfold recursive at h
  split at h
  · exact absurd h Noted.not_yields_error_bind
  · next hne =>
    refine ⟨fun ht => hne (typeName?_eq_some.1 ht).1, ?_⟩
    simp only [Noted.yields_ite] at h
    split at h
    · exact absurd h Noted.not_yields_error_bind
    · obtain ⟨required, -, h⟩ := Noted.yields_bind.1 h
      exact ⟨required, (Noted.yields_pure.1 h).symm⟩

/-- A reference names a definition. It stays if that is being compiled, and else the definition
is compiled in its place. -/
theorem yields_reference {o : Option Schema} (h : (reference ctx raw).Yields r o r') :
    ∃ name path target state, raw.get? "$ref" = some (.str name) ∧ name ≠ "" ∧
      target? r name = some (path, target, state) ∧
      (state = .compiling ∧ (recursive name target (overrides raw)).Yields o ∧ r = r' ∨
        state ≠ .compiling ∧
          (inlined ctx path state (inherit target (overrides raw))).Ends r o r') := by
  unfold reference at h
  split at h
  · next name href =>
    rw [yields_ite] at h
    split at h
    · exact absurd h not_yields_noteError_bind
    · next hname =>
      obtain ⟨_, _, hget, h⟩ := yields_bind.1 h
      obtain ⟨rfl, rfl⟩ := yields_get.1 hget
      split at h
      · exact absurd h not_yields_noteError_bind
      · next path target state htarget =>
        refine ⟨name, path, target, state, href, hname, htarget, ?_⟩
        rw [yields_ite] at h
        split at h
        · next hstate => exact .inl ⟨hstate, yields_lift.1 h⟩
        · next hstate => exact .inr ⟨hstate, yields_attach.1 h⟩
  · exact absurd h not_yields_noteError_bind

theorem ends_inlined {path : String} {state : DefinitionState} {merged : RawSchema}
    {o : Option Schema} (h : (inlined ctx path state merged).Ends r o r') :
    ∃ u, (ctx.nested merged).Ends (r.mark path .compiling) o u ∧ u.mark path state = r' :=
  ⟨_, ⟨h.1, h.2.1, rfl⟩, h.2.2⟩

theorem compiled_reference (hn : Sound ctx.nested) (ht : Compiler.typeName? raw = some "ref")
    {o : Option Schema} (h : (reference ctx raw).Yields r o r') :
    r'.unmarked = r.unmarked ∧ ∃ s, o = some s ∧ Compiled r.unmarked raw s := by
  obtain ⟨name, path, target, state, -, hname, htarget, h⟩ := yields_reference h
  obtain ⟨hpath, hraw, -⟩ := target?_eq_some htarget
  rw [← Registry.resolve_unmarked] at hpath
  rw [← Registry.raw?_unmarked] at hraw
  rcases h with ⟨-, hrec, rfl⟩ | ⟨-, hin⟩
  · obtain ⟨hconcrete, required, rfl⟩ := yields_recursive hrec
    have hnode :
        Node r.unmarked raw ⟨required, rawDefault (inherit target (overrides raw)), .ref name⟩ :=
      .ref ht required Json.present_ne_null hname hpath hraw hconcrete
    exact ⟨rfl, _, rfl, hnode.compiled rfl⟩
  · obtain ⟨u, hmerged, rfl⟩ := ends_inlined hin
    obtain ⟨hu, s, rfl, hs⟩ := hn hmerged
    rw [Registry.unmarked_mark] at hu hs
    exact ⟨by rw [Registry.unmarked_mark, hu], s, rfl, .inlined ht hpath hraw hs.1, hs.2⟩

/-! ## All kinds -/

/-- A scalar is compiled apart from the registry. -/
theorem compiled_ofNoted {x : Noted (Option Schema)} {o : Option Schema}
    (hx : x.Yields o → ∃ s, o = some s ∧ Compiled r.unmarked raw s)
    (h : Run.Ends (.ofNoted x) r o r') :
    r'.unmarked = r.unmarked ∧ ∃ s, o = some s ∧ Compiled r.unmarked raw s := by
  obtain ⟨hyields, rfl⟩ := Run.ends_ofNoted.1 h
  exact ⟨rfl, hx hyields⟩

theorem sound_compileWithin (options : CompilerOptions) (fuel : Nat) :
    Sound ((Compiler.builtin options).compileWithin fuel) := by
  induction fuel with
  | zero => exact fun h => absurd h Run.not_ends_failed
  | succ fuel ih =>
    intro raw r r' o h
    unfold Compiler.compileWithin at h
    split at h
    · exact absurd h Run.not_ends_failed
    · next name hname =>
      split at h
      · exact absurd h Run.not_ends_failed
      · next t ht =>
        have hmem : (name, t) ∈ TypeCompiler.builtin := Dict.mem_of_get? ht
        simp only [TypeCompiler.builtin, List.mem_cons, Prod.mk.injEq, List.not_mem_nil,
          or_false] at hmem
        rcases hmem with ⟨rfl, rfl⟩ | ⟨rfl, rfl⟩ | ⟨rfl, rfl⟩ | ⟨rfl, rfl⟩ | ⟨rfl, rfl⟩ |
          ⟨rfl, rfl⟩ | ⟨rfl, rfl⟩ | ⟨rfl, rfl⟩ | ⟨rfl, rfl⟩
        · exact compiled_array ih hname (Run.ends_ofStep.1 h)
        · exact compiled_ofNoted (compiled_boolean hname) h
        · exact compiled_combine ih hname (Run.ends_ofStep.1 h)
        · exact compiled_ofNoted (compiled_integer hname) h
        · exact compiled_ofNoted (compiled_null hname) h
        · exact compiled_ofNoted (compiled_number hname) h
        · exact compiled_object ih hname (Run.ends_ofStep.1 h)
        · exact compiled_reference ih hname (Run.ends_ofStep.1 h)
        · exact compiled_ofNoted (compiled_string hname) h

end DataSchema.Compile
