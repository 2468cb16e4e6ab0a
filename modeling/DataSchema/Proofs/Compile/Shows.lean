import DataSchema.Proofs.Compile.Starts

/-!
# What compiling shows

An error on a schema in a raw schema is an error on the raw schema: no kind of schema takes it back.

**Theorem (`shows_compileIn`).** What compiling shows of a schema in a raw schema, as it is and as a
property, it shows of the raw schema.

A reference shows what compiling its definition with what it overrides shows, if the definition is
not being compiled (`shows_reference_free`). Other schemas are compiled before the one that shows
something; all they have to do is to leave a registry that is alike (`Keeps`).
-/

namespace DataSchema.Compile

open Step

variable {α : Type} {Q : String → String → Prop} {R : Registry → Prop} {ctx : Context}
  {raw f target : RawSchema} {r : Registry} {part : Json} {path : String}

/-! ## Keeping -/

/-- Compiling nested raw schemas keeps a property of the registry. -/
def Keeps (R : Registry → Prop) (ctx : Context) : Prop :=
  ∀ raw, Run.Ensures (fun _ _ => True) R (Schema.Typed fun _ => True) (ctx.nested raw)

theorem Keeps.nested (h : Keeps R ctx) (f : RawSchema) :
    NestedEnsures (fun _ _ => True) R (fun _ => True) ctx f := fun _ => h _

theorem keeps_lift (x : Noted α) :
    Ensures (fun _ _ => True) R (fun _ => True) (monadLift x : Compiling α) :=
  ensures_lift ⟨fun _ _ => trivial, trivial⟩

theorem Keeps.compile (h : Keeps R ctx) (j : Json) :
    Run.Ensures (fun _ _ => True) R (Schema.Typed fun _ => True) (ctx.compile j) :=
  ensures_compile (fun _ _ _ => trivial) fun f _ => h.nested f

theorem Keeps.group (h : Keeps R ctx) {name : String} (hname : name ≠ "$ref") :
    Ensures (fun _ _ => True) R (fun g => ∀ s ∈ g.getD [], s.Typed fun _ => True)
      (group ctx raw name) :=
  ensures_group (fun _ _ _ => trivial) hname fun _ _ f _ => h.nested f

theorem typed_true (table : PropertyTable) : table.Typed fun _ => True := fun _ _ _ _ => trivial

theorem Keeps.property (h : Keeps R ctx) (table : PropertyTable) (name : String) (j : Json) :
    Ensures (fun _ _ => True) R (PropertyTable.Typed fun _ => True) (property ctx table name j) :=
  ensures_property (fun _ _ _ => trivial) (typed_true table) name fun f _ => h.nested f

theorem Keeps.properties (h : Keeps R ctx) (listed : List String) :
    Ensures (fun _ _ => True) R (PropertyTable.Typed fun _ => True) (properties ctx raw listed) :=
  ensures_properties (fun _ _ _ => trivial) listed fun _ _ f _ => h.nested f

/-! ## Arrays and combinations -/

/-- Compiles a value as a schema, or as one that is listed as required. -/
def Context.compileAs (ctx : Context) (required : Bool) (part : Json) : Run Schema :=
  match normalize part with
  | .ok f => ctx.nested (asProperty required f)
  | .error d => .failed d

theorem shows_items (hpart : raw.get? "items" = some part) (hset : part ≠ .null)
    (h : Run.Shows Q R (ctx.compile part)) : Shows Q R (items ctx raw) := by
  rw [items_eq, hpart, Json.present_of_ne_null (by simpa using hset)]
  exact shows_attach h _ _

theorem shows_array (hpart : raw.get? "items" = some part) (hset : part ≠ .null)
    (h : Run.Shows Q R (ctx.compile part)) : Shows Q R (array ctx raw) :=
  shows_bind (keeps_lift _) fun _ => shows_bind (keeps_lift _) fun _ =>
    shows_bind (keeps_lift _) fun _ => (shows_items hpart hset h).bind _

theorem shows_groupMembers (hkeeps : Keeps R ctx) {name : String} {parts : List Json}
    (hpart : part ∈ parts) (h : Run.Shows Q R (ctx.compile part)) (i : Nat) :
    Shows Q R (groupMembers ctx name i parts) := by
  induction parts generalizing i with
  | nil => cases hpart
  | cons first rest ih =>
    rcases List.mem_cons.1 hpart with rfl | hpart
    · exact (shows_attach h _ _).bind _
    · exact shows_bind (ensures_attach (hkeeps.compile first) _ _) fun _ =>
        (ih hpart (i + 1)).bind _

theorem shows_group (hkeeps : Keeps R ctx) {name : String} (hpart : part ∈ raw.grouped name)
    (h : Run.Shows Q R (ctx.compile part)) : Shows Q R (group ctx raw name) := by
  unfold RawSchema.grouped at hpart
  split at hpart
  · next parts hparts =>
    unfold group
    rw [hparts]
    exact (shows_groupMembers hkeeps hpart h 0).bind _
  · cases hpart

theorem shows_combine (hkeeps : Keeps R ctx) {name : String}
    (hname : name ∈ ["allOf", "anyOf", "oneOf"]) (hpart : part ∈ raw.grouped name)
    (h : Run.Shows Q R (ctx.compile part)) : Shows Q R (combine ctx raw) := by
  have hgroup := shows_group hkeeps hpart h
  refine shows_bind (keeps_lift _) fun _ => shows_bind (keeps_lift _) fun _ => ?_
  simp only [List.mem_cons, List.not_mem_nil, or_false] at hname
  rcases hname with rfl | rfl | rfl
  · exact hgroup.bind _
  · exact shows_bind (hkeeps.group (by decide)) fun _ => hgroup.bind _
  · exact shows_bind (hkeeps.group (by decide)) fun _ =>
      shows_bind (hkeeps.group (by decide)) fun _ => hgroup.bind _

/-! ## Objects -/

theorem shows_property {table : PropertyTable} {name : String} {j : Json}
    (h : Run.Shows Q R (ctx.compileAs (table.required.contains name) j)) :
    Shows Q R (property ctx table name j) := by
  unfold property
  unfold Context.compileAs at h
  cases hf : normalize j with
  | error d =>
    rw [hf] at h
    intro s hs hleaves
    have hd := (Diagnostic.leaves_append.1 hleaves).1
    exact h s hs (Diagnostic.leaves_cons.1 (Diagnostic.leaves_append.1 hd).1)
  | ok f =>
    rw [hf] at h
    exact (shows_attach h _ _).bind _

/-- A property is compiled as the list of required names says, as long as no name stands twice. -/
theorem shows_propertyList (hkeeps : Keeps R ctx) {fields : List (String × Json)}
    {e : String × Json} (he : e ∈ fields) {table : PropertyTable}
    (h : ∀ required, ((Dict.keys fields).Nodup → required = table.required.contains e.1) →
      Run.Shows Q R (ctx.compileAs required e.2)) :
    Shows Q R (propertyList ctx table fields) := by
  induction fields generalizing table with
  | nil => cases he
  | cons first rest ih =>
    rcases List.mem_cons.1 he with rfl | he
    · exact (shows_property (h _ fun _ => rfl)).bind _
    · refine shows_bind_gives (hkeeps.property table _ _) fun table' hgives => ?_
      refine ih he fun required hrequired => h required fun hnodup => ?_
      obtain ⟨hfirst, hrest⟩ := List.nodup_cons.1 hnodup
      have hne : first.1 ≠ e.1 := fun heq => hfirst (heq ▸ List.mem_map_of_mem he)
      rw [hrequired hrest, contains_of_gives_property hgives hne]

theorem shows_properties (hkeeps : Keeps R ctx) {fields : List (String × Json)}
    (hfields : raw.get? "properties" = some (.obj fields)) {e : String × Json} (he : e ∈ fields)
    {listed : List String}
    (h : ∀ required, ((Dict.keys fields).Nodup → required = listed.contains e.1) →
      Run.Shows Q R (ctx.compileAs required e.2)) :
    Shows Q R (properties ctx raw listed) := by
  unfold properties
  rw [hfields]
  exact shows_propertyList hkeeps he h

theorem shows_propertyNames (hpart : raw.get? "propertyNames" = some part) (hset : part ≠ .null)
    (h : Run.Shows Q R (ctx.compile part)) : Shows Q R (propertyNames ctx raw) := by
  unfold propertyNames
  rw [hpart, Json.present_of_ne_null (by simpa using hset)]
  exact (shows_attach h _ _).bind _

theorem shows_object_property (hkeeps : Keeps R ctx) {fields : List (String × Json)}
    (hfields : raw.get? "properties" = some (.obj fields)) {e : String × Json} (he : e ∈ fields)
    (h : ∀ required, ((Dict.keys fields).Nodup → required = (listedNames raw).contains e.1) →
      Run.Shows Q R (ctx.compileAs required e.2)) :
    Shows Q R (object ctx raw) := by
  refine shows_bind (keeps_lift _) fun _ => shows_bind (keeps_lift _) fun _ =>
    shows_bind (keeps_lift _) fun _ => shows_bind_gives (keeps_lift _) fun listed hlisted => ?_
  obtain rfl := gives_lift hlisted
  exact (shows_properties hkeeps hfields he h).bind _

theorem shows_object_names (hkeeps : Keeps R ctx) (hpart : raw.get? "propertyNames" = some part)
    (hset : part ≠ .null) (h : Run.Shows Q R (ctx.compile part)) : Shows Q R (object ctx raw) :=
  shows_bind (keeps_lift _) fun _ => shows_bind (keeps_lift _) fun _ =>
    shows_bind (keeps_lift _) fun _ => shows_bind (keeps_lift _) fun _ =>
      shows_bind (hkeeps.properties _) fun _ => (shows_propertyNames hpart hset h).bind _

/-! ## All kinds -/

/-- A type that compiles something has a compiler. -/
theorem compileIn_eq (options : CompilerOptions) {name : String} {t : TypeCompiler}
    (hname : Compiler.typeName? raw = some name) (ht : TypeCompiler.builtin.get? name = some t) :
    (Compiler.builtin options).compileIn ctx raw = t.compile ctx raw := by
  simp only [Compiler.compileIn, hname, Compiler.builtin, ht]

/-- Compiling a raw schema, as it is and as a property, shows something. -/
def NestedShows (Q : String → String → Prop) (R : Registry → Prop) (ctx : Context)
    (f : RawSchema) : Prop :=
  ∀ required, Run.Shows Q R (ctx.nested (asProperty required f))

theorem NestedShows.compileAs (h : NestedShows Q R ctx f) (hf : normalize part = .ok f)
    (required : Bool) : Run.Shows Q R (ctx.compileAs required part) := by
  unfold Context.compileAs
  rw [hf]
  exact h required

/-- **A raw schema shows what a schema in it does.** -/
theorem shows_compileIn (options : CompilerOptions) (hkeeps : Keeps R ctx) {c : RawSchema}
    (hc : c ∈ raw.children) (h : NestedShows Q R ctx c) :
    Run.Shows Q R ((Compiler.builtin options).compileIn ctx raw) := by
  obtain ⟨part, hpart, hf⟩ := RawSchema.mem_children.1 hc
  have hset : part ≠ .null := by
    rintro rfl
    cases hf
  have hcompile : Run.Shows Q R (ctx.compile part) := h.compileAs hf false
  unfold RawSchema.parts at hpart
  split at hpart
  · next name hname =>
    unfold RawSchema.partsOf at hpart
    split at hpart
    · rw [compileIn_eq options hname rfl]
      exact Run.shows_ofStep (shows_array (Option.mem_toList.1 hpart) hset hcompile)
    · rw [compileIn_eq options hname rfl]
      rcases List.mem_append.1 hpart with hpart | hpart
      · unfold RawSchema.named at hpart
        split at hpart
        · next fields hfields =>
          obtain ⟨e, he, rfl⟩ := List.mem_map.1 hpart
          exact Run.shows_ofStep (shows_object_property hkeeps hfields he fun required _ =>
            h.compileAs hf required)
        · cases hpart
      · exact Run.shows_ofStep
          (shows_object_names hkeeps (Option.mem_toList.1 hpart) hset hcompile)
    · rw [compileIn_eq options hname rfl]
      rcases List.mem_append.1 hpart with hpart | hpart
      · rcases List.mem_append.1 hpart with hpart | hpart
        · exact Run.shows_ofStep (shows_combine hkeeps (by decide) hpart hcompile)
        · exact Run.shows_ofStep (shows_combine hkeeps (by decide) hpart hcompile)
      · exact Run.shows_ofStep (shows_combine hkeeps (by decide) hpart hcompile)
    · cases hpart
  · cases hpart

/-! ## References -/

/-- A reference to a definition that is not being compiled shows what the definition does, with what
the reference overrides. -/
theorem shows_reference_free (hrefers : Refers r raw path target) (hfree : ¬ r.Busy path)
    (h : Run.Shows Q (·.Alike (r.mark path .compiling))
      (ctx.nested (inherit target (overrides raw)))) :
    Shows Q (·.Alike r) (reference ctx raw) := by
  intro s hs
  obtain ⟨name, state, hstate, happly⟩ := hrefers.reference_apply ctx hs.unmarked
  have hcompiling : state ≠ .compiling := by
    rintro rfl
    exact hfree ((hs.busy path).1 hstate)
  have hinlined : Run.Shows Q (·.Alike r)
      (inlined ctx path state (inherit target (overrides raw))) :=
    fun t ht => h (t.mark path .compiling) (ht.mark path Iff.rfl)
  rw [happly, if_neg hcompiling]
  exact shows_attach hinlined "$ref" none s hs

/-- A reference to a definition that is being compiled shows that it is recursive. -/
theorem shows_reference_busy (hrefers : Refers r raw path target) (hbusy : r.Busy path)
    (h : ∀ name, ¬ Diagnostic.Leaves Q (recursive name target (overrides raw)).errors) :
    Shows Q (·.Alike r) (reference ctx raw) := by
  intro s hs
  obtain ⟨name, state, hstate, happly⟩ := hrefers.reference_apply ctx hs.unmarked
  have hcompiling : state = .compiling := by
    have hbusy' := (hs.busy path).2 hbusy
    rw [Registry.Busy, hstate] at hbusy'
    exact Option.some.inj hbusy'
  rw [happly, if_pos hcompiling]
  show ¬ Diagnostic.Leaves Q ((recursive name target (overrides raw)).errors ++ [])
  rw [List.append_nil]
  exact h name

end DataSchema.Compile
