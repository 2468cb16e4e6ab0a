import DataSchema.Proofs.Compile.Expandable
import DataSchema.Proofs.Compile.Lookup
import DataSchema.Proofs.Compile.Order
import DataSchema.Proofs.Compile.Twin

/-!
# References are macros

**Theorem (`compile_expand`).** If the references of a whole schema can be expanded, then the schema
compiles to what its expansion compiles to, and no reference is left in that.

**The two runs.** One run compiles references as it meets them, and marks their definitions for the
time; the other meets no references. So the first keeps its registry alike and the second leaves
its own as it is (`Beside`), whichever that is. Diagnostics differ, since a reference puts those of
its definition under a constraint of its own; values do not.

**The induction** (`agree_expanded`) is on the depth of the first run. A reference goes on with the
merged definition, of which the expansion is the same (`resemble_merged`), and any other raw schema
with the schemas in it (`similar_expanded`). `Expanding` holds all along: what comes up can be
expanded too, and the definition of a reference is never being compiled, since it would then lead
back to itself.
-/

namespace DataSchema

namespace Compile

open Step

variable {r r₀ t₀ : Registry} {raw raw' f target : RawSchema} {path : String} {own : Option String}

/-! ## Raw schemas -/

/-- A registry that is alike to one, beside a registry that does not change. -/
def Beside (r t₀ s t : Registry) : Prop := s.Alike r ∧ t = t₀

/-- A reference compiles to what its definition compiles to, merged with what it overrides. -/
theorem agree_reference_left {ctx : Context} {run : Run Schema} (hr : r.unmarked = r₀.unmarked)
    (hrefers : Refers r₀ raw path target) (hfree : ¬ r.Busy path)
    (h : Run.Agree .value (Beside (r.mark path .compiling) t₀)
      (ctx.nested (inherit target (overrides raw))) run) :
    Run.Agree .value (Beside r t₀) (.ofStep (reference ctx raw)) run := by
  intro s t hst
  obtain ⟨name, state, hstate, hreference⟩ :=
    hrefers.reference_apply ctx (hst.1.unmarked.trans hr)
  have hcompiling : state ≠ .compiling := by
    rintro rfl
    exact hfree ((hst.1.busy path).1 hstate)
  have hrun : Run.Agree .value (Beside r t₀)
      (inlined ctx path state (inherit target (overrides raw))) run := by
    intro s t hst
    obtain ⟨hagree, hu, hv⟩ := h (s.mark path .compiling) t ⟨hst.1.mark path Iff.rfl, hst.2⟩
    exact ⟨hagree, hu.restored hfree hcompiling, hv⟩
  rw [if_neg hcompiling] at hreference
  have hleft := Run.agree_attach_left hrun "$ref" none s t hst
  unfold Run.ofStep at hleft ⊢
  rw [hreference]
  exact hleft

/-- A raw schema that comes up while another is compiled: no definition that comes up in it is being
compiled, no more than `k` are free, and it is not higher than `d`. -/
structure Expanding (r₀ : Registry) (own : Option String) (most : Nat) (r : Registry) (k d : Nat)
    (raw : RawSchema) : Prop where
  unmarked : r.unmarked = r₀.unmarked
  ready : Ready r₀ own raw
  opens : Open r₀ r raw
  fits : Fits d raw
  le : d ≤ most
  free : r.free ≤ k

variable {most d d' k n m e : Nat}

/-- A schema that stands in a raw schema is lower. -/
theorem Expanding.child (h : Expanding r₀ own most r k d raw) (hf : f ∈ raw.children) :
    ∃ lower, d = lower + 1 ∧ ∀ required,
      (required = true → Compiler.typeName? f ≠ some "ref") →
        Expanding r₀ own most r k lower (asProperty required f) := by
  obtain ⟨lower, rfl, hlower⟩ := h.fits.child hf
  have hchild := h.ready.child hf
  have hle := h.le
  refine ⟨lower, rfl, fun required hrequired => ?_⟩
  have hboth : Ready r₀ own (asProperty required f) ∧ Open r₀ r (asProperty required f) := by
    cases required with
    | false => exact ⟨hchild, h.opens.child hf⟩
    | true =>
      have hne := hrequired rfl
      exact ⟨hchild.asProperty hne, (h.opens.child hf).asProperty hchild.sorted hne⟩
  exact ⟨h.unmarked, hboth.1, hboth.2, hlower required, by omega, h.free⟩

/-- While a merged raw schema is compiled, one definition less is free. -/
theorem Expanding.merged (h : Expanding r₀ own most r k d raw) (hr₀ : Library r₀ own)
    (hmost : RawsFit most r₀) (hrefers : Refers r₀ raw path target) :
    ¬ r.Busy path ∧ ∃ left, k = left + 1 ∧ Expanding r₀ own most (r.mark path .compiling) left most
      (inherit target (overrides raw)) := by
  obtain ⟨_, -, -, -, hfound⟩ := hrefers.resolved
  have hfree : ¬ r.Busy path := h.opens path ⟨raw, target, .self raw, hrefers⟩ path .refl
  have hlt := Registry.free_mark_lt ((Registry.raw?_congr h.unmarked path).trans hfound) hfree
  have hk := h.free
  obtain ⟨left, rfl⟩ : ∃ left, k = left + 1 := Nat.exists_eq_add_one.2 (by omega)
  refine ⟨hfree, left, rfl, ?_⟩
  constructor
  case unmarked => exact (Registry.unmarked_mark r path .compiling).trans h.unmarked
  case ready => exact h.ready.merged hr₀ hrefers
  case opens => exact h.opens.merged hr₀ h.ready hrefers
  case fits => exact (hmost path target hfound).inherit (h.fits.overrides.mono h.le)
  case le => exact Nat.le_refl most
  case free => omega

/-- **A raw schema compiles to what its expansion compiles to**, in a registry where no definition
that comes up is being compiled. What the expansion is compiled in makes no difference. -/
theorem agree_expanded (options : CompilerOptions) (hr₀ : Library r₀ own) (hmost : RawsFit most r₀)
    (hraw : Expanding r₀ own most r k d raw) (hn : enough k most d ≤ n) (he : enough k most d ≤ e)
    (h : Resemble raw' (expandWithin r₀ e raw)) (hraw' : Fits d' raw') (hm : d' < m) :
    Run.Agree .value (Beside r t₀) ((Compiler.builtin options).compileWithin n raw)
      ((Compiler.builtin options).compileWithin m raw') := by
  induction n generalizing r raw raw' d d' k m e with
  | zero => exact absurd hn (by simp [enough])
  | succ n ih =>
    obtain ⟨e, rfl⟩ : ∃ left, e = left + 1 :=
      Nat.exists_eq_add_one.2 (Nat.lt_of_lt_of_le (Nat.succ_pos _) he)
    have hsorted := hraw.ready.sorted
    by_cases htype : Compiler.typeName? raw = some "ref"
    · obtain ⟨path, target, hrefers, -⟩ := (hraw.ready.replaceable raw (.self raw) htype).refers
      obtain ⟨hfree, left, rfl, hmerged⟩ := hraw.merged hr₀ hmost hrefers
      rw [enough_reference] at hn he
      rw [Compiler.compileWithin_succ, Compiler.compileIn, htype]
      refine agree_reference_left hraw.unmarked hrefers hfree ?_
      have hresemble := h.trans (resemble_merged hr₀ hsorted hrefers e)
      exact ih hmerged (by omega) (by omega) hresemble hraw' hm
    · obtain ⟨m, rfl⟩ : ∃ left, m = left + 1 := Nat.exists_eq_add_one.2 (by omega)
      have hg : KeepsShort (expandWithin r₀ e) := keepsShort_expandWithin r₀ e
      rw [expandWithin_of_ne r₀ htype] at h
      rw [Compiler.compileWithin_succ, Compiler.compileWithin_succ]
      refine agree_compileIn (similar_expanded hg hsorted (hraw.ready.unlisted raw (.self raw)) h
        (fun f hf required hrequired => ?_) (fun f hf => ?_) fun f hf => ?_)
        fun href => absurd href htype
      · have hf' := (hraw.ready.child hf).sorted
        obtain ⟨lower, rfl, hchild⟩ := hraw.child hf
        obtain ⟨lower', rfl, hlower'⟩ := hraw'.child (mem_children_of_resemble hg h hf)
        have hresemble : Resemble (asProperty required (expandWithin r₀ e f))
            (expandWithin r₀ e (asProperty required f)) := by
          cases required with
          | false => exact .refl _
          | true =>
            exact resemble_asProperty hf' (hrequired rfl) (nodup_expandWithin hr₀ hf') (.refl _)
        rw [enough_child] at hn he
        exact ih (hchild required hrequired) (by omega) (by omega) hresemble (hlower' required)
          (by omega)
      · exact nodup_expandWithin hr₀ (hraw.ready.child hf).sorted
      · have hchild := hraw.ready.child hf
        refine present_nameType_expandWithin hr₀ hchild.sorted fun path target hrefers => ?_
        exact (hchild.replaceable f (.self f) hrefers.1).ne_own hrefers

/-- With a depth that is enough, expansion leaves no references. -/
theorem refFree_expandWithin (hr₀ : Library r₀ own) (hmost : RawsFit most r₀)
    (hraw : Expanding r₀ own most r k d raw) (he : enough k most d ≤ e) :
    RefFree (expandWithin r₀ e raw) := by
  induction e generalizing r raw d k with
  | zero => exact absurd he (by simp [enough])
  | succ e ih =>
    by_cases htype : Compiler.typeName? raw = some "ref"
    · obtain ⟨path, target, hrefers, -⟩ := (hraw.ready.replaceable raw (.self raw) htype).refers
      obtain ⟨-, left, rfl, hmerged⟩ := hraw.merged hr₀ hmost hrefers
      rw [enough_reference] at he
      exact (resemble_merged hr₀ hraw.ready.sorted hrefers e).refFree (ih hmerged (by omega))
    · rw [expandWithin_of_ne r₀ htype]
      intro node hnode
      cases hnode with
      | self => rwa [typeName?_mapChildren]
      | child hc hnode =>
        obtain ⟨f, hf, rfl⟩ := exists_mem_children_mapChildren (keepsShort_expandWithin r₀ e) hc
        obtain ⟨lower, rfl, hchild⟩ := hraw.child hf
        rw [enough_child] at he
        exact ih (hchild false (by simp)) (by omega) node hnode

variable {g : RawSchema → RawSchema} {r' : Registry} {ctx ctx' : Context} {view : View}

/-! ## Definitions and body -/

/-- One registry stays alike to a first one, and the other has the definitions of that, expanded. -/
def Along (own : Option String) (g : RawSchema → RawSchema) (r s t : Registry) : Prop :=
  s.Alike r ∧ Twin own g r t

theorem agree_along {α : Type} {run run' : DataSchema.Run Registry α}
    (h : ∀ t₀, Run.Agree view (Beside r t₀) run run') :
    Run.Agree view (Along own g r) run run' := by
  intro s t hst
  obtain ⟨hagree, hu, hv⟩ := h t s t ⟨hst.1, rfl⟩
  refine ⟨hagree, hu, ?_⟩
  rw [hv]
  exact hst.2

theorem agree_definition_expanded (hpath : own ≠ some path) (hfound : r₀.raw? path = some raw)
    (hfree : ¬ r₀.Busy path) (hid : ownId (g raw) = ownId raw)
    (hn : ∀ t₀, Run.Agree view (Beside (r₀.mark path .compiling) t₀) (ctx.nested raw)
      (ctx'.nested (g raw))) :
    Agree view (Along own g r₀) (definition ctx path) (definition ctx' path) := by
  have hunmarked := Registry.unmarked_mark r₀ path .compiling
  have hbody : ∀ id, Agree view (Along own g r₀)
      (do
        modify (·.mark path .compiling)
        let body ← merge (ctx.nested raw)
        modify (·.mark path .finished)
        return body.map fun schema => (⟨id, schema⟩ : DefinitionSchema))
      (do
        modify (·.mark path .compiling)
        let body ← merge (ctx'.nested (g raw))
        modify (·.mark path .finished)
        return body.map fun schema => (⟨id, schema⟩ : DefinitionSchema)) := fun id =>
    agree_between
      (fun _ _ hst => ⟨hst.1.mark path Iff.rfl, (hst.2.mark path .compiling).congr hunmarked.symm⟩)
      (agree_along hn)
      (fun _ _ hst => ⟨hst.1.restored hfree (by decide),
        (hst.2.mark path .finished).congr hunmarked⟩) _
  unfold definition
  refine agree_get_bind fun s t hst => ?_
  rw [Registry.raw?_congr hst.1.unmarked, hst.2.raw? hpath, hfound, Option.map_some]
  dsimp only
  rw [hid]
  exact ((agree_lift _).bind hbody) s t hst

/-- A raw schema that compiles beside its expansion has no references left, since the expansion
compiles in a registry without definitions too. -/
theorem no_references {s : Schema} {v : Registry} {options : CompilerOptions} {n m : Nat}
    (h : Run.Agree view (Beside r .empty) ((Compiler.builtin options).compileWithin n raw)
      ((Compiler.builtin options).compileWithin m raw'))
    (hends : ((Compiler.builtin options).compileWithin n raw).Ends r (some s) v) :
    s.Everywhere fun node => ∀ name, node.kind ≠ .ref name := by
  have hvalue : ((Compiler.builtin options).compileWithin m raw' .empty).1.value? = some s := by
    rw [← (h r .empty ⟨.refl r, rfl⟩).1.value]
    exact Outcome.value?_eq_some.2 ⟨hends.1, hends.2.1⟩
  obtain ⟨-, s', heq, hcompiled⟩ := sound_compileWithin options m (Run.ends_of_value? hvalue)
  obtain rfl := Option.some.inj heq
  intro node hnode name hkind
  obtain ⟨nodeRaw, hbuilt⟩ := hcompiled.built node hnode
  obtain ⟨path, target, -, hfound, -⟩ := hbuilt.ref_target hkind
  cases hfound

/-! ## Whole schemas -/

variable {c : Compiler} {whole : Json} {root : RawSchema}

theorem Expandable.library (h : Expandable c whole) :
    Library (c.registry whole) (wholeId whole) where
  sorted _ _ hfound := sorted_registry c h.sorted hfound
  replaceable _ target hfound := h.replaceable target (.definition hfound)
  acyclic := h.acyclic
  nameType := h.nameType

theorem Expandable.ready (h : Expandable c whole) (hlisted : NoneListed c whole)
    (hroot : Root c whole root) : Ready (c.registry whole) (wholeId whole) root where
  sorted := by
    cases hroot with
    | body hfields => exact .normalize h.sorted hfields
    | definition hfound => exact sorted_registry c h.sorted hfound
  replaceable := h.replaceable root hroot
  unlisted := hlisted root hroot

theorem Expandable.expanding {options : CompilerOptions} (h : Expandable (.builtin options) whole)
    (hlisted : NoneListed (.builtin options) whole) (hroot : Root (.builtin options) whole root)
    (hr : r.unmarked = ((Compiler.builtin options).registry whole).unmarked)
    (hopen : Open ((Compiler.builtin options).registry whole) r root) :
    Expanding ((Compiler.builtin options).registry whole) (wholeId whole) whole.depth r
      ((Compiler.builtin options).registry whole).size whole.depth root where
  unmarked := hr
  ready := h.ready hlisted hroot
  opens := hopen
  fits := by
    cases hroot with
    | body hfields => exact normalize_fits hfields
    | definition hfound => exact (Compiler.registry_bounded options whole).2 _ root hfound
  le := Nat.le_refl _
  free := Registry.size_congr hr ▸ r.free_le_size

/-- The bound on the depth is enough for the body and the definitions, beside their expansions. -/
theorem agree_root {options : CompilerOptions} (h : Expandable (.builtin options) whole)
    (hlisted : NoneListed (.builtin options) whole) (hroot : Root (.builtin options) whole root)
    (hr : r.unmarked = ((Compiler.builtin options).registry whole).unmarked)
    (hopen : Open ((Compiler.builtin options).registry whole) r root)
    (hresemble : Resemble raw' ((Compiler.builtin options).expandIn whole root))
    (hraw' : Fits d' raw') (hm : d' < m) (t₀ : Registry) :
    Run.Agree .value (Beside r t₀)
      ((Compiler.builtin options).compileWithin (Compiler.compileDepth whole) root)
      ((Compiler.builtin options).compileWithin m raw') := by
  obtain ⟨henough, hmost⟩ := Compiler.registry_bounded options whole
  exact agree_expanded options h.library hmost (h.expanding hlisted hroot hr hopen) henough henough
    hresemble hraw' hm

/-- What the body and the definitions are expanded to has no references. -/
theorem refFree_root {options : CompilerOptions} (h : Expandable (.builtin options) whole)
    (hlisted : NoneListed (.builtin options) whole) (hroot : Root (.builtin options) whole root) :
    RefFree ((Compiler.builtin options).expandIn whole root) := by
  obtain ⟨henough, hmost⟩ := Compiler.registry_bounded options whole
  -- No definition is being compiled while a raw schema is rewritten.
  have hopen : Open ((Compiler.builtin options).registry whole)
      ((Compiler.builtin options).registry whole).unmarked root :=
    fun _ _ path _ hbusy => Registry.not_busy_unmarked _ path hbusy
  have hr := Registry.unmarked_unmarked ((Compiler.builtin options).registry whole)
  exact refFree_expandWithin h.library hmost (h.expanding hlisted hroot hr hopen) henough

/-- The body of an expanded schema: the expanded body, with the definitions expanded in place. -/
theorem normalize_expand {fields : RawSchema} (h : normalize whole = .ok fields) :
    normalize (c.expand whole) = .ok (Dict.modify (c.expandIn whole fields) "definitions"
      (RawSchema.mapNamed (c.expandIn whole))) := by
  cases whole with
  | str type =>
    obtain rfl := Except.ok.inj h
    have hshort : c.expandIn (.str type) [("type", .str type)] = [("type", .str type)] :=
      expandWithin_short _ _ type
    rw [hshort]
    rfl
  | obj fields' =>
    obtain rfl := Except.ok.inj h
    rfl
  | null | bool | num | arr => cases h

theorem expand_of_error {d : Diagnostic} (h : normalize whole = .error d) :
    c.expand whole = whole := by
  cases whole with
  | str | obj => cases h
  | null | bool | num | arr => rfl

/-- While definitions are compiled, only the schema itself counts as being compiled. -/
theorem own_of_busy {fields : RawSchema} {id : Option String} {names : List (String × String)}
    (hfields : normalize whole = .ok fields)
    (hyields : (registration ctx fields).Yields .empty (id, names) r) {s : Registry}
    (hs : s.Alike r) (path : String) (hpath : s.Busy path) : wholeId whole = some path :=
  (wholeId_of_yields hfields hyields).trans
    ((busy_registration hyields path).1 ((hs.busy path).1 hpath))

/-- Only the schema itself is registered if there are no definitions, so its body is no reference.
-/
theorem present_definitions {fields : RawSchema} (h : Expandable c whole)
    (hfields : normalize whole = .ok fields) :
    Json.present ((c.expandIn whole fields).get? "definitions") =
      Json.present (fields.get? "definitions") := by
  refine present_expandWithin h.library (.normalize h.sorted hfields)
    (P := fun path => wholeId whole ≠ some path) (fun path target hrefers => ?_)
    (fun path target hfound path' target' => h.library.ne_own hfound) (by decide) ?_
  · exact (h.replaceable fields (.body hfields) fields (.self fields) hrefers.1).ne_own hrefers
  · by_cases hset : Json.present (fields.get? "definitions") = none
    · refine .inr fun path target hfound hpath => absurd ?_ hpath
      unfold Compiler.registry at hfound
      rw [hfields] at hfound
      exact (wholeId_eq hfields).trans (own_of_registered hset hfound)
    · exact .inl hset

/-- A whole schema and its expansion are registered alike. -/
theorem agree_registration_expand {fields fields' : RawSchema} (h : Expandable c whole)
    (hfields : normalize whole = .ok fields) (hfields' : normalize (c.expand whole) = .ok fields')
    (hoptions : ctx.options = ctx'.options) :
    Agree view (Twin (wholeId whole) (c.expandIn whole)) (registration ctx fields)
      (registration ctx' fields') := by
  have hsorted : Sorted fields := .normalize h.sorted hfields
  rw [normalize_expand hfields] at hfields'
  obtain rfl := Except.ok.inj hfields'
  rw [← registration_congr hoptions, wholeId_eq hfields]
  refine agree_registration (keepsShort_expandWithin _ _) ?_ ?_ fun part hpart f hf => ?_
  · rw [Dict.get?_modify, if_neg (by decide)]
    exact present_id_expandWithin h.library hsorted
  · rw [Dict.get?_modify, if_pos rfl, present_map mapNamed_eq_null, present_definitions h hfields]
  · exact present_id_expandWithin h.library (sorted_of_mem_named hsorted hpart hf)

end Compile

namespace Compiler

open Compile Step

theorem depth_lt_compileDepth (raw : Json) : raw.depth < compileDepth raw := by
  have hsize := raw.depth_le_size
  have hsquare : raw.size + 2 ≤ compileDepth raw := Nat.le_mul_self (raw.size + 2)
  omega

variable {options : CompilerOptions} {raw : Json}

/-- Definitions and body compile to what their expansions compile to, after both schemas were
registered without error. -/
theorem agree_completion (h : Expandable (builtin options) raw)
    (hlisted : NoneListed (builtin options) raw) {fields fields' : RawSchema}
    (hfields : normalize raw = .ok fields)
    (hfields' : normalize ((builtin options).expand raw) = .ok fields') {id : Option String}
    {names : List (String × String)}
    (hyields : (registration ((builtin options).context (compileDepth raw)) fields).Yields .empty
      (id, names) ((builtin options).registry raw))
    (htwin : Twin (wholeId raw) ((builtin options).expandIn raw) ((builtin options).registry raw)
      ((builtin options).registry ((builtin options).expand raw))) :
    Step.Agree .value
      (Along (wholeId raw) ((builtin options).expandIn raw) ((builtin options).registry raw))
      (do
        let definitions ← definitions ((builtin options).context (compileDepth raw)) names
        let body ← merge (((builtin options).context (compileDepth raw)).nested fields)
        return body.map fun schema => (⟨id, definitions, schema⟩ : TopSchema))
      (do
        let definitions ← definitions
          ((builtin options).context (compileDepth ((builtin options).expand raw))) names
        let body ← merge
          (((builtin options).context (compileDepth ((builtin options).expand raw))).nested fields')
        return body.map fun schema => (⟨id, definitions, schema⟩ : TopSchema)) := by
  have hregistered := registered_of_registration hyields
  have hid : wholeId raw = id := wholeId_of_yields hfields hyields
  have hbusy := own_of_busy hfields hyields (.refl _)
  refine (agree_definitions fun e he => ?_).bind fun definitions =>
    (agree_merge ?_).bind fun body => agree_pure _
  · obtain ⟨target, hfound, -⟩ := hregistered.found e he
    have hpath : wholeId raw ≠ some e.2 := hid ▸ hregistered.other e he
    have hfree : ¬ ((builtin options).registry raw).Busy e.2 := fun hcompiling =>
      hpath (hbusy e.2 hcompiling)
    have hexpanded : ((builtin options).registry ((builtin options).expand raw)).raw? e.2 =
        some ((builtin options).expandIn raw target) := by
      rw [htwin.raw? hpath, hfound]
      rfl
    have hfits := (registry_bounded options ((builtin options).expand raw)).2 e.2 _ hexpanded
    have hsorted : Sorted target := sorted_registry _ h.sorted hfound
    refine agree_definition_expanded hpath hfound hfree
      (ownId_congr (present_id_expandWithin h.library hsorted)) fun t₀ => ?_
    exact agree_root h hlisted (.definition hfound) (Registry.unmarked_mark _ _ _)
      (.definition h.library hfound hpath hbusy) (.refl _) hfits (depth_lt_compileDepth _) t₀
  · refine agree_along fun t₀ => ?_
    have hresemble : Resemble fields' ((builtin options).expandIn raw fields) := by
      rw [normalize_expand hfields] at hfields'
      obtain rfl := Except.ok.inj hfields'
      intro field _ hdefinitions
      rw [Dict.get?_modify, if_neg (Ne.symm hdefinitions)]
    have hready : Ready _ _ fields := h.ready hlisted (.body hfields)
    exact agree_root h hlisted (.body hfields) rfl (.of_busy h.library hready hbusy) hresemble
      (normalize_fits hfields') (depth_lt_compileDepth _) t₀

theorem value?_expand (h : Expandable (builtin options) raw)
    (hlisted : NoneListed (builtin options) raw) :
    ((builtin options).compile raw).value? =
      ((builtin options).compile ((builtin options).expand raw)).value? := by
  cases hfields : normalize raw with
  | error d => rw [expand_of_error hfields]
  | ok fields =>
    obtain ⟨fields', hfields'⟩ :
        ∃ fields', normalize ((builtin options).expand raw) = .ok fields' :=
      ⟨_, normalize_expand hfields⟩
    have hregistered : Step.Agree .value (Twin (wholeId raw) ((builtin options).expandIn raw))
        (registration ((builtin options).context (compileDepth raw)) fields)
        (registration ((builtin options).context (compileDepth ((builtin options).expand raw)))
          fields') := agree_registration_expand h hfields hfields' rfl
    have hregistration := hregistered .empty .empty (twin_empty _ _)
    rw [compile, compile, top_eq, top_eq, hfields, hfields']
    dsimp only
    refine value?_bind_eq hregistration fun herrors => ?_
    obtain ⟨⟨hresult, htwin⟩, -, -⟩ := hregistration
    rw [← hresult]
    have hregistry : (builtin options).registry raw = (registration
        ((builtin options).context (compileDepth raw)) fields .empty).result.2 := by
      rw [registry, hfields]
    have hregistry' : (builtin options).registry ((builtin options).expand raw) = (registration
        ((builtin options).context (compileDepth ((builtin options).expand raw))) fields'
        .empty).result.2 := by
      rw [registry, hfields']
    rw [← hregistry, ← hregistry'] at htwin ⊢
    have hyields : (registration ((builtin options).context (compileDepth raw)) fields).Yields
        .empty (registration ((builtin options).context (compileDepth raw)) fields .empty).result.1
        ((builtin options).registry raw) := ⟨herrors, hregistry ▸ rfl⟩
    have hrest := agree_completion h hlisted hfields hfields' hyields htwin
    exact (hrest _ _ ⟨.refl _, htwin⟩).outcome.value

/-- What the body or a definition compiled to has no references left. -/
theorem no_references_root (h : Expandable (builtin options) raw)
    (hlisted : NoneListed (builtin options) raw) {root : RawSchema}
    (hroot : Root (builtin options) raw root) {r v : Registry}
    (hr : r.unmarked = ((builtin options).registry raw).unmarked)
    (hopen : Open ((builtin options).registry raw) r root) {s : Schema}
    (hends : ((builtin options).compileWithin (compileDepth raw) root).Ends r (some s) v) :
    s.Everywhere fun node => ∀ name, node.kind ≠ .ref name := by
  have hfits : Fits _ ((builtin options).expandIn raw root) := fits_of_depth (Nat.le_succ _)
  have hagree := agree_root h hlisted hroot hr hopen (.refl _) hfits (Nat.lt_succ_self _) .empty
  exact no_references hagree hends

theorem no_references_top (h : Expandable (builtin options) raw)
    (hlisted : NoneListed (builtin options) raw) {top : TopSchema}
    (hcompiled : ((builtin options).compile raw).value? = some top) :
    top.Everywhere fun node => ∀ name, node.kind ≠ .ref name := by
  obtain ⟨fields, names, u, v, hfields, hyields, hds, hbody⟩ := runs_of_value? hcompiled
  have hregistered := registered_of_registration hyields
  have hid : wholeId raw = top.id := wholeId_of_yields hfields hyields
  have hbusy : ∀ {r : Registry}, r.Alike ((builtin options).registry raw) →
      ∀ path, r.Busy path → wholeId raw = some path := fun hr => own_of_busy hfields hyields hr
  have hpaths : ∀ e ∈ names, wholeId raw ≠ some e.2 := fun e he => hid ▸ hregistered.other e he
  have hs : Steady ((builtin options).context (compileDepth raw)) := steady_context options _
  obtain ⟨hu, hall⟩ := definitions_steady hs
    (fun e he hcompiling => hpaths e he (hbusy (.refl _) e.2 hcompiling)) hds
  intro root hroot
  rcases List.mem_cons.1 hroot with rfl | hroot
  · have hready : Ready _ _ fields := h.ready hlisted (.body hfields)
    exact no_references_root h hlisted (.body hfields) hu.unmarked
      (.of_busy h.library hready (hbusy hu)) hbody
  · obtain ⟨⟨name, d⟩, hd, rfl⟩ := List.mem_map.1 hroot
    obtain ⟨path, w, w', he, hw, hdefinition⟩ := hall name d hd
    have hpath := hpaths _ he
    obtain ⟨-, d', target, heq, htarget, x, x', hx, hends⟩ := definition_steady hs
      (fun hcompiling => hpath (hbusy hw path hcompiling)) hdefinition
    obtain rfl := Option.some.inj heq
    have hfound : ((builtin options).registry raw).raw? path = some target :=
      (Registry.raw?_congr hw.unmarked path) ▸ htarget
    have hx' : x.unmarked = ((builtin options).registry raw).unmarked := by
      rw [hx.unmarked, Registry.unmarked_mark, hw.unmarked]
    have hopen : Open _ (w.mark path .compiling) target :=
      .definition h.library hfound hpath (hbusy hw)
    exact no_references_root h hlisted (.definition hfound) hx' (hopen.alike hx) hends

/-- **References are macros.** Expansion leaves no references in what is compiled, a schema
compiles to what its expansion compiles to, and no reference is left in that. -/
theorem compile_expand (options : CompilerOptions) (raw : Json)
    (h : Expandable (builtin options) raw) (hlisted : NoneListed (builtin options) raw) :
    (∀ root, Root (builtin options) raw root → RefFree ((builtin options).expandIn raw root)) ∧
      ((builtin options).compile raw).value? =
        ((builtin options).compile ((builtin options).expand raw)).value? ∧
      ∀ top, ((builtin options).compile raw).value? = some top →
        top.Everywhere fun node => ∀ name, node.kind ≠ .ref name :=
  ⟨fun _ => refFree_root h hlisted, value?_expand h hlisted, fun _ => no_references_top h hlisted⟩

/-- Lists of pages. The title of a page is a text that has to be there; what the list makes of a
page is given by fields of its own. -/
def pagesRaw (page : RawSchema) : Json :=
  .obj [("$id", .str "pages"),
    ("definitions", .obj [
      ("count", .obj [("$id", .str "count"), ("required", .bool false), ("type", .str "integer")]),
      ("page", .obj [
        ("properties", .obj [
          ("count", .obj [("$ref", .str "count"), ("type", .str "ref")]),
          ("title", .obj [("$ref", .str "#/definitions/title"), ("type", .str "ref")])]),
        ("type", .str "object")]),
      ("text", .obj [("minLength", .num (.int ⟨1, by decide, by decide⟩)),
        ("type", .str "string")]),
      ("title", .obj [("$ref", .str "#/definitions/text"), ("required", .bool true),
        ("type", .str "ref")])]),
    ("items", .obj (("$ref", .str "#/definitions/page") :: page ++ [("type", .str "ref")])),
    ("type", .str "array")]

/-- How far the definitions of `pagesRaw` are from those without references. -/
def pagesRank (path : String) : Nat :=
  match path with
  | "pages" => 3
  | "#/definitions/page" => 2
  | "#/definitions/title" => 1
  | _ => 0

set_option maxRecDepth 20000 in
theorem compile_expand_pages :
    ((builtin {}).compile (pagesRaw [("required", .bool true)])).value?.isSome = true ∧
      ((builtin {}).compile (pagesRaw [("required", .bool true)])).value? =
        ((builtin {}).compile
          ((builtin {}).expand (pagesRaw [("required", .bool true)]))).value? := by
  have hexpandable : Expandable (builtin {}) (pagesRaw [("required", .bool true)]) :=
    expandable_of_tests pagesRank 4 (by decide) (by decide) (by decide) (by decide)
  have hlisted : NoneListed (builtin {}) (pagesRaw [("required", .bool true)]) :=
    noneListed_of_test 6 (by decide)
  obtain ⟨-, hvalue, -⟩ := compile_expand {} _ hexpandable hlisted
  exact ⟨rfl, hvalue⟩

/-- Pages of which the list says that the count has to be there. -/
def countedRaw : Json := pagesRaw [("requiredProperties", .arr [.str "count"])]

set_option maxRecDepth 20000 in
/-- It is not enough that no reference is listed in an object as it is written: what a reference
overrides can list it. The property is then compiled as required, which overrides what its
definition says if it is still a reference, and does not if it was replaced. -/
theorem compile_ne_expand_counted :
    Expandable (builtin {}) countedRaw ∧
      (∀ root, Root (builtin {}) countedRaw root → ∀ node : RawSchema, node.Within root →
        Unlisted node) ∧
      ((builtin {}).compile countedRaw).value?.isSome = true ∧
      ((builtin {}).compile ((builtin {}).expand countedRaw)).value?.isSome = true ∧
      ((builtin {}).compile countedRaw).value?.map (·.schema) ≠
        ((builtin {}).compile ((builtin {}).expand countedRaw)).value?.map (·.schema) := by
  refine ⟨?_, fun root hroot node hnode => ?_, rfl, rfl, fun heq => ?_⟩
  · exact expandable_of_tests pagesRank 4 (by decide) (by decide) (by decide) (by decide)
  · have htest : ∀ root ∈ roots (builtin {}) countedRaw,
        testAll RawSchema.children (fun node => Unlisted node) 4 root = true := by decide
    exact of_decide_eq_true (of_testAll_within (htest root (mem_roots hroot)) hnode)
  · have hrequired := congrArg (fun schema => (schema.bind (Schema.at? · [.items,
      .property "count"])).map (·.required)) heq
    exact absurd (hrequired : some true = some false) (by decide)

end Compiler

end DataSchema
