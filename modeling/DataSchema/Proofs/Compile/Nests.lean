import DataSchema.Proofs.Compile.Meets
import DataSchema.Proofs.Compile.Place
import DataSchema.Proofs.Compile.Shows

/-!
# What is compiled on the way

`Nests r raw r' raw'` says that while `raw` is compiled in the registry `r`, `raw'` is compiled in
a registry like `r'`: it is what stands at some place, or the definition that a reference names,
merged with what the reference overrides, and so on from there.

**Theorem (`shows_of_nests`).** The errors of what is compiled on the way are errors of the whole,
with a longer path.

**Theorem (`within_of_nests`).** If the whole is compiled without error, so is what is compiled on
the way, and the schema that it gives is a node of the whole.

Both are inductions on `Nests`. What is compiled first leaves a registry that is alike, and with a
depth that is enough neither this nor the depth matters.
-/

namespace DataSchema

/-! ## Errors that are covered -/

namespace Diagnostic

variable {errors parts : List Diagnostic}

/-- Each leaf of some diagnostics is one of others, with another path to it. -/
def Covers (errors parts : List Diagnostic) : Prop :=
  ∀ leaf ∈ flattenAll parts, ∃ leaf' ∈ flattenAll errors, cause leaf' = cause leaf

/-- What is shown by the parts, whatever it is, is shown by all that covers them. -/
theorem covers_of_leaves (h : ∀ Q, ¬ Leaves Q parts → ¬ Leaves Q errors) : Covers errors parts := by
  intro leaf hleaf
  by_contra hnone
  refine h (fun constraint reason => (constraint, reason) ≠ cause leaf)
    (fun hparts => hparts leaf hleaf rfl) fun leaf' hleaf' heq => hnone ⟨leaf', hleaf', heq⟩

end Diagnostic

open Diagnostic (Covers)

/-! ## Places -/

theorem Schema.mem_children_of_child? {s c : Schema} {place : Place}
    (h : s.child? place = some c) : c ∈ s.children := by
  unfold Schema.child? at h
  unfold Schema.children
  split at h
  · next hkind =>
    obtain rfl := Option.some.inj h
    rw [hkind]
    exact List.mem_cons_self
  · next group i groups hkind =>
    rw [hkind]
    have hmem := List.mem_of_getElem? h
    unfold CombineSchema.group at hmem
    simp only [List.mem_append]
    split at hmem
    · exact .inl (.inl hmem)
    · exact .inl (.inr hmem)
    · exact .inr hmem
    · cases hmem
  · next name o hkind =>
    rw [hkind]
    simp only [List.mem_append]
    unfold ObjectSchema.property? at h
    split at h
    · next found hfound =>
      obtain rfl := Option.some.inj h
      exact .inl (.inl (List.mem_map.2 ⟨_, Dict.mem_of_get? hfound, rfl⟩))
    · obtain ⟨p, hp, rfl⟩ := Option.map_eq_some_iff.1 h
      exact .inl (.inr (List.mem_map_of_mem (List.mem_of_find?_eq_some hp)))
  · next o hkind =>
    rw [hkind]
    exact List.mem_append_right _ (Option.mem_toList.2 h)
  · cases h

namespace Compile

open Step

variable {Q : String → String → Prop} {R : Registry → Prop} {ctx : Context}
  {raw raw' f target : RawSchema} {r r' u v : Registry} {part : Json} {path : String}
  {place : Place} {options : CompilerOptions} {n m d most : Nat}

/-- The value at a place is no schema. Elements and names of properties have to be given, so `null`
is no value there. -/
structure FaultAt (raw : RawSchema) (place : Place) (d : Diagnostic) : Prop where
  type : Compiler.typeName? raw = some place.type
  fault : ∃ part, raw.part? place = some part ∧ normalize part = .error d ∧
    (part = .null → place ≠ .items ∧ place ≠ .names)

/-- **A raw schema shows what the value at a place in it does.** -/
theorem shows_part (options : CompilerOptions) (hkeeps : Keeps R ctx) (hraw : Sorted raw)
    (htype : Compiler.typeName? raw = some place.type) (hpart : raw.part? place = some part)
    (hset : part = .null → place ≠ .items ∧ place ≠ .names)
    (h : Run.Shows Q R (ctx.compileAs (raw.lists place) part)) :
    Run.Shows Q R ((Compiler.builtin options).compileIn ctx raw) := by
  cases place with
  | items =>
    rw [compileIn_eq options htype rfl]
    exact Run.shows_ofStep (shows_array hpart (fun hnull => (hset hnull).1 rfl) h)
  | names =>
    rw [compileIn_eq options htype rfl]
    exact Run.shows_ofStep (shows_object_names hkeeps hpart (fun hnull => (hset hnull).2 rfl) h)
  | member group i =>
    simp only [RawSchema.part?] at hpart
    split at hpart
    · next hgroup =>
      rw [compileIn_eq options htype rfl]
      exact Run.shows_ofStep (shows_combine hkeeps hgroup (List.mem_of_getElem? hpart) h)
    · cases hpart
  | property name =>
    rw [compileIn_eq options htype rfl]
    obtain ⟨value, hvalue, hfield⟩ := Option.bind_eq_some_iff.1 hpart
    obtain ⟨fields, hfields, hget⟩ := Option.bind_eq_some_iff.1 hfield
    cases value with
    | obj fields' =>
      obtain rfl := Option.some.inj hfields
      refine Run.shows_ofStep (shows_object_property hkeeps hvalue (Dict.mem_of_get? hget)
        fun required hrequired => ?_)
      rw [hrequired (hraw.nodup_properties hvalue)]
      exact h
    | null | bool | num | str | arr => cases hfields

theorem shows_place (options : CompilerOptions) (hkeeps : Keeps R ctx) (hraw : Sorted raw)
    (hf : raw.child? place = some f) (h : Run.Shows Q R (ctx.nested f)) :
    Run.Shows Q R ((Compiler.builtin options).compileIn ctx raw) := by
  obtain ⟨htype, part, f', hpart, hf', rfl⟩ := child?_eq_some hf
  refine shows_part options hkeeps hraw htype hpart ?_ ?_
  · rintro rfl
    cases hf'
  · unfold Context.compileAs
    rw [hf']
    exact h

/-! ## What is compiled on the way -/

/-- While one raw schema is compiled in a registry, another is compiled in another registry. -/
inductive Nests : Registry → RawSchema → Registry → RawSchema → Prop
  | self (r : Registry) (raw : RawSchema) : Nests r raw r raw
  | place {r r' : Registry} {raw f raw' : RawSchema} (place : Place)
      (child : raw.child? place = some f) (h : Nests r f r' raw') : Nests r raw r' raw'
  | inlined {r r' : Registry} {raw target raw' : RawSchema} (path : String)
      (refers : Refers r raw path target) (free : ¬ r.Busy path)
      (h : Nests (r.mark path .compiling) (inherit target (overrides raw)) r' raw') :
      Nests r raw r' raw'

theorem Nests.ordered (h : Nests r raw r' raw') (hordered : Ordered r raw) : Ordered r' raw' := by
  induction h with
  | self => exact hordered
  | place _ child _ ih => exact ih ⟨hordered.sorted.child? child, hordered.sortedRaws⟩
  | inlined _ refers _ _ ih => exact ih (hordered.merged refers)

/-- A raw schema and the definitions are in order, and the depth is enough to compile it. -/
structure Bounded (most d n : Nat) (r : Registry) (raw : RawSchema) : Prop where
  ordered : Ordered r raw
  rawsFit : RawsFit most r
  fits : Fits d raw
  le : d ≤ most
  depth : enough r.free most d ≤ n

theorem Bounded.exists_depth (h : Bounded most d n r raw) : ∃ lower, n = lower + 1 :=
  Nat.exists_eq_add_one.2 (Nat.lt_of_lt_of_le (Nat.succ_pos _) h.depth)

theorem Bounded.child? (h : Bounded most d (n + 1) r raw) (hf : raw.child? place = some f) :
    ∃ lower, Bounded most lower n r f := by
  obtain ⟨htype, part, f', hpart, hf', rfl⟩ := child?_eq_some hf
  have hmem := RawSchema.mem_children.2 ⟨part, mem_parts_of_part? htype hpart, hf'⟩
  obtain ⟨lower, rfl, hlower⟩ := h.fits.child hmem
  have hdepth := h.depth
  rw [enough_child] at hdepth
  exact ⟨lower, h.ordered.child hmem _, h.rawsFit, hlower _, Nat.le_of_succ_le h.le,
    Nat.le_of_succ_le_succ hdepth⟩

theorem Bounded.inlined (h : Bounded most d (n + 1) r raw) (hrefers : Refers r raw path target)
    (hfree : ¬ r.Busy path) :
    Bounded most most n (r.mark path .compiling) (inherit target (overrides raw)) where
  ordered := h.ordered.merged hrefers
  rawsFit := h.rawsFit.mark path .compiling
  fits := (h.rawsFit path target hrefers.found).inherit (h.fits.overrides.mono h.le)
  le := Nat.le_refl most
  depth := by
    have hlt := Registry.free_mark_lt hrefers.found hfree
    obtain ⟨k, hk⟩ : ∃ left, r.free = left + 1 := Nat.exists_eq_add_one.2 (by omega)
    have hdepth := h.depth
    rw [hk, enough_reference] at hdepth
    have hmono : enough (r.mark path .compiling).free most most ≤ enough k most most :=
      enough_mono (by omega)
    omega

/-- The depth is enough for all that a whole schema starts with. -/
theorem Starts.inBounds {whole : Json} (h : Starts (.builtin options) whole r raw)
    (hwhole : whole.SortedKeys) :
    Bounded whole.depth whole.depth (Compiler.compileDepth whole) r raw := by
  obtain ⟨hrawsFit, hfits, hdepth⟩ := h.bounded
  exact ⟨h.ordered hwhole, hrawsFit, hfits, Nat.le_refl _, hdepth⟩

/-- Compiling in a registry that is alike, to any depth that is enough, comes to the same. -/
theorem Bounded.outcome_eq (h : Bounded most d n r raw) (hm : n ≤ m) (hu : u.Alike r) :
    ((Compiler.builtin options).compileWithin n raw u).1 =
      ((Compiler.builtin options).compileWithin m raw r).1 :=
  (outcome_compileWithin_eq options hu.symm h.rawsFit h.fits h.le (Nat.le_refl _)
    (Nat.le_trans h.depth hm) h.depth).symm

/-! ## Errors -/

/-- **What is compiled on the way shows, the whole shows.** -/
theorem shows_of_nests (h : Nests r raw r' raw') (hbounded : Bounded most d n r raw) (hm : n ≤ m)
    (hleaf : ¬ Diagnostic.Leaves Q
      ((Compiler.builtin options).compileWithin m raw' r').1.errors) :
    Run.Shows Q (·.Alike r) ((Compiler.builtin options).compileWithin n raw) := by
  induction h generalizing n d with
  | self r raw =>
    intro u hu
    rw [hbounded.outcome_eq hm hu]
    exact hleaf
  | place _ child _ ih =>
    obtain ⟨n, rfl⟩ := hbounded.exists_depth
    obtain ⟨lower, hlower⟩ := hbounded.child? child
    rw [Compiler.compileWithin_succ]
    exact shows_place options (keeps_compileWithin options n _) hbounded.ordered.sorted child
      (ih hlower (Nat.le_of_succ_le hm) hleaf)
  | inlined _ refers free _ ih =>
    obtain ⟨n, rfl⟩ := hbounded.exists_depth
    rw [Compiler.compileWithin_succ, compileIn_eq options refers.1 rfl]
    exact Run.shows_ofStep (shows_reference_free refers free
      (ih (hbounded.inlined refers free) (Nat.le_of_succ_le hm) hleaf))

/-- A value that is no schema is an error on the raw schema in which it stands. -/
theorem leaves_of_faultAt (hraw : Sorted raw) {fault : Diagnostic} (h : FaultAt raw place fault)
    (hleaf : ¬ Diagnostic.Leaves Q [fault]) :
    ¬ Diagnostic.Leaves Q
      ((Compiler.builtin options).compileWithin (n + 1) raw r).1.errors := by
  obtain ⟨htype, part, hpart, hfault, hset⟩ := h
  have hshows : Run.Shows Q (·.Alike r) ((Compiler.builtin options).compileIn
      ((Compiler.builtin options).context n) raw) := by
    refine shows_part options (keeps_compileWithin options n r) hraw htype hpart hset ?_
    unfold Context.compileAs
    rw [hfault]
    exact fun _ _ => hleaf
  exact hshows r (.refl r)

/-! ## Nodes -/

/-- A reference that is compiled without error gives what its definition does, unless that is being
compiled. -/
theorem ends_reference_free (hrefers : Refers r raw path target) (hfree : ¬ r.Busy path)
    (hu : u.Alike r) {o : Option Schema} (h : (reference ctx raw).Yields u o v) :
    ∃ w, (ctx.nested (inherit target (overrides raw))).Ends (u.mark path .compiling) o w := by
  obtain ⟨name, state, hstate, happly⟩ := hrefers.reference_apply ctx hu.unmarked
  have hcompiling : state ≠ .compiling := by
    rintro rfl
    exact hfree ((hu.busy path).1 hstate)
  rw [Step.Yields, happly, if_neg hcompiling] at h
  obtain ⟨w, hends, -⟩ := ends_inlined (yields_attach.1 h)
  exact ⟨w, hends⟩

/-- **What is compiled on the way is a node of the whole.** -/
theorem within_of_nests (h : Nests r raw r' raw') (hbounded : Bounded most d n r raw) (hm : n ≤ m)
    (hu : u.Alike r) {s : Schema}
    (hends : ((Compiler.builtin options).compileWithin n raw).Ends u (some s) v) :
    ∃ node, ((Compiler.builtin options).compileWithin m raw' r').1.value? = some node ∧
      node.Within s := by
  induction h generalizing n d u v s with
  | self r raw =>
    refine ⟨s, ?_, .self s⟩
    rw [← hbounded.outcome_eq hm hu]
    exact Outcome.value?_eq_some.2 ⟨hends.1, hends.2.1⟩
  | place _ child _ ih =>
    obtain ⟨n, rfl⟩ := hbounded.exists_depth
    obtain ⟨lower, hlower⟩ := hbounded.child? child
    obtain ⟨c, hc, w, _, hw, hends⟩ := child_of_ends hbounded.ordered.sorted hends child
    obtain ⟨node, hnode, hwithin⟩ :=
      ih hlower (Nat.le_of_succ_le hm) (hw.trans hu) hends
    exact ⟨node, hnode, .child (Schema.mem_children_of_child? hc) hwithin⟩
  | inlined path refers free _ ih =>
    obtain ⟨n, rfl⟩ := hbounded.exists_depth
    rw [Compiler.compileWithin_succ, compileIn_eq options refers.1 rfl] at hends
    obtain ⟨_, hends⟩ := ends_reference_free refers free hu (Run.ends_ofStep.1 hends)
    exact ih (hbounded.inlined refers free) (Nat.le_of_succ_le hm) (hu.mark path Iff.rfl) hends

end Compile

end DataSchema
