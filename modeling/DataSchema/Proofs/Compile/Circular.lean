import DataSchema.Proofs.Compile.Meets
import DataSchema.Proofs.Compile.Shows

/-!
# Circular references

A reference is circular if its definition is being compiled and is a reference itself.

**Theorem (`circular_iff`).** Compiling a whole schema gives an error on a circular reference exactly
if a reference comes up to a definition that is being compiled and is a reference. This is so
whenever some definition leads back to itself by references alone (`Loops`).

It is so for other schemas too: what is being compiled is all that the reference stands in, so
arrays, objects and combinations may stand in between (`circular_list`). If neither the whole
schema nor a definition that is referred to from one of these is a reference (`Apart`), then only
those that loop are circular. The invariant is `Chained`: from each definition that is a reference
and is being compiled, references alone lead to what the raw schema at hand refers to.
-/

namespace DataSchema

namespace Compile

variable {c : Compiler} {whole : Json} {r r₀ : Registry} {raw raw₀ target : RawSchema}
  {path last : String} {options : CompilerOptions} {n k d most : Nat}

/-- The raw schema is a reference. -/
def IsReference (raw : RawSchema) : Prop := Compiler.typeName? raw = some "ref"

/-- An error says that a reference is circular. -/
def Circular (o : Outcome TopSchema) : Prop :=
  ∃ leaf ∈ o.flatErrors, Opens circularWords leaf.constraint leaf.reason

theorem circular_iff_not_leaves {o : Outcome TopSchema} :
    Circular o ↔ ¬ Diagnostic.Leaves (Avoids circularWords) o.errors := by
  simp only [Circular, Diagnostic.Leaves, Outcome.flatErrors, Avoids, not_forall, not_not,
    exists_prop]

/-! ## No other errors are on circular references -/

/-- A reference to a definition of a type of its own is not circular. -/
theorem ensures_recursive {target : RawSchema} (h : ¬ IsReference target) (name : String)
    (more : RawSchema) :
    (recursive name target more).Ensures (Avoids circularWords) fun _ => True := by
  unfold recursive
  split
  · next htype => exact absurd (typeName?_eq_some.2 ⟨htype, by decide⟩) h
  · dsimp only
    split
    · refine (Noted.ensures_error ?_).bind fun _ _ => Noted.ensures_pure trivial
      rw [String.append_assoc, String.append_assoc, String.append_assoc]
      exact avoids_append (by decide) (by decide) _ _
    · exact (ensures_required (onReferences_avoids circularWords)).bind fun _ _ =>
        Noted.ensures_pure trivial

/-- If no reference comes up to a reference that is being compiled, no error says that one is
circular. -/
theorem tracks_noncircular :
    Tracks (Unmet IsReference) (Avoids circularWords) fun _ => True where
  child h hc required := h.child hc required
  merged h hrefers hfree := h.merged hrefers hfree
  type _ _ _ := trivial
  recursive h hrefers hbusy :=
    ⟨trivial, fun name => ensures_recursive (fun met => h.unmet (.here hrefers hbusy met)) name _⟩
  onReferences := onReferences_avoids circularWords
  unresolved name := avoids_unresolved (List.mem_cons_of_mem _ List.mem_cons_self) name
  notText given := avoids_notText (List.mem_cons_of_mem _ List.mem_cons_self) given

/-! ## Circular references are errors -/

/-- A reference to a reference that is being compiled is circular. -/
theorem shows_recursive {target : RawSchema} (h : IsReference target) (name : String)
    (more : RawSchema) :
    ¬ Diagnostic.Leaves (Avoids circularWords) (recursive name target more).errors := by
  have hrecursive : recursive name target more =
      ⟨none, [.of "$ref" ("circular $ref(" ++ name ++ ").")], []⟩ := by
    unfold recursive
    rw [(typeName?_eq_some.1 h).1]
    rfl
  rw [hrecursive]
  refine fun hleaves => Diagnostic.leaves_of.1 hleaves ?_
  rw [String.append_assoc]
  exact opens_append circularWords _

/-- **A circular reference is an error on all that it comes up in.** -/
theorem shows_compileWithin (h : Meets IsReference r raw) (hordered : Ordered r raw)
    (hfits : RawsFit most r) (hraw : Fits d raw) (hd : d ≤ most) (hk : r.free ≤ k)
    (hn : enough k most d ≤ n) :
    Run.Shows (Avoids circularWords) (·.Alike r)
      ((Compiler.builtin options).compileWithin n raw) := by
  induction n generalizing r raw d k with
  | zero => exact absurd hn (by simp [enough])
  | succ n ih =>
    rw [Compiler.compileWithin_succ]
    cases h with
    | here refers busy met =>
      rw [compileIn_eq options refers.1 rfl]
      exact Run.shows_ofStep (shows_reference_busy refers busy fun name =>
        shows_recursive met name _)
    | @child _ _ part hc h =>
      obtain ⟨lower, rfl, hlower⟩ := hraw.child hc
      rw [enough_child] at hn
      have hkindred := kindred_asProperty (hordered.sorted.child hc)
      exact shows_compileIn options (keeps_compileWithin options n r) hc fun required =>
        ih (h.kindred hordered.sortedRaws (hkindred required)) (hordered.child hc required) hfits
          (hlower required) (by omega) hk (by omega)
    | @merged _ _ target path refers free h =>
      have hlt := Registry.free_mark_lt refers.found free
      obtain ⟨k, rfl⟩ : ∃ left, k = left + 1 := Nat.exists_eq_add_one.2 (by omega)
      rw [enough_reference] at hn
      rw [compileIn_eq options refers.1 rfl]
      have hmerged : Fits most (inherit target (overrides raw)) :=
        (hfits path target refers.found).inherit (hraw.overrides.mono hd)
      exact Run.shows_ofStep (shows_reference_free refers free
        (ih (k := k) h (hordered.merged refers) (hfits.mark path .compiling) hmerged
          (Nat.le_refl _) (by omega) (by omega)))

/-! ## Loops -/

/-- A definition is a reference to another. -/
def Follows (r : Registry) (path path' : String) : Prop :=
  ∃ raw target, r.raw? path = some raw ∧ Refers r raw path' target

/-- Some definition leads back to itself by references alone. -/
def Loops (r : Registry) : Prop := ∃ path, Relation.TransGen (Follows r) path path

theorem isReference_of_follows {path' : String} (h : Follows r path path')
    (hfound : r.raw? path = some raw) : IsReference raw := by
  obtain ⟨raw', target, hraw', hrefers⟩ := h
  obtain rfl := Option.some.inj (hfound.symm.trans hraw')
  exact hrefers.1

theorem isReference_of_loop (h : Relation.TransGen (Follows r) path last)
    (hfound : r.raw? path = some raw) : IsReference raw := by
  obtain ⟨_, hfollows, -⟩ := Relation.TransGen.head'_iff.1 h
  exact isReference_of_follows hfollows hfound

/-- Nothing leads back to itself by references alone if references are to definitions of a lower
rank. -/
theorem not_loops_of_ranks (rank : String → Nat)
    (h : ∀ e ∈ r.entries, (referent? r e.2.raw).all (fun found => rank found.1 < rank e.1) = true) :
    ¬ Loops r := by
  have hranks : ∀ path path', Follows r path path' → rank path' < rank path := by
    rintro path path' ⟨raw, target, hfound, hrefers⟩
    obtain ⟨e, he, rfl⟩ := Option.map_eq_some_iff.1 hfound
    simpa [hrefers.2] using h (path, e) (Dict.mem_of_get? he)
  exact fun ⟨path, hpath⟩ => acyclic_of_rank rank hranks path hpath

/-- What references alone lead to comes up, unless another definition that is being compiled does
before. -/
theorem meets_of_follows (hpath : Relation.TransGen (Follows r₀) path last)
    (hlast : ∀ target, r₀.raw? last = some target → IsReference target)
    (hfound : r₀.raw? path = some raw₀) (hraw : SameReference raw₀ raw) (hordered : Ordered r raw)
    (hr : r₀.unmarked = r.unmarked) (hbusy : r.Busy last) :
    Meets IsReference r raw := by
  induction hpath using Relation.TransGen.head_induction_on generalizing r raw raw₀ with
  | single hfollows =>
    obtain ⟨raw', target, hraw', hrefers⟩ := hfollows
    obtain rfl := Option.some.inj (hfound.symm.trans hraw')
    exact .here ((refers_congr hr).1 (hraw.refers hrefers)) hbusy (hlast target hrefers.found)
  | @head path next hfollows hrest ih =>
    obtain ⟨raw', target, hraw', hrefers⟩ := hfollows
    obtain rfl := Option.some.inj (hfound.symm.trans hraw')
    have hrefers' := (refers_congr hr).1 (hraw.refers hrefers)
    by_cases hnext : r.Busy next
    · exact .here hrefers' hnext (isReference_of_loop hrest hrefers.found)
    · refine .merged hrefers' hnext (ih hrefers.found (sameReference_merged hordered.sorted target)
        (hordered.merged hrefers') (hr.trans (Registry.unmarked_mark _ _ _).symm) ?_)
      rw [Registry.busy_mark]
      split
      · exact ⟨rfl, by rw [hrefers'.found]; rfl⟩
      · exact hbusy

theorem recurs_of_loops (hwhole : whole.SortedKeys) (h : Loops (c.registry whole)) :
    Recurs IsReference c whole := by
  obtain ⟨path, hpath⟩ := h
  obtain ⟨_, ⟨raw, target, hfound, -⟩, -⟩ := Relation.TransGen.head'_iff.1 hpath
  obtain ⟨r, hstarts, hr, hbusy⟩ := exists_starts hfound
  exact ⟨r, raw, hstarts, meets_of_follows hpath (fun _ => isReference_of_loop hpath) hfound
    ⟨rfl, rfl⟩ (hstarts.ordered hwhole) hr.symm hbusy⟩

/-! ## Schemas in which only loops are circular -/

/-- Neither the whole schema is a reference, nor a definition that is referred to from an array, an
object or a combination. -/
structure Apart (c : Compiler) (whole : Json) : Prop where
  own : ∀ path target, wholeId whole = some path →
    (c.registry whole).raw? path = some target → ¬ IsReference target
  parts : ∀ root, Root c whole root → ∀ node, Reached (c.registry whole) node root →
    ∀ part ∈ node.children, ∀ path target, Refers (c.registry whole) part path target →
      ¬ IsReference target

/-- From each definition that is a reference and is being compiled, references alone lead to what
the raw schema refers to. -/
structure Chained (c : Compiler) (whole : Json) (r : Registry) (raw : RawSchema) : Prop extends
    Arises c whole r raw where
  chained : ∀ path definition, (c.registry whole).raw? path = some definition →
    IsReference definition → r.Busy path → ∀ path' target,
      Refers (c.registry whole) raw path' target → IsReference target →
        Relation.TransGen (Follows (c.registry whole)) path path'

theorem Chained.child (h : Chained c whole r raw) (hapart : Apart c whole) {part : RawSchema}
    (hpart : part ∈ raw.children) : Chained c whole r part where
  toArises := h.toArises.child hpart
  chained _ _ _ _ _ path' target hrefers htarget := by
    obtain ⟨root, hroot, hraw⟩ := h.reached
    exact absurd htarget (hapart.parts root hroot raw hraw part hpart path' target hrefers)

theorem Chained.merged (h : Chained c whole r raw) (hwhole : whole.SortedKeys)
    (hrefers : Refers (c.registry whole) raw path target) :
    Chained c whole (r.mark path .compiling) (inherit target (overrides raw)) where
  toArises := h.toArises.merged hrefers
  chained other definition hfound hdefinition hbusy path' target' hmerged htarget' := by
    have hsame := (sameReference_merged (h.sorted hwhole) target).symm
    have hfollows : Follows (c.registry whole) path path' :=
      ⟨target, target', hrefers.found, hsame.refers hmerged⟩
    rw [Registry.busy_mark] at hbusy
    split at hbusy
    · next heq => exact .single (heq ▸ hfollows)
    · have htarget : IsReference target := isReference_of_follows hfollows hrefers.found
      exact .tail (h.chained other definition hfound hdefinition hbusy path target hrefers htarget)
        hfollows

theorem Starts.chained (h : Starts c whole r raw) (hapart : Apart c whole) :
    Chained c whole r raw := by
  refine ⟨h.arises, fun path definition hfound hdefinition hbusy path' target hrefers _ => ?_⟩
  cases h with
  | body hfields =>
    exact absurd hdefinition (hapart.own path definition (busy_registry.1 hbusy) hfound)
  | @definition start _ other found =>
    rw [Registry.busy_mark] at hbusy
    split at hbusy
    · next heq => exact .single (heq ▸ ⟨raw, target, found, hrefers⟩)
    · exact absurd hdefinition (hapart.own path definition (busy_registry.1 hbusy) hfound)

/-- Where the invariant holds, a reference that is circular closes a loop of references alone. -/
theorem Chained.loops (h : Chained c whole r raw) (hapart : Apart c whole)
    (hwhole : whole.SortedKeys) (hmeets : Meets IsReference r raw) : Loops (c.registry whole) := by
  induction hmeets with
  | here refers busy met =>
    have hrefers := (refers_congr h.unmarked).2 refers
    exact ⟨_, h.chained _ _ hrefers.found met busy _ _ hrefers met⟩
  | child hc _ ih => exact ih (h.child hapart hc)
  | merged refers _ _ ih => exact ih (h.merged hwhole ((refers_congr h.unmarked).2 refers))

theorem loops_of_recurs (hapart : Apart c whole) (hwhole : whole.SortedKeys)
    (h : Recurs IsReference c whole) : Loops (c.registry whole) := by
  obtain ⟨r, raw, hstarts, hmeets⟩ := h
  exact (hstarts.chained hapart).loops hapart hwhole hmeets

end Compile

namespace Compiler

open Compile

variable {whole : Json}

theorem recurs_of_circular (options : CompilerOptions) (hwhole : whole.SortedKeys)
    (h : Circular ((builtin options).compile whole)) :
    Recurs IsReference (builtin options) whole := by
  by_contra hrecurs
  have hunmet : ∀ r raw, Starts (builtin options) whole r raw → Unmet IsReference r raw :=
    fun r raw => unmet_of_not_recurs hrecurs hwhole
  obtain ⟨herrors, -⟩ := ensures_compile options tracks_noncircular hunmet
  exact circular_iff_not_leaves.1 h herrors

theorem circular_of_recurs (options : CompilerOptions) (hwhole : whole.SortedKeys)
    (h : Recurs IsReference (builtin options) whole) :
    Circular ((builtin options).compile whole) := by
  obtain ⟨r, raw, hstarts, hmeets⟩ := h
  obtain ⟨hfits, hraw, henough⟩ := hstarts.bounded
  exact circular_iff_not_leaves.2 (shows_compile options hstarts
    (shows_compileWithin hmeets (hstarts.ordered hwhole) hfits hraw (Nat.le_refl _) (Nat.le_refl _)
      henough))

/-- **What is circular.** An error says so exactly if a reference comes up to a reference that is
being compiled. Loops of references alone are circular, and only these are if no other references
to references stand in arrays, objects and combinations. -/
theorem circular_iff (options : CompilerOptions) (hwhole : whole.SortedKeys) :
    (Circular ((builtin options).compile whole) ↔ Recurs IsReference (builtin options) whole) ∧
      (Loops ((builtin options).registry whole) → Circular ((builtin options).compile whole)) ∧
      (Apart (builtin options) whole →
        (Circular ((builtin options).compile whole) ↔
          Loops ((builtin options).registry whole))) := by
  have hiff : Circular ((builtin options).compile whole) ↔
      Recurs IsReference (builtin options) whole :=
    ⟨recurs_of_circular options hwhole, circular_of_recurs options hwhole⟩
  have hloops : Loops ((builtin options).registry whole) →
      Circular ((builtin options).compile whole) :=
    fun h => hiff.2 (recurs_of_loops hwhole h)
  exact ⟨hiff, hloops, fun hapart =>
    ⟨fun h => loops_of_recurs hapart hwhole (hiff.1 h), hloops⟩⟩

/-- Two definitions. Each is a reference or holds one. -/
def twoDefinitions (first second : RawSchema) : Json :=
  .obj [("definitions", .obj [("first", .obj first), ("second", .obj second)]),
    ("type", .str "string")]

/-- A reference to a definition. -/
def referenceTo (name : String) : RawSchema :=
  [("$ref", .str ("#/definitions/" ++ name)), ("type", .str "ref")]

set_option maxRecDepth 20000 in
theorem circular_iff_mutual :
    Loops ((builtin {}).registry (twoDefinitions (referenceTo "second") (referenceTo "first"))) ∧
      Circular ((builtin {}).compile
        (twoDefinitions (referenceTo "second") (referenceTo "first"))) := by
  have hloops : Loops ((builtin {}).registry
      (twoDefinitions (referenceTo "second") (referenceTo "first"))) := by
    refine ⟨"#/definitions/first", .head (b := "#/definitions/second") ?_ (.single ?_)⟩
    · exact ⟨_, _, rfl, rfl, rfl⟩
    · exact ⟨_, _, rfl, rfl, rfl⟩
  exact ⟨hloops, (circular_iff {} (by decide)).2.1 hloops⟩

/-- A reference to a list of what it is itself. -/
def circularList : Json :=
  twoDefinitions (referenceTo "second")
    [("items", .obj (referenceTo "first")), ("type", .str "array")]

set_option maxRecDepth 20000 in
/-- An array stands between a definition and the reference to it, so no references alone loop; the
reference is circular nevertheless. -/
theorem circular_list :
    (∃ fields, normalize circularList = .ok fields ∧
      (registration ((builtin {}).context (compileDepth circularList)) fields .empty).errors = []) ∧
      ¬ Loops ((builtin {}).registry circularList) ∧
      Circular ((builtin {}).compile circularList) := by
  refine ⟨⟨_, rfl, rfl⟩, ?_, ?_⟩
  · exact not_loops_of_ranks (fun path => if path = "#/definitions/first" then 1 else 0) (by decide)
  · have herrors : ((builtin {}).compile circularList).flatErrors =
        [⟨"$ref", some "first", "circular $ref(#/definitions/first)."⟩] := by decide
    refine ⟨_, by rw [herrors]; exact List.mem_cons_self, ?_⟩
    exact opens_append circularWords "#/definitions/first)."

end Compiler

end DataSchema
