import DataSchema.Proofs.Compile.Starts

/-!
# References to definitions that are being compiled

`Meets T r raw` says that while `raw` is compiled in the registry `r`, a reference comes up to a
definition that is being compiled then and has the property `T`. It speaks of raw schemas and of
marks only: a reference marks its definition for as long as the definition is compiled in its place,
merged with what the reference overrides, so what is overridden is compiled under the mark too.

`Compiler.Recurs T` says so of a whole schema.

A property is compiled with the flag that its object puts on it. Raw schemas that differ in this
flag only are `Kindred`, and what comes up in one comes up in the other (`Meets.kindred`).
-/

namespace DataSchema.Compile

variable {r r' : Registry} {raw raw' target : RawSchema} {path : String} {T : RawSchema → Prop}

/-! ## Errors on recursive references -/

/-- An error on a reference that opens with the given words. -/
def Opens (words constraint reason : String) : Prop :=
  constraint = "$ref" ∧ words.toList <+: reason.toList

/-- No error on a reference that opens with the given words. -/
def Avoids (words constraint reason : String) : Prop := ¬ Opens words constraint reason

/-- How an error on a recursive reference opens. -/
def recursiveWords : String := "recursive $ref("

/-- How an error on a circular reference opens. -/
def circularWords : String := "circular $ref("

theorem opens_append (words rest : String) : Opens words "$ref" (words ++ rest) :=
  ⟨rfl, by rw [String.toList_append]; exact List.prefix_append _ _⟩

theorem avoids_append {words start : String} (hlength : words.length ≤ start.length)
    (h : ¬ words.toList <+: start.toList) (constraint rest : String) :
    Avoids words constraint (start ++ rest) := by
  rintro ⟨-, hopens⟩
  rw [String.toList_append] at hopens
  exact h (List.prefix_of_prefix_length_le hopens (List.prefix_append _ _)
    (by rwa [String.length_toList, String.length_toList]))

theorem onReferences_avoids (words : String) : OnReferences (Avoids words) :=
  fun _ _ hconstraint hopens => hconstraint hopens.1

/-- An error on a reference to no definition is none on a recursive one. -/
theorem avoids_unresolved {words : String} (h : words ∈ [recursiveWords, circularWords])
    (name : String) : Avoids words "$ref" ("no definition found for $ref(" ++ name ++ ").") := by
  rw [String.append_assoc]
  simp only [List.mem_cons, List.not_mem_nil, or_false] at h
  rcases h with rfl | rfl <;> exact avoids_append (by decide) (by decide) _ _

/-- An error on a reference that is no text is none on a recursive one. -/
theorem avoids_notText {words : String} (h : words ∈ [recursiveWords, circularWords])
    (given : String) :
    Avoids words "$ref" ("$ref must be a non-empty string, but got (" ++ given ++ ").") := by
  rw [String.append_assoc]
  simp only [List.mem_cons, List.not_mem_nil, or_false] at h
  rcases h with rfl | rfl <;> exact avoids_append (by decide) (by decide) _ _

/-! ## Kindred raw schemas -/

/-- The definitions of the registry list the fields of all objects by key. -/
def SortedRaws (r : Registry) : Prop := ∀ path target, r.raw? path = some target → Sorted target

theorem SortedRaws.congr (h : SortedRaws r) (hr : r'.unmarked = r.unmarked) : SortedRaws r' :=
  fun path target hfound => h path target (Registry.raw?_congr hr path ▸ hfound)

/-- The same fields are set to the same, apart from whether data has to be there. -/
structure Kindred (raw raw' : RawSchema) : Prop where
  sorted : Sorted raw
  sorted' : Sorted raw'
  field : ∀ field ≠ "required", Json.present (raw.get? field) = Json.present (raw'.get? field)

theorem kindred_asProperty (h : Sorted raw) (required : Bool) :
    Kindred raw (asProperty required raw) where
  sorted := h
  sorted' := h.asProperty required
  field field hfield := by
    cases required with
    | false => rfl
    | true => exact (get?_asProperty h.nodup hfield).symm

theorem Kindred.symm (h : Kindred raw raw') : Kindred raw' raw :=
  ⟨h.sorted', h.sorted, fun field hfield => (h.field field hfield).symm⟩

theorem Kindred.typeName? (h : Kindred raw raw') :
    Compiler.typeName? raw = Compiler.typeName? raw' :=
  typeName?_congr (h.field "type" (by decide))

theorem Kindred.children (h : Kindred raw raw') : raw.children = raw'.children := by
  refine children_congr (h.field "type" (by decide)) fun field hfield => h.field field ?_
  rintro rfl
  exact absurd hfield (by decide)

theorem referent?_congr (h : Json.present (raw.get? "$ref") = Json.present (raw'.get? "$ref")) :
    referent? r raw = referent? r raw' := by
  unfold referent?
  rcases Json.eq_or_unset_of_present h with heq | ⟨hraw | hraw, hraw' | hraw'⟩
  · rw [heq]
  all_goals rw [hraw, hraw']

/-- The raw schemas have the same type, and say the same of what they refer to. -/
structure SameReference (raw raw' : RawSchema) : Prop where
  type : Json.present (raw.get? "type") = Json.present (raw'.get? "type")
  ref : Json.present (raw.get? "$ref") = Json.present (raw'.get? "$ref")

theorem SameReference.symm (h : SameReference raw raw') : SameReference raw' raw :=
  ⟨h.type.symm, h.ref.symm⟩

theorem SameReference.refers (h : SameReference raw raw') (hrefers : Refers r raw path target) :
    Refers r raw' path target := by
  refine ⟨typeName?_congr h.type ▸ hrefers.1, ?_⟩
  rw [← referent?_congr h.ref, hrefers.2]

/-- A definition that is merged with what a reference overrides refers to what it did. -/
theorem sameReference_merged (h : Sorted raw) (target : RawSchema) :
    SameReference target (inherit target (overrides raw)) := by
  constructor <;> rw [get?_inherit h.overrides.nodup, get?_overrides] <;> rfl

theorem Kindred.refers (h : Kindred raw raw') (hrefers : Refers r raw path target) :
    Refers r raw' path target :=
  SameReference.refers ⟨h.field "type" (by decide), h.field "$ref" (by decide)⟩ hrefers

theorem Kindred.merged (h : Kindred raw raw') (htarget : Sorted target) :
    Kindred (inherit target (overrides raw)) (inherit target (overrides raw')) where
  sorted := htarget.inherit h.sorted.overrides.values
  sorted' := htarget.inherit h.sorted'.overrides.values
  field field hfield := by
    rw [get?_inherit h.sorted.overrides.nodup, get?_inherit h.sorted'.overrides.nodup,
      get?_overrides, get?_overrides]
    split
    · rw [h.field field hfield]
    · rfl

/-! ## What comes up -/

theorem refers_congr (h : r.unmarked = r'.unmarked) :
    Refers r raw path target ↔ Refers r' raw path target := by
  have hreferent : referent? r raw = referent? r' raw := by
    unfold referent?
    simp only [Registry.resolve_congr h, Registry.raw?_congr h]
  rw [Refers, Refers, hreferent]

theorem Refers.found (h : Refers r raw path target) : r.raw? path = some target := by
  obtain ⟨_, -, -, -, hfound⟩ := h.resolved
  exact hfound

/-- A reference comes up to a definition that is being compiled and has a property. -/
inductive Meets (T : RawSchema → Prop) : Registry → RawSchema → Prop
  | here {r : Registry} {raw target : RawSchema} {path : String} (refers : Refers r raw path target)
      (busy : r.Busy path) (met : T target) : Meets T r raw
  | child {r : Registry} {raw c : RawSchema} (hc : c ∈ raw.children) (h : Meets T r c) :
      Meets T r raw
  | merged {r : Registry} {raw target : RawSchema} {path : String}
      (refers : Refers r raw path target) (free : ¬ r.Busy path)
      (h : Meets T (r.mark path .compiling) (inherit target (overrides raw))) : Meets T r raw

/-- What comes up does not depend on whether data has to be there. -/
theorem Meets.kindred (h : Meets T r raw) (hr : SortedRaws r) (hk : Kindred raw raw') :
    Meets T r raw' := by
  induction h generalizing raw' with
  | here refers busy met => exact .here (hk.refers refers) busy met
  | child hc h => exact .child (hk.children ▸ hc) h
  | merged refers free _ ih =>
    exact .merged (hk.refers refers) free
      (ih (hr.congr (Registry.unmarked_mark _ _ _)) (hk.merged (hr _ _ refers.found)))

/-- The fields of all objects are listed by key, in the raw schema and in the definitions. -/
structure Ordered (r : Registry) (raw : RawSchema) : Prop where
  sorted : Sorted raw
  sortedRaws : SortedRaws r

theorem Ordered.child (h : Ordered r raw) {c : RawSchema} (hc : c ∈ raw.children)
    (required : Bool) : Ordered r (asProperty required c) where
  sorted := (h.sorted.child hc).asProperty required
  sortedRaws := h.sortedRaws

theorem Ordered.merged (h : Ordered r raw) (hrefers : Refers r raw path target) :
    Ordered (r.mark path .compiling) (inherit target (overrides raw)) where
  sorted := (h.sortedRaws _ _ hrefers.found).inherit h.sorted.overrides.values
  sortedRaws := h.sortedRaws.congr (Registry.unmarked_mark _ _ _)

/-- No reference comes up to a definition that is being compiled and has a property. -/
structure Unmet (T : RawSchema → Prop) (r : Registry) (raw : RawSchema) : Prop extends
    Ordered r raw where
  unmet : ¬ Meets T r raw

theorem Unmet.child (h : Unmet T r raw) {c : RawSchema} (hc : c ∈ raw.children) (required : Bool) :
    Unmet T r (asProperty required c) where
  toOrdered := h.toOrdered.child hc required
  unmet hmeets := h.unmet (.child hc
    (hmeets.kindred h.sortedRaws (kindred_asProperty (h.sorted.child hc) required).symm))

theorem Unmet.merged (h : Unmet T r raw) (hrefers : Refers r raw path target)
    (hfree : ¬ r.Busy path) :
    Unmet T (r.mark path .compiling) (inherit target (overrides raw)) where
  toOrdered := h.toOrdered.merged hrefers
  unmet hmeets := h.unmet (.merged hrefers hfree hmeets)

/-! ## Whole schemas -/

variable {c : Compiler} {whole : Json}

/-- Before anything is compiled, only the whole schema counts as being compiled. -/
theorem busy_registry : (c.registry whole).Busy path ↔ wholeId whole = some path := by
  cases hfields : normalize whole with
  | error d =>
    rw [Compiler.registry, wholeId, hfields]
    constructor <;> intro h <;> cases h
  | ok fields =>
    rw [Compiler.registry_eq c hfields, busy_registered, wholeId, hfields]
    rfl

/-- The whole schema is registered under its id. -/
theorem normalize_of_own (hown : wholeId whole = some path)
    (hfound : (c.registry whole).raw? path = some raw) : normalize whole = .ok raw := by
  cases hfields : normalize whole with
  | error d =>
    rw [wholeId, hfields] at hown
    cases hown
  | ok fields =>
    rw [wholeId, hfields] at hown
    obtain ⟨hraw, -⟩ := (registered_registration (c.context (Compiler.compileDepth whole))
      fields).own path hown
    rw [← Compiler.registry_eq c hfields, hfound] at hraw
    rw [Option.some.inj hraw]

/-- Each raw schema that is registered is a start, in a registry in which it is being compiled. -/
theorem exists_starts (hfound : (c.registry whole).raw? path = some raw) :
    ∃ r, Starts c whole r raw ∧ r.unmarked = (c.registry whole).unmarked ∧ r.Busy path := by
  by_cases hown : wholeId whole = some path
  · exact ⟨_, .body (normalize_of_own hown hfound), rfl, busy_registry.2 hown⟩
  · refine ⟨_, .definition hown hfound, Registry.unmarked_mark _ _ _, ?_⟩
    rw [Registry.busy_mark, if_pos rfl, hfound]
    exact ⟨rfl, rfl⟩

theorem Starts.ordered (h : Starts c whole r raw) (hwhole : whole.SortedKeys) : Ordered r raw := by
  have hregistry : SortedRaws (c.registry whole) := fun _ _ hfound => sorted_registry c hwhole hfound
  cases h with
  | body hfields => exact ⟨.normalize hwhole hfields, hregistry⟩
  | definition _ found =>
    exact ⟨hregistry _ _ found, hregistry.congr (Registry.unmarked_mark _ _ _)⟩

/-- The bound on the depth is enough for all that a whole schema starts with. -/
theorem Starts.bounded (options : CompilerOptions)
    (h : Starts (.builtin options) whole r raw) :
    RawsFit whole.depth r ∧ Fits whole.depth raw ∧
      enough r.free whole.depth whole.depth ≤ Compiler.compileDepth whole := by
  obtain ⟨henough, hfits⟩ := Compiler.registry_bounded options whole
  have hfree : ∀ r : Registry, r.size = ((Compiler.builtin options).registry whole).size →
      enough r.free whole.depth whole.depth ≤ Compiler.compileDepth whole := by
    intro r hsize
    exact Nat.le_trans (enough_mono (hsize ▸ r.free_le_size)) henough
  cases h with
  | body hfields => exact ⟨hfits, normalize_fits hfields, hfree _ rfl⟩
  | definition _ found =>
    exact ⟨hfits.mark _ _, hfits _ _ found, hfree _ (size_mark _ _ _)⟩

/-! ## What arises -/

theorem Reached.trans {node root : RawSchema} (h : Reached r node raw) (h' : Reached r raw root) :
    Reached r node root := by
  induction h' with
  | self => exact h
  | child hc _ ih => exact .child hc ih
  | merged hrefers _ ih => exact .merged hrefers ih

/-- What comes up while sorted raw schemas are compiled is sorted. -/
theorem Reached.sorted {node root : RawSchema} (h : Reached r node root) (hroot : Sorted root)
    (hr : SortedRaws r) : Sorted node := by
  induction h with
  | self => exact hroot
  | child hc _ ih => exact ih (hroot.child hc)
  | merged hrefers _ ih => exact ih ((hr _ _ hrefers.found).inherit hroot.overrides.values)

/-- The raw schema comes up while a whole schema is compiled, in a registry of its definitions. -/
structure Arises (c : Compiler) (whole : Json) (r : Registry) (raw : RawSchema) : Prop where
  unmarked : (c.registry whole).unmarked = r.unmarked
  reached : ∃ root, Root c whole root ∧ Reached (c.registry whole) raw root

theorem Starts.arises (h : Starts c whole r raw) : Arises c whole r raw := by
  cases h with
  | body hfields => exact ⟨rfl, raw, .body hfields, .self raw⟩
  | definition _ found =>
    exact ⟨(Registry.unmarked_mark _ _ _).symm, raw, .definition found, .self raw⟩

theorem Arises.child (h : Arises c whole r raw) {f : RawSchema} (hf : f ∈ raw.children) :
    Arises c whole r f := by
  obtain ⟨root, hroot, hraw⟩ := h.reached
  exact ⟨h.unmarked, root, hroot, .trans (.child hf (.self f)) hraw⟩

theorem Arises.merged (h : Arises c whole r raw)
    (hrefers : Refers (c.registry whole) raw path target) :
    Arises c whole (r.mark path .compiling) (inherit target (overrides raw)) := by
  obtain ⟨root, hroot, hraw⟩ := h.reached
  exact ⟨h.unmarked.trans (Registry.unmarked_mark _ _ _).symm, root, hroot,
    .trans (.merged hrefers (.self _)) hraw⟩

theorem Arises.sorted (h : Arises c whole r raw) (hwhole : whole.SortedKeys) : Sorted raw := by
  have hregistry : SortedRaws (c.registry whole) := fun _ _ hfound => sorted_registry c hwhole hfound
  obtain ⟨root, hroot, hraw⟩ := h.reached
  refine hraw.sorted ?_ hregistry
  cases hroot with
  | body hfields => exact .normalize hwhole hfields
  | definition hfound => exact hregistry _ _ hfound

/-! ## Recursion -/

/-- While a whole schema is compiled, a reference comes up to a definition that is being compiled
and has a property. -/
def Recurs (T : RawSchema → Prop) (c : Compiler) (whole : Json) : Prop :=
  ∃ r raw, Starts c whole r raw ∧ Meets T r raw

theorem unmet_of_not_recurs (h : ¬ Recurs T c whole) (hwhole : whole.SortedKeys)
    (hstarts : Starts c whole r raw) : Unmet T r raw where
  toOrdered := hstarts.ordered hwhole
  unmet hmeets := h ⟨r, raw, hstarts, hmeets⟩

end DataSchema.Compile
