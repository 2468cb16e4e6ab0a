import DataSchema.Proofs.Coerce
import DataSchema.Proofs.Validate.Sound

/-!
# Validated data is settled

**Theorem (`validate_settled`).** If validating data gives a value, then validating that value gives
no error and the value again. Schemas may have defaults, patterns, additional properties,
dependencies and references; combinations, numbers, transforms and arrays of distinct elements are
left out, since their values may be judged otherwise than the data they come from.

The proof is an induction on the bound on the depth that relates two runs. `Settled` says what the
second run does with what the first one gave:

* a *value* is given again for itself, and
* *nothing* is given again for nothing, and for the `null` that an array puts in its place.

The kinds take the first run apart with `accepted_of_ends`; the second is put together from its
parts. For an object the entries that the second run adds are exactly the entries of the output of
the first (`again_iff`), and since both outputs are sorted they are equal.
-/

namespace DataSchema

/-- The schema reads its own values as they are: it is plain and no number, it changes no text, it
does not compare elements, and the names of its declared properties are the keys of a dictionary. -/
structure Schema.Settling (s : Schema) : Prop extends Schema.Plain s where
  ne_number : ∀ bounds, s.kind ≠ .number bounds
  untransformed : ∀ c, s.kind = .string c → c.transform.getD [] = []
  repeatable : ∀ items unique, s.kind = .array items unique → unique = false
  distinct : ∀ o, s.kind = .object o → (Dict.keys (o.properties.getD [])).Nodup

/-- Whether a schema reads its own values as they are. -/
def Schema.testSettling (s : Schema) : Bool :=
  match s.kind with
  | .number _ | .combine _ | .custom _ _ => false
  | .string c => c.transform.getD [] = []
  | .array _ unique => !unique
  | .object o => (Dict.keys (o.properties.getD [])).Nodup
  | _ => true

theorem Schema.settling_of_test {s : Schema} (h : s.testSettling = true) : s.Settling where
  ne_combine c hk := by simp [testSettling, hk] at h
  ne_custom name properties hk := by simp [testSettling, hk] at h
  ne_number bounds hk := by simp [testSettling, hk] at h
  untransformed c hk := by simpa [testSettling, hk] using h
  repeatable items unique hk := by simpa [testSettling, hk] using h
  distinct o hk := by simpa [testSettling, hk] using h

namespace Validate

open Step

variable {ctx : Context} {s : Schema} {depth : Nat}

/-! ## Putting runs together -/

theorem given_self {value : Json} (h : value ≠ .null) : Given s (some value) value := by
  have hpresent : Json.present (some value) = some value :=
    Json.present_of_ne_null fun heq => h (Option.some.inj heq)
  rw [Given, hpresent, Option.some_or]

theorem yields_given_of_given {data : Option Json} {value : Json} (h : Given s data value) :
    (given s data).Yields (some value) := by
  unfold Given at h
  unfold given
  rw [h]
  exact Noted.yields_pure.2 rfl

theorem yields_given_of_missing {data : Option Json} (h : Missing s data) :
    (given s data).Yields none := by
  have hnone : (Json.present data).or (Json.present s.default) = none := by
    rw [h.data, h.default, Option.or_none]
  unfold given
  rw [hnone]
  dsimp only
  rw [if_neg (by simp [h.required])]
  exact Noted.yields_pure.2 rfl

theorem Missing.congr {data data' : Option Json} (h : Missing s data)
    (hdata : Json.present data' = none) : Missing s data' :=
  ⟨hdata, h.default, h.required⟩

theorem yields_elements_of_forall₂ {items : Schema} {i : Nat} {values outs : List Json}
    (h : List.Forall₂ (fun x y => ∃ o, (ctx.nested items (some x)).Ends depth o depth ∧
      y = o.getD .null) values outs) :
    (elements ctx items i values).Yields depth outs depth := by
  induction h generalizing i with
  | nil => exact yields_pure.2 ⟨rfl, rfl⟩
  | cons hfirst _ ih =>
    obtain ⟨o, hrun, rfl⟩ := hfirst
    refine yields_bind.2 ⟨o, depth, yields_attach.2 hrun, ?_⟩
    exact yields_bind.2 ⟨_, depth, ih, yields_pure.2 ⟨rfl, rfl⟩⟩

theorem exists_yields_declared {input : Dict Json} {ps : List (String × Schema)}
    (h : ∀ p ∈ ps, ∃ o, (ctx.nested p.2 (input.get? p.1)).Ends depth o depth)
    (output : Dict Json) :
    ∃ output', (declared ctx input ps output).Yields depth output' depth := by
  induction ps generalizing output with
  | nil => exact ⟨output, yields_pure.2 ⟨rfl, rfl⟩⟩
  | cons p rest ih =>
    obtain ⟨o, hrun⟩ := h p List.mem_cons_self
    have hproperty : (property ctx p.2 p.1 (input.get? p.1) output).Yields depth
        (enter output p.1 o) depth :=
      yields_bind.2 ⟨o, depth, yields_attach.2 hrun, yields_pure.2 ⟨rfl, rfl⟩⟩
    obtain ⟨output', hrest⟩ := ih (fun q hq => h q (List.mem_cons_of_mem _ hq)) (enter output p.1 o)
    exact ⟨output', yields_bind.2 ⟨_, depth, hproperty, hrest⟩⟩

theorem yields_noteDropped_self (o : ObjectSchema) (d : Diagnostic) :
    (noteDropped o d).Yields depth () depth := by
  unfold noteDropped
  by_cases hsilent : o.silentIgnore = true
  · simp [hsilent]
  · simp [hsilent]

/-- Whether an additional property is kept is never an error. -/
theorem exists_yields_keepsAdditional (hn : ctx.Framed) (o : ObjectSchema) (name : String) :
    ∃ b, (keepsAdditional ctx o name).Yields depth b depth := by
  unfold keepsAdditional
  split
  · exact ⟨false, yields_bind.2 ⟨(), depth, yields_noteDropped_self o _, yields_pure.2 ⟨rfl, rfl⟩⟩⟩
  · split
    · exact ⟨true, yields_pure.2 ⟨rfl, rfl⟩⟩
    · next names _ =>
      have hrun : ctx.nested names (some (.str name)) depth =
          ((ctx.nested names (some (.str name)) depth).1, depth) :=
        Prod.ext rfl (hn names (some (.str name)) depth)
      by_cases hok : (ctx.nested names (some (.str name)) depth).1.hasError = true
      · refine ⟨false, yields_bind.2 ⟨_, depth, yields_quietly.2 hrun, ?_⟩⟩
        rw [if_neg (by simp [hok])]
        exact yields_bind.2 ⟨(), depth, yields_noteDropped_self o _, yields_pure.2 ⟨rfl, rfl⟩⟩
      · refine ⟨true, yields_bind.2 ⟨_, depth, yields_quietly.2 hrun, ?_⟩⟩
        rw [if_pos (by simpa using hok)]
        exact yields_pure.2 ⟨rfl, rfl⟩

theorem exists_yields_others (hn : ctx.Framed) {o : ObjectSchema}
    {entries : List (String × Json)}
    (h : ∀ e ∈ entries, isDeclared o e.1 = false → ∀ schema, patternProperty? o e.1 = some schema →
      ∃ value, (ctx.nested schema (some e.2)).Ends depth value depth) (output : Dict Json) :
    ∃ output', (others ctx o entries output).Yields depth output' depth := by
  induction entries generalizing output with
  | nil => exact ⟨output, yields_pure.2 ⟨rfl, rfl⟩⟩
  | cons e rest ih =>
    have hrest := ih fun f hf => h f (List.mem_cons_of_mem _ hf)
    unfold others
    by_cases hdeclared : isDeclared o e.1 = true
    · rw [if_pos hdeclared]
      exact hrest output
    · rw [if_neg hdeclared]
      have hfirst : ∃ mid, (undeclared ctx o e.1 e.2 output).Yields depth mid depth := by
        unfold undeclared
        split
        · next schema hfound =>
          obtain ⟨value, hrun⟩ := h e List.mem_cons_self (by simpa using hdeclared) schema hfound
          exact ⟨_, yields_bind.2 ⟨value, depth, yields_attach.2 hrun, yields_pure.2 ⟨rfl, rfl⟩⟩⟩
        · obtain ⟨b, hkeeps⟩ := exists_yields_keepsAdditional hn o e.1
          exact ⟨_, yields_bind.2 ⟨b, depth, hkeeps, yields_pure.2 ⟨rfl, rfl⟩⟩⟩
      obtain ⟨mid, hmid⟩ := hfirst
      obtain ⟨output', hothers⟩ := hrest mid
      exact ⟨output', yields_bind.2 ⟨mid, depth, hmid, hothers⟩⟩

theorem yields_checkDependencies_of_hold {output : Dict Json}
    {dependencies : List (String × List String)}
    (h : ∀ e ∈ dependencies, Json.isAbsent (output.get? e.1) = false →
      ∀ other ∈ e.2, Json.isAbsent (output.get? other) = false) :
    (checkDependencies output dependencies).Yields () := by
  induction dependencies with
  | nil => exact Noted.yields_pure.2 rfl
  | cons e rest ih =>
    obtain ⟨name, needed⟩ := e
    have hrest := ih fun f hf => h f (List.mem_cons_of_mem _ hf)
    unfold checkDependencies
    dsimp only
    by_cases habsent : Json.isAbsent (output.get? name) = true
    · rw [if_neg (by simp [habsent])]
      exact hrest
    · rw [if_pos (by simpa using habsent)]
      have hpresent : Json.isAbsent (output.get? name) = false := by simpa using habsent
      have hneeded : needed.find? (fun other => Json.isAbsent (output.get? other)) = none := by
        refine List.find?_eq_none.2 fun other hother => ?_
        simp [h (name, needed) List.mem_cons_self hpresent other hother]
      rw [hneeded]
      exact hrest

/-! ## What the second run does -/

/-- What a validation gave is given again: a value for itself, and nothing for nothing as well as,
where there was data, for `null`. -/
def Settled (nested : Schema → Option Json → Run) (s : Schema) (data : Option Json) (depth : Nat) :
    Option Json → Prop
  | some value => (nested s (some value)).Ends depth (some value) depth
  | none => (nested s none).Ends depth none depth ∧
      (data.isSome = true → (nested s (some .null)).Ends depth none depth)

/-- Nested validations settle. -/
def Context.Settling (ctx : Context) : Prop :=
  ∀ {s : Schema} {data o : Option Json} {depth : Nat}, s.Everywhere Schema.Settling →
    (ctx.nested s data).Ends depth o depth → Settled ctx.nested s data depth o

/-! ## Objects -/

section Objects

variable {o : ObjectSchema} {input output : Dict Json}

/-- An entry of the output of an accepted object. -/
abbrev Entry (ctx : Context) (depth : Nat) (o : ObjectSchema) (input : Dict Json) (name : String)
    (value : Json) : Prop :=
  Declared ctx depth input (o.properties.getD []) name value ∨ Other ctx depth o input name value

theorem isDeclared_of_mem {p : String × Schema} (hp : p ∈ o.properties.getD []) :
    isDeclared o p.1 = true :=
  Dict.contains_iff.2 ⟨p.2, hp⟩

/-- The output has the value that was found for a declared property, and nothing for one for which
none was found. -/
theorem get?_of_declared (hnames : (Dict.keys (o.properties.getD [])).Nodup)
    (entries : Adds [] (Entry ctx depth o input) output) {p : String × Schema}
    (hp : p ∈ o.properties.getD []) {found : Option Json}
    (hrun : (ctx.nested p.2 (input.get? p.1)).Ends depth found depth) :
    output.get? p.1 = found := by
  -- Whatever the output has under this name was found by the same run.
  have hsame : ∀ value, Entry ctx depth o input p.1 value → found = some value := by
    rintro value (⟨schema, hmem, hother⟩ | ⟨hfree, -⟩)
    · have hschema : some schema = some p.2 := by
        rw [← Dict.get?_of_mem hnames hmem, ← Dict.get?_of_mem hnames hp]
      obtain rfl := Option.some.inj hschema
      exact hrun.2.1.symm.trans hother.2.1
    · rw [isDeclared_of_mem hp] at hfree
      cases hfree
  cases hget : output.get? p.1 with
  | some value =>
    have hentry := (entries.mem _ (Dict.mem_of_get? hget)).resolve_left List.not_mem_nil
    exact (hsame value hentry).symm
  | none =>
    cases found with
    | none => rfl
    | some value =>
      have hcontains := (entries.contains p.1).2 (.inr ⟨value, .inl ⟨p.2, hp, hrun⟩⟩)
      rw [Dict.contains, hget] at hcontains
      cases hcontains

/-- A sorted output is determined by the entries it adds, where these are entries of a sorted
dictionary. -/
theorem Adds.eq_of_sorted {output' : Dict Json}
    (h : Adds [] (fun name value => (name, value) ∈ output) output') (hsorted : Dict.Sorted output)
    (hsorted' : Dict.Sorted output') : output' = output := by
  have hsub : ∀ e ∈ output', e ∈ output := fun e he => (h.mem e he).resolve_left List.not_mem_nil
  refine hsorted'.ext hsorted fun e => ⟨hsub e, fun he => ?_⟩
  obtain ⟨value, hvalue⟩ := Dict.contains_iff.1 ((h.contains e.1).2 (.inr ⟨e.2, he⟩))
  have hsame : some value = some e.2 := by
    rw [← Dict.get?_of_mem hsorted.nodup (hsub _ hvalue), ← Dict.get?_of_mem hsorted.nodup he]
  obtain rfl := Option.some.inj hsame
  exact hvalue

variable (hctx : ctx.Settling) (hs : s.Everywhere Schema.Settling) (hk : s.kind = .object o)
  (entries : Adds [] (Entry ctx depth o input) output) (sorted : Dict.Sorted output)
  (declared : ∀ p ∈ o.properties.getD [],
    ∃ value, (ctx.nested p.2 (input.get? p.1)).Ends depth value depth)

include hctx hs hk entries declared in
/-- A declared property is validated again, and what is found is what the output has. -/
theorem ends_declared_again {p : String × Schema} (hp : p ∈ o.properties.getD []) :
    (ctx.nested p.2 (output.get? p.1)).Ends depth (output.get? p.1) depth := by
  have hchild := hs.child (Schema.mem_children_of_property hk hp)
  obtain ⟨found, hrun⟩ := declared p hp
  have hsettled := hctx hchild hrun
  rw [get?_of_declared (hs.root.distinct o hk) entries hp hrun]
  cases found with
  | some value => exact hsettled
  | none => exact hsettled.1

include hctx hs hk entries in
/-- A matched property is validated again, and its value is found again. -/
theorem ends_matched_again {e : String × Json} (he : e ∈ output) (hfree : isDeclared o e.1 = false)
    {schema : Schema} (hfound : patternProperty? o e.1 = some schema) :
    (ctx.nested schema (some e.2)).Ends depth (some e.2) depth := by
  have hchild :=
    hs.child (Schema.mem_children_of_firstMatch hk (patternProperty?_eq_some.1 hfound))
  rcases (entries.mem e he).resolve_left List.not_mem_nil with
    ⟨other, hmem, -⟩ | ⟨-, given, -, hvalue⟩
  · rw [isDeclared_of_mem hmem] at hfree
    cases hfree
  · cases hvalue with
    | matched found run =>
      rw [hfound] at found
      obtain rfl := Option.some.inj found
      exact hctx hchild run
    | additional unmatched =>
      rw [hfound] at unmatched
      cases unmatched

include hctx hs hk entries sorted declared in
/-- The entries that are added when the output is validated are its own entries. -/
theorem again_iff (name : String) (value : Json) :
    Entry ctx depth o output name value ↔ (name, value) ∈ output := by
  constructor
  · rintro (⟨schema, hmem, hrun⟩ | ⟨hfree, given, hgiven, hvalue⟩)
    · have hagain := ends_declared_again hctx hs hk entries declared hmem
      exact Dict.mem_of_get? (hagain.2.1.symm.trans hrun.2.1)
    · cases hvalue with
      | matched found run =>
        have hagain := ends_matched_again hctx hs hk entries hgiven hfree found
        have hsame : some given = some value := hagain.2.1.symm.trans run.2.1
        exact Option.some.inj hsame ▸ hgiven
      | additional => exact hgiven
  · intro hmem
    rcases (entries.mem _ hmem).resolve_left List.not_mem_nil with
      ⟨schema, hschema, -⟩ | ⟨hfree, given, -, hvalue⟩
    · have hagain := ends_declared_again hctx hs hk entries declared hschema
      rw [Dict.get?_of_mem sorted.nodup hmem] at hagain
      refine .inl ⟨schema, hschema, ?_⟩
      rw [Dict.get?_of_mem sorted.nodup hmem]
      exact hagain
    · cases hvalue with
      | matched found =>
        have hagain := ends_matched_again hctx hs hk entries hmem hfree found
        exact .inr ⟨hfree, value, hmem, .matched found hagain⟩
      | additional unmatched keeps => exact .inr ⟨hfree, _, hmem, .additional unmatched keeps⟩

include hctx hs hk entries sorted declared in
/-- The properties of the output give the output again. -/
theorem yields_fields_again (hn : ctx.Framed) :
    (fields ctx o output).Yields depth output depth := by
  obtain ⟨mid, hmid⟩ := exists_yields_declared
    (fun p hp => ⟨_, ends_declared_again hctx hs hk entries declared hp⟩) []
  obtain ⟨output', hothers⟩ := exists_yields_others hn (fun e he hfree schema hfound =>
    ⟨_, ends_matched_again hctx hs hk entries he hfree hfound⟩) mid
  have hfields : (fields ctx o output).Yields depth output' depth :=
    yields_bind.2 ⟨mid, depth, hmid, hothers⟩
  have hadds := (yields_fields hn hfields).2.1
  have hsame := (hadds.congr (again_iff hctx hs hk entries sorted declared)).eq_of_sorted sorted
    (sorted_fields hfields)
  exact hsame ▸ hfields

end Objects

/-! ## Values of each kind -/

theorem yields_boolean_self (b : Bool) : (boolean s (some (.bool b))).Yields (some (.bool b)) :=
  Noted.yields_bind.2 ⟨_, yields_given_of_given (given_self nofun), Noted.yields_pure.2 rfl⟩

theorem yields_null_self : (null s (some .null)).Yields (some .null) :=
  Noted.yields_pure.2 rfl

theorem yields_integer_self {bounds : Bounds Int64} (hk : s.kind = .integer bounds) {m : Int64}
    (hm : bounds.Hold Int64.toInt m) :
    (integer s (some (.ofInt64 m))).Yields (some (.ofInt64 m)) := by
  have hvalue : Json.ofInt64 m ≠ .null := Json.noConfusion
  unfold integer
  rw [hk]
  refine Noted.yields_bind.2 ⟨_, yields_given_of_given (given_self hvalue), ?_⟩
  have hfault := (numberFault?_eq_none measures_integerScale).2 hm
  simp only [Coerce.int64_ofInt64, Coerced.of, Coerced.hasError, List.isEmpty_nil, Bool.not_true,
    hfault]
  exact Noted.yields_pure.2 rfl

theorem yields_string_self {c : StringSchema} (hk : s.kind = .string c)
    (hc : c.transform.getD [] = []) {text : String} (htext : c.Holds text) :
    (string s (some (.str text))).Yields (some (.str text)) := by
  unfold string
  rw [hk]
  refine Noted.yields_bind.2 ⟨_, yields_given_of_given (given_self nofun), ?_⟩
  dsimp only
  rw [hc, List.foldl_nil, textFault?_eq_none.2 htext]
  exact Noted.yields_pure.2 rfl

theorem yields_array_self {items : Schema} (hk : s.kind = .array items false) {values : List Json}
    (h : ∀ value ∈ values, ∃ o, (ctx.nested items (some value)).Ends depth o depth ∧
      value = o.getD .null) :
    (array ctx s (some (.arr values))).Yields depth (some (.arr values)) depth := by
  have helements : (elements ctx items 0 values).Yields depth values depth :=
    yields_elements_of_forall₂ (List.forall₂_same.2 h)
  unfold array
  rw [hk]
  have hgiven : (given s (some (.arr values))).Yields (some (.arr values)) :=
    yields_given_of_given (given_self nofun)
  refine yields_bind.2 ⟨_, depth, yields_lift.2 ⟨hgiven, rfl⟩, ?_⟩
  dsimp only
  rw [if_neg (by simp)]
  exact yields_bind.2 ⟨values, depth, helements, yields_pure.2 ⟨rfl, rfl⟩⟩

theorem yields_object_self {o : ObjectSchema} (hk : s.kind = .object o) {output : Dict Json}
    (hfields : (fields ctx o output).Yields depth output depth)
    (hdependencies : o.DependenciesHold output) :
    (object ctx s (some (.obj output))).Yields depth (some (.obj output)) depth := by
  have hchecked := yields_checkDependencies_of_hold hdependencies
  unfold object
  rw [hk]
  have hgiven : (given s (some (.obj output))).Yields (some (.obj output)) :=
    yields_given_of_given (given_self nofun)
  refine yields_bind.2 ⟨_, depth, yields_lift.2 ⟨hgiven, rfl⟩, ?_⟩
  have houtput :
      (merge (.ofStep (some <$> fields ctx o output))).Yields depth (some output) depth :=
    yields_merge.2 (Run.ends_ofStep.2 (yields_map.2 ⟨output, hfields, rfl⟩))
  refine yields_bind.2 ⟨some output, depth, houtput, ?_⟩
  exact yields_bind.2 ⟨(), depth, yields_lift.2 ⟨hchecked, rfl⟩, yields_pure.2 ⟨rfl, rfl⟩⟩

theorem yields_reference_self {name : String} (hk : s.kind = .ref name) {target : Schema}
    (hlimit : depth < ctx.options.maxRefDepth.toNat) (hfound : ctx.target? name = some target)
    {value : Json} (hvalue : value ≠ .null)
    (hrun : (ctx.nested target (some value)).Ends (depth + 1) (some value) (depth + 1)) :
    (reference ctx s (some value)).Yields depth (some value) depth := by
  have hfollow : (ctx.follow name (some value)).Ends depth (some value) depth := by
    unfold Run.Ends Context.follow
    rw [if_neg (Nat.not_le.2 hlimit)]
    simp only [hfound]
    refine ⟨hrun.1, hrun.2.1, ?_⟩
    show (ctx.nested target (some value) (depth + 1)).2 - 1 = depth
    rw [hrun.2.2, Nat.add_sub_cancel]
  unfold reference
  rw [hk]
  have hgiven := yields_given_of_given (s := s) (given_self hvalue)
  exact yields_bind.2 ⟨_, depth, yields_lift.2 ⟨hgiven, rfl⟩, yields_merge.2 hfollow⟩

end Validate

namespace Validator

open Validate

variable {options : ValidatorOptions} {top : TopSchema} {n depth t : Nat} {s : Schema}
  {data o : Option Json}

/-! ## All kinds -/

/-- A value is `null` only where `null` is given to a schema of that kind. -/
theorem given_of_ends_null (htop : top.Everywhere Schema.Settling) (hs : s.Settling) {value : Json}
    (h : ((builtin options).validateWithin (some top) n s data).Ends depth (some value) t)
    (hvalue : value = .null) : data.or s.default = some .null := by
  induction n generalizing s data depth t with
  | zero => exact absurd h Run.not_ends_failed
  | succ n ih =>
    cases accepted_of_ends h with
    | null _ given => exact given
    | boolean | number | integer | string | array | object => cases hvalue
    | combine kind => exact absurd kind (hs.ne_combine _)
    | ref _ given _ found run =>
      -- What is handed over is not `null`, so nothing stands in for it.
      have hroot := htop _ (TopSchema.mem_roots_of_definition? found)
      have hgiven := ih hroot.root run
      exact absurd (Option.some.inj hgiven) given.ne_null

theorem ends_of_missing (hs : s.Settling) (hmissing : Missing s data)
    (hnull : s.typeName = "null" → data = none ∧ s.default = none) :
    ((builtin options).validateWithin (some top) (n + 1) s data).Ends depth none depth := by
  have hgiven := yields_given_of_missing hmissing
  obtain ⟨required, default, kind⟩ := s
  cases kind with
  | boolean =>
    rw [validateWithin_succ (t := .scalar Validate.boolean) rfl]
    exact Run.ends_ofNoted.2 ⟨Noted.yields_bind.2 ⟨none, hgiven, Noted.yields_pure.2 rfl⟩, rfl⟩
  | null =>
    obtain ⟨rfl, rfl⟩ := hnull rfl
    rw [validateWithin_succ (t := .scalar Validate.null) rfl]
    exact Run.ends_ofNoted.2 ⟨Noted.yields_bind.2 ⟨none, hgiven, Noted.yields_pure.2 rfl⟩, rfl⟩
  | number bounds => exact absurd rfl (hs.ne_number bounds)
  | integer bounds =>
    rw [validateWithin_succ (t := .scalar Validate.integer) rfl]
    exact Run.ends_ofNoted.2 ⟨Noted.yields_bind.2 ⟨none, hgiven, Noted.yields_pure.2 rfl⟩, rfl⟩
  | string c =>
    rw [validateWithin_succ (t := .scalar Validate.string) rfl]
    exact Run.ends_ofNoted.2 ⟨Noted.yields_bind.2 ⟨none, hgiven, Noted.yields_pure.2 rfl⟩, rfl⟩
  | array items unique =>
    rw [validateWithin_succ (t := .composite Validate.array) rfl]
    exact Run.ends_ofStep.2
      (Step.yields_bind.2
        ⟨none, depth, Step.yields_lift.2 ⟨hgiven, rfl⟩, Step.yields_pure.2 ⟨rfl, rfl⟩⟩)
  | object o =>
    rw [validateWithin_succ (t := .composite Validate.object) rfl]
    exact Run.ends_ofStep.2
      (Step.yields_bind.2
        ⟨none, depth, Step.yields_lift.2 ⟨hgiven, rfl⟩, Step.yields_pure.2 ⟨rfl, rfl⟩⟩)
  | combine c => exact absurd rfl (hs.ne_combine c)
  | ref name =>
    rw [validateWithin_succ (t := .composite Validate.reference) rfl]
    exact Run.ends_ofStep.2
      (Step.yields_bind.2
        ⟨none, depth, Step.yields_lift.2 ⟨hgiven, rfl⟩, Step.yields_pure.2 ⟨rfl, rfl⟩⟩)
  | custom name properties => exact absurd rfl (hs.ne_custom name properties)

/-- One level of the induction: each kind settles if the schemas in it do. -/
theorem settled_of_accepted (htop : top.Everywhere Schema.Settling)
    (ih : ((builtin options).context (some top) n).Settling) (hs : s.Everywhere Schema.Settling)
    (h : Accepted ((builtin options).context (some top) n) depth s data o) :
    Settled ((builtin options).validateWithin (some top) (n + 1)) s data depth o := by
  have hn : ((builtin options).context (some top) n).Framed :=
    framed_validateWithin options (some top) n
  cases h with
  | missing missing null =>
    have hnone :
        ((builtin options).validateWithin (some top) (n + 1) s none).Ends depth none depth :=
      ends_of_missing hs.root (missing.congr rfl) fun ht => ⟨rfl, (null ht).2⟩
    refine ⟨hnone, fun hdata => ends_of_missing hs.root (missing.congr rfl) fun ht => ?_⟩
    obtain ⟨rfl, -⟩ := null ht
    cases hdata
  | boolean type =>
    show ((builtin options).validateWithin (some top) (n + 1) s _).Ends depth _ depth
    rw [validateWithin_succ (t := .scalar Validate.boolean) (by rw [type]; rfl)]
    exact Run.ends_ofNoted.2 ⟨yields_boolean_self _, rfl⟩
  | null type =>
    show ((builtin options).validateWithin (some top) (n + 1) s _).Ends depth _ depth
    rw [validateWithin_succ (t := .scalar Validate.null) (by rw [type]; rfl)]
    exact Run.ends_ofNoted.2 ⟨yields_null_self, rfl⟩
  | number kind => exact absurd kind (hs.root.ne_number _)
  | integer kind _ _ holds =>
    show ((builtin options).validateWithin (some top) (n + 1) s _).Ends depth _ depth
    rw [validateWithin_succ (t := .scalar Validate.integer) (by rw [Schema.typeName, kind]; rfl)]
    exact Run.ends_ofNoted.2 ⟨yields_integer_self kind holds, rfl⟩
  | @string c text kind _ holds =>
    have hsame := hs.root.untransformed _ kind
    have htext : c.normalText text = text := by rw [StringSchema.normalText, hsame, List.foldl_nil]
    rw [htext] at holds ⊢
    show ((builtin options).validateWithin (some top) (n + 1) s _).Ends depth _ depth
    rw [validateWithin_succ (t := .scalar Validate.string) (by rw [Schema.typeName, kind]; rfl)]
    exact Run.ends_ofNoted.2 ⟨yields_string_self kind hsame holds, rfl⟩
  | @array items unique values outs kind _ _ elements =>
    obtain rfl := hs.root.repeatable items unique kind
    have hitems := hs.child (by simp [Schema.children, kind] : items ∈ s.children)
    show ((builtin options).validateWithin (some top) (n + 1) s _).Ends depth _ depth
    rw [validateWithin_succ (t := .composite Validate.array) (by rw [Schema.typeName, kind]; rfl)]
    refine Run.ends_ofStep.2 (yields_array_self kind fun y hy => ?_)
    obtain ⟨x, -, o, hrun, rfl⟩ := exists_mem_of_forall₂ elements.flip hy
    have hsettled := ih hitems hrun
    cases o with
    | some value => exact ⟨some value, hsettled, rfl⟩
    | none => exact ⟨none, hsettled.2 rfl, rfl⟩
  | object kind _ entries declared _ dependencies sorted =>
    show ((builtin options).validateWithin (some top) (n + 1) s _).Ends depth _ depth
    rw [validateWithin_succ (t := .composite Validate.object) (by rw [Schema.typeName, kind]; rfl)]
    have hfields := yields_fields_again ih hs kind entries sorted declared hn
    exact Run.ends_ofStep.2 (yields_object_self kind hfields dependencies)
  | combine kind => exact absurd kind (hs.root.ne_combine _)
  | @ref name target value o kind given limit found run =>
    have hroot := htop _ (TopSchema.mem_roots_of_definition? found)
    obtain ⟨result, rfl⟩ := exists_of_fills (fills_of_ne_null given.ne_null) run
    have hsettled := ih hroot run
    have hresult : result ≠ .null := by
      intro hnull
      have hvalue := given_of_ends_null htop hroot.root run hnull
      exact given.ne_null (Option.some.inj hvalue)
    show ((builtin options).validateWithin (some top) (n + 1) s _).Ends depth _ depth
    rw [validateWithin_succ (t := .composite Validate.reference)
      (by rw [Schema.typeName, kind]; rfl)]
    exact Run.ends_ofStep.2 (yields_reference_self kind limit found hresult hsettled)

/-- With any bound on the depth, validations settle. -/
theorem settling_context (options : ValidatorOptions) (htop : top.Everywhere Schema.Settling)
    (n : Nat) : ((builtin options).context (some top) n).Settling := by
  induction n with
  | zero => exact fun _ h => absurd h Run.not_ends_failed
  | succ n ih =>
    intro s data o depth hs h
    exact settled_of_accepted htop ih hs (accepted_of_ends h)

/-- **Validated data is settled:** validating it again meets no error, and gives it again. -/
theorem validate_settled (htop : top.Everywhere Schema.Settling) {value : Json}
    (h : ((builtin options).validate top data).value? = some value) :
    ((builtin options).validate top (some value)).errors = [] ∧
      ((builtin options).validate top (some value)).value? = some value := by
  have hends := Run.ends_of_value? h
  have hframed := framed_validateWithin options (some top)
    ((builtin options).depthBound top.height) top.schema data 0
  have hfirst : ((builtin options).validateWithin (some top)
      ((builtin options).depthBound top.height) top.schema data).Ends 0 (some value) 0 :=
    ⟨hends.1, hends.2.1, hframed⟩
  have hbody : top.schema.Everywhere Schema.Settling := htop top.schema List.mem_cons_self
  have hagain :=
    settling_context options htop ((builtin options).depthBound top.height) hbody hfirst
  exact ⟨hagain.1, Outcome.value?_eq_some.2 ⟨hagain.1, hagain.2.1⟩⟩

/-- Each page has a number, which is one if it is not given, may have tags, and may have a next
page. -/
def pageFields : ObjectSchema :=
  { properties := some
      [("draft", .ofKind .boolean),
       ("next", .ofKind (.ref "page")),
       ("number", ⟨true, some (.ofInt64 1), .integer ⟨some 1, none, none, none, none⟩⟩),
       ("tags", .ofKind (.array (.ofKind (.string ⟨some 1, none, none, none, none, none⟩)) false))]
    regexNameProperties := none
    propertyNames := none
    dependencies := some [("next", ["number"])]
    requiredProperties := ["number"]
    allowAdditionalProperties := true
    silentIgnore := false }

/-- A schema of pages. -/
def page : TopSchema :=
  { id := some "page", definitions := [], schema := .ofKind (.object pageFields) }

theorem everywhere_settling_page : page.Everywhere Schema.Settling := by
  intro root hroot
  obtain rfl := List.mem_singleton.1 hroot
  refine Schema.everywhere_iff.2 ⟨Schema.settling_of_test (by decide), fun c hc => ?_⟩
  refine Schema.everywhere_iff.2 ?_
  simp only [page, pageFields, Schema.children, Schema.ofKind, Option.getD_some, Option.getD_none,
    List.map_cons,
    List.map_nil, Option.toList_none, List.append_nil, List.mem_cons, List.not_mem_nil,
    or_false] at hc
  rcases hc with rfl | rfl | rfl | rfl
  · exact ⟨Schema.settling_of_test rfl, fun _ hc => absurd hc List.not_mem_nil⟩
  · exact ⟨Schema.settling_of_test rfl, fun _ hc => absurd hc List.not_mem_nil⟩
  · exact ⟨Schema.settling_of_test rfl, fun _ hc => absurd hc List.not_mem_nil⟩
  · refine ⟨Schema.settling_of_test rfl, fun c hc => ?_⟩
    obtain rfl := List.mem_singleton.1 hc
    exact Schema.everywhere_iff.2
      ⟨Schema.settling_of_test (by decide), fun _ hc => absurd hc List.not_mem_nil⟩

/-- A page without a number, and a note on it; the number of the next page is a text, and one of its
tags is left open. -/
def draftPage : Json :=
  .obj [("draft", .null), ("next", .obj [("number", .str "2"), ("tags", .arr [.null, .str "a"])]),
    ("note", .null)]

/-- What validating `draftPage` gives. -/
def settledPage : Json :=
  .obj [("next", .obj [("number", .ofInt64 2), ("tags", .arr [.null, .str "a"])]), ("note", .null),
    ("number", .ofInt64 1)]

set_option maxRecDepth 10000 in
theorem validate_settled_page :
    ((builtin {}).validate page (some draftPage)).value? = some settledPage ∧
      ((builtin {}).validate page (some settledPage)).errors = [] ∧
      ((builtin {}).validate page (some settledPage)).value? = some settledPage := by
  have hvalue : ((builtin {}).validate page (some draftPage)).value? = some settledPage := rfl
  exact ⟨hvalue, validate_settled everywhere_settling_page hvalue⟩

end Validator

end DataSchema
