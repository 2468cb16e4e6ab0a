import DataSchema.Proofs.Reports
import DataSchema.Proofs.Validate.Sound
import DataSchema.Proofs.Validate.Terminates

/-!
# Errors point into the data

**Theorem (`leads_of_leafAt`).** Let all schemas of a whole schema be plain and without default.
Then the path of each leaf of an error leads from the data to a part of it; only if the leaf says
that something is required, the last step may be a key that its object has not got. Flat errors show
these paths, joined by points (`points_of_mem_flatErrors`).

Each kind reports what its parts report, one step further into the data: an object under the key of
the part (`Points.entry`), an array under the index (`Points.element`). A reference adds no step,
and hands over the same data. So the induction on the bound on the depth shows of every validation
that what it reports points into its own data (`pointing_validateBounded`).

Only a declared property is validated where there is no data, and since there is no default it gives
no value there and reports at most that it is required (`Points.absent`). This is why the output of
an object has no other keys than the input, so that what is said of dependencies is said of keys of
the input.

That schemas nest too deeply is never reported, so we may let a validation beyond the bound on the
depth report nothing (`same_validateBounded`).
-/

namespace DataSchema

/-- A path leads from a value to a part of it: a step is the key of an entry or the index of an
element. -/
inductive Json.Leads : Json → List String → Json → Prop
  | here (value : Json) : Leads value [] value
  | entry {fields : Dict Json} {name : String} {value target : Json} {path : List String}
      (mem : (name, value) ∈ fields) (rest : Leads value path target) :
      Leads (.obj fields) (name :: path) target
  | element {values : List Json} {i : Nat} {value target : Json} {path : List String}
      (get : values[i]? = some value) (rest : Leads value path target) :
      Leads (.arr values) (toString i :: path) target

/-- The schema is plain and has no default. -/
structure Schema.Undefaulted (s : Schema) : Prop extends Schema.Plain s where
  default : s.default = none

namespace Validate

open Step

/-! ## Pointing -/

/-- What may be reported under a constraint at a path, of data that may be missing. -/
inductive Points : Option Json → String → List String → Prop
  | part {value target : Json} {constraint : String} {path : List String}
      (leads : value.Leads path target) : Points (some value) constraint path
  | absent : Points none "required" []
  | lacking {value : Json} {fields : Dict Json} {name : String} {path : List String}
      (leads : value.Leads path (.obj fields)) (lacks : fields.get? name = none) :
      Points (some value) "required" (path ++ [name])

/-- A validation of data reports what points into the data, and gives no value if it is missing. -/
def Pointing (data : Option Json) (run : Run) : Prop :=
  run.Reports (Points data) fun _ => data.isSome = true

theorem points_here (value : Json) (constraint : String) : Points (some value) constraint [] :=
  .part (.here value)

theorem Points.within {fields : Dict Json} {name constraint : String} {value : Json}
    {path : List String} (mem : (name, value) ∈ fields) (h : Points (some value) constraint path) :
    Points (some (.obj fields)) constraint (name :: path) := by
  cases h with
  | part leads => exact .part (.entry mem leads)
  | lacking leads lacks => exact .lacking (.entry mem leads) lacks

theorem Points.leads {value : Json} {constraint : String} {path : List String}
    (h : Points (some value) constraint path) :
    (∃ target, value.Leads path target) ∨
      constraint = "required" ∧ ∃ front name, ∃ fields : Dict Json, path = front ++ [name] ∧
        value.Leads front (.obj fields) ∧ fields.get? name = none := by
  cases h with
  | part leads => exact .inl ⟨_, leads⟩
  | lacking leads lacks => exact .inr ⟨rfl, _, _, _, rfl, leads, lacks⟩

/-- What points into the value of a key points into the object, whether or not it has the key. -/
theorem Points.entry {fields : Dict Json} {name constraint : String} {path : List String}
    (h : Points (fields.get? name) constraint path) :
    Points (some (.obj fields)) constraint (name :: path) := by
  cases hget : fields.get? name with
  | none =>
    rw [hget] at h
    cases h
    exact .lacking (.here _) hget
  | some value =>
    rw [hget] at h
    exact h.within (Dict.mem_of_get? hget)

theorem Points.element {values : List Json} {i : Nat} {value : Json} {constraint : String}
    {path : List String} (get : values[i]? = some value)
    (h : Points (some value) constraint path) :
    Points (some (.arr values)) constraint (toString i :: path) := by
  cases h with
  | part leads => exact .part (.element get leads)
  | lacking leads lacks => exact .lacking (.element get leads) lacks

/-! ## Data that is given -/

variable {ctx : Context} {s : Schema} {data : Option Json}

/-- Without a default, what is given is the data. -/
theorem reports_given (hdefault : s.default = none) (data : Option Json) :
    (given s data).Reports (Points data) fun o => ∀ value ∈ o, data = some value := by
  unfold given
  split
  · next value hvalue =>
    rw [hdefault, show Json.present none = none from rfl, Option.or_none] at hvalue
    refine Noted.reports_pure fun other hother => ?_
    obtain rfl := Option.mem_some.1 hother
    exact Json.eq_some_of_present hvalue
  · have hrequired : Points data "required" [] := by
      cases data with
      | none => exact .absent
      | some value => exact points_here value _
    have hreturn : ((pure none : Noted (Option Json))).Reports (Points data)
        fun o => ∀ value ∈ o, data = some value := Noted.reports_pure nofun
    split
    · exact (Noted.reports_error rfl hrequired).bind fun _ _ => hreturn
    · exact hreturn

/-- A scalar points into the data, if it does so for each value. -/
theorem pointing_scalar (hdefault : s.default = none) {f : Option Json → Noted (Option Json)}
    (hnone : f none = pure none)
    (hsome : ∀ value, (f (some value)).Reports (Points (some value)) fun _ => True) :
    Pointing data (.ofNoted (given s data >>= f)) := by
  refine Run.reports_ofNoted ((reports_given hdefault data).bind fun o ho => ?_)
  cases o with
  | none =>
    rw [hnone]
    exact Noted.reports_pure nofun
  | some value =>
    obtain rfl := ho value rfl
    exact ⟨(hsome value).errors, fun _ _ => rfl⟩

/-- What holds others points into the data, if it does so for each value. -/
theorem pointing_composite (hdefault : s.default = none)
    {f : Option Json → Validating (Option Json)} (hnone : f none = pure none)
    (hsome : ∀ value, Reports (Points (some value)) (fun _ => True) (f (some value))) :
    Pointing data (.ofStep (monadLift (given s data) >>= f)) := by
  refine Run.reports_ofStep ((reports_lift (reports_given hdefault data)).bind fun o ho => ?_)
  cases o with
  | none =>
    rw [hnone]
    exact reports_pure nofun
  | some value =>
    obtain rfl := ho value rfl
    exact fun depth => ⟨(hsome value depth).1, fun _ _ => rfl⟩

/-! ## Scalars -/

/-- The diagnostic is a leaf and belongs to no property. -/
def Whole (d : Diagnostic) : Prop := d.property = none ∧ d.traces = []

theorem whole_of (constraint reason : String) : Whole (.of constraint reason) := ⟨rfl, rfl⟩

theorem reports_reject {d : Diagnostic} (h : Whole d) (value : Json) :
    (reject d).Reports (Points (some value)) fun _ => True := by
  have hpoints : Points (some value) d.constraint d.property.toList := by
    rw [h.1]
    exact points_here value _
  exact (Noted.reports_error h.2 hpoints).bind fun _ _ => Noted.reports_pure trivial

theorem whole_or {o o' : Option Diagnostic} (h : ∀ d ∈ o, Whole d) (h' : ∀ d ∈ o', Whole d) :
    ∀ d ∈ o.or o', Whole d := by
  cases o with
  | none => exact h'
  | some d => exact h

section Numbers

variable {α : Type} (scale : Scale α)

theorem whole_boundFault? (name : String) (broken : α → α → Bool) (bound : Option α) (n : α) :
    ∀ d ∈ boundFault? scale name broken bound n, Whole d := by
  unfold boundFault?
  grind [boundError, whole_of]

theorem whole_memberFault? (members : Option (List α)) (n : α) :
    ∀ d ∈ memberFault? scale members n, Whole d := by
  unfold memberFault?
  grind [whole_of]

theorem whole_numberFault? (b : Bounds α) (n : α) : ∀ d ∈ numberFault? scale b n, Whole d :=
  whole_or (whole_boundFault? scale _ _ _ n) <| whole_or (whole_boundFault? scale _ _ _ n) <|
    whole_or (whole_boundFault? scale _ _ _ n) <| whole_or (whole_boundFault? scale _ _ _ n) <|
      whole_memberFault? scale _ n

end Numbers

theorem whole_textFault? (c : StringSchema) (text : String) : ∀ d ∈ textFault? c text, Whole d := by
  refine whole_or ?_ (whole_or ?_ (whole_or ?_ (whole_or ?_ ?_)))
  · unfold minLengthFault?
    grind [lengthError, whole_of]
  · unfold maxLengthFault?
    grind [lengthError, whole_of]
  · unfold patternFault?
    grind [whole_of]
  · unfold formatFault?
    grind [whole_of]
  · unfold textMemberFault?
    grind [whole_of]

theorem pointing_boolean (hdefault : s.default = none) (data : Option Json) :
    Pointing data (.ofNoted (boolean s data)) := by
  refine pointing_scalar hdefault rfl fun value => ?_
  dsimp only
  split
  · exact Noted.reports_pure trivial
  · exact reports_reject (whole_of _ _) value

theorem pointing_null (hdefault : s.default = none) (data : Option Json) :
    Pointing data (.ofNoted (null s data)) := by
  unfold null
  rw [hdefault, Option.or_none]
  dsimp only
  split
  · exact Run.reports_ofNoted (Noted.reports_pure fun _ _ => rfl)
  · exact pointing_scalar hdefault rfl fun value => reports_reject (whole_of _ _) value

theorem pointing_within {α : Type} {scale : Scale α} {read : Coerce.Reader α} {write : α → Json}
    {expected : String} {bounds : Bounds α} (hdefault : s.default = none) (data : Option Json) :
    Pointing data (.ofNoted (within scale read write expected bounds s data)) := by
  refine pointing_scalar hdefault rfl fun value => ?_
  dsimp only
  split
  · split
    · exact Noted.reports_pure trivial
    · next fault hfault => exact reports_reject (whole_numberFault? _ _ _ fault hfault) value
  · exact reports_reject (whole_of _ _) value

theorem pointing_string (hdefault : s.default = none) {c : StringSchema}
    (hk : s.kind = .string c) (data : Option Json) :
    Pointing data (.ofNoted (string s data)) := by
  unfold string
  rw [hk]
  refine pointing_scalar hdefault rfl fun value => ?_
  cases value with
  | str text =>
    dsimp only
    split
    · exact Noted.reports_pure trivial
    · next fault hfault => exact reports_reject (whole_textFault? _ _ fault hfault) _
  | _ => exact reports_reject (whole_of _ _) _

/-! ## Arrays -/

/-- The elements are those of a whole array from an index on. -/
theorem reports_elements {items : Schema} (hitems : ∀ data, Pointing data (ctx.nested items data))
    {all values : List Json} (i : Nat)
    (hget : ∀ j value, values[j]? = some value → all[i + j]? = some value) :
    Reports (Points (some (.arr all))) (fun _ => True) (elements ctx items i values) := by
  induction values generalizing i with
  | nil => exact reports_pure trivial
  | cons element rest ih =>
    have hfirst : all[i]? = some element := hget 0 element rfl
    have hrest : ∀ j value, rest[j]? = some value → all[i + 1 + j]? = some value := by
      intro j value hvalue
      rw [Nat.add_right_comm, Nat.add_assoc]
      exact hget (j + 1) value hvalue
    exact (reports_attach (hitems (some element)) (fun _ _ => .element hfirst) "items").bind
      fun _ _ => (ih (i + 1) hrest).bind fun _ _ => reports_pure trivial

theorem pointing_array (hdefault : s.default = none) {items : Schema} {unique : Bool}
    (hk : s.kind = .array items unique) (hitems : ∀ data, Pointing data (ctx.nested items data))
    (data : Option Json) : Pointing data (.ofStep (array ctx s data)) := by
  unfold array
  rw [hk]
  refine pointing_composite hdefault rfl fun value => ?_
  cases value with
  | arr values =>
    dsimp only
    split
    · exact reports_lift (reports_reject (whole_of _ _) _)
    · have helements : Reports (Points (some (.arr values))) (fun _ => True)
          (elements ctx items 0 values) :=
        reports_elements hitems 0 fun j value hvalue => by rwa [Nat.zero_add]
      exact helements.bind fun _ _ => reports_pure trivial
  | _ => exact reports_lift (reports_reject (whole_of _ _) _)

/-! ## Objects -/

/-- The output has no other keys than the input. -/
def KeysIn (input output : Dict Json) : Prop :=
  ∀ name, output.contains name = true → input.contains name = true

theorem keysIn_nil (input : Dict Json) : KeysIn input [] := by
  intro name hname
  cases hname

theorem keysIn_insert {input output : Dict Json} {name : String} {value : Json}
    (h : KeysIn input output) (hname : input.contains name = true) :
    KeysIn input (output.insert name value) := by
  intro other hother
  rw [Dict.contains_insert, Bool.or_eq_true, beq_iff_eq] at hother
  rcases hother with rfl | hother
  · exact hname
  · exact h other hother

section Objects

variable {input output : Dict Json} {name : String} {schema : Schema}

theorem reports_property {value : Option Json} (hnested : Pointing value (ctx.nested schema value))
    (hpath : ∀ c path, Points value c path → Points (some (.obj input)) c (name :: path))
    (hname : value.isSome = true → input.contains name = true) (houtput : KeysIn input output) :
    Reports (Points (some (.obj input))) (KeysIn input)
      (property ctx schema name value output) := by
  refine (reports_attach hnested hpath "properties").bind fun o ho => reports_pure ?_
  cases o with
  | none => exact houtput
  | some v => exact keysIn_insert houtput (hname (ho v rfl))

theorem reports_declared {ps : List (String × Schema)}
    (hps : ∀ p ∈ ps, ∀ data, Pointing data (ctx.nested p.2 data)) (houtput : KeysIn input output) :
    Reports (Points (some (.obj input))) (KeysIn input) (declared ctx input ps output) := by
  induction ps generalizing output with
  | nil => exact reports_pure houtput
  | cons p rest ih =>
    obtain ⟨hp, hrest⟩ := List.forall_mem_cons.1 hps
    -- A property that is not in the input is `Points.absent`, and adds nothing to the output.
    exact (reports_property (hp _) (fun _ _ => .entry) id houtput).bind fun _ hmid => ih hrest hmid

theorem reports_noteDropped (o : ObjectSchema) (d : Diagnostic) (Q : String → List String → Prop) :
    Reports Q (fun _ => True) (noteDropped o d) := by
  unfold noteDropped
  split
  · exact fun _ => ⟨Diagnostic.leavesAt_nil, trivial⟩
  · exact reports_pure trivial

/-- Whether a property is kept is decided without errors. -/
theorem reports_keepsAdditional (o : ObjectSchema) (name : String)
    (Q : String → List String → Prop) :
    Reports Q (fun _ => True) (keepsAdditional ctx o name) := by
  unfold keepsAdditional
  split
  · exact (reports_noteDropped o _ Q).bind fun _ _ => reports_pure trivial
  · split
    · exact reports_pure trivial
    · refine (reports_quietly _).bind fun _ _ => ?_
      split
      · exact reports_pure trivial
      · exact (reports_noteDropped o _ Q).bind fun _ _ => reports_pure trivial

theorem reports_undeclared {o : ObjectSchema} {value : Json}
    (hpatterns : ∀ schema, patternProperty? o name = some schema →
      ∀ data, Pointing data (ctx.nested schema data))
    (hmem : (name, value) ∈ input) (houtput : KeysIn input output) :
    Reports (Points (some (.obj input))) (KeysIn input) (undeclared ctx o name value output) := by
  have hname : input.contains name = true := Dict.contains_iff.2 ⟨value, hmem⟩
  unfold undeclared
  split
  · next schema hschema =>
    exact reports_property (hpatterns schema hschema _) (fun _ _ => .within hmem) (fun _ => hname)
      houtput
  · refine (reports_keepsAdditional o name _).bind fun keeps _ => reports_pure ?_
    cases keeps with
    | true => exact keysIn_insert houtput hname
    | false => exact houtput

theorem reports_others {o : ObjectSchema} {entries : List (String × Json)}
    (hpatterns : ∀ name schema, patternProperty? o name = some schema →
      ∀ data, Pointing data (ctx.nested schema data))
    (hentries : ∀ e ∈ entries, e ∈ input) (houtput : KeysIn input output) :
    Reports (Points (some (.obj input))) (KeysIn input) (others ctx o entries output) := by
  induction entries generalizing output with
  | nil => exact reports_pure houtput
  | cons e rest ih =>
    obtain ⟨hmem, hrest⟩ := List.forall_mem_cons.1 hentries
    unfold others
    split
    · exact ih hrest houtput
    · exact (reports_undeclared (hpatterns e.1) hmem houtput).bind fun _ hmid => ih hrest hmid

theorem contains_of_present (h : Json.isAbsent (output.get? name) = false) :
    output.contains name = true := by
  cases hget : output.get? name with
  | none =>
    rw [hget] at h
    cases h
  | some value => rw [Dict.contains, hget, Option.isSome_some]

theorem reports_checkDependencies (houtput : KeysIn input output)
    (dependencies : List (String × List String)) :
    (checkDependencies output dependencies).Reports (Points (some (.obj input)))
      fun _ => True := by
  induction dependencies with
  | nil => exact Noted.reports_pure trivial
  | cons e rest ih =>
    obtain ⟨name, needed⟩ := e
    unfold checkDependencies
    dsimp only
    split
    · next hpresent =>
      split
      · exact ih
      · -- The property is there in the output, so the input has it too.
        have hname := houtput name (contains_of_present (by simpa using hpresent))
        obtain ⟨value, hmem⟩ := Dict.contains_iff.1 hname
        have hpoints : Points (some (.obj input)) "dependencies" [name] :=
          (points_here value _).within hmem
        exact (Noted.reports_error rfl hpoints).bind fun _ _ => ih
    · exact ih

theorem pointing_object (hdefault : s.default = none) {o : ObjectSchema}
    (hk : s.kind = .object o)
    (hchildren : ∀ c ∈ s.children, ∀ data, Pointing data (ctx.nested c data))
    (data : Option Json) : Pointing data (.ofStep (object ctx s data)) := by
  unfold object
  rw [hk]
  refine pointing_composite hdefault rfl fun value => ?_
  cases value with
  | obj input =>
    have hdeclared : ∀ p ∈ o.properties.getD [], ∀ data, Pointing data (ctx.nested p.2 data) :=
      fun p hp => hchildren p.2 (Schema.mem_children_of_property hk hp)
    have hpatterns : ∀ name schema, patternProperty? o name = some schema →
        ∀ data, Pointing data (ctx.nested schema data) := fun name schema hschema =>
      hchildren schema (Schema.mem_children_of_firstMatch hk (patternProperty?_eq_some.1 hschema))
    have hfields : Reports (Points (some (.obj input))) (KeysIn input) (fields ctx o input) :=
      (reports_declared hdeclared (keysIn_nil input)).bind fun _ hmid =>
        reports_others hpatterns (fun _ he => he) hmid
    have hrun : Run.Reports (Points (some (.obj input))) (KeysIn input)
        (.ofStep (some <$> fields ctx o input)) := by
      refine Run.reports_ofStep (hfields.map fun output houtput a ha => ?_)
      obtain rfl := Option.mem_some.1 ha
      exact houtput
    refine (reports_merge hrun).bind fun output houtput => ?_
    cases output with
    | none => exact reports_pure trivial
    | some output =>
      exact (reports_lift (reports_checkDependencies (houtput output rfl) _)).bind
        fun _ _ => reports_pure trivial
  | _ => exact reports_lift (reports_reject (whole_of _ _) _)

end Objects

/-! ## References -/

theorem reports_follow {reference : String}
    (htarget : ∀ target, ctx.target? reference = some target →
      ∀ data, Pointing data (ctx.nested target data)) (value : Json) :
    Run.Reports (Points (some value)) (fun _ => True) (ctx.follow reference (some value)) := by
  intro depth
  unfold Context.follow
  split
  · exact Run.reports_failed rfl (points_here value _) depth
  · split
    · exact Run.reports_failed rfl (points_here value _) depth
    · next target hfound =>
      exact ⟨(htarget target hfound (some value) (depth + 1)).1, fun _ _ => trivial⟩

theorem pointing_reference (hdefault : s.default = none) {reference : String}
    (hk : s.kind = .ref reference)
    (htarget : ∀ target, ctx.target? reference = some target →
      ∀ data, Pointing data (ctx.nested target data))
    (data : Option Json) : Pointing data (.ofStep (Validate.reference ctx s data)) := by
  unfold Validate.reference
  rw [hk]
  refine pointing_composite hdefault rfl fun value depth => ?_
  exact ⟨(reports_merge (reports_follow htarget value) depth).1, trivial⟩

end Validate

namespace Validator

open Validate

variable {options : ValidatorOptions} {top : TopSchema} {s : Schema}

/-- One level of the induction: each kind points into its data if the schemas in it do, and what it
refers to. -/
theorem pointing_validateIn {ctx : Validate.Context} (hs : s.Undefaulted)
    (hchildren : ∀ c ∈ s.children, ∀ data, Pointing data (ctx.nested c data))
    (htargets : ∀ reference target, ctx.target? reference = some target →
      ∀ data, Pointing data (ctx.nested target data))
    (data : Option Json) : Pointing data ((builtin options).validateIn ctx s data) := by
  have hdefault := hs.default
  unfold validateIn Schema.typeName
  cases hk : s.kind with
  | boolean => exact pointing_boolean hdefault data
  | null => exact pointing_null hdefault data
  | number bounds =>
    show Pointing data (.ofNoted (number s data))
    unfold number
    rw [hk]
    exact pointing_within hdefault data
  | integer bounds =>
    show Pointing data (.ofNoted (integer s data))
    unfold integer
    rw [hk]
    exact pointing_within hdefault data
  | string c => exact pointing_string hdefault hk data
  | array items unique =>
    have hitems := hchildren items (by simp [Schema.children, hk])
    exact pointing_array hdefault hk hitems data
  | object o => exact pointing_object hdefault hk hchildren data
  | combine c => exact absurd hk (hs.ne_combine c)
  | ref reference => exact pointing_reference hdefault hk (htargets reference) data
  | custom name properties => exact absurd hk (hs.ne_custom name properties)

/-- A validation that reports nothing and gives no value. -/
def silent : Schema → Option Json → Validate.Run := fun _ _ depth => (.empty, depth)

theorem pointing_silent (s : Schema) (data : Option Json) : Pointing data (silent s data) :=
  fun _ => ⟨Diagnostic.leavesAt_nil, fun _ ha => nomatch ha⟩

/-- With any bound on the depth, beyond which nothing is reported, validations point into their
data. -/
theorem pointing_validateBounded (options : ValidatorOptions)
    (htop : top.Everywhere Schema.Undefaulted) (n : Nat) (hs : s.Everywhere Schema.Undefaulted)
    (data : Option Json) :
    Pointing data ((builtin options).validateBounded top silent n s data) := by
  induction n generalizing s data with
  | zero => exact pointing_silent s data
  | succ n ih =>
    intro count
    unfold validateBounded
    split
    · refine pointing_validateIn hs.root (fun c hc data => ih (hs.child hc) data) ?_ data count
      intro reference target htarget data
      exact ih (htop target (TopSchema.mem_roots_of_definition? htarget)) data
    · exact pointing_silent s data count

/-- What validating reports points into the data. -/
theorem points_validate (options : ValidatorOptions) (htop : top.Everywhere Schema.Undefaulted)
    (data : Json) :
    Diagnostic.LeavesAt (Points (some data))
      ((builtin options).validate top (some data)).errors := by
  have henough := depthFor_le_depthBound options top
  obtain ⟨-, hsame⟩ :=
    same_validateBounded silent (Nat.zero_le _) henough henough (some data)
  have hpointing := pointing_validateBounded options htop ((builtin options).depthBound top.height)
    (htop top.schema List.mem_cons_self) (some data) 0
  rw [hsame] at hpointing
  exact hpointing.1

/-- **The paths of errors lead into the data**, up to a last step to what is required there. -/
theorem leads_of_leafAt (htop : top.Everywhere Schema.Undefaulted) {data : Json} {d : Diagnostic}
    (hd : d ∈ ((builtin options).validate top (some data)).errors) {path : List String}
    {leaf : Diagnostic} (hleaf : d.LeafAt path leaf) :
    (∃ target, data.Leads path target) ∨
      leaf.constraint = "required" ∧ ∃ front name, ∃ fields : Dict Json, path = front ++ [name] ∧
        data.Leads front (.obj fields) ∧ fields.get? name = none :=
  (points_validate options htop data d hd hleaf).leads

/-- A group has a size, and members that are groups. -/
def groupSchema : Schema :=
  .ofKind (.object
    { properties := some
        [("members", .ofKind (.array (.ofKind (.ref "group")) false)),
         ("size", ⟨true, none, .integer ⟨none, none, none, none, none⟩⟩)]
      regexNameProperties := none
      propertyNames := none
      dependencies := none
      requiredProperties := ["size"]
      allowAdditionalProperties := false
      silentIgnore := false })

/-- A group, by a reference to its definition. -/
def groupTop : TopSchema :=
  { id := none
    definitions := [("group", ⟨some "group", groupSchema⟩)]
    schema := .ofKind (.ref "group") }

theorem everywhere_undefaulted_groupTop : groupTop.Everywhere Schema.Undefaulted := by
  have hleaf : ∀ s : Schema, s.Undefaulted → s.children = [] → s.Everywhere Schema.Undefaulted :=
    fun s hs hc => Schema.everywhere_iff.2 ⟨hs, fun c hmem => by rw [hc] at hmem; cases hmem⟩
  intro root hroot
  rcases List.mem_pair.1 hroot with rfl | rfl
  · exact hleaf _ ⟨⟨nofun, nofun⟩, rfl⟩ rfl
  · refine Schema.everywhere_iff.2 ⟨⟨⟨nofun, nofun⟩, rfl⟩, fun c hc => ?_⟩
    rcases List.mem_pair.1 hc with rfl | rfl
    · refine Schema.everywhere_iff.2 ⟨⟨⟨nofun, nofun⟩, rfl⟩, fun c hc => ?_⟩
      obtain rfl := List.mem_singleton.1 hc
      exact hleaf _ ⟨⟨nofun, nofun⟩, rfl⟩ rfl
    · exact hleaf _ ⟨⟨nofun, nofun⟩, rfl⟩ rfl

/-- A group of two, the second of which has no size. -/
def unsized : Json :=
  .obj [("members", .arr [.obj [("size", .ofInt64 1)], .obj [("members", .arr [])]]),
    ("size", .ofInt64 2)]

/-- What is reported of `unsized`. -/
def unsizedError : Diagnostic :=
  { constraint := "properties"
    property := some "members"
    reason := "[items: [properties: [required: required, but got (undefined).]]]"
    traces := [
      { constraint := "items"
        property := some "1"
        reason := "[properties: [required: required, but got (undefined).]]"
        traces := [
          { constraint := "properties"
            property := some "size"
            reason := "[required: required, but got (undefined).]"
            traces := [.of "required" "required, but got (undefined)."] }] }] }

set_option maxRecDepth 10000 in
theorem leads_of_leafAt_unsized :
    ((builtin {}).validate groupTop (some unsized)).errors = [unsizedError] ∧
      unsizedError.LeafAt ["members", "1", "size"]
        (.of "required" "required, but got (undefined).") ∧
      ((∃ target, unsized.Leads ["members", "1", "size"] target) ∨
        "required" = "required" ∧ ∃ front name, ∃ fields : Dict Json,
          ["members", "1", "size"] = front ++ [name] ∧ unsized.Leads front (.obj fields) ∧
            fields.get? name = none) := by
  have herrors : ((builtin {}).validate groupTop (some unsized)).errors = [unsizedError] := rfl
  have hleaf : unsizedError.LeafAt ["members", "1", "size"]
      (.of "required" "required, but got (undefined).") :=
    .trace List.mem_cons_self (.trace List.mem_cons_self (.trace List.mem_cons_self (.leaf rfl)))
  have hmem : unsizedError ∈ ((builtin {}).validate groupTop (some unsized)).errors :=
    herrors ▸ List.mem_cons_self
  exact ⟨herrors, hleaf, leads_of_leafAt everywhere_undefaulted_groupTop hmem hleaf⟩

/-- What is shown as the property of a flat error is a path that points into the data, joined by
points. -/
theorem points_of_mem_flatErrors (htop : top.Everywhere Schema.Undefaulted) {data : Json}
    {flat : FlatDiagnostic}
    (h : flat ∈ ((builtin options).validate top (some data)).flatErrors) :
    ∃ path, flat.property = Diagnostic.joinSteps none path ∧
      Points (some data) flat.constraint path :=
  (points_validate options htop data).flat h

end Validator

end DataSchema
