import DataSchema.Proofs.Compile.Alike

/-!
# How deep compiling nests

A reference is compiled by compiling its definition, merged with what the reference overrides. The
merged raw schema may be larger than the one in which the reference stands, and may have the same
reference in it, so recursion is not on raw schemas.

**What decreases.** A definition that is compiled in place of a reference is marked as being
compiled for the time, so one definition less is free (`Registry.free`). As long as no reference is
replaced, raw schemas get lower (`Fits`). `enough` is the depth that is left for a number of free
definitions, one below the other, each as high as the highest, and for the raw schema itself.

**How it is said.** `Compiler.compileNested` compiles with a bound on the depth and a bound on how
many references are being replaced at a time. Beyond the bounds it answers whatever it is told to.
If the answers make no difference then neither bound was reached.

**Theorem (`agree_compileNested`).** With as many references as there are free definitions, and a
depth that is enough, the answers beyond make no difference.
-/

namespace DataSchema

/-- Compiles with bounds on the depth and on the references that are being replaced by their
definitions. What lies beyond a bound is compiled by `beyond`. -/
def Compiler.compileNested (c : Compiler) (beyond : RawSchema → Compile.Run Schema) :
    Nat → Nat → RawSchema → Compile.Run Schema
  | 0, _, raw => beyond raw
  | depth + 1, references, raw =>
    c.compileIn
      { options := c.options
        nested :=
          if Compiler.typeName? raw = some "ref" then
            match references with
            | 0 => beyond
            | left + 1 => c.compileNested beyond depth left
          else c.compileNested beyond depth references }
      raw

theorem Compiler.compileNested_succ (c : Compiler) (beyond : RawSchema → Compile.Run Schema)
    (depth references : Nat) (raw : RawSchema) :
    c.compileNested beyond (depth + 1) references raw = c.compileIn
      { options := c.options
        nested :=
          if Compiler.typeName? raw = some "ref" then
            match references with
            | 0 => beyond
            | left + 1 => c.compileNested beyond depth left
          else c.compileNested beyond depth references }
      raw := rfl

/-- The context of compiling with bounds. -/
def Compiler.nestedContext (c : Compiler) (beyond : RawSchema → Compile.Run Schema)
    (depth references : Nat) : Compile.Context :=
  { options := c.options, nested := c.compileNested beyond depth references }

namespace Registry

/-- How many definitions are not being compiled. -/
def free (r : Registry) : Nat := r.paths.countP fun path => ¬ r.Busy path

theorem free_le_size (r : Registry) : r.free ≤ r.size := by
  have hle := List.countP_le_length (p := fun path => decide (¬ r.Busy path)) (l := r.paths)
  simpa [free, paths, Dict.keys, size] using hle

theorem free_congr {r r' : Registry} (h : r.Alike r') : r.free = r'.free := by
  have hpaths : ∀ r : Registry, r.paths = r.unmarked.paths := fun r => by
    simp [paths, Dict.keys, Registry.unmarked]
  rw [free, free, hpaths r, h.unmarked, ← hpaths r']
  simp only [h.busy]

theorem mem_paths_of_raw? {r : Registry} {path : String} {raw : Dict Json}
    (h : r.raw? path = some raw) : path ∈ r.paths := by
  obtain ⟨e, he, -⟩ := Option.map_eq_some_iff.1 h
  exact List.mem_map.2 ⟨(path, e), Dict.mem_of_get? he, rfl⟩

theorem countP_lt_countP {α : Type} {p q : α → Bool} {l : List α} (h : ∀ a, q a = true → p a = true)
    {a : α} (ha : a ∈ l) (hp : p a = true) (hq : q a = false) : l.countP q < l.countP p := by
  induction l with
  | nil => cases ha
  | cons b rest ih =>
    rw [List.countP_cons, List.countP_cons]
    rcases List.mem_cons.1 ha with rfl | ha
    · have hle : rest.countP q ≤ rest.countP p := List.countP_mono_left fun b _ => h b
      simp only [hp, hq, if_true, Bool.false_eq_true, if_false]
      omega
    · have hlt := ih ha
      by_cases hb : q b = true
      · rw [if_pos hb, if_pos (h b hb)]
        omega
      · rw [if_neg hb]
        omega

/-- Whoever starts to compile a definition leaves one less that is free. -/
theorem free_mark_lt {r : Registry} {path : String} {raw : Dict Json}
    (hraw : r.raw? path = some raw) (hfree : ¬ r.Busy path) :
    (r.mark path .compiling).free < r.free := by
  have hmarked : (r.mark path .compiling).Busy path := by
    rw [busy_mark, if_pos rfl, hraw]
    exact ⟨rfl, rfl⟩
  rw [free, free, paths_mark]
  refine countP_lt_countP (fun other hother => ?_) (mem_paths_of_raw? hraw) (by simpa using hfree)
    (by simpa using hmarked)
  have hother : ¬ (r.mark path .compiling).Busy other := by simpa using hother
  by_cases hpath : path = other
  · subst hpath
    exact absurd hmarked hother
  · rw [busy_mark, if_neg hpath] at hother
    simpa using hother

end Registry

namespace Compile

open Step

/-! ## Heights -/

/-- What a raw schema has in the fields that hold schemas is not deeper than this. -/
def Fits (d : Nat) (raw : RawSchema) : Prop := ∀ e ∈ raw, e.1 ∈ RawSchema.holders → e.2.depth ≤ d

variable {raw target : RawSchema} {d most k n m : Nat}

theorem Fits.mono (h : Fits d raw) (hd : d ≤ most) : Fits most raw :=
  fun e he hholder => Nat.le_trans (h e he hholder) hd

theorem fits_of_depth {fields : RawSchema} (h : (Json.obj fields).depth ≤ d + 1) :
    Fits d fields := by
  intro e he _
  have hlt := Json.depth_lt_obj he
  omega

theorem fits_of_normalize {j : Json} {fields : RawSchema} (h : normalize j = .ok fields)
    (hj : j.depth ≤ d + 1) : Fits d fields := by
  cases j with
  | str type =>
    obtain rfl := Except.ok.inj h
    intro e he hholder
    obtain rfl := List.mem_singleton.1 he
    simp [RawSchema.holders] at hholder
  | obj fields' =>
    obtain rfl := Except.ok.inj h
    exact fits_of_depth hj
  | null | bool | num | arr => cases h

theorem Fits.inherit (h : Fits d target) (hraw : Fits d raw) : Fits d (inherit target raw) := by
  intro e he
  rcases mem_inherit he with he | he
  · exact h e he
  · exact hraw e he

theorem Fits.overrides (h : Fits d raw) : Fits d (overrides raw) :=
  fun e he => h e (List.mem_of_mem_filter he)

theorem Fits.asProperty (h : Fits d raw) (required : Bool) : Fits d (asProperty required raw) := by
  cases required with
  | false => exact h
  | true =>
    have hflag : Fits d [("required", .bool true)] := by
      intro e he hholder
      obtain rfl := List.mem_singleton.1 he
      exact absurd hholder (by decide)
    exact hflag.inherit h

theorem Fits.part (h : Fits d raw) {part : Json} (hpart : part ∈ raw.parts) : part.depth ≤ d := by
  obtain ⟨e, he, hholder, hholds⟩ := RawSchema.holds_of_mem_parts hpart
  exact Nat.le_trans hholds.depth_le (h e he hholder)

/-- A schema that stands in a raw schema is lower. -/
theorem Fits.child (h : Fits d raw) {c : RawSchema} (hc : c ∈ raw.children) :
    ∃ lower, d = lower + 1 ∧ ∀ required, Fits lower (Compile.asProperty required c) := by
  obtain ⟨part, hpart, hnormal⟩ := RawSchema.mem_children.1 hc
  have hdepth := h.part hpart
  have hpos := part.depth_pos
  refine ⟨d - 1, by omega, fun required => Fits.asProperty ?_ required⟩
  exact fits_of_normalize hnormal (by omega)

/-! ## Enough depth -/

/-- The depth that compiling takes: for each free definition as much as the highest takes, and for
the raw schema. -/
def enough (free most d : Nat) : Nat := free * (most + 1) + d + 1

theorem enough_child : enough k most (d + 1) = enough k most d + 1 := by
  unfold enough
  omega

theorem enough_reference : enough (k + 1) most d = enough k most most + d + 1 := by
  unfold enough
  rw [Nat.succ_mul]
  omega

theorem enough_mono {k' : Nat} (h : k' ≤ k) : enough k' most d ≤ enough k most d := by
  have hmul := Nat.mul_le_mul_right (most + 1) h
  unfold enough
  omega

/-- The definitions of a registry are not higher than this. -/
def RawsFit (most : Nat) (r : Registry) : Prop := ∀ path raw, r.raw? path = some raw → Fits most raw

theorem RawsFit.mark {r : Registry} (h : RawsFit most r) (path : String)
    (state : DefinitionState) : RawsFit most (r.mark path state) := by
  intro other raw hraw
  rw [Registry.raw?_mark] at hraw
  exact h other raw hraw

variable {r r' : Registry}

theorem agree_compileNested (options : CompilerOptions) (beyond : RawSchema → Run Schema)
    (h : r.Alike r') (hfits : RawsFit most r) (hraw : Fits d raw) (hd : d ≤ most)
    (hk : r.free ≤ k) (hn : enough k most d ≤ n) (hm : enough k most d ≤ m) :
    Run.Agree .whole (Near r r') ((Compiler.builtin options).compileWithin n raw)
      ((Compiler.builtin options).compileNested beyond m k raw) := by
  induction n generalizing r r' raw d k m with
  | zero => exact absurd hn (by simp [enough])
  | succ n ih =>
    obtain ⟨m, rfl⟩ : ∃ left, m = left + 1 :=
      Nat.exists_eq_add_one.2 (Nat.lt_of_lt_of_le (Nat.succ_pos _) hm)
    rw [Compiler.compileWithin_succ, Compiler.compileNested_succ]
    by_cases htype : Compiler.typeName? raw = some "ref"
    · rw [if_pos htype]
      refine agree_compileIn (similar_self fun c hc => ?_) fun _ => agree_reference h
        fun {name path target} _ hfree => ?_
      · simp [RawSchema.children, RawSchema.parts, htype, RawSchema.partsOf] at hc
      · have hlt := Registry.free_mark_lt hfree.found hfree.free
        obtain ⟨k, rfl⟩ : ∃ left, k = left + 1 := Nat.exists_eq_add_one.2 (by omega)
        rw [enough_reference] at hn hm
        have hmerged : Fits most (inherit target (overrides raw)) :=
          (hfits path target hfree.found).inherit (hraw.overrides.mono hd)
        exact ih (h.mark path Iff.rfl) (hfits.mark path .compiling) hmerged (Nat.le_refl _)
          (by omega) (by omega) (by omega)
    · rw [if_neg htype]
      refine agree_compileIn (similar_self fun c hc required => ?_) fun href => absurd href htype
      obtain ⟨lower, rfl, hlower⟩ := hraw.child hc
      rw [enough_child] at hn hm
      exact ih h hfits (hlower required) (by omega) hk (by omega) (by omega)

/-- Once the depth is enough the outcome does not depend on it. -/
theorem outcome_compileWithin_eq (options : CompilerOptions) (h : r.Alike r')
    (hfits : RawsFit most r) (hraw : Fits d raw) (hd : d ≤ most) (hk : r.free ≤ k)
    (hn : enough k most d ≤ n) (hm : enough k most d ≤ m) :
    ((Compiler.builtin options).compileWithin n raw r).1 =
      ((Compiler.builtin options).compileWithin m raw r').1 := by
  have hfits' : RawsFit most r' := fun path raw hraw =>
    hfits path raw (by rw [← hraw, Registry.raw?_congr h.unmarked])
  have hk' : r'.free ≤ k := by
    rw [← Registry.free_congr h]
    exact hk
  have hagree := agree_compileNested options (fun _ => .failed .tooDeep) h hfits hraw hd hk hn hm
    r r' ⟨.refl r, .refl r'⟩
  have hagree' := agree_compileNested options (fun _ => .failed .tooDeep) (.refl r') hfits' hraw
    hd hk' hm hm r' r' ⟨.refl r', .refl r'⟩
  exact hagree.1.eq.trans hagree'.1.eq.symm

end Compile

end DataSchema
