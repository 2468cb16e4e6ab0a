import DataSchema.Regex.Meaning
import Mathlib.Data.List.Forall2

/-!
# What trees mean

`Means d t r` says of the syntax tree of a pattern that it means an expression and that it is nested
no deeper than `d` levels. Both go together from the parts of a tree to the whole: each theorem here
is about one way to put trees together. Spans make no difference to either.
-/

namespace DataSchema.Regex

variable {c first last : Char} {sets : List CharSet} {d room : Nat} {t : Tree} {ts : List Tree}
  {r : Regex} {rs : List Regex} {items : List SetTree}

/-! ## Elements of classes -/

/-- The tree of an element means a set, and nothing is nested in it. -/
structure ElementMeans (s : SetTree) (set : CharSet) : Prop where
  meaning : s.meaning {} = .ok set
  shallow : ∀ room, s.tooDeep? room = none

theorem elementMeans_range (span span' : Span) :
    ElementMeans (.range ⟨first, false, span⟩ ⟨last, false, span'⟩) (.range first last) :=
  ⟨rfl, fun room => by cases room <;> rfl⟩

theorem elementMeans_literal (span : Span) : ElementMeans (.literal ⟨c, false, span⟩) (.single c) :=
  ⟨rfl, fun room => by cases room <;> rfl⟩

theorem unionMeaning_eq (h : List.Forall₂ ElementMeans items sets) :
    SetTree.unionMeaning {} items = .ok (.anyOf sets) := by
  induction h with
  | nil => rfl
  | cons head _ ih =>
    rw [SetTree.unionMeaning, head.meaning, ih]
    rfl

theorem setTooDeep?_eq (h : List.Forall₂ ElementMeans items sets) (room : Nat) :
    SetTree.anyTooDeep? room items = none := by
  induction h with
  | nil => rfl
  | cons head _ ih =>
    rw [SetTree.anyTooDeep?, head.shallow, ih]
    rfl

/-- The set of a class with such elements. -/
def classSet : List CharSet → CharSet
  | [s] => s
  | sets => .anyOf sets

theorem meaning_ofItems (h : List.Forall₂ ElementMeans items sets) (start : Nat) :
    (SetTree.ofItems start items).meaning {} = .ok (classSet sets) := by
  cases h with
  | nil => rfl
  | cons head tail =>
    cases tail with
    | nil => exact head.meaning
    | cons second tail => exact unionMeaning_eq (.cons head (.cons second tail))

theorem tooDeep?_ofItems (h : List.Forall₂ ElementMeans items sets) (start room : Nat) :
    (SetTree.ofItems start items).tooDeep? (room + 1) = none := by
  cases h with
  | nil => rfl
  | cons head tail =>
    cases tail with
    | nil => exact head.shallow _
    | cons second tail => exact setTooDeep?_eq (.cons head (.cons second tail)) room

/-! ## Parts of patterns -/

/-- A tree means an expression, and is nested no deeper than so many levels. -/
structure Means (d : Nat) (t : Tree) (r : Regex) : Prop where
  meaning : t.meaning = .ok r
  shallow : ∀ room, d ≤ room → t.tooDeep? room = none

theorem Means.mono {d' : Nat} (h : Means d t r) (hle : d ≤ d') : Means d' t r :=
  ⟨h.meaning, fun room hroom => h.shallow room (Nat.le_trans hle hroom)⟩

theorem means_literal (span : Span) : Means d (.literal {} ⟨c, false, span⟩) (char c) :=
  ⟨rfl, fun room _ => by cases room <;> rfl⟩

theorem means_look (l : Look) (span : Span) : Means d (.look l span) (.look l) :=
  ⟨rfl, fun room _ => by cases room <;> rfl⟩

theorem means_class (h : List.Forall₂ ElementMeans items sets) (start : Nat) (span : Span) :
    Means (d + 2) (.set {} (.bracketed false (.ofItems start items) span))
      (.chars (classSet sets)) := by
  refine ⟨?_, fun room hroom => ?_⟩
  · rw [Tree.meaning, SetTree.meaning, meaning_ofItems h]
    rfl
  · obtain ⟨room, rfl⟩ := Nat.exists_eq_add_of_le' hroom
    exact tooDeep?_ofItems h start (room + d)

theorem Means.rep (h : Means d t r) (least : Nat) (most : Option Nat) (span : Span) :
    Means (d + 1) (.rep t least most span) (.rep r least most) := by
  refine ⟨?_, fun room hroom => ?_⟩
  · rw [Tree.meaning, h.meaning]
    rfl
  · obtain ⟨room, rfl⟩ := Nat.exists_eq_add_of_le' hroom
    exact h.shallow _ (Nat.le_add_left d room)

theorem Means.group (h : Means d t r) (captures : Bool) (span : Span) :
    Means (d + 1) (.group captures t span) (if captures then .group r else r) := by
  refine ⟨?_, fun room hroom => ?_⟩
  · rw [Tree.meaning, h.meaning]
    rfl
  · obtain ⟨room, rfl⟩ := Nat.exists_eq_add_of_le' hroom
    exact h.shallow _ (Nat.le_add_left d room)

theorem meanings_eq (h : List.Forall₂ (Means d) ts rs) : Tree.meanings ts = .ok rs := by
  induction h with
  | nil => rfl
  | cons head _ ih =>
    rw [Tree.meanings, head.meaning, ih]
    rfl

theorem anyTooDeep?_eq (h : List.Forall₂ (Means d) ts rs) (hroom : d ≤ room) :
    Tree.anyTooDeep? room ts = none := by
  induction h with
  | nil => rfl
  | cons head _ ih =>
    rw [Tree.anyTooDeep?, head.shallow room hroom, ih]
    rfl

theorem means_concat (h : List.Forall₂ (Means d) ts rs) (span : Span) :
    Means (d + 1) (.concat ts span) (inRow rs) := by
  refine ⟨?_, fun room hroom => ?_⟩
  · rw [Tree.meaning, meanings_eq h]
    rfl
  · obtain ⟨room, rfl⟩ := Nat.exists_eq_add_of_le' hroom
    exact anyTooDeep?_eq h (Nat.le_add_left d room)

theorem means_alt (h : List.Forall₂ (Means d) ts rs) (span : Span) :
    Means (d + 1) (.alt ts span) (oneOf rs) := by
  refine ⟨?_, fun room hroom => ?_⟩
  · rw [Tree.meaning, meanings_eq h]
    rfl
  · obtain ⟨room, rfl⟩ := Nat.exists_eq_add_of_le' hroom
    exact anyTooDeep?_eq h (Nat.le_add_left d room)

/-! ## Lists of one -/

/-- An expression alone in a row is the row. -/
theorem inRow_singleton (r : Regex) : inRow [r] = r := by
  cases r <;> rfl

/-- A branch alone is the branch. -/
theorem oneOf_singleton (r : Regex) : oneOf [r] = r := by
  cases r <;> simp [oneOf, set?, altAll]

/-- Items in a row, of which there may be one or none. -/
theorem means_ofItems (h : List.Forall₂ (Means d) ts rs) (span : Span) :
    Means (d + 1) (.ofItems span ts) (inRow rs) := by
  cases h with
  | nil => exact ⟨rfl, fun room _ => by cases room <;> rfl⟩
  | cons head tail =>
    cases tail with
    | nil =>
      rw [inRow_singleton]
      exact head.mono (Nat.le_succ d)
    | cons second tail => exact means_concat (.cons head (.cons second tail)) span

end DataSchema.Regex
