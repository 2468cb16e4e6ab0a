import DataSchema.Regex
import Mathlib.Data.Nat.Basic

/-!
# What sweeping finds

`Matches text r i j` says that an expression matches a text from place `i` to place `j`, by
recursion on the expression: a repetition is any number of matches in a row that its bounds allow.

**Theorem (`isMatch_iff`).** The expression is found in a text exactly if it matches from some place
of the text to some place.

The proof follows the sweep. Each way of putting expressions together does with sets of marks what
it does with the relation between places (`Sweeps`). A sweep cuts repetitions off at the length of
the text, which loses nothing: matching never goes back, so among more matches in a row than there
are places one stays where it is (`Steps.exists_loop`), and it can be left out or made once more.
-/

namespace DataSchema.Regex

/-! ## Steps of a relation -/

/-- So many steps of a relation in a row. -/
def Steps (R : Nat → Nat → Prop) : Nat → Nat → Nat → Prop
  | 0, i, j => i = j
  | n + 1, i, j => ∃ k, R i k ∧ Steps R n k j

/-- A relation between the places up to a last one that never goes back. -/
def Forward (last : Nat) (R : Nat → Nat → Prop) : Prop :=
  ∀ ⦃i j⦄, i ≤ last → R i j → i ≤ j ∧ j ≤ last

variable {R S : Nat → Nat → Prop} {last i j k m n : Nat}

theorem Forward.steps (h : Forward last R) (n : Nat) : Forward last (Steps R n) := by
  induction n with
  | zero =>
    rintro i j hi rfl
    exact ⟨le_rfl, hi⟩
  | succ n ih =>
    rintro i j hi ⟨k, hk, hj⟩
    have hik := h hi hk
    have hkj := ih hik.2 hj
    exact ⟨Nat.le_trans hik.1 hkj.1, hkj.2⟩

theorem steps_add : Steps R (m + n) i j ↔ ∃ k, Steps R m i k ∧ Steps R n k j := by
  induction m generalizing i with
  | zero => simp [Steps]
  | succ m ih =>
    rw [Nat.succ_add]
    simp only [Steps, ih]
    constructor
    · rintro ⟨l, hl, k, hk, hj⟩
      exact ⟨k, ⟨l, hl, hk⟩, hj⟩
    · rintro ⟨k, ⟨l, hl, hk⟩, hj⟩
      exact ⟨l, hl, k, hk, hj⟩

/-- Of more steps than there are places ahead one stays where it is. -/
theorem Steps.exists_loop (hR : Forward last R) (hi : i ≤ last) (hn : last - i < n)
    (h : Steps R n i j) :
    ∃ k m l, n = m + (1 + l) ∧ Steps R m i k ∧ R k k ∧ Steps R l k j := by
  induction n generalizing i with
  | zero => omega
  | succ n ih =>
    obtain ⟨k, hk, hj⟩ := h
    have hik := hR hi hk
    by_cases hloop : k = i
    · subst hloop
      exact ⟨k, 0, n, by omega, rfl, hk, hj⟩
    · obtain ⟨l, m, p, rfl, hm, hl, hp⟩ := ih hik.2 (by omega) hj
      exact ⟨l, m + 1, p, by omega, ⟨k, hk, hm⟩, hl, hp⟩

theorem steps_one : Steps R 1 i j ↔ R i j := by simp [Steps]

theorem steps_succ_iff (hR : Forward last R) (hi : i ≤ last) (hn : last < n) :
    Steps R (n + 1) i j ↔ Steps R n i j := by
  constructor
  · intro h
    obtain ⟨k, m, l, hlength, hm, -, hl⟩ := h.exists_loop hR hi (by omega)
    obtain rfl : n = m + l := by omega
    exact steps_add.2 ⟨k, hm, hl⟩
  · intro h
    obtain ⟨k, m, l, rfl, hm, hk, hl⟩ := h.exists_loop hR hi (by omega)
    have hloop : Steps R (1 + l) k j := steps_add.2 ⟨k, steps_one.2 hk, hl⟩
    have htwice : Steps R (1 + (1 + l)) k j := steps_add.2 ⟨k, steps_one.2 hk, hloop⟩
    rw [show m + (1 + l) + 1 = m + (1 + (1 + l)) by omega]
    exact steps_add.2 ⟨k, hm, htwice⟩

/-- Beyond the last place the number of steps makes no difference. -/
theorem steps_congr (hR : Forward last R) (hi : i ≤ last) (hm : last < m) (hn : last < n) :
    Steps R m i j ↔ Steps R n i j := by
  have hfrom (n : Nat) : last < n → (Steps R n i j ↔ Steps R (last + 1) i j) := by
    intro hn
    induction n, hn using Nat.le_induction with
    | base => rfl
    | succ n hn ih => exact (steps_succ_iff hR hi hn).trans ih
  exact (hfrom m hm).trans (hfrom n hn).symm

theorem steps_min_iff {bound : Nat} (hR : Forward last R) (hi : i ≤ last) (hbound : last < bound) :
    Steps R (min n bound) i j ↔ Steps R n i j := by
  by_cases hn : n ≤ bound
  · rw [Nat.min_eq_left hn]
  · rw [Nat.min_eq_right (Nat.le_of_not_le hn)]
    exact steps_congr hR hi hbound (by omega)

/-! ## What an expression matches -/

/-- The numbers of repetitions that bounds allow. A largest number below the least one counts as the
least. -/
def Allows (least : Nat) (most : Option Nat) (n : Nat) : Prop :=
  least ≤ n ∧ ∀ m ∈ most, n ≤ max least m

/-- The expression matches the text from a place to a place. -/
def Matches (text : List Char) : Regex → Nat → Nat → Prop
  | .empty, i, j => i = j
  | .chars s, i, j => (∃ c, text[i]? = some c ∧ s.contains c = true) ∧ j = i + 1
  | .look l, i, j => l.holds (text.take i).getLast? text[i]? = true ∧ i = j
  | .concat r s, i, j => ∃ k, Matches text r i k ∧ Matches text s k j
  | .alt r s, i, j => Matches text r i j ∨ Matches text s i j
  | .rep r least most, i, j => ∃ n, Allows least most n ∧ Steps (Matches text r) n i j
  | .group r, i, j => Matches text r i j

theorem forward_matches (text : List Char) (r : Regex) : Forward text.length (Matches text r) := by
  induction r with
  | empty =>
    rintro i j hi rfl
    exact ⟨le_rfl, hi⟩
  | chars s =>
    rintro i j - ⟨⟨c, hc, -⟩, rfl⟩
    have hlt := (List.getElem?_eq_some_iff.1 hc).1
    omega
  | look l =>
    rintro i j hi ⟨-, rfl⟩
    exact ⟨le_rfl, hi⟩
  | concat r s hr hs =>
    rintro i j hi ⟨k, hk, hj⟩
    have hik := hr hi hk
    have hkj := hs hik.2 hj
    exact ⟨Nat.le_trans hik.1 hkj.1, hkj.2⟩
  | alt r s hr hs =>
    rintro i j hi (h | h)
    · exact hr hi h
    · exact hs hi h
  | rep r least most hr =>
    rintro i j hi ⟨n, -, h⟩
    exact hr.steps n hi h
  | group r hr => exact hr

/-! ## Marks -/

/-- A place is marked. -/
def Marks.At (m : Marks) (i : Nat) : Prop := m[i]? = some true

/-- A sweep over the marks of a text moves them along a relation. -/
structure Sweeps (last : Nat) (f : Marks → Marks) (R : Nat → Nat → Prop) : Prop where
  length : ∀ {m : Marks}, m.length = last + 1 → (f m).length = last + 1
  at_iff : ∀ {m : Marks}, m.length = last + 1 → ∀ j, (f m).At j ↔ ∃ i, m.At i ∧ R i j

theorem Marks.At.le {m : Marks} (h : m.At i) (hlength : m.length = last + 1) : i ≤ last := by
  have hlt := (List.getElem?_eq_some_iff.1 h).1
  omega

theorem Marks.at_union {m n : Marks} (hlength : m.length = n.length) :
    (m.union n).At i ↔ m.At i ∨ n.At i := by
  unfold Marks.At Marks.union
  rw [List.getElem?_zipWith]
  by_cases hi : i < m.length
  · rw [List.getElem?_eq_getElem hi, List.getElem?_eq_getElem (hlength ▸ hi)]
    simp
  · rw [List.getElem?_eq_none (Nat.le_of_not_lt hi),
      List.getElem?_eq_none (hlength ▸ Nat.le_of_not_lt hi)]
    simp

variable {f g : Marks → Marks}

theorem Sweeps.congr (h : Sweeps last f R) (hRS : ∀ i j, i ≤ last → (R i j ↔ S i j)) :
    Sweeps last f S := by
  refine ⟨h.length, fun {m} hm j => (h.at_iff hm j).trans (exists_congr fun i => ?_)⟩
  exact and_congr_right fun hi => hRS i j (hi.le hm)

theorem sweeps_id (last : Nat) : Sweeps last (fun m => m) (fun i j => i = j) :=
  ⟨fun hm => hm, fun _ _ => by simp⟩

theorem Sweeps.comp (hf : Sweeps last f R) (hg : Sweeps last g S) :
    Sweeps last (fun m => g (f m)) (fun i j => ∃ k, R i k ∧ S k j) := by
  refine ⟨fun hm => hg.length (hf.length hm), fun {m} hm j => ?_⟩
  simp only [hg.at_iff (hf.length hm), hf.at_iff hm]
  constructor
  · rintro ⟨k, ⟨i, hi, hk⟩, hj⟩
    exact ⟨i, hi, k, hk, hj⟩
  · rintro ⟨i, hi, k, hk, hj⟩
    exact ⟨k, ⟨i, hi, hk⟩, hj⟩

theorem Sweeps.union (hf : Sweeps last f R) (hg : Sweeps last g S) :
    Sweeps last (fun m => (f m).union (g m)) (fun i j => R i j ∨ S i j) := by
  refine ⟨fun hm => ?_, fun {m} hm j => ?_⟩
  · rw [Marks.union, List.length_zipWith, hf.length hm, hg.length hm, Nat.min_self]
  · rw [Marks.at_union ((hf.length hm).trans (hg.length hm).symm), hf.at_iff hm, hg.at_iff hm,
      ← exists_or]
    exact exists_congr fun i => and_or_left.symm

/-! ## Sweeping again and again -/

theorem iterate_of_fixed {marks : Marks} (h : f marks = marks) (n : Nat) :
    iterate f n marks = marks := by
  cases n with
  | zero => rfl
  | succ n => rw [iterate, if_pos h]

/-- That sweeping stops when nothing changes makes no difference. -/
theorem iterate_succ (f : Marks → Marks) (n : Nat) (marks : Marks) :
    iterate f (n + 1) marks = iterate f n (f marks) := by
  rw [iterate]
  split
  · next h => rw [h, iterate_of_fixed h]
  · rfl

theorem Sweeps.iterate (hf : Sweeps last f R) (n : Nat) :
    Sweeps last (iterate f n) (Steps R n) := by
  induction n with
  | zero => exact sweeps_id last
  | succ n ih =>
    have hfun : Regex.iterate f (n + 1) = fun m => Regex.iterate f n (f m) :=
      funext fun m => iterate_succ f n m
    rw [hfun]
    exact hf.comp ih

theorem steps_or_iff : Steps (fun i j => i = j ∨ R i j) n i j ↔ ∃ k, k ≤ n ∧ Steps R k i j := by
  induction n generalizing i with
  | zero => simp [Steps]
  | succ n ih =>
    simp only [Steps, ih]
    constructor
    · rintro ⟨k, rfl | hk, l, hl, hj⟩
      · exact ⟨l, by omega, hj⟩
      · exact ⟨l + 1, by omega, k, hk, hj⟩
    · rintro ⟨l, hl, hj⟩
      cases l with
      | zero => exact ⟨i, .inl rfl, 0, Nat.zero_le n, hj⟩
      | succ l =>
        obtain ⟨k, hk, hj⟩ := hj
        exact ⟨k, .inr hk, l, by omega, hj⟩

theorem Sweeps.reach (hf : Sweeps last f R) (rounds : Nat) :
    Sweeps last (reach f rounds) (fun i j => ∃ n, n ≤ rounds ∧ Steps R n i j) :=
  (((sweeps_id last).union hf).iterate rounds).congr fun _ _ _ => steps_or_iff

/-- How often a repetition is swept at most. -/
def rounds (least : Nat) (most : Option Nat) (bound : Nat) : Nat :=
  match most with
  | none => bound
  | some most => min (most - least) bound

theorem sweep_rep (text : List Char) (r : Regex) (least : Nat) (most : Option Nat) (marks : Marks) :
    (Regex.rep r least most).sweep text marks =
      reach (r.sweep text) (rounds least most (text.length + 2))
        (iterate (r.sweep text) (min least (text.length + 2)) marks) := by
  cases most <;> rfl

/-- Rounds beyond the bound reach nothing new. -/
theorem exists_rounds_iff {least bound : Nat} {most : Option Nat} (hR : Forward last R)
    (hi : i ≤ last) (hbound : last < bound) :
    (∃ n, n ≤ rounds least most bound ∧ Steps R n i j) ↔
      ∃ n, (∀ m ∈ most, n ≤ m - least) ∧ Steps R n i j := by
  constructor
  · rintro ⟨n, hn, hj⟩
    refine ⟨n, ?_, hj⟩
    rintro m rfl
    exact Nat.le_trans hn (Nat.min_le_left _ _)
  · rintro ⟨n, hn, hj⟩
    refine ⟨min n bound, ?_, (steps_min_iff hR hi hbound).2 hj⟩
    cases most with
    | none => exact Nat.min_le_right n bound
    | some m =>
      have hm := hn m rfl
      show min n bound ≤ min (m - least) bound
      omega

/-- The least number of repetitions and then some more are an allowed number. -/
theorem exists_allowed_iff {least : Nat} {most : Option Nat} :
    (∃ k, Steps R least i k ∧ ∃ n, (∀ m ∈ most, n ≤ m - least) ∧ Steps R n k j) ↔
      ∃ n, Allows least most n ∧ Steps R n i j := by
  constructor
  · rintro ⟨k, hk, n, hn, hj⟩
    refine ⟨least + n, ⟨Nat.le_add_right least n, fun m hm => ?_⟩, steps_add.2 ⟨k, hk, hj⟩⟩
    have hle := hn m hm
    omega
  · rintro ⟨n, ⟨hleast, hmost⟩, hj⟩
    obtain ⟨l, rfl⟩ := Nat.exists_eq_add_of_le hleast
    obtain ⟨k, hk, hj⟩ := steps_add.1 hj
    refine ⟨k, hk, l, fun m hm => ?_, hj⟩
    have hle := hmost m hm
    omega

theorem Sweeps.rep {text : List Char} {r : Regex}
    (hr : Sweeps text.length (r.sweep text) (Matches text r)) (least : Nat) (most : Option Nat) :
    Sweeps text.length ((Regex.rep r least most).sweep text)
      (Matches text (.rep r least most)) := by
  have hforward := forward_matches text r
  have hbound : text.length < text.length + 2 := by omega
  have hsweep := (hr.iterate (min least (text.length + 2))).comp
    (hr.reach (rounds least most (text.length + 2)))
  rw [show (Regex.rep r least most).sweep text = _ from funext (sweep_rep text r least most)]
  refine hsweep.congr fun i j hi => ?_
  rw [Matches, ← exists_allowed_iff]
  refine exists_congr fun k => ?_
  rw [steps_min_iff hforward hi hbound]
  exact and_congr_right fun hk =>
    exists_rounds_iff hforward (hforward.steps least hi hk).2 hbound

/-! ## Sweeping -/

theorem getElem?_places (before : Option Char) (text : List Char) (hi : i ≤ text.length) :
    (places before text)[i]? = some ((text.take i).getLast?.or before, text[i]?) := by
  induction text generalizing before i with
  | nil =>
    obtain rfl : i = 0 := Nat.le_zero.1 hi
    rfl
  | cons c text ih =>
    cases i with
    | zero => rfl
    | succ i =>
      rw [places, List.getElem?_cons_succ, ih (some c) (Nat.le_of_succ_le_succ hi),
        List.take_succ_cons, List.getElem?_cons_succ, List.getLast?_cons]
      cases (text.take i).getLast? <;> rfl

theorem length_places (before : Option Char) (text : List Char) :
    (places before text).length = text.length + 1 := by
  induction text generalizing before with
  | nil => rfl
  | cons c text ih => rw [places, List.length_cons, ih, List.length_cons]

theorem sweeps_chars (text : List Char) (s : CharSet) :
    Sweeps text.length ((Regex.chars s).sweep text) (Matches text (.chars s)) := by
  refine ⟨fun {m} hm => ?_, fun {m} hm j => ?_⟩
  · simp [sweep, hm]
  · cases j with
    | zero => simp [sweep, Marks.At, Matches]
    | succ j =>
      simp only [sweep, Marks.At, Matches, List.getElem?_cons_succ, List.getElem?_zipWith_eq_some,
        Bool.and_eq_true, Nat.add_right_cancel_iff]
      constructor
      · rintro ⟨c, mark, hc, hmark, rfl, hs⟩
        exact ⟨j, hmark, ⟨c, hc, hs⟩, rfl⟩
      · rintro ⟨i, hmark, ⟨c, hc, hs⟩, rfl⟩
        exact ⟨c, true, hc, hmark, rfl, hs⟩

theorem sweeps_look (text : List Char) (l : Look) :
    Sweeps text.length ((Regex.look l).sweep text) (Matches text (.look l)) := by
  refine ⟨fun {m} hm => ?_, fun {m} hm j => ?_⟩
  · simp [sweep, hm, length_places]
  · simp only [sweep, Marks.At, Matches, List.getElem?_zipWith_eq_some, Bool.and_eq_true]
    constructor
    · rintro ⟨place, mark, hplace, hmark, rfl, hl⟩
      have hj : j ≤ text.length := Marks.At.le hmark hm
      rw [getElem?_places none text hj, Option.or_none] at hplace
      obtain rfl := Option.some.inj hplace
      exact ⟨j, hmark, hl, rfl⟩
    · rintro ⟨i, hmark, hl, rfl⟩
      have hi : i ≤ text.length := Marks.At.le hmark hm
      refine ⟨_, true, getElem?_places none text hi, hmark, rfl, ?_⟩
      rwa [Option.or_none]

/-- Sweeping an expression moves the marks along its matches. -/
theorem sweeps_sweep (text : List Char) (r : Regex) :
    Sweeps text.length (r.sweep text) (Matches text r) := by
  induction r with
  | empty => exact sweeps_id _
  | chars s => exact sweeps_chars text s
  | look l => exact sweeps_look text l
  | concat r s hr hs => exact hr.comp hs
  | alt r s hr hs => exact hr.union hs
  | rep r least most hr => exact hr.rep least most
  | group r hr => exact hr

/-- **An expression is found in a text** exactly if it matches from one place to another. -/
theorem isMatch_iff (r : Regex) (text : String) :
    r.isMatch text = true ↔
      ∃ i j, i ≤ text.toList.length ∧ Matches text.toList r i j := by
  have hsweeps := sweeps_sweep text.toList r
  have hlength : (List.replicate (text.toList.length + 1) true).length = text.toList.length + 1 :=
    List.length_replicate
  have hfound : r.isMatch text = true ↔
      ∃ j, Marks.At (r.sweep text.toList (List.replicate (text.toList.length + 1) true)) j := by
    simp only [isMatch, List.any_eq_true, id_eq, exists_eq_right, List.mem_iff_getElem?, Marks.At]
  have hstart (i : Nat) : Marks.At (List.replicate (text.toList.length + 1) true) i ↔
      i ≤ text.toList.length := by
    simp only [Marks.At, List.getElem?_replicate, Option.ite_none_right_eq_some, and_true,
      Nat.lt_succ_iff]
  rw [hfound, exists_comm]
  simp only [hsweeps.at_iff hlength, hstart]

end DataSchema.Regex
