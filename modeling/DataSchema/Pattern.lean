import DataSchema.Regex.Reading

/-!
# Patterns

A pattern is a text that is a regular expression, together with the expression. Patterns are equal
when their texts are.
-/

namespace DataSchema

/-- A text and the regular expression that it is. -/
structure Pattern where
  source : String
  regex : Regex
  parsed : Regex.parse source = .ok regex

namespace Pattern

theorem ext_source {p q : Pattern} (h : p.source = q.source) : p = q := by
  obtain ⟨s, r, hr⟩ := p
  obtain ⟨t, u, hu⟩ := q
  obtain rfl : s = t := h
  obtain rfl : r = u := by rw [hr] at hu; exact Except.ok.inj hu
  rfl

instance : DecidableEq Pattern := fun p q =>
  decidable_of_iff (p.source = q.source) ⟨ext_source, fun h => h ▸ rfl⟩

/-- The pattern of a text. -/
def ofSource (source : String) : Except Regex.Error Pattern :=
  match h : Regex.parse source with
  | .ok regex => .ok ⟨source, regex, h⟩
  | .error e => .error e

/-- Whether the pattern matches somewhere in a text. -/
def isMatch (p : Pattern) (text : String) : Bool := p.regex.isMatch text

end Pattern

end DataSchema
