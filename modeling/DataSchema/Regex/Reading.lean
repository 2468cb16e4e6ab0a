import DataSchema.Regex.Meaning
import DataSchema.Regex.Parser
import DataSchema.Regex.Size

/-!
# Reading regular expressions

A pattern is read in four steps, of which the first that fails gives the error: its syntax tree, the
depth of the tree, its meaning, and the size of the meaning.
-/

namespace DataSchema.Regex

/-- A tree that is nested deeper than allowed is a fault. -/
def Tree.checkDepth (t : Tree) : Except Fault Tree :=
  match t.tooDeep? Tree.depthLimit with
  | some span => .error ⟨.nestLimitExceeded Tree.depthLimit, span, none⟩
  | none => .ok t

/-- The regular expression of a pattern. -/
def parse (pattern : String) : Except Error Regex := do
  let r ← (do (← (← Tree.parse pattern).checkDepth).meaning).mapError (.malformed pattern)
  if r.fits then return r else throw (.tooLarge sizeLimit)

end DataSchema.Regex
