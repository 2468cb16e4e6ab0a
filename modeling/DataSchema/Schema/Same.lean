import DataSchema.Schema

/-!
# Equality of schemas

Schemas are the same when they ask the same of data. Numbers in them are compared by value, so the
sign of a zero makes no difference, and patterns by their text.
-/

namespace DataSchema

/-- Whether two optional values are both missing, or related. -/
def sameOptions {α : Type} (rel : α → α → Bool) : Option α → Option α → Bool
  | none, none => true
  | some a, some b => rel a b
  | _, _ => false

/-- Whether two lists have one length and related elements. -/
def sameLists {α : Type} (rel : α → α → Bool) : List α → List α → Bool
  | [], [] => true
  | a :: as, b :: bs => rel a b && sameLists rel as bs
  | _, _ => false

def Bounds.same {α : Type} (rel : α → α → Bool) (a b : Bounds α) : Bool :=
  sameOptions rel a.minimum b.minimum && sameOptions rel a.maximum b.maximum &&
    sameOptions rel a.exclusiveMinimum b.exclusiveMinimum &&
    sameOptions rel a.exclusiveMaximum b.exclusiveMaximum &&
    sameOptions (sameLists rel) a.members b.members

mutual

def Schema.same : Schema → Schema → Bool
  | ⟨r, d, k⟩, ⟨r', d', k'⟩ => r == r' && Json.sameOption d d' && k.same k'

def SchemaKind.same : SchemaKind → SchemaKind → Bool
  | .boolean, .boolean => true
  | .null, .null => true
  | .number b, .number b' => b.same Binary64.sameValue b'
  | .integer b, .integer b' => b == b'
  | .string s, .string s' => s == s'
  | .array items u, .array items' u' => items.same items' && u == u'
  | .object o, .object o' => o.same o'
  | .combine c, .combine c' => c.same c'
  | .ref r, .ref r' => r == r'
  | .custom n ps, .custom n' ps' => n == n' && Json.sameFields ps ps'
  | _, _ => false

def ObjectSchema.same : ObjectSchema → ObjectSchema → Bool
  | ⟨ps, rs, ns, ds, qs, a, i⟩, ⟨ps', rs', ns', ds', qs', a', i'⟩ =>
    sameProperties ps ps' && sameRegexProperties rs rs' && sameSchemaOption ns ns' &&
      ds == ds' && qs == qs' && a == a' && i == i'

def CombineSchema.same : CombineSchema → CombineSchema → Bool
  | ⟨s, as, os, xs⟩, ⟨s', as', os', xs'⟩ =>
    s == s' && sameGroup as as' && sameGroup os os' && sameGroup xs xs'

def sameSchemaOption : Option Schema → Option Schema → Bool
  | none, none => true
  | some s, some s' => s.same s'
  | _, _ => false

def sameProperties : Option (List (String × Schema)) → Option (List (String × Schema)) → Bool
  | none, none => true
  | some ps, some ps' => samePropertyList ps ps'
  | _, _ => false

def samePropertyList : List (String × Schema) → List (String × Schema) → Bool
  | [], [] => true
  | (n, s) :: rest, (n', s') :: rest' => n == n' && s.same s' && samePropertyList rest rest'
  | _, _ => false

def sameRegexProperties :
    Option (List (Pattern × Schema)) → Option (List (Pattern × Schema)) → Bool
  | none, none => true
  | some ps, some ps' => sameRegexPropertyList ps ps'
  | _, _ => false

def sameRegexPropertyList : List (Pattern × Schema) → List (Pattern × Schema) → Bool
  | [], [] => true
  | (p, s) :: rest, (p', s') :: rest' => p == p' && s.same s' && sameRegexPropertyList rest rest'
  | _, _ => false

def sameGroup : Option (List Schema) → Option (List Schema) → Bool
  | none, none => true
  | some ss, some ss' => sameSchemas ss ss'
  | _, _ => false

def sameSchemas : List Schema → List Schema → Bool
  | [], [] => true
  | s :: rest, s' :: rest' => s.same s' && sameSchemas rest rest'
  | _, _ => false

end

def sameDefinitions : List (String × DefinitionSchema) → List (String × DefinitionSchema) → Bool
  | [], [] => true
  | (n, d) :: rest, (n', d') :: rest' =>
    n == n' && d.id == d'.id && d.schema.same d'.schema && sameDefinitions rest rest'
  | _, _ => false

def TopSchema.same (t t' : TopSchema) : Bool :=
  t.id == t'.id && sameDefinitions t.definitions t'.definitions && t.schema.same t'.schema

end DataSchema
