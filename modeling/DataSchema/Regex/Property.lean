import DataSchema.CharSet.Segmentation
import DataSchema.Regex
import DataSchema.Regex.Error
import DataSchema.Unicode.Age
import DataSchema.Unicode.ScriptExtension

/-!
# Classes of characters by name

A class is named by a general category, a group of them, a script, or a property that characters
have or lack; or by a property with values and one of its values. Case, blanks, hyphens, underscores
and a leading `is` make no difference to a name.
-/

namespace DataSchema.Regex

open Unicode

/-- A name as names are compared. The name `isc` is taken as it is. -/
def looseName (name : List Char) : List Char :=
  let (stripped, rest) := match name with
    | a :: b :: rest => if a.toLower = 'i' && b.toLower = 's' then (true, rest) else (false, name)
    | _ => (false, name)
  let plain := rest.filter fun c => c.toNat < 128 && c ≠ ' ' && c ≠ '_' && c ≠ '-'
  let lower := plain.map Char.toLower
  if stripped && lower = ['c'] then ['i', 's', 'c'] else lower

def sameName (name : List Char) (known : String) : Bool := looseName known.toList = name

/-- What a name stands for. -/
def lookUp {α : Type} (name : List Char) (known : List (List String × α)) : Option α :=
  (known.find? fun (names, _) => names.any (sameName name)).map (·.2)

/-! ## Values of properties -/

/-- Groups of general categories, and the names of single ones beside their own. -/
def categoryGroups : List (List String × CharSet) :=
  [(["any"], .everything),
   (["assigned"], .ranges CharSet.assigned),
   (["ascii"], .ranges [(0, 0x7F)]),
   (["L", "Letter"], .ranges letter),
   (["LC", "Cased_Letter"],
    .ranges (Category.upperLetter ++ Category.lowerLetter ++ Category.titleLetter)),
   (["M", "Mark", "Combining_Mark"], .ranges mark),
   (["N", "Number"], .ranges (CharSet.categoryGroup 'N')),
   (["P", "Punctuation", "punct"], .ranges (CharSet.categoryGroup 'P')),
   (["S", "Symbol"], .ranges (CharSet.categoryGroup 'S')),
   (["Z", "Separator"], .ranges (CharSet.categoryGroup 'Z')),
   (["C", "Other"], .union (.ranges (CharSet.categoryGroup 'C')) CharSet.unassigned),
   (["Cn", "Unassigned"], CharSet.unassigned),
   (["digit"], .ranges Category.decimalNumber),
   (["cntrl"], .ranges Category.control)]

/-- The characters of a general category or a group of them. Surrogates are a category that no
character has; its name is known all the same. -/
def category? (name : List Char) : Option (Option CharSet) :=
  if ["Cs", "Surrogate"].any (sameName name) then some none
  else (lookUp name categoryGroups <|>
    lookUp name (Category.all.map fun (short, long, table) =>
      ([short, long], CharSet.ranges table))).map some

/-- Names of scripts that no character belongs to. -/
def vacantScripts : List String := ["Hrkt", "Katakana_Or_Hiragana", "Zzzz", "Unknown"]

/-- What a script stands for, if it has characters at all. -/
def scriptBy? (characters : Script.Entry → CharSet) (name : List Char) :
    Option (Option CharSet) :=
  if vacantScripts.any (sameName name) then some none
  else (Script.all.find? fun s => s.names.any (sameName name)).map fun s => some (characters s)

def script? : List Char → Option (Option CharSet) := scriptBy? fun s => .ranges s.table

/-- The characters that are used with a script. -/
def usedWith (s : Script.Entry) : CharSet :=
  if s.names.any (["Zyyy", "Zinh"].contains ·) then
    (CharSet.ranges s.table).diff (.ranges Script.allShared)
  else .ranges (s.table ++ Script.shared.flatMap fun (short, table) =>
    if s.names.contains short then table else [])

/-- The names of a version: `V3_2` and `3.2`. -/
def versionNames (v : Age.Version) : List String :=
  let major := toString v.major
  let minor := toString v.minor
  ["V" ++ major ++ "_" ++ minor, major ++ "." ++ minor]

/-- The characters that were there in a version. -/
def age? (name : List Char) : Option CharSet :=
  (Age.versions.find? fun v => (versionNames v).any (sameName name)).map fun v =>
    .ranges (Age.present v.major v.minor)

/-- The properties with values, and the classes of their values. -/
def valuedProperties : List (List String × (List Char → Option CharSet)) :=
  [(["gc", "General_Category"], fun name => (category? name).join),
   (["sc", "Script"], fun name => (script? name).join),
   (["scx", "Script_Extensions"], fun name => (scriptBy? usedWith name).join),
   (["age"], age?),
   (["GCB", "Grapheme_Cluster_Break"], fun name => lookUp name CharSet.graphemeBreak),
   (["WB", "Word_Break"], fun name => lookUp name CharSet.wordBreak),
   (["SB", "Sentence_Break"], fun name => lookUp name CharSet.sentenceBreak)]

/-- Properties that are known by name and have no classes here. -/
def otherProperties : List String :=
  ["bc", "Bidi_Class", "blk", "Block", "bmg", "Bidi_Mirroring_Glyph", "bpb", "Bidi_Paired_Bracket",
   "bpt", "Bidi_Paired_Bracket_Type", "ccc", "Canonical_Combining_Class", "CE",
   "Composition_Exclusion", "cf", "Case_Folding", "cjkAccountingNumeric", "kAccountingNumeric",
   "cjkCompatibilityVariant", "kCompatibilityVariant", "cjkIICore", "kIICore",
   "cjkIRG_GSource", "kIRG_GSource", "cjkIRG_HSource", "kIRG_HSource", "cjkIRG_JSource",
   "kIRG_JSource", "cjkIRG_KPSource", "kIRG_KPSource", "cjkIRG_KSource", "kIRG_KSource",
   "cjkIRG_MSource", "kIRG_MSource", "cjkIRG_SSource", "kIRG_SSource", "cjkIRG_TSource",
   "kIRG_TSource", "cjkIRG_UKSource", "kIRG_UKSource", "cjkIRG_USource", "kIRG_USource",
   "cjkIRG_VSource", "kIRG_VSource", "cjkOtherNumeric", "kOtherNumeric", "cjkPrimaryNumeric",
   "kPrimaryNumeric", "cjkRSUnicode", "kRSUnicode", "Unicode_Radical_Stroke", "URS", "Comp_Ex",
   "Full_Composition_Exclusion", "CWKCF", "Changes_When_NFKC_Casefolded", "dm",
   "Decomposition_Mapping", "dt", "Decomposition_Type", "ea", "East_Asian_Width", "EqUIdeo",
   "Equivalent_Unified_Ideograph", "FC_NFKC", "FC_NFKC_Closure", "hst", "Hangul_Syllable_Type",
   "InCB", "Indic_Conjunct_Break", "InPC", "Indic_Positional_Category", "InSC",
   "Indic_Syllabic_Category", "isc", "ISO_Comment", "jg", "Joining_Group", "JSN",
   "Jamo_Short_Name", "jt", "Joining_Type", "kEH_Cat", "kEH_Core", "kEH_Desc", "kEH_HG",
   "kEH_IFAO", "kEH_JSesh", "kEH_NoMirror", "kEH_NoRotate", "lb", "Line_Break", "lc",
   "Lowercase_Mapping", "na", "Name", "na1", "Unicode_1_Name", "Name_Alias", "NFC_QC",
   "NFC_Quick_Check", "NFD_QC", "NFD_Quick_Check", "NFKC_CF", "NFKC_Casefold", "NFKC_QC",
   "NFKC_Quick_Check", "NFKC_SCF", "NFKC_Simple_Casefold", "NFKD_QC", "NFKD_Quick_Check", "nt",
   "Numeric_Type", "nv", "Numeric_Value", "scf", "Simple_Case_Folding", "sfc", "slc",
   "Simple_Lowercase_Mapping", "stc", "Simple_Titlecase_Mapping", "suc",
   "Simple_Uppercase_Mapping", "tc", "Titlecase_Mapping", "uc", "Uppercase_Mapping", "vo",
   "Vertical_Orientation", "XO_NFC", "Expands_On_NFC", "XO_NFD", "Expands_On_NFD", "XO_NFKC",
   "Expands_On_NFKC", "XO_NFKD", "Expands_On_NFKD"]

/-! ## Classes -/

/-- The name of a class: one name, or a property and its value. -/
inductive ClassName where
  | alone (name : List Char)
  | withValue (property value : List Char)
deriving DecidableEq

/-- A class by one name. The short names of some mappings are names of general categories too;
mappings have no classes, so the category is meant. -/
def classOfName (name : List Char) : Except Problem CharSet :=
  let name := looseName name
  let found := (lookUp name CharSet.properties).map some <|> category? name <|> script? name
  match found with
  | none => .error .propertyNotFound
  | some none => .error .propertyValueNotFound
  | some (some set) => .ok set

/-- A class by the name of a property and a value. A property that characters have or lack has no
values. -/
def classOfValue (property value : List Char) : Except Problem CharSet :=
  let property := looseName property
  match lookUp property valuedProperties with
  | some classOf => match classOf (looseName value) with
    | some set => .ok set
    | none => .error .propertyValueNotFound
  | none =>
    if otherProperties.any (sameName property) || (lookUp property CharSet.properties).isSome then
      .error .propertyValueNotFound
    else .error .propertyNotFound

/-- The characters of a class. -/
def ClassName.characters : ClassName → Except Problem CharSet
  | .alone name => classOfName name
  | .withValue property value => classOfValue property value

/-- The classes of ASCII characters that stand between colons in brackets. -/
def asciiClass? (name : String) : Option Table :=
  match name with
  | "alnum" => some [(0x30, 0x39), (0x41, 0x5A), (0x61, 0x7A)]
  | "alpha" => some [(0x41, 0x5A), (0x61, 0x7A)]
  | "ascii" => some [(0, 0x7F)]
  | "blank" => some [(0x9, 0x9), (0x20, 0x20)]
  | "cntrl" => some [(0, 0x1F), (0x7F, 0x7F)]
  | "digit" => some [(0x30, 0x39)]
  | "graph" => some [(0x21, 0x7E)]
  | "lower" => some [(0x61, 0x7A)]
  | "print" => some [(0x20, 0x7E)]
  | "punct" => some [(0x21, 0x2F), (0x3A, 0x40), (0x5B, 0x60), (0x7B, 0x7E)]
  | "space" => some [(0x9, 0xD), (0x20, 0x20)]
  | "upper" => some [(0x41, 0x5A)]
  | "word" => some Look.asciiWord
  | "xdigit" => some [(0x30, 0x39), (0x41, 0x46), (0x61, 0x66)]
  | _ => none

end DataSchema.Regex
