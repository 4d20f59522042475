import DocPath.Unicode.Age
import DocPath.Unicode.Category
import DocPath.Unicode.GraphemeBreak
import DocPath.Unicode.Property
import DocPath.Unicode.Script
import DocPath.Unicode.ScriptExtensions
import DocPath.Unicode.SentenceBreak
import DocPath.Unicode.WordBreak

/-!
# Sets of characters by name

Names of properties and of their values are compared loosely: case, blanks, underscores, hyphens and
a leading `is` make no difference. A single name is that of a binary property, else of a category or
a group of categories, else of a script.
-/

namespace DocPath.Unicode

/-- A name without what makes no difference in it. What is not ASCII is left out. -/
def looseName (name : String) : String :=
  let chars := name.toList
  let startsWithIs := (chars.take 2).map Char.toLower == ['i', 's']
  let kept := ((if startsWithIs then chars.drop 2 else chars).filter fun c ↦
    c != ' ' && c != '_' && c != '-' && c.toNat ≤ 0x7F).map Char.toLower
  if startsWithIs && kept == ['c'] then "isc" else String.ofList kept

/-- The groups of categories, by name. -/
def categoryGroups : List (List String × List String) := [
  (["lc", "casedletter"], ["lu", "ll", "lt"]),
  (["l", "letter"], ["lu", "ll", "lt", "lm", "lo"]),
  (["m", "mark", "combiningmark"], ["mn", "mc", "me"]),
  (["n", "number"], ["nd", "nl", "no"]),
  (["p", "punctuation", "punct"], ["pc", "pd", "ps", "pe", "pi", "pf", "po"]),
  (["s", "symbol"], ["sm", "sc", "sk", "so"]),
  (["z", "separator"], ["zs", "zl", "zp"])]

/-- The characters of several categories. -/
def categoryUnion (names : List String) : CharSet :=
  CharSet.normalize (names.flatMap fun name ↦ (categories.find? name).getD [])

/-- Every character that belongs to a category. -/
def assigned : CharSet :=
  CharSet.normalize (⟨0xD800, 0xDFFF⟩ :: categories.flatMap fun row ↦ decodeRanges row.2)

/-- The characters of a category or a group of categories. -/
def category? (name : String) : Option CharSet :=
  if name == "any" then some CharSet.full
  else if name == "ascii" then some [⟨0, 0x7F⟩]
  else if name == "assigned" then some assigned
  else if name == "cn" || name == "unassigned" then some assigned.complement
  else if name == "c" || name == "other" then
    some (CharSet.union assigned.complement (categoryUnion ["cc", "cf", "co"]))
  else match categoryGroups.find? fun group ↦ group.1.contains name with
    | some group => some (categoryUnion group.2)
    | none => categories.find? name

/-- Every character in use with a script. -/
def scriptExtensions? (name : String) : Option CharSet :=
  (scriptExtensions.find? name).orElse fun _ ↦ scripts.find? name

/-- The characters that a version of Unicode assigned or found assigned. -/
def age? (version : String) : Option CharSet :=
  (ages.upTo? version).map CharSet.normalize

/-- The characters that a single name stands for. The names `cf`, `sc` and `lc` are categories. -/
def named? (name : String) : Option CharSet :=
  let name := looseName name
  let property :=
    if name == "cf" || name == "sc" || name == "lc" then none else properties.find? name
  (property.orElse fun _ ↦ category? name).orElse fun _ ↦ scripts.find? name

/-- The characters for which a property has a value. -/
def valued? (property value : String) : Option CharSet :=
  let value := looseName value
  match looseName property with
  | "generalcategory" | "gc" => category? value
  | "script" | "sc" => scripts.find? value
  | "scriptextensions" | "scx" => scriptExtensions? value
  | "age" => age? value
  | "graphemeclusterbreak" | "gcb" => graphemeBreaks.find? value
  | "wordbreak" | "wb" => wordBreaks.find? value
  | "sentencebreak" | "sb" => sentenceBreaks.find? value
  | _ => none

/-! ### Sets used by name elsewhere -/

/-- Letters, marks, decimal digits, connectors and joiners. -/
def word : CharSet :=
  CharSet.normalize ((properties.find? "alphabetic").getD [] ++
    (properties.find? "joincontrol").getD [] ++ categoryUnion ["mn", "mc", "me", "nd", "pc"])

/-- Decimal digits of every script. -/
def digit : CharSet :=
  categoryUnion ["nd"]

def whiteSpace : CharSet :=
  (properties.find? "whitespace").getD []

def alphabetic : CharSet :=
  (properties.find? "alphabetic").getD []

def numeric : CharSet :=
  categoryUnion ["nd", "nl", "no"]

def cased : CharSet :=
  (properties.find? "cased").getD []

def caseIgnorable : CharSet :=
  (properties.find? "caseignorable").getD []

def graphemeExtend : CharSet :=
  (properties.find? "graphemeextend").getD []

/-- What is assigned and neither a control, a format or private character nor a separator; and the
space. -/
def printable : CharSet :=
  CharSet.union [⟨0x20, 0x20⟩]
    (CharSet.diff assigned (⟨0xD800, 0xDFFF⟩ :: categoryUnion ["cc", "cf", "co", "zs", "zl", "zp"]))

end DocPath.Unicode
