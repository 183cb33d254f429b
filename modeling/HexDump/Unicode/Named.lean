import HexDump.Unicode.Age
import HexDump.Unicode.Property
import HexDump.Unicode.Script

/-! Sets of characters by the names of properties and of their values. Case, gaps and a
leading `is` make no difference in a name. -/
namespace HexDump.Unicode
open HexDump (Text)

def small (c : Char) : Char := if 'A' ≤ c ∧ c ≤ 'Z' then Char.ofNat (c.toNat + 32) else c

def plainName (name : Text) : Text :=
  let plain (name : Text) :=
    (name.filter (fun c => c ≠ ' ' ∧ c ≠ '_' ∧ c ≠ '-' ∧ c < '\x80')).map small
  match name with
  | a :: b :: rest =>
    if small a = 'i' ∧ small b = 's' then
      if plain rest = ['c'] then ['i', 's', 'c'] else plain rest
    else plain name
  | _ => plain name

inductive Named where
  | unknown
  | vacant
  | set (s : CharSet String)
  deriving DecidableEq, Repr

namespace Named

def isOneOf (name : Text) (names : List String) : Bool := names.any (·.toList == name)

def ofOption : Option (CharSet String) → Named
  | some s => .set s
  | none => .unknown

def orElse : Named → Named → Named
  | .unknown, other => other
  | found, _ => found

def category (name : Text) : Named :=
  if name = "any".toList then .set (.outside (.of ""))
  else if name = "assigned".toList then .set (.outside Category.unassigned.set)
  else if name = "ascii".toList then .set (.of "0..7F")
  else if isOneOf name ["cs", "surrogate"] then .vacant
  else
    orElse
      (ofOption ((Category.groups.find? (isOneOf name ·.1)).map (Category.union ·.2)))
      (ofOption ((Category.all.find? (isOneOf name ·.names)).map Category.set))

def script (of : Script → CharSet String) (name : Text) : Named :=
  if isOneOf name ["unknown", "zzzz", "katakanaorhiragana", "hrkt"] then .vacant
  else ofOption ((Script.all.find? (isOneOf name ·.names)).map of)

def property (name : Text) : Named :=
  ofOption ((Property.all.find? (isOneOf name ·.names)).map Property.set)

/-- A property, or else a value of the category or the script. Three short names of
properties also are names of categories, and are taken as such. -/
def ofName (name : Text) : Named :=
  let name := plainName name
  let values := orElse (category name) (script Script.set name)
  if isOneOf name ["cf", "sc", "lc"] then values else orElse (property name) values

def valued : List String :=
  ["bc", "bidiclass", "blk", "block", "bmg", "bidimirroringglyph", "bpb",
    "bidipairedbracket", "bpt", "bidipairedbrackettype", "ccc", "canonicalcombiningclass",
    "ce", "compositionexclusion", "cf", "casefolding", "compex", "fullcompositionexclusion",
    "cwkcf", "changeswhennfkccasefolded", "dm", "decompositionmapping", "dt",
    "decompositiontype", "ea", "eastasianwidth", "equideo", "equivalentunifiedideograph",
    "expandsonnfc", "xonfc", "expandsonnfd", "xonfd", "expandsonnfkc", "xonfkc",
    "expandsonnfkd", "xonfkd", "fcnfkc", "fcnfkcclosure", "gcb", "graphemeclusterbreak", "hst",
    "hangulsyllabletype", "incb", "indicconjunctbreak", "inpc", "indicpositionalcategory",
    "insc", "indicsyllabiccategory", "isc", "isocomment", "jamoshortname", "jsn", "jg",
    "joininggroup", "jt", "joiningtype", "lb", "linebreak", "lc", "lowercasemapping", "na",
    "name", "na1", "unicode1name", "namealias", "nfcqc", "nfcquickcheck", "nfdqc",
    "nfdquickcheck", "nfkccasefold", "nfkccf", "nfkcqc", "nfkcquickcheck",
    "nfkcsimplecasefold", "nfkcscf", "nfkdqc", "nfkdquickcheck", "nt", "numerictype", "nv",
    "numericvalue", "sb", "sentencebreak", "scf", "sfc", "simplecasefolding", "slc",
    "simplelowercasemapping", "stc", "simpletitlecasemapping", "suc",
    "simpleuppercasemapping", "tc", "titlecasemapping", "uc", "uppercasemapping", "vo",
    "verticalorientation", "wb", "wordbreak"]

def ofValue (property value : Text) : Option Named :=
  let property := plainName property
  let value := plainName value
  if isOneOf property ["gc", "generalcategory"] then some (category value)
  else if isOneOf property ["sc", "script"] then some (script Script.set value)
  else if isOneOf property ["scx", "scriptextensions"] then some (script Script.extended value)
  else if isOneOf property ["age"] then some (ofOption (Age.set? value))
  else if isOneOf property valued || Property.all.any (isOneOf property ·.names) then some .unknown
  else none

end Named
end HexDump.Unicode
