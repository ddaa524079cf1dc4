import Concordance.Pattern.CharSet
import Concordance.Pattern.Problem
import Concordance.Text.Table.Category
import Concordance.Text.Table.Composition
import Concordance.Text.Table.Script
import Concordance.Text.Table.Segment
import Concordance.Text.Table.Trait

/-!
Contract: the properties that a pattern can ask for.

A property is asked for by the name of a trait, of a general category or of a script, or
by the name of a property and one of its values. Letter case, blanks, hyphens, low lines
and an `is` in front do not matter in names. The characters that the latest edition of
the standard added are still taken for unassigned ones.

Owns: the characters that have a property.

Does not own: the tables of traits, categories, scripts, editions and borders.
-/

set_option autoImplicit false

namespace Concordance.Pattern

namespace Property

open Concordance.Text (CodePoints.ranges)
open Concordance.Text.Table (categories editions scripts sharedScripts traits)

/-- A name in the form in which names are compared. The short name of the property of
comments keeps the letters that are left out elsewhere. -/
def normal (name : Text) : Text :=
  let isPrefixed := Text.lowerAscii (name.take 2) = "is".toList
  let letters := Text.lowerAscii <|
    (if isPrefixed then name.drop 2 else name).filter fun character =>
      character.toNat < 0x80 && character ≠ ' ' && character ≠ '_' && character ≠ '-'
  if isPrefixed && letters = ['c'] then "isc" else letters

/-- A set without the characters that the latest edition added. -/
def settled (ranges : List (Nat × Nat)) : CharSet :=
  let set := CharSet.ofRanges ranges
  let newcomers := CharSet.ofRanges Text.newcomers
  if (ranges.any fun range => Text.newcomers.any fun newcomer =>
      newcomer.1 ≤ range.2 && range.1 ≤ newcomer.2) then set.difference newcomers
  else set

/-- The code points of the entry with a name, each entry having several. -/
def codePoints? (name : String) (table : List (String × List String)) :
    Option (List (Nat × Nat)) :=
  table.findSome? fun (names, lines) =>
    if (names.toList.splitOn ' ').contains name.toList then some (CodePoints.ranges lines)
    else none

/-- The characters of a set in a table. -/
def listed (table : List (String × List String)) (name : String) : CharSet :=
  settled ((codePoints? name table).getD [])

/-- A letter that was small until the latest edition, which has it in one case only. -/
def formerSmallLetter : CharSet := .single 0x295

/-- The characters of a general category with a name of two letters. -/
def category (name : String) : CharSet :=
  let set := listed categories name
  if name = "ll" then set.union formerSmallLetter
  else if name = "lo" then set.difference formerSmallLetter
  else set

/-- The characters of several sets. -/
def unionOf (sets : List CharSet) : CharSet := .ofRanges (sets.flatMap CharSet.ranges)

/-- The characters of several general categories. -/
def categoriesOf (names : List String) : CharSet := unionOf (names.map category)

/-- A general category with its names: the characters of some categories, or all
others. -/
structure Category where
  names : List String
  negated : Bool
  parts : List String
deriving DecidableEq, Repr

/-- The general categories of characters that are assigned and no controls. -/
def plainCategories : List String :=
  ["lu", "ll", "lt", "lm", "lo", "mn", "mc", "me", "nd", "nl", "no", "pc", "pd", "ps",
    "pe", "pi", "pf", "po", "sm", "sc", "sk", "so", "zs", "zl", "zp"]

/-- The general categories, and those that unite them. -/
def generalCategories : List Category :=
  [ ⟨["any"], true, []⟩,
    ⟨["assigned"], false, plainCategories ++ ["cc", "cf", "co"]⟩,
    ⟨["c", "other"], true, plainCategories⟩,
    ⟨["cc", "control", "cntrl"], false, ["cc"]⟩,
    ⟨["cf", "format"], false, ["cf"]⟩,
    ⟨["cn", "unassigned"], true, plainCategories ++ ["cc", "cf", "co"]⟩,
    ⟨["co", "privateuse"], false, ["co"]⟩,
    ⟨["l", "letter"], false, ["lu", "ll", "lt", "lm", "lo"]⟩,
    ⟨["lc", "casedletter"], false, ["lu", "ll", "lt"]⟩,
    ⟨["ll", "lowercaseletter"], false, ["ll"]⟩,
    ⟨["lm", "modifierletter"], false, ["lm"]⟩,
    ⟨["lo", "otherletter"], false, ["lo"]⟩,
    ⟨["lt", "titlecaseletter"], false, ["lt"]⟩,
    ⟨["lu", "uppercaseletter"], false, ["lu"]⟩,
    ⟨["m", "mark", "combiningmark"], false, ["mn", "mc", "me"]⟩,
    ⟨["mc", "spacingmark"], false, ["mc"]⟩,
    ⟨["me", "enclosingmark"], false, ["me"]⟩,
    ⟨["mn", "nonspacingmark"], false, ["mn"]⟩,
    ⟨["n", "number"], false, ["nd", "nl", "no"]⟩,
    ⟨["nd", "decimalnumber", "digit"], false, ["nd"]⟩,
    ⟨["nl", "letternumber"], false, ["nl"]⟩,
    ⟨["no", "othernumber"], false, ["no"]⟩,
    ⟨["p", "punctuation", "punct"], false, ["pc", "pd", "ps", "pe", "pi", "pf", "po"]⟩,
    ⟨["pc", "connectorpunctuation"], false, ["pc"]⟩,
    ⟨["pd", "dashpunctuation"], false, ["pd"]⟩,
    ⟨["pe", "closepunctuation"], false, ["pe"]⟩,
    ⟨["pf", "finalpunctuation"], false, ["pf"]⟩,
    ⟨["pi", "initialpunctuation"], false, ["pi"]⟩,
    ⟨["po", "otherpunctuation"], false, ["po"]⟩,
    ⟨["ps", "openpunctuation"], false, ["ps"]⟩,
    ⟨["s", "symbol"], false, ["sm", "sc", "sk", "so"]⟩,
    ⟨["sc", "currencysymbol"], false, ["sc"]⟩,
    ⟨["sk", "modifiersymbol"], false, ["sk"]⟩,
    ⟨["sm", "mathsymbol"], false, ["sm"]⟩,
    ⟨["so", "othersymbol"], false, ["so"]⟩,
    ⟨["z", "separator"], false, ["zs", "zl", "zp"]⟩,
    ⟨["zl", "lineseparator"], false, ["zl"]⟩,
    ⟨["zp", "paragraphseparator"], false, ["zp"]⟩,
    ⟨["zs", "spaceseparator"], false, ["zs"]⟩ ]

/-- The characters of a general category, or why there is none. Surrogates are no
characters. -/
def category? (name : String) : Option (Except Cause CharSet) :=
  if name = "ascii" then some (.ok ⟨[(0, 0x7F)]⟩)
  else if name = "cs" || name = "surrogate" then some (.error .unknownPropertyValue)
  else
    (generalCategories.find? fun entry => entry.names.contains name).map fun entry =>
      let set := categoriesOf entry.parts
      .ok (if entry.negated then set.complement else set)

/-- Names of scripts that no character belongs to. -/
def emptyScripts : List String := ["hrkt", "katakanaorhiragana", "zzzz", "unknown"]

/-- The characters of a script, or why there is none. -/
def script? (name : String) : Option (Except Cause CharSet) :=
  if emptyScripts.contains name then some (.error .unknownPropertyValue)
  else (codePoints? name scripts).map fun ranges => .ok (settled ranges)

/-- The characters that are used in a script, or why there is none. -/
def scriptExtension? (name : String) : Option (Except Cause CharSet) :=
  if emptyScripts.contains name then some (.error .unknownPropertyValue)
  else
    scripts.findSome? fun (names, lines) =>
      let names := names.toList.splitOn ' '
      if names.contains name.toList then
        let short := names.headD []
        let sharing := sharedScripts.filter fun entry =>
          (entry.1.toList.splitOn ' ').contains short
        let ranges (lines : List String) : CharSet := settled (CodePoints.ranges lines)
        let shared := unionOf (sharedScripts.map fun entry => ranges entry.2)
        some (.ok (((ranges lines).difference shared).union
          (unionOf (sharing.map fun entry => ranges entry.2))))
      else none

/-- The characters that an edition and those before it assigned, or why there are
none. -/
def age? (name : String) : Option (Except Cause CharSet) :=
  if name = "na" || name = "unassigned" then some (.error .unknownPropertyValue)
  else
    let isNamed (edition : String) : Bool :=
      edition = name
        || 'v' :: edition.toList.filter (fun character => character ≠ '.') = name.toList
    if editions.any fun entry => isNamed entry.1 then
      let others := editions.dropWhile fun entry => !isNamed entry.1
      let counted := editions.take (editions.length - others.length + 1)
      some (.ok (unionOf (counted.map fun entry => .ofRanges (CodePoints.ranges entry.2))))
    else none

/-- A trait that follows from others: the characters of general categories, of traits
and of a written set, without those of further traits and of another set. -/
structure Derived where
  names : List String
  categories : List String
  traits : List String
  more : List String
  withoutTraits : List String
  without : List String
deriving DecidableEq, Repr

/-- The characters with a derived trait. -/
def Derived.characters (derived : Derived) : CharSet :=
  let written (lines : List String) : CharSet := .ofRanges (CodePoints.ranges lines)
  let taken := unionOf (categoriesOf derived.categories :: written derived.more
    :: derived.traits.map (listed Text.Table.traits))
  let left := unionOf (written derived.without
    :: derived.withoutTraits.map (listed Text.Table.traits))
  if left.ranges.isEmpty then taken else taken.difference left

/-- The characters between which there is no word border. -/
def wordTrait : Derived :=
  ⟨[], ["lu", "ll", "lt", "lm", "lo", "nl", "mn", "mc", "me", "nd", "pc"],
    ["otheralphabetic", "otherlowercase", "otheruppercase", "joincontrol"], [], [], []⟩

/-- Decimal digits. -/
def digitTrait : Derived := ⟨[], ["nd"], [], [], [], []⟩

/-- Blanks. -/
def spaceTrait : Derived :=
  ⟨["whitespace", "wspace", "space"], [], [],
    ["9-D 20 85 A0 1680 2000-200A 2028-2029 202F 205F 3000"], [], []⟩

/-- The traits that follow from others. Of the characters that would leave identifiers
once they are spelled out, the last traits are free. -/
def derivedTraits : List Derived :=
  [ spaceTrait,
    ⟨["alphabetic", "alpha"], ["lu", "ll", "lt", "lm", "lo", "nl"],
      ["otheralphabetic", "otherlowercase", "otheruppercase"], [], [], []⟩,
    ⟨["asciihexdigit", "ahex"], [], [], ["30-39 41-46 61-66"], [], []⟩,
    ⟨["caseignorable", "ci"], ["mn", "me", "cf", "lm", "sk"], [],
      ["27 2E 3A B7 387 55F 5F4 2018-2019 2024 2027 FE13 FE52 FE55 FF07 FF0E FF1A"],
      [], []⟩,
    ⟨["cased"], ["lu", "ll", "lt"], ["otherlowercase", "otheruppercase"], [], [], []⟩,
    ⟨["graphemebase", "grbase"],
      ["lu", "ll", "lt", "lm", "lo", "mc", "nd", "nl", "no", "pc", "pd", "ps", "pe",
        "pi", "pf", "po", "sm", "sc", "sk", "so", "zs"],
      [], [], ["othergraphemeextend"], []⟩,
    ⟨["graphemeextend", "grext"], ["mn", "me"], ["othergraphemeextend"], [], [], []⟩,
    ⟨["lowercase", "lower"], ["ll"], ["otherlowercase"], [], [], []⟩,
    ⟨["math"], ["sm"], ["othermath"], [], [], []⟩,
    ⟨["uppercase", "upper"], ["lu"], ["otheruppercase"], [], [], []⟩,
    ⟨["idstart", "ids"], ["lu", "ll", "lt", "lm", "lo", "nl"], ["otheridstart"], [],
      ["patternsyntax", "patternwhitespace"], []⟩,
    ⟨["idcontinue", "idc"],
      ["lu", "ll", "lt", "lm", "lo", "nl", "mn", "mc", "nd", "pc"],
      ["otheridstart", "otheridcontinue"], [],
      ["patternsyntax", "patternwhitespace"], []⟩,
    ⟨["xidstart", "xids"], ["lu", "ll", "lt", "lm", "lo", "nl"], ["otheridstart"], [],
      ["patternsyntax", "patternwhitespace"],
      ["37A E33 EB3 309B-309C FC5E-FC63 FDFA-FDFB FE70-FE7E/2 FF9E-FF9F"]⟩,
    ⟨["xidcontinue", "xidc"],
      ["lu", "ll", "lt", "lm", "lo", "nl", "mn", "mc", "nd", "pc"],
      ["otheridstart", "otheridcontinue"], [],
      ["patternsyntax", "patternwhitespace"],
      ["37A 309B-309C FC5E-FC63 FDFA-FDFB FE70-FE7E/2"]⟩ ]

/-- The characters that do something where a text is divided. -/
def segment? (table : List (String × List String)) (name : String) :
    Option (Except Cause CharSet) :=
  (codePoints? name table).map fun ranges => .ok (settled ranges)

/-- Names of properties that have no characters to be asked for: they have values, or
patterns do not know them. -/
def valued : List String :=
  [ "age", "bc", "bidiclass", "bidimirroringglyph", "bidipairedbracket",
    "bidipairedbrackettype", "blk", "block", "bmg", "bpb", "bpt",
    "canonicalcombiningclass", "casefolding", "ccc", "ce",
    "changeswhennfkccasefolded", "compex", "compositionexclusion", "cwkcf",
    "decompositionmapping", "decompositiontype", "dm", "dt", "ea", "eastasianwidth",
    "equideo", "equivalentunifiedideograph", "expandsonnfc", "expandsonnfd",
    "expandsonnfkc", "expandsonnfkd", "fcnfkc", "fcnfkcclosure",
    "fullcompositionexclusion", "gc", "gcb", "generalcategory",
    "graphemeclusterbreak", "hangulsyllabletype", "hst", "incb",
    "indicconjunctbreak", "indicpositionalcategory", "indicsyllabiccategory", "inpc",
    "insc", "isc", "isocomment", "jamoshortname", "jg", "joininggroup", "joiningtype",
    "jsn", "jt", "kaccountingnumeric", "kcompatibilityvariant", "kehcat", "kehdesc",
    "kehhg", "kehifao", "kehjsesh", "kehnomirror", "kehnorotate", "kiicore",
    "kirggsource", "kirghsource", "kirgjsource", "kirgkpsource", "kirgksource",
    "kirgmsource", "kirgssource", "kirgtsource", "kirguksource", "kirgusource",
    "kirgvsource", "kmandarin", "kothernumeric", "kprimarynumeric", "krsunicode",
    "ktotalstrokes", "kunihancore2020", "lb", "lc", "linebreak", "lowercasemapping",
    "na", "na1", "name", "namealias", "nfcqc", "nfcquickcheck", "nfdqc",
    "nfdquickcheck", "nfkccasefold", "nfkccf", "nfkcqc", "nfkcquickcheck",
    "nfkcscf", "nfkcsimplecasefold", "nfkdqc", "nfkdquickcheck", "nt", "numerictype",
    "numericvalue", "nv", "sb", "sc", "scf", "script", "scriptextensions", "scx",
    "sentencebreak", "sfc", "simplecasefolding", "simplelowercasemapping",
    "simpletitlecasemapping", "simpleuppercasemapping", "slc", "stc", "suc", "tc",
    "titlecasemapping", "uc", "unicode1name", "unicoderadicalstroke", "uppercasemapping",
    "urs", "verticalorientation", "vo", "wb", "wordbreak", "xonfc", "xonfd", "xonfkc",
    "xonfkd" ]

/-- The marks that link what is in front of them with what is behind. -/
def links (lines : List (Nat × List String)) : CharSet :=
  settled ((lines.lookup 9).elim [] CodePoints.ranges)

/-- The characters with a trait. -/
def trait? (name : String) : Option CharSet :=
  match derivedTraits.find? fun derived => derived.names.contains name with
  | some derived => some derived.characters
  | none =>
      if name = "graphemelink" || name = "grlink" then
        some (links Text.Table.markClasses)
      else (codePoints? name traits).map settled

/-- The characters with a property that is asked for by one name. Three short names mean
a category, though they are those of properties too. -/
def binary (name : String) : Except Cause CharSet :=
  let isCategory := name = "cf" || name = "sc" || name = "lc"
  match if isCategory then none else trait? name with
  | some set => .ok set
  | none =>
      if !isCategory && valued.contains name then .error .unknownProperty
      else ((category? name).or (script? name)).getD (.error .unknownProperty)

/-- The characters for which a property has a value. -/
def ofValue (name value : String) : Except Cause CharSet :=
  let values? : Option (String → Option (Except Cause CharSet)) :=
    match name with
    | "age" => some age?
    | "gc" | "generalcategory" => some category?
    | "gcb" | "graphemeclusterbreak" => some (segment? Text.Table.clusterBreaks)
    | "sb" | "sentencebreak" => some (segment? Text.Table.sentenceBreaks)
    | "sc" | "script" => some script?
    | "scx" | "scriptextensions" => some scriptExtension?
    | "wb" | "wordbreak" => some (segment? Text.Table.wordBreaks)
    | _ => none
  match values? with
  | some values => (values value).getD (.error .unknownPropertyValue)
  | none =>
      if valued.contains name || (trait? name).isSome then .error .unknownPropertyValue
      else .error .unknownProperty

end Property

/-- The characters that a query asks for. -/
def Query.characters : Query → Except Cause CharSet
  | .binary name => Property.binary (.ofList (Property.normal name))
  | .valued name value =>
      Property.ofValue (.ofList (Property.normal name)) (.ofList (Property.normal value))

end Concordance.Pattern
