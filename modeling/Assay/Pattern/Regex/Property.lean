import Assay.Pattern.CharSet
import Assay.Pattern.Regex.Syntax
import Assay.Text.Age
import Assay.Text.Break

/-!
# Properties in expressions — sets of characters by their names

A property is named by itself (`Greek`, `Lu`, `Alphabetic`) or together with its kind
(`Script=Greek`); ages and breaks are always named with their kind (`Age=6.0`).  Names are compared
loosely: case, blanks, hyphens, underscores and a leading `is` do not count.
-/

namespace Assay.Regex

def looseName (name : String) : String :=
  let full := name.toList.map Char.toLower
  let kept := (if ['i', 's'].isPrefixOf full then full.drop 2 else full).filter fun c =>
    c.toNat < 0x80 && c != ' ' && c != '_' && c != '-'
  if ['i', 's'].isPrefixOf full && kept == ['c'] then "isc" else String.ofList kept

def categoriesSet (categories : List Text.Category) : CharSet :=
  .unions (categories.map fun category => .table category.table)

open Text.Category in
def assignedCategories : List Text.Category :=
  [uppercaseLetter, lowercaseLetter, titlecaseLetter, modifierLetter, otherLetter,
    nonspacingMark, spacingMark, enclosingMark, decimalNumber, letterNumber, otherNumber,
    connectorPunctuation, dashPunctuation, openPunctuation, closePunctuation, initialPunctuation,
    finalPunctuation, otherPunctuation, mathSymbol, currencySymbol, modifierSymbol, otherSymbol,
    spaceSeparator, lineSeparator, paragraphSeparator, control, format, privateUse]

open Text.Category in
/-- General categories and their groups by loose names. -/
def categoryNames : List (List String × List Text.Category) := [
  (["lu", "uppercaseletter"], [uppercaseLetter]),
  (["ll", "lowercaseletter"], [lowercaseLetter]),
  (["lt", "titlecaseletter"], [titlecaseLetter]),
  (["lc", "casedletter"], [uppercaseLetter, lowercaseLetter, titlecaseLetter]),
  (["lm", "modifierletter"], [modifierLetter]),
  (["lo", "otherletter"], [otherLetter]),
  (["l", "letter"],
    [uppercaseLetter, lowercaseLetter, titlecaseLetter, modifierLetter, otherLetter]),
  (["mn", "nonspacingmark"], [nonspacingMark]),
  (["mc", "spacingmark"], [spacingMark]),
  (["me", "enclosingmark"], [enclosingMark]),
  (["m", "mark", "combiningmark"], [nonspacingMark, spacingMark, enclosingMark]),
  (["nd", "decimalnumber", "digit"], [decimalNumber]),
  (["nl", "letternumber"], [letterNumber]),
  (["no", "othernumber"], [otherNumber]),
  (["n", "number"], [decimalNumber, letterNumber, otherNumber]),
  (["pc", "connectorpunctuation"], [connectorPunctuation]),
  (["pd", "dashpunctuation"], [dashPunctuation]),
  (["ps", "openpunctuation"], [openPunctuation]),
  (["pe", "closepunctuation"], [closePunctuation]),
  (["pi", "initialpunctuation"], [initialPunctuation]),
  (["pf", "finalpunctuation"], [finalPunctuation]),
  (["po", "otherpunctuation"], [otherPunctuation]),
  (["p", "punctuation", "punct"],
    [connectorPunctuation, dashPunctuation, openPunctuation, closePunctuation,
      initialPunctuation, finalPunctuation, otherPunctuation]),
  (["sm", "mathsymbol"], [mathSymbol]),
  (["sc", "currencysymbol"], [currencySymbol]),
  (["sk", "modifiersymbol"], [modifierSymbol]),
  (["so", "othersymbol"], [otherSymbol]),
  (["s", "symbol"], [mathSymbol, currencySymbol, modifierSymbol, otherSymbol]),
  (["zs", "spaceseparator"], [spaceSeparator]),
  (["zl", "lineseparator"], [lineSeparator]),
  (["zp", "paragraphseparator"], [paragraphSeparator]),
  (["z", "separator"], [spaceSeparator, lineSeparator, paragraphSeparator]),
  (["cc", "control", "cntrl"], [control]),
  (["cf", "format"], [format]),
  (["co", "privateuse"], [privateUse])]

/-- The set of a general category or group of them. -/
def category? (name : String) : Option CharSet :=
  match name with
  | "any" => some (.complement .none)
  | "ascii" => some (.range 0 0x7F)
  | "assigned" => some (categoriesSet assignedCategories)
  | "cn" | "unassigned" => some (.complement (categoriesSet assignedCategories))
  | "c" | "other" =>
    some (.union (.complement (categoriesSet assignedCategories))
      (categoriesSet [.control, .format, .privateUse]))
  | _ => (categoryNames.find? (·.1.contains name)).map fun entry => categoriesSet entry.2

def PropertyQuery.set? : PropertyQuery → Option CharSet
  | .named name =>
    let name := looseName name
    ((Text.binaryProperty? name).map CharSet.table).or
      ((category? name).or ((Text.script? name).map CharSet.table))
  | .valued name value =>
    let value := looseName value
    match looseName name with
    | "gc" | "generalcategory" => category? value
    | "sc" | "script" => (Text.script? value).map CharSet.table
    | "scx" | "scriptextensions" => (Text.scriptExtension? value).map CharSet.table
    | "age" => (Text.age? value).map fun tables => .unions (tables.map .table)
    | "gcb" | "graphemeclusterbreak" => (Text.break? Text.clusterBreaks value).map CharSet.table
    | "wb" | "wordbreak" => (Text.break? Text.wordBreaks value).map CharSet.table
    | "sb" | "sentencebreak" => (Text.break? Text.sentenceBreaks value).map CharSet.table
    | _ => none

end Assay.Regex
