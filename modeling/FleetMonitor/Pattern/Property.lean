import FleetMonitor.Text.Blank
import FleetMonitor.Text.Break
import FleetMonitor.Text.Category
import FleetMonitor.Text.Edition
import FleetMonitor.Text.Property
import FleetMonitor.Text.Script

/-!
# Sets of characters by name

The sets of characters that patterns can name: categories, scripts, properties and
editions.  Patterns know the characters up to edition 16.
-/

set_option autoImplicit false

namespace FleetMonitor

namespace Pattern

open Text (CodeSet Category)

/-- The characters that patterns do not know. -/
def unknown : CodeSet := Text.Edition.addedBy 17 0

def known (set : CodeSet) : CodeSet := set.diff unknown

def newestOf (categories : List Category) : CodeSet :=
  let ends := (Category.table.toList.drop 1).map (·.1) ++ [0x110000]
  CodeSet.ofRanges
    ((Category.table.toList.zip ends).filterMap fun ((first, category), next) =>
      if categories.contains category then some ⟨first, next - 1⟩ else none)

/-- The characters of some categories.  The characters that patterns do not know are
unassigned, and U+0295 is a small letter. -/
def ofCategories (categories : List Category) : CodeSet :=
  let set := (known (newestOf categories)).diff (CodeSet.range 0x295 0x295)
  CodeSet.unionAll
    [set, if categories.contains .cn then unknown else CodeSet.empty,
     if categories.contains .ll then CodeSet.range 0x295 0x295 else CodeSet.empty]

def digits : CodeSet := ofCategories [.nd]

def blanks : CodeSet :=
  CodeSet.ofRanges
    [⟨9, 13⟩, ⟨0x20, 0x20⟩, ⟨0x85, 0x85⟩, ⟨0xA0, 0xA0⟩, ⟨0x1680, 0x1680⟩, ⟨0x2000, 0x200A⟩,
     ⟨0x2028, 0x2029⟩, ⟨0x202F, 0x202F⟩, ⟨0x205F, 0x205F⟩, ⟨0x3000, 0x3000⟩]

def wordChars : CodeSet :=
  CodeSet.unionAll
    [known Text.alphabetic, ofCategories [.mn, .mc, .me, .nd, .pc], CodeSet.range 0x200C 0x200D]

def categoryNames : List (List String × List Category) :=
  [(["l", "letter"], [.lu, .ll, .lt, .lm, .lo]),
   (["lc", "casedletter"], [.lu, .ll, .lt]),
   (["lu", "uppercaseletter"], [.lu]),
   (["ll", "lowercaseletter"], [.ll]),
   (["lt", "titlecaseletter"], [.lt]),
   (["lm", "modifierletter"], [.lm]),
   (["lo", "otherletter"], [.lo]),
   (["m", "mark", "combiningmark"], [.mn, .mc, .me]),
   (["mn", "nonspacingmark"], [.mn]),
   (["mc", "spacingmark"], [.mc]),
   (["me", "enclosingmark"], [.me]),
   (["n", "number"], [.nd, .nl, .no]),
   (["nd", "decimalnumber", "digit"], [.nd]),
   (["nl", "letternumber"], [.nl]),
   (["no", "othernumber"], [.no]),
   (["p", "punctuation", "punct"], [.pc, .pd, .ps, .pe, .pi, .pf, .po]),
   (["pc", "connectorpunctuation"], [.pc]),
   (["pd", "dashpunctuation"], [.pd]),
   (["ps", "openpunctuation"], [.ps]),
   (["pe", "closepunctuation"], [.pe]),
   (["pi", "initialpunctuation"], [.pi]),
   (["pf", "finalpunctuation"], [.pf]),
   (["po", "otherpunctuation"], [.po]),
   (["s", "symbol"], [.sm, .sc, .sk, .so]),
   (["sm", "mathsymbol"], [.sm]),
   (["sc", "currencysymbol"], [.sc]),
   (["sk", "modifiersymbol"], [.sk]),
   (["so", "othersymbol"], [.so]),
   (["z", "separator"], [.zs, .zl, .zp]),
   (["zs", "spaceseparator"], [.zs]),
   (["zl", "lineseparator"], [.zl]),
   (["zp", "paragraphseparator"], [.zp]),
   (["c", "other"], [.cc, .cf, .cs, .co, .cn]),
   (["cc", "control", "cntrl"], [.cc]),
   (["cf", "format"], [.cf]),
   (["co", "privateuse"], [.co]),
   (["cn", "unassigned"], [.cn])]

def category? (name : String) : Option CodeSet :=
  if name = "any" then some CodeSet.all
  else if name = "ascii" then some (CodeSet.range 0 127)
  else if name = "assigned" then some (ofCategories [.cn]).complement
  else (categoryNames.find? (·.1.contains name)).map fun entry => ofCategories entry.2

def script? (name : String) : Option CodeSet :=
  (Text.Script.all.find? (·.names.contains name)).map fun script => known script.members

def usedScript? (name : String) : Option CodeSet :=
  (Text.Script.all.find? (·.names.contains name)).map fun script => known script.used

/-- The set of a property.  Two of them hold code points that have no character yet, and
a few letters have other properties since. -/
def property? (name : String) : Option CodeSet :=
  (Text.Property.all.find? (·.names.contains name)).map fun property =>
    let members := property.members
    let is (names : List String) : Bool := names.any property.names.contains
    if is ["patternsyntax", "extendedpictographic"] then members
    else if is ["lowercase", "cased"] then (known members).union (CodeSet.range 0x295 0x295)
    else if is ["changeswhenuppercased", "changeswhentitlecased", "changeswhencasemapped"] then
      (known members).diff (CodeSet.ofRanges [⟨0xA7D3, 0xA7D3⟩, ⟨0xA7D5, 0xA7D5⟩])
    else known members

/-- The set of what an edition and those before it hold; editions are written `3.0` or
`v30`. -/
def edition? (name : String) : Option CodeSet :=
  (Text.Edition.all.find? fun e =>
    (e.major, e.minor) != (17, 0) &&
      (name = toString e.major ++ "." ++ toString e.minor ||
        name = "v" ++ toString e.major ++ toString e.minor)).map fun e =>
    Text.Edition.upTo e.major e.minor

def breakKind? (kinds : List Text.BreakKind) (name : String) : Option CodeSet :=
  (kinds.find? (·.names.contains name)).map (·.members)

/-- A name as it is looked up: in small letters, without separators, characters beyond
ASCII and `is` in front. -/
def plainName (cs : List Char) : String :=
  let keep (cs : List Char) : List Char :=
    (cs.filter fun c => c.toNat < 128 && c != ' ' && c != '_' && c != '-').map Char.toLower
  match cs with
  | i :: s :: rest =>
      if i.toLower = 'i' ∧ s.toLower = 's' then
        if keep rest = ['c'] then "isc" else String.ofList (keep rest)
      else String.ofList (keep cs)
  | _ => String.ofList (keep cs)

/-- The set of a name: of properties, then categories, then scripts the first one that
has it.  Three short names are those of categories. -/
def named? (name : List Char) : Option CodeSet :=
  let plain := plainName name
  (if ["cf", "sc", "lc"].contains plain then none else property? plain).orElse fun _ =>
    (category? plain).orElse fun _ => script? plain

def valued? (name value : List Char) : Option CodeSet :=
  let value := plainName value
  match plainName name with
  | "gc" | "generalcategory" => category? value
  | "sc" | "script" => script? value
  | "scx" | "scriptextensions" => usedScript? value
  | "age" => edition? value
  | "gcb" | "graphemeclusterbreak" => breakKind? Text.BreakKind.drawnCharacters value
  | "wb" | "wordbreak" => breakKind? Text.BreakKind.words value
  | "sb" | "sentencebreak" => breakKind? Text.BreakKind.sentences value
  | _ => none

end Pattern

end FleetMonitor
