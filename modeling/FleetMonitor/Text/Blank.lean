/-!
# Blank characters

The characters with the Unicode property `White_Space`, and the two operations
on texts that depend on them: trimming both ends and splitting into words.
-/

set_option autoImplicit false

namespace FleetMonitor.Text

/-- The code points that carry the property `White_Space`. -/
def isBlank (c : Char) : Bool :=
  let n := c.toNat
  (9 ≤ n && n ≤ 13) || n = 0x20 || n = 0x85 || n = 0xA0 || n = 0x1680 ||
    (0x2000 ≤ n && n ≤ 0x200A) || n = 0x2028 || n = 0x2029 || n = 0x202F ||
    n = 0x205F || n = 0x3000

def dropEndWhile (p : Char → Bool) (cs : List Char) : List Char :=
  (cs.reverse.dropWhile p).reverse

def stripWhile (p : Char → Bool) (cs : List Char) : List Char :=
  dropEndWhile p (cs.dropWhile p)

def trim (s : String) : String :=
  String.ofList (stripWhile isBlank s.toList)

def allBlank (s : String) : Bool :=
  s.toList.all isBlank

/-- The maximal runs of characters that are not blank, from left to right. -/
def wordsOf (cs : List Char) : List (List Char) :=
  (cs.splitOnP isBlank).filter (fun w => !w.isEmpty)

def words (s : String) : List String :=
  (wordsOf s.toList).map String.ofList

end FleetMonitor.Text
