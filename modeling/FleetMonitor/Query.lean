import FleetMonitor.Host
import FleetMonitor.Pattern.Compiled
import FleetMonitor.Text.Quoted

/-!
# Host queries

A query is a list of statements joined by `and`, each about the name, a tag or
a metric of a host:

    hostname ~^ "web-" and tags.role = "frontend" and /free.Memory.Free < 1000

A host matches if all statements hold.
-/

set_option autoImplicit false

namespace FleetMonitor

inductive QueryOperator where
  | notPatternAnyCase | notStarts | notPattern | patternAnyCase | starts | pattern
  | greaterOrEqual | lessOrEqual | notEqual | equal | greater | less
deriving DecidableEq, Repr

namespace QueryOperator

def symbol : QueryOperator → String
  | notPatternAnyCase => "!~*"
  | notStarts => "!~^"
  | notPattern => "!~"
  | patternAnyCase => "~*"
  | starts => "~^"
  | pattern => "~"
  | greaterOrEqual => ">="
  | lessOrEqual => "<="
  | notEqual => "!="
  | equal => "="
  | greater => ">"
  | less => "<"

def all : List QueryOperator :=
  [notPatternAnyCase, notStarts, notPattern, patternAnyCase, starts, pattern,
   greaterOrEqual, lessOrEqual, notEqual, equal, greater, less]

end QueryOperator

inductive Relation where
  | equal | notEqual | greater | greaterOrEqual | less | lessOrEqual
deriving DecidableEq, Repr

def Relation.holds : Relation → Float → Float → Bool
  | equal, observed, expected => observed == expected
  | notEqual, observed, expected => observed != expected
  | greater, observed, expected => observed > expected
  | greaterOrEqual, observed, expected => observed >= expected
  | less, observed, expected => observed < expected
  | lessOrEqual, observed, expected => observed <= expected

inductive Condition where
  | name (value : String) (negated : Bool)
  | nameStarts (value : String)
  | namePattern (pattern : Pattern) (negated : Bool)
  | tag (key value : String) (negated : Bool)
  | metric (path : String) (relation : Relation) (value : Float)

inductive QueryError where
  | unrecognised (statement : String)
  | pattern (cause : Pattern.ReadError)
  | unsupported (operator : QueryOperator) (field : String)
  | notANumber (value : String)
deriving DecidableEq, Repr

def QueryError.message : QueryError → String
  | unrecognised statement => "unrecognised statement " ++ Text.quoted statement
  | pattern cause => cause.message
  | unsupported operator field =>
      "operator " ++ operator.symbol ++ " is not supported for " ++ field
  | notANumber value => Text.quoted value ++ " is not a number"

structure Query where
  conditions : List Condition

namespace Condition

/-- A condition holds for a host.  A metric the host does not report satisfies
no relation. -/
def holds (host : Host) : Condition → Bool
  | name value negated => (host.name == value) != negated
  | nameStarts value => value.toList.isPrefixOf host.name.toList
  | namePattern pattern negated => pattern.matchesText host.name != negated
  | tag key value negated => (host.tag? key == some value) != negated
  | metric path relation value =>
      ((host.metric? path).map fun observed => relation.holds observed value).getD false

end Condition

namespace Query

def matchesHost (query : Query) (host : Host) : Bool :=
  query.conditions.all (·.holds host)

def isFieldChar (c : Char) : Bool :=
  c.isAlphanum || c = '_' || c = '.' || c = '/' || c = '-'

/-- The value after an operator: not empty, and on one line. -/
def value? (cs : List Char) : Option (List Char) :=
  let value := Text.stripWhile Text.isBlank cs
  if value.isEmpty || value.contains '\n' then none else some value

/-- The first operator in front that leaves a value after it. -/
def operator? (cs : List Char) : Option (QueryOperator × List Char) :=
  QueryOperator.all.findSome? fun operator =>
    let sign := operator.symbol.toList
    if sign.isPrefixOf cs then (value? (cs.drop sign.length)).map fun value => (operator, value)
    else none

def split? (cs : List Char) : Option (List Char × QueryOperator × List Char) :=
  let cs := cs.dropWhile Text.isBlank
  let field := cs.takeWhile isFieldChar
  if field.isEmpty then none
  else
    (operator? ((cs.dropWhile isFieldChar).dropWhile Text.isBlank)).map
      fun (operator, value) => (field, operator, value)

def isQuote (c : Char) : Bool :=
  c = '"' || c = '\''

def unquoted (cs : List Char) : String :=
  String.ofList (Text.stripWhile isQuote cs)

def nameCondition (operator : QueryOperator) (value : String) : Except QueryError Condition :=
  let pattern (ignoreCase negated : Bool) : Except QueryError Condition :=
    match Pattern.read ignoreCase value with
    | .ok pattern => .ok (.namePattern pattern negated)
    | .error cause => .error (.pattern cause)
  match operator with
  | .equal => .ok (.name value false)
  | .notEqual => .ok (.name value true)
  | .starts => .ok (.nameStarts value)
  | .pattern => pattern false false
  | .patternAnyCase => pattern true false
  | .notPattern => pattern false true
  | .notPatternAnyCase => pattern true true
  | other => .error (.unsupported other "hostname")

def tagCondition (key : String) (operator : QueryOperator) (value : String) :
    Except QueryError Condition :=
  match operator with
  | .equal => .ok (.tag key value false)
  | .notEqual => .ok (.tag key value true)
  | other => .error (.unsupported other "tags")

def relation? : QueryOperator → Option Relation
  | .equal => some .equal
  | .notEqual => some .notEqual
  | .greater => some .greater
  | .greaterOrEqual => some .greaterOrEqual
  | .less => some .less
  | .lessOrEqual => some .lessOrEqual
  | _ => none

def metricCondition (path : String) (operator : QueryOperator) (value : String) :
    Except QueryError Condition :=
  match relation? operator with
  | none => .error (.unsupported operator "metrics")
  | some relation =>
      match Decimal.float? value with
      | some number => .ok (.metric path relation number)
      | none => .error (.notANumber value)

def tagKey? (field : List Char) : Option String :=
  if "tags.".toList.isPrefixOf field || "Tags.".toList.isPrefixOf field then
    some (String.ofList (field.drop 5))
  else none

def readStatement (cs : List Char) : Except QueryError Condition :=
  match split? cs with
  | none => .error (.unrecognised (String.ofList cs))
  | some (field, operator, value) =>
      if field.map Char.toLower = "hostname".toList then nameCondition operator (unquoted value)
      else
        match tagKey? field with
        | some key => tagCondition key operator (unquoted value)
        | none => metricCondition (String.ofList field) operator (unquoted value)

/-- The word `and` in any letter case with a blank after it: what follows the
blanks. -/
def afterAnd? : List Char → Option (List Char)
  | a :: n :: d :: blank :: rest =>
      if a.toLower = 'a' ∧ n.toLower = 'n' ∧ d.toLower = 'd' ∧ Text.isBlank blank then
        some (rest.dropWhile Text.isBlank)
      else none
  | _ => none

/-- Splits a text at every `and` between blanks.  `current` holds the statement
being read, last character first. -/
def splitAnd : Nat → List Char → List Char → List (List Char)
  | 0, current, rest => [current.reverse ++ rest]
  | _, current, [] => [current.reverse]
  | fuel + 1, current, c :: rest =>
      if Text.isBlank c then
        let blanks := (c :: rest).takeWhile Text.isBlank
        let after := (c :: rest).dropWhile Text.isBlank
        match afterAnd? after with
        | some rest => current.reverse :: splitAnd fuel [] rest
        | none => splitAnd fuel (blanks.reverse ++ current) after
      else splitAnd fuel (c :: current) rest

/-- The statements of a query; blank ones are dropped. -/
def statements (cs : List Char) : List (List Char) :=
  (splitAnd cs.length [] cs).filter fun statement => !statement.all Text.isBlank

/-- Reads a query; a blank one matches every host. -/
def read (s : String) : Except QueryError Query := do
  let cs := Text.stripWhile Text.isBlank s.toList
  let conditions ← (statements cs).mapM readStatement
  pure ⟨conditions⟩

end Query

end FleetMonitor
