import FleetMonitor.Check.Comparison
import FleetMonitor.Check.Outcome
import FleetMonitor.Text.Blank
import FleetMonitor.Text.Case

/-!
# Expressions

The kinds of expression a check is made of, their written form and the line
that describes each to a reader.
-/

set_option autoImplicit false

namespace FleetMonitor

structure MetricThreshold where
  metric : String
  operator : Comparison
  value : Float
  minHost : Nat
deriving BEq, DecidableEq, Repr, Inhabited

structure RelativeThreshold where
  metric : String
  operator : Comparison
  /-- The threshold in percent. -/
  value : Float
  minHost : Nat
  /-- Minutes of history. -/
  range : Int
  aggregate : Aggregate
deriving BEq, DecidableEq, Repr, Inhabited

structure LogThreshold where
  search : String
  operator : Comparison
  value : Float
  minHost : Nat
  range : Int
deriving BEq, DecidableEq, Repr, Inhabited

structure PingProbe where
  minHost : Nat
deriving DecidableEq, Repr, Inhabited

structure SshProbe where
  port : String
  username : String
  minHost : Nat
deriving DecidableEq, Repr, Inhabited

structure HttpProbe where
  protocol : String
  port : String
  headers : String
  username : String
  password : String
  requestMethod : String
  body : String
  minHost : Nat
deriving DecidableEq, Repr, Inhabited

namespace HttpProbe

def scheme (probe : HttpProbe) : String :=
  let scheme := Text.trim probe.protocol
  if scheme.isEmpty then "http" else scheme

def method (probe : HttpProbe) : String :=
  let method := Text.trim probe.requestMethod
  if method.isEmpty then "GET" else Text.upper method

/-- The address to probe on a host; a blank port leaves it to the scheme. -/
def url (probe : HttpProbe) (hostname : String) : String :=
  let port := Text.trim probe.port
  probe.scheme ++ "://" ++ hostname ++ (if port.isEmpty then "" else ":" ++ port)

def record : Decoder.Record HttpProbe where
  title := "struct HttpProbe"
  blank := ⟨"", "", "", "", "", "", "", 0⟩
  fields :=
    [ Decoder.field .defaulted "Protocol" Decoder.string fun p protocol => { p with protocol },
      Decoder.field .defaulted "Port" Decoder.string fun p port => { p with port },
      Decoder.field .defaulted "Headers" Decoder.string fun p headers => { p with headers },
      Decoder.field .defaulted "Username" Decoder.string fun p username => { p with username },
      Decoder.field .defaulted "Password" Decoder.string fun p password => { p with password },
      Decoder.field .defaulted "HTTPMethod" Decoder.string
        fun p requestMethod => { p with requestMethod },
      Decoder.field .defaulted "HTTPBody" Decoder.string fun p body => { p with body },
      Decoder.field .defaulted "MinHost" Decoder.count fun p minHost => { p with minHost } ]

end HttpProbe

def MetricThreshold.record : Decoder.Record MetricThreshold where
  title := "struct MetricThreshold"
  blank := ⟨"", .greater, 0, 0⟩
  fields :=
    [ Decoder.field .required "Metric" Decoder.string fun e metric => { e with metric },
      Decoder.field .required "Operator" Comparison.decode fun e operator => { e with operator },
      Decoder.field .required "Value" Decoder.float fun e value => { e with value },
      Decoder.field .defaulted "MinHost" Decoder.count fun e minHost => { e with minHost } ]

def RelativeThreshold.record : Decoder.Record RelativeThreshold where
  title := "struct RelativeThreshold"
  blank := ⟨"", .greater, 0, 0, 0, .avg⟩
  fields :=
    [ Decoder.field .required "Metric" Decoder.string fun e metric => { e with metric },
      Decoder.field .required "Operator" Comparison.decode fun e operator => { e with operator },
      Decoder.field .required "Value" Decoder.float fun e value => { e with value },
      Decoder.field .defaulted "MinHost" Decoder.count fun e minHost => { e with minHost },
      Decoder.field .required "PrevRange" Decoder.int64 fun e range => { e with range },
      Decoder.field .required "PrevAggr" Aggregate.decode
        fun e aggregate => { e with aggregate } ]

def LogThreshold.record : Decoder.Record LogThreshold where
  title := "struct LogThreshold"
  blank := ⟨"", .greater, 0, 0, 0⟩
  fields :=
    [ Decoder.field .required "Search" Decoder.string fun e search => { e with search },
      Decoder.field .required "Operator" Comparison.decode fun e operator => { e with operator },
      Decoder.field .required "Value" Decoder.float fun e value => { e with value },
      Decoder.field .defaulted "MinHost" Decoder.count fun e minHost => { e with minHost },
      Decoder.field .required "PrevRange" Decoder.int64 fun e range => { e with range } ]

def PingProbe.record : Decoder.Record PingProbe where
  title := "struct PingProbe"
  blank := ⟨0⟩
  fields := [Decoder.field .defaulted "MinHost" Decoder.count fun _ minHost => ⟨minHost⟩]

def SshProbe.record : Decoder.Record SshProbe where
  title := "struct SshProbe"
  blank := ⟨"", "", 0⟩
  fields :=
    [ Decoder.field .defaulted "Port" Decoder.string fun p port => { p with port },
      Decoder.field .defaulted "Username" Decoder.string fun p username => { p with username },
      Decoder.field .defaulted "MinHost" Decoder.count fun p minHost => { p with minHost } ]

def Junction.record : Decoder.Record Junction where
  title := "struct BooleanOperator"
  blank := .and
  fields := [Decoder.field .required "Operator" Junction.decode fun _ junction => junction]

/-- The kinds of expression.  An operator is an element of the list of its own
and says how the verdicts after it are joined. -/
inductive ExpressionKind where
  | raw (e : MetricThreshold)
  | relative (e : RelativeThreshold)
  | log (e : LogThreshold)
  | ping (e : PingProbe)
  | ssh (e : SshProbe)
  | http (e : HttpProbe)
  | operator (junction : Junction)
deriving BEq, DecidableEq, Repr, Inhabited

namespace ExpressionKind

def typeName : ExpressionKind → String
  | raw _ => "RawHostData"
  | relative _ => "RelativeHostData"
  | log _ => "LogData"
  | ping _ => "Ping"
  | ssh _ => "SSH"
  | http _ => "HTTP"
  | operator _ => "BooleanOperator"

def threshold? : ExpressionKind → Option Float
  | raw e => some e.value
  | relative e => some e.value
  | log e => some e.value
  | _ => none

def minHost? : ExpressionKind → Option Nat
  | raw e => some e.minHost
  | relative e => some e.minHost
  | log e => some e.minHost
  | ping e => some e.minHost
  | ssh e => some e.minHost
  | http e => some e.minHost
  | operator _ => none

/-- The minutes that an expression looks back, if it looks at what is stored. -/
def range? : ExpressionKind → Option Int
  | relative e => some e.range
  | log e => some e.range
  | _ => none

def minHostText (n : Nat) : String :=
  " (min hosts: " ++ toString n ++ ")"

def description : ExpressionKind → String
  | raw e =>
      e.metric ++ " " ++ e.operator.symbol ++ " " ++ Decimal.plain e.value ++
        minHostText e.minHost
  | relative e =>
      e.metric ++ " " ++ e.operator.symbol ++ " " ++ Decimal.plain e.value ++ "% of " ++
        e.aggregate.name ++ " over last " ++ toString e.range ++ "m" ++ minHostText e.minHost
  | log e =>
      "logs matching " ++ Text.quoted e.search ++ " over last " ++ toString e.range ++ "m " ++
        e.operator.symbol ++ " " ++ Decimal.plain e.value ++ minHostText e.minHost
  | ping e => "ping" ++ minHostText e.minHost
  | ssh e => "ssh port " ++ Text.quoted e.port ++ minHostText e.minHost
  | http e =>
      e.method ++ " " ++ e.scheme ++ "://host:" ++ e.port ++ minHostText e.minHost
  | operator junction => junction.name

def tagged : Decoder.Tagged ExpressionKind where
  title := "internally tagged enum ExpressionKind"
  tag := "Type"
  variants :=
    [ ⟨["RawHostData"], fun source document =>
        (MetricThreshold.record.read source document).map raw⟩,
      ⟨["RelativeHostData"], fun source document =>
        (RelativeThreshold.record.read source document).map relative⟩,
      ⟨["LogData"], fun source document =>
        (LogThreshold.record.read source document).map log⟩,
      ⟨["Ping"], fun source document => (PingProbe.record.read source document).map ping⟩,
      ⟨["SSH"], fun source document => (SshProbe.record.read source document).map ssh⟩,
      ⟨["HTTP", "HTTPS"], fun source document =>
        (HttpProbe.record.read source document).map http⟩,
      ⟨["BooleanOperator"], fun source document =>
        (Junction.record.read source document).map operator⟩ ]

def members : ExpressionKind → List (String × Json)
  | raw e =>
      [("Type", .string "RawHostData"), ("Metric", .string e.metric),
       ("Operator", .string e.operator.symbol), ("Value", .float e.value),
       ("MinHost", .nat e.minHost)]
  | relative e =>
      [("Type", .string "RelativeHostData"), ("Metric", .string e.metric),
       ("Operator", .string e.operator.symbol), ("Value", .float e.value),
       ("MinHost", .nat e.minHost), ("PrevRange", .int e.range),
       ("PrevAggr", .string e.aggregate.name)]
  | log e =>
      [("Type", .string "LogData"), ("Search", .string e.search),
       ("Operator", .string e.operator.symbol), ("Value", .float e.value),
       ("MinHost", .nat e.minHost), ("PrevRange", .int e.range)]
  | ping e => [("Type", .string "Ping"), ("MinHost", .nat e.minHost)]
  | ssh e =>
      [("Type", .string "SSH"), ("Port", .string e.port), ("Username", .string e.username),
       ("MinHost", .nat e.minHost)]
  | http e =>
      [("Type", .string "HTTP"), ("Protocol", .string e.protocol), ("Port", .string e.port),
       ("Headers", .string e.headers), ("Username", .string e.username),
       ("Password", .string e.password), ("HTTPMethod", .string e.requestMethod),
       ("HTTPBody", .string e.body), ("MinHost", .nat e.minHost)]
  | operator junction =>
      [("Type", .string "BooleanOperator"), ("Operator", .string junction.name)]

end ExpressionKind

structure Expression where
  kind : ExpressionKind
  result : Outcome
deriving BEq, DecidableEq, Repr, Inhabited

namespace Expression

def ofKind (kind : ExpressionKind) : Expression :=
  ⟨kind, Outcome.empty⟩

/-- Splits the member `Result` from the members of the kind. -/
def readMembers (source : Source) :
    List (Option String × Document) → Option Outcome → List (Option String × Document) →
      Except DecodeError (Outcome × List (Option String × Document))
  | [], result, others => .ok (result.getD Outcome.empty, others.reverse)
  | (none, _) :: _, _, _ => .error .malformed
  | (some key, value) :: rest, result, others =>
      if key = "Result" then
        if result.isSome then .error (.duplicateField "Result")
        else do
          let outcome ← Decoder.nullDefault Outcome.empty Outcome.decode source value
          readMembers source rest (some outcome) others
      else if value.value?.isSome then
        readMembers source rest result ((some key, value) :: others)
      else .error .malformed

/-- Reads an expression: the members of its kind and, beside them, `Result`. -/
def decode : Decoder Expression
  | source, .object members => do
      let (result, others) ← readMembers source members none []
      let kind ← ExpressionKind.tagged.read .buffer (.object others)
      pure ⟨kind, result⟩
  | _, document => .error (Decoder.mismatch document "struct Expression")

def encode (e : Expression) : Json :=
  .object (e.kind.members ++ [("Result", e.result.encode)])

end Expression

end FleetMonitor
