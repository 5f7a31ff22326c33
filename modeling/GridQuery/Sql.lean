import GridQuery.Number.Numeral
import GridQuery.Source
import GridQuery.Text.Wildcard

/-!
The SQL text of a query.  A constant never enters the text: it becomes a
parameter, named after its column and numbered in order of appearance.
-/

namespace GridQuery.Sql

/-- A part of a statement: text, one parameter, or the parameters of a list. -/
inductive Piece where
  | text (content : String)
  | parameter (base : String) (value : Value)
  | parameters (base : String) (values : List Value)

/-- A statement before its parameters are numbered. -/
abbrev Fragment := List Piece

structure Statement where
  text : String
  parameters : Members

/-- The words that cannot be names without quotation marks. -/
def reserved : List String := [
  "all", "analyse", "analyze", "and", "any", "array", "as", "asc", "asymmetric", "authorization",
  "between", "binary", "both", "case", "cast", "check", "collate", "column", "constraint",
  "create", "cross", "current_date", "current_role", "current_time", "current_timestamp",
  "current_user", "default", "deferrable", "desc", "distinct", "do", "else", "end", "except",
  "false", "for", "foreign", "freeze", "from", "full", "grant", "group", "having", "ilike", "in",
  "initially", "inner", "intersect", "into", "is", "isnull", "join", "leading", "left", "like",
  "limit", "localtime", "localtimestamp", "natural", "new", "not", "notnull", "null", "off",
  "offset", "old", "on", "only", "or", "order", "outer", "overlaps", "placing", "primary",
  "references", "right", "select", "session_user", "set", "similar", "some", "symmetric", "table",
  "then", "to", "trailing", "true", "union", "unique", "user", "using", "verbose", "when", "where"]

def isPlainName (name : String) : Bool :=
  !reserved.contains name && name.toList.all fun c => c.isLower || c.isDigit || c == '_'

def nameText (name : String) : String :=
  if isPlainName name then name else "\"" ++ name ++ "\""

def fieldText (field : Field) : String :=
  nameText field.table ++ "." ++ nameText field.column.name

def comparisonText : Comparison → String
  | .eq => "="
  | .ne => "!="
  | .lt => "<"
  | .le => "<="
  | .gt => ">"
  | .ge => ">="

def intersperse (separator : String) : List Fragment → Fragment
  | [] => []
  | [last] => last
  | first :: rest => first ++ .text separator :: intersperse separator rest

def parenthesize (fragment : Fragment) : Fragment :=
  .text "(" :: fragment ++ [.text ")"]

def compared (field : Field) (comparison : Comparison) (value : Value) : Fragment :=
  [.text (fieldText field ++ " " ++ comparisonText comparison ++ " "),
    .parameter field.column.name value]

def keysText (keys : List KeyPair) : String :=
  String.intercalate " AND " (keys.map fun pair => fieldText pair.1 ++ " = " ++ fieldText pair.2)

def sourceText : Source → String
  | .table name => nameText name
  | .join left name on => sourceText left ++ " JOIN " ++ nameText name ++ " ON " ++ keysText on

def fromText (sources : List Source) : String :=
  if sources.isEmpty then ""
  else "\nFROM " ++ String.intercalate ", " (sources.map sourceText) ++ " "

/-- A column as text, and the name of parameters that it is compared with. -/
def asText (field : Field) : String × String :=
  if field.column.kind = .text then (fieldText field, field.column.name)
  else ("CAST(" ++ fieldText field ++ " AS VARCHAR)", "param")

def likeFragment (field : Field) (negated : Bool) (anchor : Anchor) (text : String) : Fragment :=
  let (subject, base) := asText field
  let before := if anchor = .start then "" else "'%' || "
  let after := if anchor = .finish then "" else " || '%'"
  [.text ("(" ++ subject ++ (if negated then " NOT LIKE " else " LIKE ") ++ before),
    .parameter base (.str (String.ofList (Text.escapeWildcards text.toList))),
    .text (after ++ " ESCAPE '/')")]

def amongFragment (field : Field) (negated : Bool) (values : List Value) : Fragment :=
  let list : Piece := .parameters field.column.name values
  if negated then [.text ("(" ++ fieldText field ++ " NOT IN ("), list, .text "))"]
  else [.text (fieldText field ++ " IN ("), list, .text ")"]

def truthText (truth : Bool) : String :=
  if truth then "true" else "false"

def existsFragment (link : Linkage) (inner : List (Bool × Fragment)) : Fragment :=
  let parts := inner.map fun operand => if operand.1 then parenthesize operand.2 else operand.2
  .text ("EXISTS (SELECT 1 " ++ fromText link.sources ++ "\nWHERE " ++ keysText link.keys) ::
    parts.flatMap (.text " AND " :: ·) ++ [.text ")"]

/-- The operands of a conjunction that a condition stands for, and whether each of them is a
subquery test. -/
def operands : Condition → List (Bool × Fragment)
  | .compare field comparison value => [(false, compared field comparison value)]
  | .isNull field negated =>
      [(false, [.text (fieldText field ++ if negated then " IS NOT NULL" else " IS NULL")])]
  | .isTruth field negated truth =>
      [(false, [.text (fieldText field ++ (if negated then " != " else " = ") ++ truthText truth)])]
  | .between field low high =>
      [(false, [.text (fieldText field ++ " BETWEEN "), .parameter field.column.name low,
        .text " AND ", .parameter field.column.name high])]
  | .span field negated low high =>
      let lower := compared field .ge low
      let upper := compared field .lt high
      if negated then [(false, .text "NOT (" :: lower ++ .text " AND " :: upper ++ [.text ")"])]
      else [(false, lower), (false, upper)]
  | .among field negated values => [(false, amongFragment field negated values)]
  | .like field negated anchor text => [(false, likeFragment field negated anchor text)]
  | .related link inner => [(true, existsFragment link (operands inner))]

/-- Join operands; a subquery test has parentheses around it unless it stands alone. -/
def joined (separator : String) (parts : List (Bool × Fragment)) : Fragment :=
  match parts with
  | [(_, only)] => only
  | parts =>
      intersperse separator
        (parts.map fun operand => if operand.1 then parenthesize operand.2 else operand.2)

/-- The one operand that a condition is in a disjunction: a conjunction stays together. -/
def alternative (condition : Condition) : Bool × Fragment :=
  match operands condition with
  | [only] => only
  | parts => (false, joined " AND " parts)

def restrictionOperands : Restriction → List (Bool × Fragment)
  | .holds condition => operands condition
  | .someOf [condition] => operands condition
  | .someOf conditions => [(true, joined " OR " (conditions.map alternative))]

def whereFragment (restrictions : List Restriction) : Fragment :=
  joined " AND " (restrictions.flatMap restrictionOperands)

def keyFragment (key : SortKey) : Fragment :=
  match key.subquery? with
  | none => [.text (fieldText key.field)]
  | some (sources, keys) =>
      [.text ("(SELECT " ++ fieldText key.field ++ " " ++ fromText sources ++ "\nWHERE " ++
        keysText keys ++ "\n LIMIT "), .parameter "param" (.int 1), .text ")"]

def termFragment (term : SortTerm) : Fragment :=
  keyFragment term.key ++ [.text (if term.descending then " DESC" else " ASC")]

def selectFragment (query : Query) (columns : List Field) : Fragment :=
  let head := "SELECT " ++ String.intercalate ", " (columns.map fieldText) ++
    " \nFROM " ++ nameText query.model.table.name
  let condition :=
    if query.restrictions.isEmpty then [] else .text " \nWHERE " :: whereFragment query.restrictions
  let order :=
    if query.order.isEmpty then []
    else .text " ORDER BY " :: intersperse ", " (query.order.map termFragment)
  .text head :: condition ++ order

/-- The parameters named so far, and how often each base name was used. -/
structure Numbering where
  counts : List (String × Nat) := []
  parameters : List (String × Value) := []

/-- The next name of a base. -/
def Numbering.next (numbering : Numbering) (base : String) (value : Value) : String × Numbering :=
  let count := (numbering.counts.lookup base).getD 0 + 1
  let name := base ++ "_" ++ naturalText count
  (name, ⟨(base, count) :: numbering.counts, numbering.parameters ++ [(name, value)]⟩)

def Fragment.number (numbering : Numbering) : Fragment → String × Numbering
  | [] => ("", numbering)
  | .text content :: rest =>
      let (tail, last) := number numbering rest
      (content ++ tail, last)
  | .parameter base value :: rest =>
      let (name, next) := numbering.next base value
      let (tail, last) := number next rest
      (":" ++ name ++ tail, last)
  | .parameters base values :: rest =>
      let (name, next) := numbering.next base (.list values)
      let (tail, last) := number next rest
      ("__[POSTCOMPILE_" ++ name ++ "]" ++ tail, last)

def Fragment.statement (fragment : Fragment) : Statement :=
  let (text, numbering) := Fragment.number {} fragment
  ⟨text, numbering.parameters⟩

end GridQuery.Sql

namespace GridQuery.Query

def statement (query : Query) : Sql.Statement :=
  (Sql.selectFragment query query.model.table.fields).statement

def keyStatement (query : Query) : Sql.Statement :=
  (Sql.selectFragment query query.model.keys).statement

end GridQuery.Query
