/-!
# Names and literals in statements

An identifier stands bare when it is plain: small ASCII letters, digits and underscores, no
digit in front, and no reserved word. Any other identifier is enclosed in double quotes,
and a literal in single quotes; a quote inside is written twice.
-/

set_option autoImplicit false

namespace ForeignTable.Sql

/-- The words that stand for themselves only between quotes. -/
def reservedWords : List String :=
  ["add", "all", "allow", "alter", "and", "apply", "as", "asc", "authorize", "batch", "begin",
    "by", "case", "check", "column", "columnfamily", "constraint", "create", "default",
    "delete", "desc", "describe", "distinct", "do", "drop", "else", "end", "entries",
    "execute", "false", "for", "foreign", "from", "full", "grant", "group", "having", "if",
    "in", "index", "infinity", "insert", "into", "is", "join", "keyspace", "limit",
    "materialized", "modify", "nan", "norecursive", "not", "null", "of", "on", "or", "order",
    "primary", "rename", "replace", "revoke", "schema", "select", "set", "table", "to",
    "token", "true", "truncate", "union", "unlogged", "unset", "update", "use", "user",
    "using", "values", "view", "where", "with"]

def startsBare (c : Char) : Bool := c.isLower || c == '_'

def continuesBare (c : Char) : Bool := c.isLower || c.isDigit || c == '_'

def isBare (name : List Char) : Bool :=
  match name with
  | [] => false
  | first :: rest =>
      startsBare first && rest.all continuesBare &&
        !reservedWords.contains (String.ofList name)

def doubled (mark : Char) : List Char → List Char
  | [] => []
  | c :: rest => if c = mark then mark :: mark :: doubled mark rest else c :: doubled mark rest

def enclosed (mark : Char) (name : List Char) : List Char :=
  mark :: (doubled mark name ++ [mark])

/-- An identifier, enclosed only where it has to be. -/
def identifier (name : String) : List Char :=
  if isBare name.toList then name.toList else enclosed '"' name.toList

def quotedIdentifier (name : String) : List Char := enclosed '"' name.toList

def literal (value : String) : List Char := enclosed '\'' value.toList

end ForeignTable.Sql
