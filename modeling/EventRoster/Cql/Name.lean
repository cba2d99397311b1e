/-!
# Names in statements

The name of a keyspace, table or column may stand bare in a statement if the database reads it back as
it is: it has to look like a word in lower case and must not be reserved.  Any other name stands in
double quotes, with the quotes inside it doubled.  Which words are reserved, and whether a name that may
stand bare does, is up to a `Quoting`.

A line feed at the end of a word does not keep it from standing bare.
-/

namespace EventRoster.Cql

/-- Whether a word may begin with a character. -/
def isWordStart (c : Char) : Bool :=
  'a' ≤ c && c ≤ 'z'

/-- Whether a word may go on with a character. -/
def isWordPart (c : Char) : Bool :=
  isWordStart c || c.isDigit || c == '_'

/-- Whether the rest of a name is the rest of a word, perhaps with a line feed at its end. -/
def isWordRest : List Char → Bool
  | [] => true
  | ['\n'] => true
  | c :: rest => isWordPart c && isWordRest rest

/-- Whether a name looks like a word. -/
def isWord : List Char → Bool
  | [] => false
  | c :: rest => isWordStart c && isWordRest rest

/-- A text with its double quotes doubled. -/
def doubled (name : List Char) : List Char :=
  name.flatMap fun c => if c = '"' then ['"', '"'] else [c]

/-- A name in double quotes. -/
def enclosed (name : List Char) : List Char :=
  '"' :: (doubled name ++ ['"'])

/-- A way to put names into statements, for a language that reserves some words.  It leaves a name bare
only if the name is a word that is not reserved, and puts it in quotes otherwise. -/
structure Quoting where
  /-- Whether the language reserves a word. -/
  isReserved : List Char → Bool
  /-- A name as it stands in a statement. -/
  nameChars : List Char → List Char
  bare_or_enclosed : ∀ name,
    isWord name = true ∧ isReserved name = false ∧ nameChars name = name ∨
      nameChars name = enclosed name

/-- A name as it stands in a statement. -/
def Quoting.protect (q : Quoting) (name : String) : String :=
  String.ofList (q.nameChars name.toList)

/-- The words that are reserved by the statement language of the database. -/
def reservedWords : List String :=
  ["active", "add", "allow", "alter", "and", "any", "application", "applications", "apply", "asc",
    "authentication", "authorize", "batch", "begin", "by", "call", "calls", "cluster",
    "columnfamily", "columns", "commit", "config", "create", "default", "delegation", "delete",
    "desc", "describe", "drop", "entries", "execute", "executor", "executors", "field", "from",
    "full", "grant", "if", "in", "index", "indices", "infinity", "insert", "internal", "into", "is",
    "java", "kerberos", "keyspace", "ldap", "limit", "lowercasestring", "materialized", "mbean",
    "mbeans", "method", "modify", "nan", "no", "node", "nodes", "norecursive", "not", "null",
    "object", "of", "on", "or", "order", "plan", "primary", "profiles", "rebuild", "redact",
    "reload", "remote", "rename", "renew", "replace", "restrict", "revoke", "rows", "schema",
    "scheme", "schemes", "search", "select", "set", "std_err", "std_out", "submission", "table",
    "to", "token", "truncate", "unlogged", "unrestrict", "unset", "update", "use", "using", "view",
    "where", "with", "workpool"]

/-- The quoting that leaves bare what may be left bare. -/
def Quoting.standard : Quoting where
  isReserved name := reservedWords.any (·.toList == name)
  nameChars name :=
    if isWord name && !reservedWords.any (·.toList == name) then name else enclosed name
  bare_or_enclosed name := by
    split
    · next bare =>
      obtain ⟨word, free⟩ := Bool.and_eq_true_iff.1 bare
      exact .inl ⟨word, by simpa using free, rfl⟩
    · exact .inr rfl

end EventRoster.Cql
