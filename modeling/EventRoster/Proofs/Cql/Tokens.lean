import EventRoster.Proofs.Cql.Pieces

/-!
# Statements as the database reads them

A statement is read as a row of tokens.  A word goes on as long as it can and is folded to lower case: it
is a keyword if it is reserved, and a name otherwise.  A text in double quotes is a name as it stands, with
the doubled quotes in it undone.  Besides there are marks, and the places of parameters.  Keywords that are
not reserved are read like names, so that only their place tells them apart.

Whatever the names in a statement are, they are read back as they are, and the rest of the statement is
read as if they were not there.  A bare name is read back since it is in lower case and not reserved; any
other name ends where its quotes end, since there is no single quote within them.  Either needs something
behind it that neither goes on with a word nor is a quote, as the templates have.

* `Reading.foldlM_nameChars`: what is read of a name.
* `Reading.foldlM_pieces`: what is read of the pieces of a statement.
* `tokens?_text_eq`: the tokens of every statement.
-/

namespace EventRoster.Cql

/-- A token of a statement. -/
inductive Token
  | keyword (word : String)
  | name (n : String)
  | mark (c : Char)
  | place
deriving DecidableEq

namespace Token

/-- The token that a word in lower case is. -/
def ofWord (q : Quoting) (word : List Char) : Token :=
  if q.isReserved word then keyword (String.ofList word) else name (String.ofList word)

end Token

/-- Whether a word goes on with a character. -/
def goesOn (c : Char) : Bool :=
  c.isAlphanum || c == '_'

/-- Whether words and names end before a character. -/
def delimits (c : Char) : Bool :=
  !goesOn c && c != '"'

/-- What a reader of statements is within, with the characters that have been read of it, last first. -/
inductive Mode
  | between
  | word (read : List Char)
  | quoted (read : List Char)
  /-- Behind a quote that closes a name, unless another one follows. -/
  | closed (read : List Char)
  | percent

/-- What has been read of a statement: the tokens before, last first, and what the reader is within. -/
structure Reading where
  tokens : List Token
  mode : Mode

namespace Reading

/-- Nothing has been read yet. -/
def start : Reading := ⟨[], .between⟩

/-- The reading if what the reader is within goes no further. -/
def settled (q : Quoting) (r : Reading) : Reading :=
  match r.mode with
  | .word read => ⟨.ofWord q read.reverse :: r.tokens, .between⟩
  | .closed read => ⟨.name (String.ofList read.reverse) :: r.tokens, .between⟩
  | _ => r

/-- Begins something with a character, behind some tokens. -/
def begin? (tokens : List Token) (c : Char) : Option Reading :=
  if c ∈ [' ', '\t', '\n', '\r'] then some ⟨tokens, .between⟩
  else if c.isAlpha then some ⟨tokens, .word [c.toLower]⟩
  else if c = '"' then some ⟨tokens, .quoted []⟩
  else if c = '%' then some ⟨tokens, .percent⟩
  else if c ∈ ['.', ',', '(', ')', '='] then some ⟨.mark c :: tokens, .between⟩
  else none

/-- Reads a character. -/
def step? (q : Quoting) (r : Reading) (c : Char) : Option Reading :=
  match r.mode with
  | .between => begin? r.tokens c
  | .word read =>
    if goesOn c then some ⟨r.tokens, .word (c.toLower :: read)⟩ else begin? (r.settled q).tokens c
  | .quoted read => some ⟨r.tokens, if c = '"' then .closed read else .quoted (c :: read)⟩
  | .closed read =>
    if c = '"' then some ⟨r.tokens, .quoted ('"' :: read)⟩ else begin? (r.settled q).tokens c
  | .percent => if c = 's' then some ⟨.place :: r.tokens, .between⟩ else none

/-- The tokens, at the end of a statement. -/
def tokens? (q : Quoting) (r : Reading) : Option (List Token) :=
  match (r.settled q).mode with
  | .between => some (r.settled q).tokens.reverse
  | _ => none

end Reading

/-- The tokens of a statement. -/
def tokens? (q : Quoting) (s : String) : Option (List Token) :=
  (s.toList.foldlM (Reading.step? q) Reading.start).bind (Reading.tokens? q)

namespace Reading

variable {q : Quoting} {ts : List Token} {name s : List Char} {c : Char}

/-! ## Names -/

theorem isLower_of_isWordStart (h : isWordStart c = true) : c.isLower = true := by
  obtain ⟨low, high⟩ := Bool.and_eq_true_iff.1 h
  have above : c.val ≥ 'a'.val := of_decide_eq_true low
  have below : c.val ≤ 'z'.val := of_decide_eq_true high
  exact Bool.and_eq_true_iff.2 ⟨decide_eq_true above, decide_eq_true below⟩

theorem isAlpha_of_isWordStart (h : isWordStart c = true) : c.isAlpha = true :=
  Bool.or_eq_true_iff.2 (.inr (isLower_of_isWordStart h))

theorem goesOn_of_isWordPart (h : isWordPart c = true) : goesOn c = true := by
  rw [isWordPart, Bool.or_eq_true] at h
  rw [goesOn, Bool.or_eq_true]
  refine h.imp_left fun alphanum => Bool.or_eq_true_iff.2 ?_
  exact (Bool.or_eq_true_iff.1 alphanum).imp_left isAlpha_of_isWordStart

/-- There are no capitals in words that stand bare. -/
theorem toLower_of_isWordPart (h : isWordPart c = true) : c.toLower = c := by
  have small : ¬(c.val ≥ 'A'.val ∧ c.val ≤ 'Z'.val) := by
    rintro ⟨low, high⟩
    rw [isWordPart, Bool.or_eq_true, Bool.or_eq_true] at h
    rcases h with (start | digit) | line
    · have above : 'a' ≤ c := of_decide_eq_true (Bool.and_eq_true_iff.1 start).1
      exact absurd (Char.le_trans above high) (by decide)
    · have below : c.val ≤ '9'.val := of_decide_eq_true (Bool.and_eq_true_iff.1 digit).2
      exact absurd (UInt32.le_trans low below) (by decide)
    · obtain rfl := beq_iff_eq.1 line
      exact absurd high (by decide)
  exact dif_neg small

theorem begin?_of_isWordStart (h : isWordStart c = true) : begin? ts c = some ⟨ts, .word [c]⟩ := by
  have part : isWordPart c = true := by simp [isWordPart, h]
  have notBlank : c ∉ [' ', '\t', '\n', '\r'] := by
    simp only [List.mem_cons, List.not_mem_nil, or_false]
    rintro (rfl | rfl | rfl | rfl) <;> cases h
  rw [begin?, if_neg notBlank, if_pos (isAlpha_of_isWordStart h), toLower_of_isWordPart part]

/-- A word is read as far as it goes. -/
theorem foldlM_word {word : List Char} (parts : ∀ c ∈ word, isWordPart c = true) (read : List Char) :
    word.foldlM (step? q) ⟨ts, .word read⟩ = some ⟨ts, .word (word.reverse ++ read)⟩ := by
  induction word generalizing read with
  | nil => rfl
  | cons c word ih =>
    obtain ⟨first, others⟩ := List.forall_mem_cons.1 parts
    rw [List.foldlM_cons, step?]
    dsimp only
    rw [if_pos (goesOn_of_isWordPart first), toLower_of_isWordPart first]
    exact (ih others (c :: read)).trans (by simp)

/-- A name in quotes is read up to its last quote, with the doubled ones undone. -/
theorem foldlM_doubled (name read : List Char) :
    (doubled name ++ ['"']).foldlM (step? q) ⟨ts, .quoted read⟩ =
      some ⟨ts, .closed (name.reverse ++ read)⟩ := by
  induction name generalizing read with
  | nil => rfl
  | cons c name ih =>
    rw [doubled_cons, List.append_assoc, List.foldlM_append]
    by_cases quote : c = '"'
    · subst quote
      exact (ih ('"' :: read)).trans (by simp)
    · rw [if_neg quote, List.foldlM_cons, step?]
      dsimp only
      rw [if_neg quote]
      exact (ih (c :: read)).trans (by simp)

/-- **A name is read back** if it does not end in a line feed. -/
theorem foldlM_nameChars (ts : List Token) (ends : name.getLast? ≠ some '\n') :
    ∃ r, (q.nameChars name).foldlM (step? q) ⟨ts, .between⟩ = some r ∧
      r.settled q = ⟨.name (String.ofList name) :: ts, .between⟩ := by
  rcases q.bare_or_enclosed name with ⟨word, free, same⟩ | same <;> rw [same]
  · obtain ⟨first, rest, start, parts, rfl | rfl⟩ := exists_of_isWord word
    · refine ⟨⟨ts, .word (rest.reverse ++ [first])⟩, ?_, ?_⟩
      · rw [List.foldlM_cons, step?]
        dsimp only
        rw [begin?_of_isWordStart start]
        exact foldlM_word parts [first]
      · simp [settled, Token.ofWord, free]
    · rw [← List.cons_append, List.getLast?_concat] at ends
      exact absurd rfl ends
  · refine ⟨⟨ts, .closed (name.reverse ++ [])⟩, ?_, by simp [settled]⟩
    exact foldlM_doubled name []

/-! ## Pieces -/

/-- Before a character that ends words and names, the reader may as well have ended them. -/
theorem step?_settled (r : Reading) (ends : delimits c = true) : r.step? q c = (r.settled q).step? q c := by
  obtain ⟨stops, notQuote⟩ := Bool.and_eq_true_iff.1 ends
  have stops : goesOn c = false := by simpa using stops
  have notQuote : c ≠ '"' := by simpa using notQuote
  rcases r with ⟨ts, _ | read | read | read | _⟩ <;> simp [step?, settled, stops, notQuote]

/-- What has been read, behind other tokens. -/
def after (r : Reading) (ts : List Token) : Reading :=
  ⟨r.tokens ++ ts, r.mode⟩

theorem begin?_append (us ts : List Token) (c : Char) :
    begin? (us ++ ts) c = (begin? us c).map (·.after ts) := by
  unfold begin?
  repeat' split
  all_goals rfl

/-- The tokens before do not matter for what is read. -/
theorem step?_append (us ts : List Token) (m : Mode) (c : Char) :
    step? q ⟨us ++ ts, m⟩ c = (step? q ⟨us, m⟩ c).map (·.after ts) := by
  cases m with
  | between => exact begin?_append us ts c
  | word read =>
    simp only [step?, settled]
    split
    · rfl
    · exact begin?_append (_ :: us) ts c
  | quoted read => rfl
  | closed read =>
    simp only [step?, settled]
    split
    · rfl
    · exact begin?_append (_ :: us) ts c
  | percent =>
    simp only [step?]
    split <;> rfl

theorem foldlM_append_tokens (us ts : List Token) (m : Mode) (s : List Char) :
    s.foldlM (step? q) ⟨us ++ ts, m⟩ = (s.foldlM (step? q) ⟨us, m⟩).map (·.after ts) := by
  induction s generalizing us m with
  | nil => rfl
  | cons c s ih =>
    rw [List.foldlM_cons, List.foldlM_cons, step?_append]
    cases step? q ⟨us, m⟩ c with
    | none => rfl
    | some r => exact ih r.tokens r.mode

end Reading

namespace Piece

open Reading

/-- The tokens that a text comes to, last first, if the reader is within nothing at its end. -/
def fixedTokens? (q : Quoting) (s : String) : Option (List Token) :=
  match s.toList.foldlM (step? q) start with
  | some ⟨ts, .between⟩ => some ts
  | _ => none

/-- The tokens that a piece comes to. -/
def tokens (q : Quoting) : Piece → List Token
  | fixed s => ((fixedTokens? q s).getD []).reverse
  | name n => [.name n]
  | place _ => [.place]

/-- Whether nothing follows, or a text that ends words and names. -/
def delimited : List Piece → Bool
  | [] => true
  | fixed s :: _ => s.toList.head?.any delimits
  | _ => false

/-- Whether texts come to tokens and names are delimited. -/
def isReadable (q : Quoting) : List Piece → Bool
  | [] => true
  | fixed s :: ps => (fixedTokens? q s).isSome && isReadable q ps
  | name _ :: ps => delimited ps && isReadable q ps
  | place _ :: ps => isReadable q ps

variable {q : Quoting} {ps : List Piece} {ts : List Token}

theorem foldlM_fixed {s : String} (readable : (fixedTokens? q s).isSome = true) :
    s.toList.foldlM (step? q) ⟨ts, .between⟩ = some ⟨(tokens q (fixed s)).reverse ++ ts, .between⟩ := by
  obtain ⟨us, fixes⟩ := Option.isSome_iff_exists.1 readable
  have reads : s.toList.foldlM (step? q) start = some ⟨us, .between⟩ := by
    rw [fixedTokens?] at fixes
    split at fixes
    · next reads => rw [reads, Option.some.inj fixes]
    · cases fixes
  have behind := foldlM_append_tokens (q := q) [] ts .between s.toList
  rw [show (⟨[], .between⟩ : Reading) = start from rfl, reads] at behind
  rw [tokens, fixes, Option.getD_some, List.reverse_reverse]
  exact behind

/-- What follows a name is read as if the reader had ended it. -/
theorem foldlM_settled {p : Piece} (r : Reading) (ends : delimited (p :: ps) = true) :
    ((p :: ps).flatMap (chars q)).foldlM (step? q) r = ((p :: ps).flatMap (chars q)).foldlM (step? q) (r.settled q) := by
  rw [List.flatMap_cons]
  cases p with
  | fixed s =>
    obtain ⟨c, first, delimits⟩ := (Option.any_eq_true _ _).1 ends
    obtain ⟨rest, eq⟩ := List.head?_eq_some_iff.1 first
    rw [chars, eq, List.cons_append, List.foldlM_cons, List.foldlM_cons, step?_settled r delimits]
  | name n => cases ends
  | place p => cases ends

/-- **The pieces of a statement come to their tokens** if texts do and names are delimited. -/
theorem foldlM_pieces (ts : List Token) (readable : isReadable q ps = true)
    (ends : ∀ n ∈ ps.filterMap name?, n.toList.getLast? ≠ some '\n') :
    ∃ r, (ps.flatMap (chars q)).foldlM (step? q) ⟨ts, .between⟩ = some r ∧
      r.settled q = ⟨(ps.flatMap (tokens q)).reverse ++ ts, .between⟩ := by
  induction ps generalizing ts with
  | nil => exact ⟨⟨ts, .between⟩, rfl, rfl⟩
  | cons p ps ih =>
    rw [List.flatMap_cons, List.foldlM_append, List.flatMap_cons, List.reverse_append, List.append_assoc]
    cases p with
    | fixed s =>
      obtain ⟨fixes, readable⟩ := Bool.and_eq_true_iff.1 readable
      rw [chars, foldlM_fixed fixes]
      exact ih _ readable ends
    | name n =>
      obtain ⟨delimits, readable⟩ := Bool.and_eq_true_iff.1 readable
      obtain ⟨first, others⟩ := List.forall_mem_cons.1 ends
      obtain ⟨r, reads, settles⟩ := Reading.foldlM_nameChars ts first
      rw [String.ofList_toList] at settles
      rw [chars, reads]
      cases ps with
      | nil => exact ⟨r, rfl, settles⟩
      | cons p ps =>
        -- The reader is still within the name, and gets out of it with the first character that follows.
        obtain ⟨u, later, same⟩ := ih (.name n :: ts) readable others
        refine ⟨u, ?_, same⟩
        rw [← later, ← settles]
        exact foldlM_settled r delimits
    | place p => exact ih _ readable ends

end Piece

/-! ## Statements -/

/-- The tokens of the place of a table. -/
def Location.tokens (l : Location) : List Token :=
  [.name l.keyspace, .mark '.', .name l.table]

namespace Command

/-- The tokens of the statement for a command. -/
def tokens (q : Quoting) (l : Location) (columns : Columns) (c : Command) : List Token :=
  let word (s : String) := Token.ofWord q s.toList
  let key := .name columns.partitionKey
  let name := .name columns.subscriptionKey
  let payload := .name columns.payload
  let inPartition := [word "where", key, .mark '=', .place]
  match c with
  | insert .. =>
    [word "insert", word "into"] ++ l.tokens ++
      [.mark '(', key, .mark ',', name, .mark ',', payload, .mark ')', word "values", .mark '(', .place,
        .mark ',', .place, .mark ',', .place, .mark ')', word "using", word "ttl", .place]
  | delete _ =>
    [word "delete", word "from"] ++ l.tokens ++ inPartition ++
      [word "and", name, .mark '=', .place]
  | get _ =>
    [word "select", name, .mark ',', payload, word "from"] ++ l.tokens ++ inPartition ++
      [word "and", name, .mark '=', .place]
  | list =>
    [word "select", name, .mark ',', payload, word "from"] ++ l.tokens ++ inPartition
  | names => [word "select", name, word "from"] ++ l.tokens ++ inPartition

variable (q : Quoting) (l : Location) (columns : Columns) (c : Command)

theorem isReadable_pieces : Piece.isReadable q (c.pieces l columns) = true := by
  cases c <;> rfl

theorem flatMap_tokens_pieces : (c.pieces l columns).flatMap (Piece.tokens q) = c.tokens q l columns := by
  cases c <;> rfl

variable {q l columns c}

/-- **Whatever the names are, the statement reads as it should**: each is read back at its place, and
nothing else of the statement is changed by them.  Different names stay different in statements. -/
theorem tokens?_text_eq
    (ends : ∀ n ∈ c.identifiers l columns, n.toList.getLast? ≠ some '\n') :
    tokens? q (c.text q l columns) = some (c.tokens q l columns) ∧
      ∀ a b : String, a ≠ b → q.protect a ≠ q.protect b := by
  refine ⟨?_, fun a b differ same => differ (Quoting.protect_injective same)⟩
  obtain ⟨r, reads, settles⟩ := Piece.foldlM_pieces [] (isReadable_pieces q l columns c) ends
  have reads : (c.text q l columns).toList.foldlM (Reading.step? q) .start = some r := by
    rw [toList_text]
    exact reads
  rw [tokens?, reads, Option.bind_some, Reading.tokens?, settles, flatMap_tokens_pieces]
  simp

/-- Names with quotes, dots and places in them, a reserved word, capitals, and no characters at all. -/
theorem tokens?_text_eq_odd :
    let l : Location := ⟨"a\".b", "select"⟩
    let columns : Columns := ⟨"", "%s, \"\"", "Key"⟩
    (∀ n ∈ list.identifiers l columns, n.toList.getLast? ≠ some '\n') ∧
      list.text .standard l columns =
        "SELECT \"%s, \"\"\"\"\", \"Key\" FROM \"a\"\".b\".\"select\" WHERE \"\" = %s" ∧
      tokens? .standard (list.text .standard l columns) =
        some [.keyword "select", .name "%s, \"\"", .mark ',', .name "Key", .keyword "from",
          .name "a\".b", .mark '.', .name "select", .keyword "where", .name "", .mark '=', .place] := by
  have ends : ∀ n ∈ list.identifiers ⟨"a\".b", "select"⟩ ⟨"", "%s, \"\"", "Key"⟩,
      n.toList.getLast? ≠ some '\n' := by decide
  exact ⟨ends, by decide, (tokens?_text_eq ends).1⟩

end Command

end EventRoster.Cql
