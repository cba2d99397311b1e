import EventRoster.Proofs.Text.Cut
import EventRoster.Proofs.Text.Utf8
import EventRoster.StoreUrl.Percent

/-!
# Values as they are written in a query

Any text may be written as a value.  Each of its characters is there by itself, if it is one of those
that may be, as a plus sign, if it is a space, or as its bytes in hexadecimal digits of either case,
with a percent sign before each.  Whichever way is chosen for each character, the text is read back,
since all that is written is ASCII and the bytes are read together.

* `unescapeQuery_of_escapes`: a text is read back from what is written for it.
* `queryPairs_fields`: the fields of a query that have a value are read back.
-/

namespace EventRoster.StoreUrl

open EventRoster.Text

/-! ## Writing a text -/

/-- Whether a character may be there by itself in a value. -/
def standsForItself (c : Char) : Bool :=
  0x20 < c.toNat && c.toNat < 0x7f && !(['%', '&', '+', '#'].contains c)

/-- Whether what is written for a value may hold a character. -/
def isWritten (c : Char) : Bool :=
  0x20 < c.toNat && c.toNat < 0x7f && !(['&', '#'].contains c)

/-- The hexadecimal digits of a value below sixteen, in either case. -/
def hexDigits (n : Nat) : List Char :=
  [hexDigit n, (hexDigit n).toUpper]

/-- What is written for some bytes. -/
inductive WritesBytes : List Char → List UInt8 → Prop
  | nil : WritesBytes [] []
  | cons {high low : Char} {b : UInt8} {s : List Char} {bytes : List UInt8} :
    high ∈ hexDigits (b.toNat / 16) → low ∈ hexDigits (b.toNat % 16) → WritesBytes s bytes →
      WritesBytes ('%' :: high :: low :: s) (b :: bytes)

/-- What is written for a text. -/
inductive Escapes : List Char → List Char → Prop
  | nil : Escapes [] []
  | itself {c : Char} {s t : List Char} :
    standsForItself c = true → Escapes s t → Escapes (c :: s) (c :: t)
  | space {s t : List Char} : Escapes s t → Escapes ('+' :: s) (' ' :: t)
  | bytes {c : Char} {e s t : List Char} :
    WritesBytes e (String.utf8EncodeChar c) → Escapes s t → Escapes (e ++ s) (c :: t)

variable {c : Char} {n : Nat} {e s t : List Char} {bytes : List UInt8}

/-- A text of characters that may be there by themselves. -/
theorem Escapes.self (h : ∀ c ∈ s, standsForItself c = true) : Escapes s s := by
  induction s with
  | nil => exact .nil
  | cons c s ih =>
    exact .itself (h c List.mem_cons_self) (ih fun d hd => h d (List.mem_cons_of_mem c hd))

theorem hexValue?_of_mem_hexDigits (lt : n < 16) (h : c ∈ hexDigits n) :
    hexValue? c = some n := by
  have all : ∀ n : Fin 16, (hexDigits n).all (hexValue? · == some n.1) = true := by decide
  exact eq_of_beq (List.all_eq_true.1 (all ⟨n, lt⟩) c h)

theorem isWritten_of_mem_hexDigits (lt : n < 16) (h : c ∈ hexDigits n) :
    isWritten c = true ∧ c ≠ '+' := by
  have all : ∀ n : Fin 16, (hexDigits n).all (fun c => isWritten c && c != '+') = true := by decide
  simpa using List.all_eq_true.1 (all ⟨n, lt⟩) c h

theorem isWritten_of_standsForItself (h : standsForItself c = true) :
    isWritten c = true ∧ c ≠ '%' ∧ c ≠ '+' ∧ c.toNat < 128 := by
  simp only [standsForItself, Bool.and_eq_true, decide_eq_true_eq, Bool.not_eq_true',
    List.contains_eq_mem, decide_eq_false_iff_not, List.mem_cons, List.not_mem_nil, not_or,
    isWritten] at h ⊢
  obtain ⟨⟨low, high⟩, percent, ampersand, plus, hash, -⟩ := h
  exact ⟨⟨⟨low, high⟩, ampersand, hash, not_false⟩, percent, plus, by omega⟩

theorem WritesBytes.isWritten (h : WritesBytes e bytes) : ∀ c ∈ e, isWritten c = true := by
  induction h with
  | nil => exact List.forall_mem_nil _
  | @cons _ _ b _ _ high low _ ih =>
    have lt := b.toNat_lt
    refine List.forall_mem_cons.2 ⟨by decide, List.forall_mem_cons.2 ⟨?_, List.forall_mem_cons.2 ⟨?_, ih⟩⟩⟩
    · exact (isWritten_of_mem_hexDigits (by omega) high).1
    · exact (isWritten_of_mem_hexDigits (by omega) low).1

/-- What is written for a text is visible and holds no delimiter of a query. -/
theorem Escapes.isWritten (h : Escapes s t) : ∀ c ∈ s, isWritten c = true := by
  induction h with
  | nil => exact List.forall_mem_nil _
  | itself stands _ ih =>
    exact List.forall_mem_cons.2 ⟨(isWritten_of_standsForItself stands).1, ih⟩
  | space _ ih => exact List.forall_mem_cons.2 ⟨by decide, ih⟩
  | bytes writes _ ih =>
    intro c hc
    rcases List.mem_append.1 hc with hc | hc
    · exact writes.isWritten c hc
    · exact ih c hc

/-! ## Reading it -/

/-- A plus sign as a space. -/
def plusAsSpace (c : Char) : Char :=
  if c = '+' then ' ' else c

theorem plusAsSpace_of_ne (h : c ≠ '+') : plusAsSpace c = c := if_neg h

theorem unescapeAfter_ascii {pending : List UInt8} (h : c ≠ '%') (ascii : c.toNat < 128) :
    unescapeAfter pending (c :: s) = unescapeAfter (UInt8.ofNat c.toNat :: pending) s := by
  rw [unescapeAfter, if_pos ascii]
  rintro a b rest rfl
  exact absurd rfl h

/-- Bytes are read as they are written. -/
theorem unescapeAfter_of_writesBytes (h : WritesBytes e bytes) (pending : List UInt8)
    (rest : List Char) :
    unescapeAfter pending (e.map plusAsSpace ++ rest) =
      unescapeAfter (bytes.reverse ++ pending) rest := by
  induction h generalizing pending with
  | nil => rfl
  | @cons high low b s bytes isHigh isLow _ ih =>
    have lt := b.toNat_lt
    have highLt : b.toNat / 16 < 16 := by omega
    have lowLt : b.toNat % 16 < 16 := by omega
    have whole : UInt8.ofNat (b.toNat / 16 * 16 + b.toNat % 16) = b := by
      rw [Nat.div_add_mod', UInt8.ofNat_toNat]
    rw [List.map_cons, List.map_cons, List.map_cons, plusAsSpace_of_ne (c := '%') (by decide),
      plusAsSpace_of_ne (isWritten_of_mem_hexDigits highLt isHigh).2,
      plusAsSpace_of_ne (isWritten_of_mem_hexDigits lowLt isLow).2,
      List.cons_append, List.cons_append, List.cons_append, unescapeAfter,
      hexValue?_of_mem_hexDigits highLt isHigh, hexValue?_of_mem_hexDigits lowLt isLow]
    dsimp only
    rw [whole, ih, List.reverse_cons, List.append_assoc, List.singleton_append]

/-- What is written for a text adds the bytes of the text to those that wait to be read. -/
theorem unescapeAfter_of_escapes (h : Escapes s t) (pending : List UInt8) :
    unescapeAfter pending (s.map plusAsSpace) =
      Utf8.decodeReplacing (pending.reverse ++ Utf8.encode t) := by
  have reading {c : Char} {s t : List Char} (ascii : c.toNat < 128) (ne : c ≠ '%')
      (ih : ∀ pending, unescapeAfter pending (s.map plusAsSpace) =
        Utf8.decodeReplacing (pending.reverse ++ Utf8.encode t)) (pending : List UInt8) :
      unescapeAfter pending (c :: s.map plusAsSpace) =
        Utf8.decodeReplacing (pending.reverse ++ Utf8.encode (c :: t)) := by
    rw [unescapeAfter_ascii ne ascii, ih, List.reverse_cons, List.append_assoc, Utf8.encode,
      Utf8.encode, List.flatMap_cons, Utf8.utf8EncodeChar_of_ascii ascii]
  induction h generalizing pending with
  | nil => simp [unescapeAfter, Utf8.encode]
  | itself stands _ ih =>
    obtain ⟨-, percent, plus, ascii⟩ := isWritten_of_standsForItself stands
    rw [List.map_cons, plusAsSpace_of_ne plus]
    exact reading ascii percent ih pending
  | space _ ih => exact reading (by decide) (by decide) ih pending
  | bytes writes _ ih =>
    rw [List.map_append, unescapeAfter_of_writesBytes writes, ih, List.reverse_append,
      List.reverse_reverse, List.append_assoc, Utf8.encode, Utf8.encode, List.flatMap_cons]

/-- **A text is read back from what is written for it.** -/
theorem unescapeQuery_of_escapes (h : Escapes s t) : unescapeQuery s = t := by
  have read := unescapeAfter_of_escapes h []
  rw [List.reverse_nil, List.nil_append, Utf8.decodeReplacing_encode] at read
  exact read

theorem Escapes.eq_nil (h : Escapes s []) : s = [] := by
  cases h
  rfl

/-! ## Fields -/

/-- A text and what is written for it. -/
structure Value where
  text : List Char
  spelled : List Char
  escapes : Escapes spelled text

theorem Value.spelled_eq_nil_iff (v : Value) : v.spelled = [] ↔ v.text = [] := by
  constructor
  · intro empty
    have read := unescapeQuery_of_escapes v.escapes
    rw [empty] at read
    rw [← read]
    exact unescapeQuery_of_escapes .nil
  · intro empty
    exact (empty ▸ v.escapes).eq_nil

/-- The fields that a query may have. -/
inductive Field
  | table
  | localDc
deriving DecidableEq

/-- The name of a field. -/
def Field.name : Field → String
  | table => "table"
  | localDc => "local_dc"

theorem Field.stands (field : Field) :
    (∀ c ∈ field.name.toList, standsForItself c = true) ∧ '=' ∉ field.name.toList := by
  have all : field.name.toList.all standsForItself = true ∧ '=' ∉ field.name.toList := by
    cases field <;> decide
  exact ⟨List.all_eq_true.1 all.1, all.2⟩

/-- A field as it is written. -/
def fieldText (field : Field × Value) : List Char :=
  field.1.name.toList ++ '=' :: field.2.spelled

/-- A query with some fields. -/
def queryText (fields : List (Field × Value)) : List Char :=
  ['&'].intercalate (fields.map fieldText)

theorem isWritten_fieldText (field : Field × Value) : ∀ c ∈ fieldText field, isWritten c = true := by
  intro c hc
  rcases List.mem_append.1 hc with hc | hc
  · exact (isWritten_of_standsForItself (field.1.stands.1 c hc)).1
  · rcases List.mem_cons.1 hc with rfl | hc
    · decide
    · exact field.2.escapes.isWritten c hc

/-- A field is read back if it has a value. -/
theorem queryPair?_fieldText (field : Field × Value) :
    queryPair? (fieldText field) =
      if field.2.text = [] then none else some (field.1.name.toList, field.2.text) := by
  obtain ⟨stands, noEquals⟩ := field.1.stands
  rw [queryPair?, fieldText, cut?_append noEquals]
  by_cases empty : field.2.text = []
  · rw [if_pos empty, field.2.spelled_eq_nil_iff.2 empty]
  · rw [if_neg empty]
    obtain ⟨c, rest, spelled⟩ :=
      List.exists_cons_of_ne_nil (mt field.2.spelled_eq_nil_iff.1 empty)
    have name := unescapeQuery_of_escapes (.self stands)
    have value := unescapeQuery_of_escapes field.2.escapes
    rw [spelled] at value ⊢
    dsimp only
    rw [name, value]

theorem filterMap_queryPair? (fields : List (Field × Value)) :
    (fields.map fieldText).filterMap queryPair? =
      (fields.filter (·.2.text ≠ [])).map fun field => (field.1.name.toList, field.2.text) := by
  induction fields with
  | nil => rfl
  | cons field fields ih =>
    rw [List.map_cons, List.filterMap_cons, queryPair?_fieldText]
    by_cases empty : field.2.text = [] <;> simp [empty, ih]

/-- **The fields of a query are read back**, but for those without a value. -/
theorem queryPairs_queryText (fields : List (Field × Value)) :
    queryPairs (queryText fields) =
      (fields.filter (·.2.text ≠ [])).map fun field => (field.1.name.toList, field.2.text) := by
  rw [queryPairs, queryText, ← filterMap_queryPair?]
  cases fields with
  | nil => rfl
  | cons field fields =>
    have noAmpersand : ∀ piece ∈ (field :: fields).map fieldText, '&' ∉ piece := by
      rintro _ hp ampersand
      obtain ⟨field, -, rfl⟩ := List.mem_map.1 hp
      exact absurd (isWritten_fieldText field _ ampersand) (by decide)
    have ne : (field :: fields).map fieldText ≠ [] := List.cons_ne_nil _ _
    rw [splitAt_intercalate ne noAmpersand]

/-! ## Queries -/

/-- The fields of a query, each of which may be there or not, in their order. -/
structure Query where
  table : Option Value
  localDc : Option Value

/-- The field that is there for a name. -/
def Query.value? (q : Query) : Field → Option Value
  | .table => q.table
  | .localDc => q.localDc

/-- The fields that are there. -/
def Query.fields (q : Query) : List (Field × Value) :=
  (q.table.map (Field.table, ·)).toList ++ (q.localDc.map (Field.localDc, ·)).toList

/-- A query as it is written. -/
def Query.text (q : Query) : List Char :=
  queryText q.fields

/-- A query is visible and holds no hash sign. -/
theorem visible_text (q : Query) : ∀ c ∈ q.text, 0x20 < c.toNat ∧ c ≠ '#' := by
  refine forall_mem_intercalate (by decide) fun piece hp c hc => ?_
  obtain ⟨field, -, rfl⟩ := List.mem_map.1 hp
  have written := isWritten_fieldText field c hc
  refine ⟨?_, fun hash => absurd (hash ▸ written) (by decide)⟩
  simp only [isWritten, Bool.and_eq_true, decide_eq_true_eq] at written
  exact written.1.1

/-- A text, if it is there and is not empty. -/
def given (s : Option (List Char)) : Option String :=
  s.bind fun s => if s = [] then none else some (String.ofList s)

theorem queryPairs_text (q : Query) :
    queryPairs q.text =
      ((given (q.table.map Value.text)).map (Field.table.name.toList, ·.toList)).toList ++
        ((given (q.localDc.map Value.text)).map (Field.localDc.name.toList, ·.toList)).toList := by
  have one (field : Field) (v : Option Value) :
      (((v.map (field, ·)).toList.filter (·.2.text ≠ [])).map fun g => (g.1.name.toList, g.2.text)) =
        ((given (v.map Value.text)).map (field.name.toList, ·.toList)).toList := by
    cases v with
    | none => rfl
    | some v => by_cases empty : v.text = [] <;> simp [given, empty]
  rw [Query.text, queryPairs_queryText, Query.fields, List.filter_append, List.map_append, one, one]

/-- **The last value in a query is that of its field**, if it is not empty. -/
theorem lastValue?_text (q : Query) (field : Field) :
    lastValue? q.text field.name = given ((q.value? field).map Value.text) := by
  have names : (Field.table.name.toList == Field.localDc.name.toList) = false ∧
      (Field.localDc.name.toList == Field.table.name.toList) = false := by decide
  rw [lastValue?, queryPairs_text]
  cases field with
  | table =>
    show _ = given (q.table.map Value.text)
    cases given (q.table.map Value.text) <;> cases given (q.localDc.map Value.text) <;> simp [names]
  | localDc =>
    show _ = given (q.localDc.map Value.text)
    cases given (q.table.map Value.text) <;> cases given (q.localDc.map Value.text) <;> simp [names]

end EventRoster.StoreUrl
