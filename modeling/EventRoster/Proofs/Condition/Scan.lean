import EventRoster.Proofs.Condition.Literals
import EventRoster.Proofs.Json.Grammar

/-!
# The scan for the closing quote keeps step with JSON

A string in a condition is scanned twice: by a loop that looks for its closing quote, and by the reader
of JSON, which is given the piece that the loop has cut out.  The loop knows one thing about escapes,
that a backslash takes the next code point with it.  The reader takes six characters for a code unit and
twelve for a surrogate pair, and stops at what is no escape.

The two agree because the loop never sees the difference: no escape that the reader takes has a quote
or a backslash behind its second character, other than the backslash that begins the second half of a
pair.  So whenever the reader is done with an escape, the loop has gone over it as well
(`scanString_of_takeEscape`), and where the reader stops it stops before the quote that the loop has
found (`breaksOff_of_takeBody`).

* `KeepsStep`: what it is for the two to agree about the string after an opening quote.
* `keepsStep`: they agree after every opening quote.
-/

namespace EventRoster.Condition

open EventRoster.Text

section Escapes

variable {s inside after : List CodePoint}

/-- Behind a piece that the scan goes over, it finds the same quote. -/
theorem Scans.scanString_of_append {piece : List CodePoint} (h : Scans piece)
    (scanned : scanString (piece ++ s) = some (inside, after)) :
    ∃ inside', scanString s = some (inside', after) := by
  rw [h] at scanned
  obtain ⟨⟨inside', after'⟩, found, eq⟩ := Option.map_eq_some_iff.1 scanned
  cases eq
  exact ⟨inside', found⟩

/-- **Behind an escape that was read, the scan finds the same quote** as before it. -/
theorem scanString_of_takeEscape {opened : Nat} {c : CodePoint} {rest : List CodePoint}
    (scanned : scanString (.char '\\' :: s) = some (inside, after))
    (h : Took (Json.Text.takeEscape opened s) c rest) :
    ∃ inside', scanString rest = some (inside', after) := by
  rcases Json.Text.eq_of_takeEscape h with ⟨l, -, rfl⟩ | ⟨piece, unit, front, -⟩ |
    ⟨first, second, high, low, unit, -, unit', -, front, -⟩
  · exact (scans_pair l).scanString_of_append scanned
  · rw [front] at scanned
    exact (scans_of_isUnit unit).scanString_of_append scanned
  · rw [front, ← List.append_assoc] at scanned
    exact ((scans_of_isUnit unit).append (scans_of_isUnit unit')).scanString_of_append scanned

end Escapes

/-! ## Where the reader stops -/

/-- The ways in which a text between quotes fails to be a string. -/
def insideProblems : List Json.Problem :=
  [.badEscape, .badUnicodeEscape, .controlCharacter]

/-- A fault of a string that is noticed with at least `least` and at most `most` code points left. -/
def BreaksOff (least most : Nat) (e : Json.Fault) : Prop :=
  ∃ problem left, e = .malformed problem left ∧ problem ∈ insideProblems ∧ least ≤ left ∧ left ≤ most

theorem BreaksOff.mono {least most most' : Nat} {e : Json.Fault} (h : BreaksOff least most e)
    (le : most ≤ most') : BreaksOff least most' e := by
  obtain ⟨problem, left, rfl, listed, least, most⟩ := h
  exact ⟨problem, left, rfl, listed, least, by omega⟩

section Faults

variable {s inside after : List CodePoint} {e : Json.Fault}

/-- A second half of a pair with a wrong digit is noticed before the quote. -/
theorem breaksOff_of_takeLow? (scanned : scanString s = some (inside, after))
    (h : Json.Text.takeLow? s = .error e) : BreaksOff (after.length + 2) s.length e := by
  unfold Json.Text.takeLow? at h
  split at h
  · next digits =>
    split at h
    · cases h
    · split at h
      · cases h
        obtain ⟨inside', found⟩ := (scans_pair 'u').scanString_of_append scanned
        have shorter := scanString_length found
        exact ⟨_, _, rfl, by simp [insideProblems], by omega, by simp⟩
      · split at h <;> cases h
  · cases h

/-- An escape of a code unit that stands for nothing is noticed before the quote. -/
theorem breaksOff_of_takeUnicode (scanned : scanString (.char '\\' :: .char 'u' :: s) = some (inside, after))
    (h : Json.Text.takeUnicode s = .error e) : BreaksOff (after.length + 2) (s.length + 1) e := by
  unfold Json.Text.takeUnicode at h
  split at h
  · cases h
    obtain ⟨inside', found⟩ := (scans_pair 'u').scanString_of_append scanned
    have shorter := scanString_length found
    exact ⟨_, _, rfl, by simp [insideProblems], by omega, le_rfl⟩
  · next n rest found =>
    obtain ⟨piece, unit, front, -⟩ := Json.Text.eq_of_takeUnit? found
    have shorter := Json.Text.takeUnit?_length found
    split at h
    · split at h
      · next low =>
        cases h
        rw [front] at scanned
        obtain ⟨inside', found'⟩ := (scans_of_isUnit unit).scanString_of_append scanned
        exact (breaksOff_of_takeLow? found' low).mono (by omega)
      · cases h
      · cases h
    · cases h

/-- An escape that stands for nothing is noticed before the quote. -/
theorem breaksOff_of_takeEscape {opened : Nat}
    (scanned : scanString (.char '\\' :: s) = some (inside, after))
    (h : Json.Text.takeEscape opened s = .error e) :
    BreaksOff (after.length + 2) (s.length + 1) e := by
  unfold Json.Text.takeEscape at h
  split at h
  · cases scanned
  · next l s =>
    split at h
    · next isUnit =>
      subst isUnit
      split at h
      · next unicode =>
        cases h
        exact (breaksOff_of_takeUnicode scanned unicode).mono (by simp)
      · cases h
    · split at h
      · cases h
      · cases h
        obtain ⟨inside', found⟩ := (scans_pair l).scanString_of_append scanned
        have shorter := scanString_length found
        exact ⟨_, _, rfl, by simp [insideProblems], by omega, by simp⟩

/-- **Where the scan finds a quote, the reader does not miss it**: what it stops at is a bad escape or a
raw control character before the quote.  The induction is on the steps of the reader; the scan is at the
same place after each of them. -/
theorem breaksOff_of_takeBody {opened : Nat} (scanned : scanString s = some (inside, after))
    (h : Json.Text.takeBody opened s = .error e) : BreaksOff (after.length + 2) s.length e := by
  fun_induction Json.Text.takeBody opened s generalizing inside with
  | case1 => cases scanned
  | case2 => cases h
  | case3 rest e' escaped =>
    cases h
    exact (breaksOff_of_takeEscape scanned escaped).mono (by simp)
  | case4 rest escaped took e' body _ ih =>
    cases h
    obtain ⟨inside', found⟩ := scanString_of_takeEscape scanned ⟨escaped.shorter, took⟩
    have shorter := escaped.shorter
    exact (ih found body).mono (by simp only [List.length_cons]; omega)
  | case5 => cases h
  | case6 c rest quote backslash control =>
    cases h
    obtain ⟨inside', found⟩ := (scans_singleton quote backslash).scanString_of_append scanned
    have shorter := scanString_length found
    exact ⟨_, _, rfl, by simp [insideProblems], by omega, by simp⟩
  | case7 c rest quote backslash control e' body ih =>
    cases h
    obtain ⟨inside', found⟩ := (scans_singleton quote backslash).scanString_of_append scanned
    exact (ih found body).mono (by simp)
  | case8 => cases h

end Faults

/-! ## The piece that is cut out -/

/-- What the scan goes over before the quote that it finds, it goes over anywhere. -/
theorem scans_of_scanString {s inside after : List CodePoint}
    (h : scanString s = some (inside, after)) : Scans inside := by
  fun_induction scanString s generalizing inside after with
  | case1 => cases h
  | case2 =>
    cases h
    exact scans_nil
  | case3 => cases h
  | case4 d rest _ ih =>
    obtain ⟨⟨i, a⟩, scanned, eq⟩ := Option.map_eq_some_iff.1 h
    cases eq
    exact (scans_pair d).append (ih scanned)
  | case5 c rest quote backslash ih =>
    obtain ⟨⟨i, a⟩, scanned, eq⟩ := Option.map_eq_some_iff.1 h
    cases eq
    exact (scans_singleton quote backslash).append (ih scanned)

/-- What the scan has gone over, between its quotes. -/
def cutOut (inside : List CodePoint) : List CodePoint :=
  .char '"' :: (inside ++ [.char '"'])

/-- The whole piece is a string, read to its last code point and with nothing behind it. -/
def IsReadWhole (inside : List CodePoint) : Prop :=
  ∃ value, Json.Text.Spells inside value ∧
    Took (Json.takeValue (cutOut inside)) (.text (Text.ofList value)) [] ∧
    Json.readText (cutOut inside) = .ok (.text (Text.ofList value))

/-- The reader stops within the piece, behind its first quote and before its last. -/
def IsRefusedWithin (inside : List CodePoint) : Prop :=
  ∃ e, Json.readText (cutOut inside) = .error e ∧ BreaksOff 2 (inside.length + 1) e

section Piece

variable {inside : List CodePoint}

/-- What the scan goes over is the inside of a string, unless the reader stops in it. -/
theorem spells_or_breaksOff (h : Scans inside) :
    (∃ value, Json.Text.Spells inside value) ∨
      ∃ e, Json.Text.takeBody ((inside ++ [CodePoint.char '"']).length + 1) (inside ++ [.char '"']) =
          .error e ∧
        BreaksOff 2 (inside.length + 1) e := by
  have scanned : scanString (inside ++ [.char '"']) = some (inside, []) := h.scanString_eq []
  cases reads : Json.Text.takeBody ((inside ++ [CodePoint.char '"']).length + 1) (inside ++ [.char '"']) with
  | ok body =>
    obtain ⟨inside', spelled, eq⟩ := Json.Text.spells_of_takeBody ⟨body.shorter, reads⟩
    -- The scan of the piece has one answer, and finds the end of the string that was read.
    rw [eq, (scans_of_spells spelled).scanString_eq, Option.some.injEq, Prod.mk.injEq] at scanned
    exact .inl ⟨body.value, scanned.1 ▸ spelled⟩
  | error e =>
    have within := breaksOff_of_takeBody scanned reads
    rw [List.length_append] at within
    exact .inr ⟨e, rfl, within⟩

/-- The inside of a string, between its quotes, is the text of it. -/
theorem padded_cutOut {value : List CodePoint} (h : Json.Text.Spells inside value) :
    Json.Padded (cutOut inside) (.text (Text.ofList value)) := by
  have around := Json.Padded.mk .nil (.text h) .nil
  rwa [List.append_nil, List.nil_append] at around

/-- A string is read whole. -/
theorem isReadWhole_of_spells {value : List CodePoint} (h : Json.Text.Spells inside value) :
    IsReadWhole inside := by
  have took := (Json.Denotes.text h).took [] bars_nil
  rw [List.append_nil] at took
  exact ⟨value, h, took, Json.readText_eq_ok_iff.2 (padded_cutOut h)⟩

/-- A fault of the inside of a text in quotes is one of the text. -/
theorem readText_of_takeBody {u : List CodePoint} {e : Json.Fault}
    (h : Json.Text.takeBody (u.length + 1) u = .error e) : Json.readText (.char '"' :: u) = .error e := by
  have string : Json.takeString .expectingValue (.char '"' :: u) = .error e := by
    rw [Json.takeString, if_pos rfl, h]
  have visible : Json.skipSpace (.char '"' :: u) = .char '"' :: u :=
    Json.skipSpace_of_bars (bars_cons.2 (by decide))
  have value : Json.takeValue (Json.skipSpace (.char '"' :: u)) = .error e := by
    rw [visible, Json.takeValue, if_pos rfl, string]
  have mark : ∀ v, .char '"' :: u ≠ .char '\ufeff' :: v := by
    intro v eq
    exact absurd (List.cons.inj eq).1 (by decide)
  rw [Json.readText, Json.read, value]
  exact mark

/-- What a piece that the scan goes over is to the reader of JSON. -/
theorem isReadWhole_or_isRefusedWithin (h : Scans inside) :
    IsReadWhole inside ∨ IsRefusedWithin inside := by
  rcases spells_or_breaksOff h with ⟨value, spelled⟩ | ⟨e, fault, within⟩
  · exact .inl (isReadWhole_of_spells spelled)
  · exact .inr ⟨e, readText_of_takeBody fault, within⟩

/-- The reader of pieces is the reader of JSON on all that the scan cuts out. -/
theorem readText_cutOut (h : Scans inside) :
    Json.readText (cutOut inside) = (readPiece (cutOut inside)).map Json.text := by
  rcases spells_or_breaksOff h with ⟨value, spelled⟩ | ⟨e, fault, -⟩
  · have whole := Json.readText_eq_ok_iff.2 (padded_cutOut spelled)
    rw [whole, cutOut, readPiece_of_spells spelled]
    rfl
  · have piece : readPiece (cutOut inside) = .error e := by
      rw [cutOut, readPiece, Json.takeString, if_pos rfl, fault]
    rw [piece, cutOut, readText_of_takeBody fault]
    rfl

end Piece

/-! ## Both scans -/

/-- The scan and the reader of JSON agree about the string that an opening quote may begin.  What stands
behind the quote is `s`, wherever in a text the quote is. -/
structure KeepsStep (s : List CodePoint) : Prop where
  /-- Where a string begins, the scan finds its end, neither before it nor behind it. -/
  finds : ∀ inside value after, Json.Text.Spells inside value → s = inside ++ .char '"' :: after →
    scanString s = some (inside, after)
  /-- Where the reader ends a string, the scan ends it. -/
  ends : ∀ missing name after, Took (Json.takeString missing (.char '"' :: s)) name after →
    ∃ inside, scanString s = some (inside, after)
  /-- What the scan cuts out is the text up to a quote: a whole string, or one that the reader refuses
  for what stands inside. -/
  cuts : ∀ inside after, scanString s = some (inside, after) →
    s = inside ++ .char '"' :: after ∧ (IsReadWhole inside ∨ IsRefusedWithin inside)
  /-- The literal is what the reader of JSON makes of what is cut out. -/
  reads : ∀ inside after, scanString s = some (inside, after) →
    Json.readText (cutOut inside) = (readPiece (cutOut inside)).map Json.text

/-- **The scan keeps step with the reader of JSON**, whatever stands behind the opening quote. -/
theorem keepsStep (s : List CodePoint) : KeepsStep s where
  finds := by
    rintro inside value after spelled rfl
    exact (scans_of_spells spelled).scanString_eq after
  ends missing name after took := by
    obtain ⟨inside, value, spelled, -, eq⟩ := Json.took_takeString_iff.1 took
    cases eq
    exact ⟨inside, (scans_of_spells spelled).scanString_eq after⟩
  cuts inside after scanned :=
    ⟨eq_of_scanString scanned, isReadWhole_or_isRefusedWithin (scans_of_scanString scanned)⟩
  reads inside after scanned := readText_cutOut (scans_of_scanString scanned)

end EventRoster.Condition
