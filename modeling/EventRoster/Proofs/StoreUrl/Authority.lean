import EventRoster.Proofs.StoreUrl.Written

/-!
# Sound authorities

An authority is refused if its brackets do not enclose an address that may stand there, or if it holds
a character that stands for a delimiter.  The check cuts the authority at its delimiters, one after the
other.  What it lets through is said here without cutting: `HostPart` and `Encloses` relate an authority
to the host that is taken for the enclosed one, however the authority is put together.

Brackets need not be where they belong.  It is enough that there are brackets of both kinds somewhere in
the authority, so that the closing one, or both, may be a part of the credentials.

* `checkBracketed_eq_ok_iff`: the hosts that may stand in brackets.
* `checkAuthority_eq_ok_iff`: the authorities that pass.
-/

namespace EventRoster.StoreUrl

open EventRoster.Text

/-- What stands behind the last at sign of an authority, or all of it if there is none. -/
inductive HostPart : List Char → List Char → Prop
  | whole {part : List Char} : '@' ∉ part → HostPart part part
  | behind {login part : List Char} : '@' ∉ part → HostPart (login ++ '@' :: part) part

/-- The host that is taken for the enclosed one.  The brackets stand around it, with nothing but a port
behind them; or the closing one is missing here, or both are. -/
inductive Encloses : List Char → List Char → Prop
  | whole {host : List Char} : ']' ∉ host → Encloses ('[' :: (host ++ [']'])) host
  | port {host rest : List Char} : ']' ∉ host → Encloses ('[' :: (host ++ ']' :: ':' :: rest)) host
  | opened {host : List Char} : ']' ∉ host → Encloses ('[' :: host) host
  | bare {host : List Char} (port : Option (List Char)) :
    '[' ∉ host ++ after ':' port → ':' ∉ host → Encloses (host ++ after ':' port) host

/-- An authority with brackets has both kinds of them, and what they enclose is an address that may
stand there; and no character stands for a delimiter. -/
structure IsSound (authority : List Char) : Prop where
  paired : '[' ∈ authority ↔ ']' ∈ authority
  enclosed : '[' ∈ authority → ∃ part host, HostPart authority part ∧ Encloses part host ∧
    (isFutureAddress host = true ∨ isAddress6 host = true)
  shown : ∀ c ∈ authority, hidesDelimiter c = false

/-! ## Hosts in brackets -/

section Hosts

variable {s : List Char}

/-- An address of the fourth version is made of digits and points. -/
theorem not_mem_of_isAddress4 (h : isAddress4 s = true) : ':' ∉ s := by
  obtain ⟨-, octets⟩ := Bool.and_eq_true_iff.1 h
  have digits : ∀ piece ∈ splitAt '.' s, ∀ c ∈ piece, c ≠ ':' := by
    rintro piece mem c hc rfl
    have octet := List.all_eq_true.1 octets piece mem
    simp only [isOctet, Bool.and_eq_true] at octet
    exact absurd (List.all_eq_true.1 octet.1.1.1.2 _ hc) (by decide)
  rw [← (intercalate_splitAt '.' s).1]
  exact fun mem => forall_mem_intercalate (by decide) digits _ mem rfl

theorem mem_of_cutGap? {a b : List Char} (h : cutGap? s = some (a, b)) : ':' ∈ s := by
  fun_induction cutGap? s generalizing a b with
  | case1 rest => exact List.mem_cons_self
  | case2 c rest _ ih =>
    obtain ⟨⟨front, back⟩, later, -⟩ := Option.map_eq_some_iff.1 h
    exact List.mem_cons_of_mem _ (ih later)
  | case3 => cases h

/-- A single piece stands for two groups at most. -/
theorem groupCount?_singleton_ne (piece : List Char) : groupCount? [piece] ≠ some 8 := by
  rw [groupCount?]
  split
  · decide
  · split <;> decide

theorem mem_of_isGroups (h : isGroups s = true) : ':' ∈ s := by
  refine Decidable.of_not_not fun absent => ?_
  rw [isGroups] at h
  split at h
  · rw [pieces, splitAt_of_not_mem absent] at h
    split at h
    · cases h
    · exact groupCount?_singleton_ne s (beq_iff_eq.1 h)
  · next gap => exact absent (mem_of_cutGap? gap)

/-- An address of the sixth version is made of groups, but for its zone. -/
theorem exists_isGroups_of_isAddress6 (h : isAddress6 s = true) :
    ∃ address zone, s = address ++ zone ∧ isGroups address = true := by
  rw [isAddress6, Bool.and_eq_true_iff] at h
  cases cut : cut? '%' s with
  | none =>
    rw [cut] at h
    exact ⟨s, [], (List.append_nil s).symm, h.2⟩
  | some parts =>
    rw [cut] at h
    exact ⟨parts.1, _, (cut?_eq_some cut).1, (Bool.and_eq_true_iff.1 h.2).2⟩

theorem mem_of_isAddress6 (h : isAddress6 s = true) : ':' ∈ s := by
  obtain ⟨address, zone, rfl, groups⟩ := exists_isGroups_of_isAddress6 h
  exact List.mem_append_left _ (mem_of_isGroups groups)

/-- The first piece begins with the first character, unless that ends it. -/
theorem exists_splitAt_cons {c d : Char} (ne : d ≠ c) (s : List Char) :
    ∃ piece others, splitAt c (d :: s) = (d :: piece) :: others := by
  rw [splitAt, if_neg ne]
  split <;> exact ⟨_, _, rfl⟩

theorem exists_pieces_cons (s : List Char) :
    ∃ piece others, pieces ('v' :: s) = ('v' :: piece) :: others := by
  have ne : 'v' ≠ ':' := by decide
  exact exists_splitAt_cons ne s

theorem isGroup_cons_v (s : List Char) : isGroup ('v' :: s) = false := by
  have none : (hexValue? 'v').isSome = false := by decide
  simp [isGroup, none]

/-- No group begins with the letter of the addresses to come. -/
theorem isGroups_cons_v (s : List Char) : isGroups ('v' :: s) = false := by
  rw [isGroups]
  split
  · obtain ⟨piece, others, split⟩ := exists_pieces_cons s
    rw [split, beq_eq_false_iff_ne]
    cases others with
    | nil => exact groupCount?_singleton_ne _
    | cons next others =>
      rw [groupCount?, isGroup_cons_v]
      · nofun
      · nofun
  · next front back gap =>
    rw [cutGap?] at gap
    · obtain ⟨⟨rest, behind⟩, -, same⟩ := Option.map_eq_some_iff.1 gap
      obtain ⟨rfl, -⟩ := Prod.mk.inj same
      obtain ⟨piece, others, split⟩ := exists_pieces_cons rest
      rw [split, List.all_cons, isGroup_cons_v]
      rfl
    · nofun

theorem isAddress6_cons_v (s : List Char) : isAddress6 ('v' :: s) = false := by
  refine Bool.eq_false_iff.2 fun h => ?_
  obtain ⟨address, zone, whole, groups⟩ := exists_isGroups_of_isAddress6 h
  cases address with
  | nil => exact absurd groups (by decide)
  | cons c address =>
    obtain ⟨rfl, -⟩ := List.cons.inj whole
    rw [isGroups_cons_v] at groups
    cases groups

/-- **What may stand in brackets** is an address of the sixth version or of one to come. -/
theorem checkBracketed_eq_ok_iff :
    checkBracketed s = .ok () ↔ isFutureAddress s = true ∨ isAddress6 s = true := by
  rw [checkBracketed]
  by_cases future : s.head? = some 'v'
  · obtain ⟨rest, rfl⟩ := List.head?_eq_some_iff.1 future
    rw [isAddress6_cons_v]
    cases isFutureAddress ('v' :: rest) <;> simp
  · have present : isFutureAddress s = false := by
      unfold isFutureAddress
      split
      · exact absurd rfl future
      · rfl
    rw [if_neg (by simpa using future), present]
    cases fourth : isAddress4 s with
    | true =>
      have other : isAddress6 s = false :=
        Bool.eq_false_iff.2 fun sixth => not_mem_of_isAddress4 fourth (mem_of_isAddress6 sixth)
      simp [other]
    | false => cases isAddress6 s <;> simp

end Hosts

/-! ## Checks -/

variable {authority part host : List Char}

theorem exists_hostPart (authority : List Char) : ∃ part, HostPart authority part := by
  cases cut : cutLast? '@' authority with
  | none => exact ⟨authority, .whole (cutLast?_eq_none.1 cut)⟩
  | some parts =>
    obtain ⟨whole, absent⟩ := cutLast?_eq_some cut
    rw [whole]
    exact ⟨parts.2, .behind absent⟩

theorem HostPart.not_mem (h : HostPart authority part) : '@' ∉ part := by
  cases h <;> assumption

/-- The check of the brackets does not look at the credentials. -/
theorem HostPart.checkBrackets_eq (h : HostPart authority part) :
    checkBrackets authority = checkBrackets part := by
  cases h with
  | whole => rfl
  | behind absent =>
    unfold checkBrackets
    rw [cutLast?_append _ absent, cutLast?_eq_none.2 absent]

/-- The check of the brackets is a check of the host that they enclose. -/
theorem Encloses.checkBrackets_eq (h : Encloses part host) (absent : '@' ∉ part) :
    checkBrackets part = checkBracketed host := by
  unfold checkBrackets
  rw [cutLast?_eq_none.2 absent]
  dsimp only
  cases h with
  | whole unclosed => simp only [cut?, if_true, List.isEmpty_nil, cut?_append unclosed]; rfl
  | port unclosed => simp only [cut?, if_true, List.isEmpty_nil, cut?_append unclosed]; rfl
  | opened unclosed => simp only [cut?, if_true, List.isEmpty_nil, cut?_eq_none.2 unclosed]; rfl
  | bare port unopened noPort =>
    rw [cut?_eq_none.2 unopened, before, cut?_append_after noPort]
    cases port with
    | none => simp only [Option.map_none, after, List.append_nil]
    | some port => rfl

/-- Brackets that are not refused enclose a host. -/
theorem exists_encloses (h : checkBrackets part = .ok ()) (absent : '@' ∉ part) :
    ∃ host, Encloses part host := by
  unfold checkBrackets at h
  rw [cutLast?_eq_none.2 absent] at h
  dsimp only at h
  split at h
  · next unopened =>
    rw [cut?_eq_none] at unopened
    cases cut : cut? ':' part with
    | none =>
      have encloses : Encloses (part ++ after ':' none) part :=
        .bare none (by rwa [after, List.append_nil]) (cut?_eq_none.1 cut)
      rw [after, List.append_nil] at encloses
      exact ⟨part, encloses⟩
    | some parts =>
      obtain ⟨whole, noPort⟩ := cut?_eq_some cut
      rw [whole] at unopened ⊢
      exact ⟨parts.1, .bare (some parts.2) unopened noPort⟩
  · next front inside opened =>
    obtain ⟨rfl, -⟩ := cut?_eq_some opened
    split at h
    · cases h
    · next empty =>
      obtain rfl : front = [] := by simpa using empty
      split at h
      · next host c rest closed =>
        obtain ⟨rfl, unclosed⟩ := cut?_eq_some closed
        split at h
        · next colon =>
          subst colon
          exact ⟨host, .port unclosed⟩
        · cases h
      · next host closed =>
        obtain ⟨rfl, unclosed⟩ := cut?_eq_some closed
        exact ⟨host, .whole unclosed⟩
      · next unclosed => exact ⟨inside, .opened (cut?_eq_none.1 unclosed)⟩

theorem checkBrackets_eq_ok_iff :
    checkBrackets authority = .ok () ↔ ∃ part host, HostPart authority part ∧ Encloses part host ∧
      (isFutureAddress host = true ∨ isAddress6 host = true) := by
  constructor
  · intro passes
    obtain ⟨part, isPart⟩ := exists_hostPart authority
    rw [isPart.checkBrackets_eq] at passes
    obtain ⟨host, encloses⟩ := exists_encloses passes isPart.not_mem
    rw [encloses.checkBrackets_eq isPart.not_mem] at passes
    exact ⟨part, host, isPart, encloses, checkBracketed_eq_ok_iff.1 passes⟩
  · rintro ⟨part, host, isPart, encloses, address⟩
    rw [isPart.checkBrackets_eq, encloses.checkBrackets_eq isPart.not_mem]
    exact checkBracketed_eq_ok_iff.2 address

/-- **The authorities that pass** are the sound ones. -/
theorem checkAuthority_eq_ok_iff : checkAuthority authority = .ok () ↔ IsSound authority := by
  have enclosed : (if authority.contains '[' then checkBrackets authority else .ok ()) = .ok () ↔
      ('[' ∈ authority → ∃ part host, HostPart authority part ∧ Encloses part host ∧
        (isFutureAddress host = true ∨ isAddress6 host = true)) := by
    rw [← checkBrackets_eq_ok_iff]
    by_cases opened : '[' ∈ authority <;> simp [opened]
  have shown : (if authority.any hidesDelimiter then
      Except.error (AuthorityFault.delimiter authority) else .ok ()) = .ok () ↔
      ∀ c ∈ authority, hidesDelimiter c = false := by
    cases hidden : authority.any hidesDelimiter with
    | true => simpa using hidden
    | false => simpa using hidden
  rw [checkAuthority]
  by_cases paired : '[' ∈ authority ↔ ']' ∈ authority
  · rw [if_neg (by simpa using paired)]
    cases brackets : if authority.contains '[' then checkBrackets authority else .ok () with
    | error fault =>
      rw [brackets] at enclosed
      constructor
      · intro passes
        cases passes
      · intro sound
        cases enclosed.2 sound.enclosed
    | ok =>
      exact shown.trans ⟨fun shown => ⟨paired, enclosed.1 brackets, shown⟩, IsSound.shown⟩
  · rw [if_pos (by simpa using paired)]
    constructor
    · intro passes
      cases passes
    · exact fun sound => absurd sound.paired paired

end EventRoster.StoreUrl
