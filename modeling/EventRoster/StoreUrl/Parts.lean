import EventRoster.StoreUrl.Address
import EventRoster.Text.Quoted

/-!
# The parts of an address

An address is split into an authority, a path and a query; the scheme and the fragment are of no use
here.  Controls and spaces in front are dropped, as are tabs and line ends everywhere.  An authority
is refused if its brackets do not enclose a host, or if it holds a character that stands for one of
the delimiters.
-/

namespace EventRoster.StoreUrl

/-- What an address consists of. -/
structure Parts where
  authority : List Char
  path : List Char
  query : List Char
deriving DecidableEq, Repr

/-- What is wrong with the authority of an address. -/
inductive AuthorityFault
  | brackets
  | futureAddress
  | address4
  | noAddress (host : List Char)
  | delimiter (authority : List Char)
deriving DecidableEq, Repr

/-- The words for a faulty authority. -/
def AuthorityFault.message : AuthorityFault → String
  | brackets => "Invalid IPv6 URL"
  | futureAddress => "IPvFuture address is invalid"
  | address4 => "An IPv4 address cannot be in brackets"
  | noAddress host =>
    s!"{Text.quoted (String.ofList host)} does not appear to be an IPv4 or IPv6 address"
  | delimiter authority =>
    s!"netloc '{String.ofList authority}' contains invalid characters under NFKC normalization"

/-! ## Scheme, authority, path and query -/

/-- An address without what is dropped from it. -/
def cleaned (url : List Char) : List Char :=
  (url.dropWhile fun c => c.toNat ≤ 0x20).filter fun c => c != '\t' && c != '\r' && c != '\n'

/-- Whether a scheme may hold a character. -/
def isSchemePart (c : Char) : Bool :=
  c.isAlphanum || c == '+' || c == '-' || c == '.'

/-- An address without its scheme, if it has one. -/
def withoutScheme (url : List Char) : List Char :=
  match Text.cut? ':' url with
  | some (c :: scheme, rest) => if c.isAlpha && scheme.all isSchemePart then rest else url
  | _ => url

/-- Whether an authority ends before a character. -/
def endsAuthority (c : Char) : Bool :=
  c == '/' || c == '?' || c == '#'

/-- The authority of an address without a scheme, and what follows it. -/
def splitAuthority (url : List Char) : List Char × List Char :=
  match url with
  | '/' :: '/' :: rest => (rest.takeWhile (!endsAuthority ·), rest.dropWhile (!endsAuthority ·))
  | _ => ([], url)

/-- What stands before a character, or all. -/
def before (c : Char) (s : List Char) : List Char :=
  match Text.cut? c s with
  | some (front, _) => front
  | none => s

/-! ## Checks of the authority -/

/-- Refuses what stands between brackets unless it is an address that may stand there. -/
def checkBracketed (host : List Char) : Except AuthorityFault Unit :=
  if host.head? == some 'v' then
    if isFutureAddress host then .ok () else .error .futureAddress
  else if isAddress4 host then .error .address4
  else if isAddress6 host then .ok ()
  else .error (.noAddress host)

/-- Refuses an authority with brackets unless they enclose the whole of a host. -/
def checkBrackets (authority : List Char) : Except AuthorityFault Unit :=
  let hostAndPort := match Text.cutLast? '@' authority with
    | some (_, rest) => rest
    | none => authority
  match Text.cut? '[' hostAndPort with
  | none => checkBracketed (before ':' hostAndPort)
  | some (front, inside) =>
    if !front.isEmpty then .error .brackets
    else
      match Text.cut? ']' inside with
      | some (host, c :: _) => if c = ':' then checkBracketed host else .error .brackets
      | some (host, []) => checkBracketed host
      | none => checkBracketed inside

/-- The characters other than delimiters that have a delimiter in their compatibility form. -/
def hiddenDelimiters : List Nat :=
  [0x2047, 0x2048, 0x2049, 0x2100, 0x2101, 0x2105, 0x2106, 0x2a74, 0xfe13, 0xfe16, 0xfe55, 0xfe56,
    0xfe5f, 0xfe6b, 0xff03, 0xff0f, 0xff1a, 0xff1f, 0xff20]

/-- Whether a character hides a delimiter. -/
def hidesDelimiter (c : Char) : Bool :=
  hiddenDelimiters.contains c.toNat

/-- Refuses an authority that may be taken for another. -/
def checkAuthority (authority : List Char) : Except AuthorityFault Unit :=
  let opened := authority.contains '['
  let closed := authority.contains ']'
  if opened != closed then .error .brackets
  else
    match if opened then checkBrackets authority else .ok () with
    | .error fault => .error fault
    | .ok () => if authority.any hidesDelimiter then .error (.delimiter authority) else .ok ()

/-- The parts of an address. -/
def parts (url : List Char) : Except AuthorityFault Parts :=
  let (authority, rest) := splitAuthority (withoutScheme (cleaned url))
  match checkAuthority authority with
  | .error fault => .error fault
  | .ok () =>
    let unmarked := before '#' rest
    .ok <| match Text.cut? '?' unmarked with
      | some (path, query) => ⟨authority, path, query⟩
      | none => ⟨authority, unmarked, []⟩

end EventRoster.StoreUrl
