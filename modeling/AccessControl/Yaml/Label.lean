/-
  AccessControl/Yaml/Label.lean
  =============================
  **Names in front of nodes.**

  A node can be given a name, under which it is repeated later, and a tag, which says what
  it is.  A tag is an address: it is written in full between `<` and `>`, or as what
  follows a handle, which stands for the start of an address.  Within an address the
  octets of a character may be written in hexadecimal after per cent signs.  Directives
  stand in front of a document; they give its version, or the start of the addresses that
  a handle stands for.

  ## Main definitions

  * `name?`: the name of an anchor or an alias;
  * `Address`, `address?`, `TagMark`, `tagMark?`: addresses and tags;
  * `Directive`, `directive?`: directives.
-/
import AccessControl.Text.Decimal
import AccessControl.Yaml.Spot

namespace AccessControl.Yaml

/-! ## 1. Names -/

def endsName : List Spot → Bool
  | [] => true
  | s :: _ => isGap s.char || "?:,]\x7d%@\x60".toList.contains s.char

/-- The name of an anchor or an alias after its mark, and what follows it. -/
def name? (spots : List Spot) : Option (String × List Spot) :=
  let (name, rest) := run isNameChar spots
  if name.isEmpty || !endsName rest then none else some (String.ofList name, rest)

/-! ## 2. Addresses -/

/-- An address, or a part of one; it is `none` if its octets are no text. -/
abbrev Address := Option String

def octetCount? (octet : Nat) : Option Nat :=
  if octet < 0x80 then some 1
  else if 0xC0 ≤ octet && octet < 0xE0 then some 2
  else if 0xE0 ≤ octet && octet < 0xF0 then some 3
  else if 0xF0 ≤ octet && octet < 0xF8 then some 4
  else none

/-- The octets of an address, of which so many are still to follow for a character.  All
    octets of a character have to be written in the same way. -/
def addressBytes? (pending : Nat) : List Char → Option (List UInt8)
  | [] => if pending = 0 then some [] else none
  | '%' :: a :: b :: rest => do
    let octet := (← Text.hexValue? a) * 16 + (← Text.hexValue? b)
    if pending = 0 then
      let count ← octetCount? octet
      return UInt8.ofNat octet :: (← addressBytes? (count - 1) rest)
    else if octet / 0x40 = 2 then
      return UInt8.ofNat octet :: (← addressBytes? (pending - 1) rest)
    else none
  | c :: rest =>
    if pending = 0 && c != '%' then (addressBytes? 0 rest).map (UInt8.ofNat c.toNat :: ·) else none

/-- An address that is written with the given characters.  It ends at its first zero. -/
def address? (cs : List Char) : Option Address :=
  (addressBytes? 0 cs).map fun bytes => String.fromUTF8? ⟨(bytes.takeWhile (· != 0)).toArray⟩

/-! ## 3. Tags -/

/-- A tag as it is written: a handle, which is empty in front of a full address, and the
    rest of the address. -/
structure TagMark where
  handle : String
  rest : Address
deriving DecidableEq, Repr

def fullTag? (spots : List Spot) : Option (TagMark × List Spot) :=
  let (cs, rest) := run isClosedAddressChar spots
  if cs.isEmpty || !startsWith '>' rest then none
  else (address? cs).map fun address => (⟨"", address⟩, rest.drop 1)

/-- A handle and the rest of an address after the first mark of a tag, and what follows
    them.  The first mark alone is a tag of its own. -/
def shortTag? (spots : List Spot) : Option (TagMark × List Spot) :=
  let (name, after) := run isNameChar spots
  if startsWith '!' after then
    let (cs, rest) := run isAddressChar (after.drop 1)
    if cs.isEmpty then none
    else (address? cs).map fun address =>
      (⟨String.ofList ('!' :: name ++ ['!']), address⟩, rest)
  else
    let (cs, rest) := run isAddressChar spots
    (address? cs).map fun address =>
      (if address = some "" then ⟨"", some "!"⟩ else ⟨"!", address⟩, rest)

/-- A tag after its first mark, and what follows it.  Behind a tag there is white space;
    within brackets there may be a comma. -/
def tagMark? (flow : Bool) (spots : List Spot) : Option (TagMark × List Spot) := do
  let (tag, rest) ←
    if startsWith '<' spots then fullTag? (spots.drop 1) else shortTag? spots
  if startsGap rest || (flow && startsWith ',' rest) then return (tag, rest) else none

/-! ## 4. Directives -/

/-- What stands in front of a document. -/
inductive Directive where
  | version (major minor : Nat)
  | start (handle : String) (address : Address)
deriving DecidableEq, Repr

def versionNumber? (spots : List Spot) : Option (Nat × List Spot) :=
  let (ds, rest) := run Text.isDigit spots
  if ds.isEmpty || 9 < ds.length then none else some (Text.readDigits ds, rest)

def versionDirective? (spots : List Spot) : Option (Directive × List Spot) := do
  let (major, rest) ← versionNumber? (skipBlanks spots)
  if !startsWith '.' rest then none
  else
    let (minor, rest) ← versionNumber? (rest.drop 1)
    return (.version major minor, rest)

def handle? (spots : List Spot) : Option (String × List Spot) :=
  if !startsWith '!' spots then none
  else
    let (name, rest) := run isNameChar (spots.drop 1)
    if startsWith '!' rest then some (String.ofList ('!' :: name ++ ['!']), rest.drop 1)
    else if name.isEmpty then some ("!", rest)
    else none

def startDirective? (spots : List Spot) : Option (Directive × List Spot) := do
  let (handle, rest) ← handle? (skipBlanks spots)
  if !(rest.head?.any fun s => isBlank s.char) then none
  else
    let (cs, rest) := run isClosedAddressChar (skipBlanks rest)
    if cs.isEmpty || !startsGap rest then none
    else
      let address ← address? cs
      return (.start handle address, rest)

/-- A directive after its mark, and what follows its line. -/
def directive? (spots : List Spot) : Option (Directive × List Spot) := do
  let (name, rest) := run isNameChar spots
  let (directive, rest) ←
    if !startsGap rest then none
    else if name = "YAML".toList then versionDirective? rest
    else if name = "TAG".toList then startDirective? rest
    else none
  return (directive, ← lineRest? rest)

end AccessControl.Yaml
