import ClipExchange.Text.Hex

/-!
# Transaction identifiers

Both ends of a session name one clipboard event by the same sixteen octets. Their text form
is thirty-two hexadecimal digits in five groups joined by hyphens. Four forms are read: the
hyphenated one, the same between braces or after `urn:uuid:`, and the digits alone.

## Main definitions

* `TransactionId`: sixteen octets.
* `TransactionId.text`: the hyphenated form.
* `TransactionId.ofText?`: reading any of the four forms.
* `IdSource`: a supply of identifiers for new transactions.
-/

namespace ClipExchange

/-- The name of one clipboard event: sixteen octets. -/
structure TransactionId where
  octets : Bytes
  length_octets : octets.length = 16
deriving DecidableEq

namespace TransactionId

/-- The identifier with the given octets, if they are sixteen. -/
def ofOctets? (octets : Bytes) : Option TransactionId :=
  if h : octets.length = 16 then some ⟨octets, h⟩ else none

/-- The identifier whose octets are the digits of a number in base 256. -/
def ofNat (n : Nat) : TransactionId :=
  ⟨Bytes.bigEndian 16 n, Bytes.length_bigEndian 16 n⟩

instance : Inhabited TransactionId :=
  ⟨ofNat 0⟩

/-- The digits in groups of eight, four, four, four and twelve, joined by hyphens. -/
def textChars (id : TransactionId) : List Char :=
  let group (first count : Nat) := Hex.ofBytes ((id.octets.drop first).take count)
  group 0 4 ++ '-' :: group 4 2 ++ '-' :: group 6 2 ++ '-' :: group 8 2 ++ '-' :: group 10 6

/-- The hyphenated text form. -/
def text (id : TransactionId) : String :=
  String.ofList id.textChars

instance : ToString TransactionId :=
  ⟨text⟩

/-- Read the digits alone. -/
def ofDigits? (cs : List Char) : Option TransactionId := do
  let octets ← Hex.toBytes? cs
  ofOctets? octets

/-- Drop a hyphen that has to come first. -/
def afterHyphen? : List Char → Option (List Char)
  | '-' :: cs => some cs
  | _ => none

/-- Read the groups joined by hyphens. -/
def ofHyphenated? (cs : List Char) : Option TransactionId := do
  let second ← afterHyphen? (cs.drop 8)
  let third ← afterHyphen? (second.drop 4)
  let fourth ← afterHyphen? (third.drop 4)
  let fifth ← afterHyphen? (fourth.drop 4)
  if fifth.length = 12 then
    ofDigits? (cs.take 8 ++ second.take 4 ++ third.take 4 ++ fourth.take 4 ++ fifth)
  else
    none

/-- Read an identifier in any of its text forms; the number of characters tells which. -/
def ofChars? (cs : List Char) : Option TransactionId :=
  match cs.length with
  | 32 => ofDigits? cs
  | 36 => ofHyphenated? cs
  | 38 =>
    if cs.head? = some '\x7b' ∧ cs.getLast? = some '\x7d' then ofHyphenated? (cs.drop 1).dropLast
    else none
  | 45 =>
    if (cs.take 9).map Char.toLower = "urn:uuid:".toList then ofHyphenated? (cs.drop 9) else none
  | _ => none

/-- Read an identifier in any of its text forms. -/
def ofText? (s : String) : Option TransactionId :=
  ofChars? s.toList

end TransactionId

/-- A supply of identifiers for new transactions: the `n`-th one drawn is `nth n`. -/
structure IdSource where
  nth : Nat → TransactionId
  drawn : Nat

namespace IdSource

/-- The next identifier, and the supply without it. -/
def draw (ids : IdSource) : TransactionId × IdSource :=
  (ids.nth ids.drawn, { ids with drawn := ids.drawn + 1 })

/-- Identifiers numbered upwards from a first one. -/
def counting (first : Nat) : IdSource :=
  ⟨fun n => TransactionId.ofNat (first + n), 0⟩

/-- A supply that begins with the given identifier. -/
def beginningWith (id : TransactionId) : IdSource :=
  counting (Bytes.ofBigEndian id.octets)

end IdSource

end ClipExchange
