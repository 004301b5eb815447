import ForeignTable.Text.Digits
import ForeignTable.Text.Hex
import ForeignTable.Text.Integer
import ForeignTable.Text.Split

/-!
# Internet addresses

Host addresses of both versions, their text and its reader. The text is canonical: it
compresses the first longest run of zero groups and shows an embedded version 4 address
with its dots. The reader takes every spelling of the same address.
-/

set_option autoImplicit false

namespace ForeignTable

/-- A host address: four octets, or eight groups of sixteen bits. -/
inductive Address where
  | v4 (octets : List UInt8) (four : octets.length = 4)
  | v6 (groups : List UInt16) (eight : groups.length = 8)
deriving DecidableEq

namespace Address

def isV4 : Address → Bool
  | v4 .. => true
  | v6 .. => false

def bits : Address → Nat
  | v4 .. => 32
  | v6 .. => 128

/-!
## Text
-/

def joined (separator : Char) : List (List Char) → List Char
  | [] => []
  | [part] => part
  | part :: rest => part ++ separator :: joined separator rest

def dotted (octets : List UInt8) : List Char :=
  joined '.' (octets.map fun octet => Text.digits octet.toNat)

/-- Groups in hexadecimal without leading zeros, with colons between them. -/
def coloned (groups : List UInt16) : List Char :=
  joined ':' (groups.map fun group => Nat.toDigits 16 group.toNat)

/-- The two octets of a group, the high one first. -/
def octetsOfGroup (group : UInt16) : List UInt8 :=
  [UInt8.ofNat (group.toNat / 256), UInt8.ofNat (group.toNat % 256)]

def leadingZeros (groups : List UInt16) : Nat := (groups.takeWhile (· == 0)).length

/-- Start and length of the first longest run of zeros. -/
def longestZeroRun : List UInt16 → Nat × Nat
  | [] => (0, 0)
  | group :: rest =>
      let here := leadingZeros (group :: rest)
      let (start, later) := longestZeroRun rest
      if later ≤ here then (0, here) else (start + 1, later)

def groupsText (groups : List UInt16) : List Char :=
  match groups with
  | [0, 0, 0, 0, 0, 0xffff, high, low] =>
      [':', ':', 'f', 'f', 'f', 'f', ':'] ++ dotted (octetsOfGroup high ++ octetsOfGroup low)
  | _ =>
      let (start, length) := longestZeroRun groups
      if length < 2 then coloned groups
      else coloned (groups.take start) ++ ':' :: ':' :: coloned (groups.drop (start + length))

def text : Address → List Char
  | v4 octets _ => dotted octets
  | v6 groups _ => groupsText groups

/-!
## Reading
-/

/-- An octet: one to three digits up to 255, without leading zeros. -/
def octet? (text : List Char) : Option UInt8 := do
  let value ← Text.natural? text
  if value < 256 && text == Text.digits value then some (UInt8.ofNat value) else none

def octets? (text : List Char) : Option (List UInt8) := do
  let octets ← (Text.fields '.' text).mapM octet?
  if octets.length == 4 then some octets else none

/-- A group: one to four hexadecimal digits. -/
def group? (text : List Char) : Option UInt16 :=
  if text.isEmpty || 4 < text.length then none
  else (Text.hexNumber? text).map UInt16.ofNat

def groupOfOctets (high low : UInt8) : UInt16 := UInt16.ofNat (256 * high.toNat + low.toNat)

/-- Groups, where the last field may be a dotted version 4 address that stands for two. -/
def trailingGroups? : List (List Char) → Option (List UInt16)
  | [] => some []
  | [last] =>
      match octets? last with
      | some [a, b, c, d] => some [groupOfOctets a b, groupOfOctets c d]
      | _ => (group? last).map ([·])
  | field :: rest => do
      let group ← group? field
      let groups ← trailingGroups? rest
      return group :: groups

/-- The fields between colons; an empty text has none. -/
def colonFields (text : List Char) : List (List Char) :=
  if text.isEmpty then [] else Text.fields ':' text

/-- What stands before and after the first double colon. -/
def splitCompressed : List Char → Option (List Char × List Char)
  | [] => none
  | ':' :: ':' :: rest => some ([], rest)
  | c :: rest => (splitCompressed rest).map fun (before, after) => (c :: before, after)

/-- Eight groups in full, or fewer around one double colon, which stands for at least one
zero group. A dotted part closes the text; it does not stand before a double colon. -/
def groups? (text : List Char) : Option (List UInt16) :=
  match splitCompressed text with
  | none => trailingGroups? (colonFields text)
  | some (before, after) => do
      let front ← (colonFields before).mapM group?
      let back ← trailingGroups? (colonFields after)
      if front.length + back.length ≤ 7 then
        some (front ++ List.replicate (8 - (front.length + back.length)) 0 ++ back)
      else none

def ofText? (text : List Char) : Option Address :=
  match octets? text with
  | some octets => if four : octets.length = 4 then some (v4 octets four) else none
  | none =>
      match groups? text with
      | some groups => if eight : groups.length = 8 then some (v6 groups eight) else none
      | none => none

/-- A host address, optionally with a prefix length that covers the whole address. -/
def hostOfText? (text : List Char) : Option Address :=
  match Text.splitOnce '/' text with
  | none => ofText? text
  | some (host, bitsText) => do
      let bits ← Text.unsigned? 256 bitsText
      let address ← ofText? host
      if bits == address.bits then some address else none

end Address

end ForeignTable
