import ForeignTable.Text.Hex

/-!
# Universally unique identifiers

Sixteen bytes, written in lower-case hexadecimal with hyphens after 4, 6, 8 and 10 of
them. The reader also takes the plain, the braced and the URN spelling, in both cases.
-/

set_option autoImplicit false

namespace ForeignTable

structure Uuid where
  bytes : List UInt8
  sixteen : bytes.length = 16
deriving DecidableEq

namespace Uuid

def text (uuid : Uuid) : List Char :=
  Text.hexText (uuid.bytes.take 4) ++
    '-' :: Text.hexText ((uuid.bytes.drop 4).take 2) ++
    '-' :: Text.hexText ((uuid.bytes.drop 6).take 2) ++
    '-' :: Text.hexText ((uuid.bytes.drop 8).take 2) ++
    '-' :: Text.hexText (uuid.bytes.drop 10)

def ofDigits? (text : List Char) : Option Uuid := do
  let bytes ← Text.hexBytes? text
  if sixteen : bytes.length = 16 then some ⟨bytes, sixteen⟩ else none

def ofHyphenated? (text : List Char) : Option Uuid :=
  let first := text.take 8
  let second := (text.drop 9).take 4
  let third := (text.drop 14).take 4
  let fourth := (text.drop 19).take 4
  let fifth := text.drop 24
  if text.length == 36 && text[8]? == some '-' && text[13]? == some '-' &&
      text[18]? == some '-' && text[23]? == some '-' then
    ofDigits? (first ++ second ++ third ++ fourth ++ fifth)
  else none

/-- The identifier that a text spells, in one of the four forms. -/
def ofText? (text : List Char) : Option Uuid :=
  match text with
  | '\x7b' :: rest =>
      if rest.getLast? == some '\x7d' then ofHyphenated? rest.dropLast else none
  | 'u' :: 'r' :: 'n' :: ':' :: 'u' :: 'u' :: 'i' :: 'd' :: ':' :: rest => ofHyphenated? rest
  | _ => if text.length == 32 then ofDigits? text else ofHyphenated? text

end Uuid

end ForeignTable
