import PagedQuery.Text.Digits
import PagedQuery.Text.Split
import PagedQuery.Text.Utf8

/-! Bytes in addresses: written as a percent sign and two hexadecimal digits, or as characters. -/

namespace PagedQuery.Url

/-- The bytes that a text stands for. A percent sign without two digits behind it is a character. -/
def percentBytes : List Char → List UInt8
  | '%' :: a :: b :: cs =>
    match Text.hexValue? a, Text.hexValue? b with
    | some high, some low => UInt8.ofNat (16 * high + low) :: percentBytes cs
    | _, _ => 0x25 :: percentBytes (a :: b :: cs)
  | c :: cs => String.utf8EncodeChar c ++ percentBytes cs
  | [] => []

/-- A name or value in a query: a plus sign is a space, and bytes that are no text are replaced. -/
def formText (cs : List Char) : String :=
  Text.ofUtf8Lossy (percentBytes (cs.map fun c => if c = '+' then ' ' else c))

/-- The names and values of a query: parts between ampersands, each divided at its first equals
sign. -/
def queryPairs (query : List Char) : List (String × String) :=
  let parts := (Text.split '&' query).filter (!·.isEmpty)
  parts.map fun part =>
    (formText (part.takeWhile (· ≠ '=')), formText ((part.dropWhile (· ≠ '=')).drop 1))

end PagedQuery.Url
