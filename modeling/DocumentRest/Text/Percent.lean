import DocumentRest.Text.Utf8

namespace DocumentRest.Text

def hexDigits : List Char := "0123456789ABCDEF".toList

def hexDigit (n : Nat) : Char := hexDigits.getD n '0'

def hexDigit? (c : Char) : Option Nat := hexDigits.findIdx? (· = c)

def isUnreserved (c : Char) : Bool :=
  c.isAlphanum || c = '-' || c = '_' || c = '.' || c = '~'

def escapedByte (b : UInt8) : List Char :=
  ['%', hexDigit (b.toNat / 16), hexDigit (b.toNat % 16)]

def percentEncodeByte (b : UInt8) : List Char :=
  let c := Char.ofNat b.toNat
  if isUnreserved c then [c] else escapedByte b

def percentEncode (s : String) : String :=
  .ofList ((utf8Bytes s.toList).flatMap percentEncodeByte)

/-- The bytes that an encoded text stands for. Anything but unreserved characters and complete
escapes is refused. -/
def percentDecode? : List Char → Option (List UInt8)
  | [] => some []
  | '%' :: a :: b :: r => do
    let hi ← hexDigit? a
    let lo ← hexDigit? b
    return .ofNat (16 * hi + lo) :: (← percentDecode? r)
  | c :: r => do
    if isUnreserved c then return .ofNat c.toNat :: (← percentDecode? r)
    failure

end DocumentRest.Text
