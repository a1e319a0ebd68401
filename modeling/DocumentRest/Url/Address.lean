import DocumentRest.Url.Escape

namespace DocumentRest.Url

def digitValue? (base : Nat) (c : Char) : Option Nat := (hexValue? c).filter (· < base)

def ofDigits? (base : Nat) (digits : List Char) : Option Nat :=
  digits.foldlM (fun n c => (digitValue? base c).map (base * n + ·)) 0

/-- The value of a numeral. A leading zero makes it octal, and a leading `0x` hexadecimal. -/
def numeral? : List Char → Option Nat
  | [] => none
  | '0' :: 'x' :: s => ofDigits? 16 s
  | '0' :: c :: s => ofDigits? 8 (c :: s)
  | s => ofDigits? 10 s

def withoutRoot (labels : List (List Char)) : List (List Char) :=
  if labels.getLast? = some [] then labels.dropLast else labels

def endsInNumber (labels : List (List Char)) : Bool :=
  match (withoutRoot labels).getLast? with
  | none | some [] => false
  | some label => label.all Char.isDigit || (numeral? label).isSome

def inBytes? : (n : Nat) → Nat → Option (List Nat)
  | 0, value => if value = 0 then some [] else none
  | n + 1, value => (inBytes? n (value / 256)).map (· ++ [value % 256])

/-- An address of four bytes. Each number stands for one of them, and the last one for all that are
left. -/
def fourBytes? (labels : List (List Char)) : Option (List Nat) := do
  let numbers ← (withoutRoot labels).mapM numeral?
  let last ← numbers.getLast?
  let high := numbers.dropLast
  if 3 < high.length || high.any (255 < ·) then none
  return high ++ (← inBytes? (4 - high.length) last)

def fourBytesText (bytes : List Nat) : List Char :=
  ['.'].intercalate (bytes.map (Nat.toDigits 10))

def byte? (s : List Char) : Option Nat := do
  let value ← ofDigits? 10 s
  if Nat.toDigits 10 value = s && value < 256 then value else none

def group? (s : List Char) : Option Nat :=
  if s.isEmpty || 4 < s.length then none else ofDigits? 16 s

/-- Groups between colons. At the end, two of them may be written as an address of four bytes. -/
def groups? (mixed : Bool) : List (List Char) → Option (List Nat)
  | [] => some []
  | [s] =>
    if mixed && s.contains '.' then do
      match ← (s.splitOn '.').mapM byte? with
      | [a, b, c, d] => some [256 * a + b, 256 * c + d]
      | _ => none
    else (group? s).map ([·])
  | s :: rest => do return (← group? s) :: (← groups? mixed rest)

def colonGroups? (mixed : Bool) (s : List Char) : Option (List Nat) :=
  if s.isEmpty then some [] else groups? mixed (s.splitOn ':')

def splitAtGap : List Char → Option (List Char × List Char)
  | ':' :: ':' :: s => some ([], s)
  | c :: s => (splitAtGap s).map fun (before, behind) => (c :: before, behind)
  | [] => none

def eightGroups? (s : List Char) : Option (List Nat) := do
  match splitAtGap s with
  | none =>
    let groups ← colonGroups? true s
    if groups.length = 8 then groups else none
  | some (before, behind) =>
    let high ← colonGroups? false before
    let low ← colonGroups? true behind
    if high.length + low.length < 8 then
      some (high ++ List.replicate (8 - high.length - low.length) 0 ++ low)
    else none

def leadingZeros (groups : List Nat) : Nat := (groups.takeWhile (· = 0)).length

def colonText (groups : List Nat) : List Char :=
  [':'].intercalate (groups.map (Nat.toDigits 16))

/-- Of the zeros in a row, the longest and first ones are left out, unless there is only one. -/
def eightGroupsText (groups : List Nat) : List Char :=
  let rows := (List.range groups.length).map fun i => (i, leadingZeros (groups.drop i))
  let (start, length) := rows.foldl (fun best row => if best.2 < row.2 then row else best) (0, 1)
  if length = 1 then colonText groups
  else colonText (groups.take start) ++ [':', ':'] ++ colonText (groups.drop (start + length))

end DocumentRest.Url
