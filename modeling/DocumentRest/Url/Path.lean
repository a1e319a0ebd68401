import DocumentRest.Url.Escape

namespace DocumentRest.Url

inductive Path
  | flat (text : List Char)
  | segmented (segments : List (List Char))
  deriving DecidableEq, Repr

def afterDot? : List Char → Option (List Char)
  | '.' :: s | '%' :: '2' :: 'e' :: s | '%' :: '2' :: 'E' :: s => some s
  | _ => none

def isDot (s : List Char) : Bool := afterDot? s = some []

def isDoubleDot (s : List Char) : Bool := (afterDot? s).bind afterDot? = some []

def isDrive : List Char → Bool
  | [c, d] => c.isAlpha && (d = ':' || d = '|')
  | _ => false

/-- Leave the last one of some segments, which come in reverse. A drive is never left. -/
def leave : List (List Char) → List (List Char)
  | [] => []
  | s :: above => if isDrive s then s :: above else above

def enter (above : List (List Char)) (s : List Char) : List (List Char) :=
  if isDoubleDot s then leave above else if isDot s then above else s :: above

/-- Follow the segments of a path. One that ends in dots leads to a directory. -/
def followed (above : List (List Char)) : List (List Char) → List (List Char)
  | [] => above.reverse
  | [s] => (if isDot s || isDoubleDot s then [] :: enter above s else enter above s).reverse
  | s :: rest => followed (enter above s) rest

def segmentsOf (s : List Char) : List (List Char) :=
  followed [] ((Part.path.escape s).splitOn '/')

def Path.ofText : List Char → Path
  | '/' :: s => .segmented (segmentsOf s)
  | s => .segmented (segmentsOf s)

def withoutEmpty : List (List Char) → List (List Char)
  | [] :: s :: rest => withoutEmpty (s :: rest)
  | segments => segments

def withColon : List (List Char) → List (List Char)
  | [letter, sign] :: rest =>
    (if isDrive [letter, sign] then [letter, ':'] else [letter, sign]) :: rest
  | segments => segments

/-- The path of a file. Slashes at its start are one. -/
def Path.ofFile (segments : List (List Char)) : Path :=
  .segmented (withoutEmpty (withColon segments))

def Path.text : Path → List Char
  | .flat s => s
  | .segmented segments => segments.flatMap ('/' :: ·)

end DocumentRest.Url
