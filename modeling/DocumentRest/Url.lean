import DocumentRest.Url.Host
import DocumentRest.Url.Path

namespace DocumentRest

namespace Url

structure Authority where
  user : List Char := []
  password : List Char := []
  host : Host
  port : Option Nat := none
  deriving DecidableEq, Repr

end Url

structure Url where
  scheme : String
  authority : Option Url.Authority
  path : Url.Path
  query : Option (List Char)
  fragment : Option (List Char)
  deriving DecidableEq, Repr

namespace Url

inductive Layout
  /-- A host comes first. The `port` is the one that need not be given. -/
  | network (port : Nat)
  | file
  | free
  deriving DecidableEq, Repr

def Layout.ofScheme : String → Layout
  | "http" | "ws" => .network 80
  | "https" | "wss" => .network 443
  | "ftp" => .network 21
  | "file" => .file
  | _ => .free

def Layout.port? : Layout → Option Nat
  | .network port => some port
  | _ => none

def isMargin (c : Char) : Bool := c.toNat ≤ 0x20

def isTabOrNewline (c : Char) : Bool := c = '\t' || c = '\n' || c = '\r'

def cleaned (s : List Char) : List Char :=
  ((s.dropWhile isMargin).reverse.dropWhile isMargin).reverse.filter (!isTabOrNewline ·)

def isSchemeChar (c : Char) : Bool := c.isAlphanum || c = '+' || c = '-' || c = '.'

def scheme? (s : List Char) : Option (String × List Char) :=
  match s, s.span isSchemeChar with
  | c :: _, (scheme, ':' :: rest) =>
    if c.isAlpha then some (.ofList (scheme.map Char.toLower), rest) else none
  | _, _ => none

def splitUser (s : List Char) : Option (List Char) × List Char :=
  let server := (s.reverse.takeWhile (· ≠ '@')).reverse
  if server.length = s.length then (none, s)
  else (some (s.take (s.length - server.length - 1)), server)

def splitPort : (inBrackets : Bool) → List Char → List Char × List Char
  | _, [] => ([], [])
  | inBrackets, c :: s =>
    if c = ':' && !inBrackets then ([], c :: s)
    else
      let (host, port) := splitPort (c = '[' || inBrackets && c ≠ ']') s
      (c :: host, port)

def port? (usual : Option Nat) (s : List Char) : Option (Option Nat × List Char) := do
  let digits := s.takeWhile Char.isDigit
  let rest := s.drop digits.length
  let value ← ofDigits? 10 digits
  if 65535 < value || !(rest.isEmpty || rest.head? = some '\\') then none
  return (if digits.isEmpty || usual = some value then none else some value, rest)

/-- Whether a user or a password stands before an `@`. A colon alone is neither. -/
def namesUser (user : List Char) : Bool := !user.isEmpty && user ≠ [':']

/-- Read what stands between two slashes and the path, and give back what is already path. A host
without a name has no user and no port, and a lone `@` can stand for it only at the very end of a
URL. -/
def authority? (layout : Layout) (atEnd : Bool) (s : List Char) :
    Option (Authority × List Char) := do
  let (user, server) := splitUser s
  let (name, port) := splitPort false server
  let host ← Host.parse? layout.port?.isSome name
  if name.isEmpty && (!port.isEmpty || user.any namesUser || user = some [] && !atEnd) then none
  let (port, rest) ← if port.isEmpty then some (none, []) else port? layout.port? (port.drop 1)
  let user := user.getD []
  return ({ user := Part.user.escape (user.takeWhile (· ≠ ':'))
            password := Part.user.escape ((user.dropWhile (· ≠ ':')).drop 1)
            host, port }, rest)

/-- Read the host of a file and its path. The host is not named if it is this one, which it is also
if the path begins with a drive. -/
def file? (s : List Char) : Option (Host × Path) :=
  let name := s.takeWhile (· ≠ '/')
  let path := s.drop name.length
  if name.isEmpty then some (.name [], .ofFile (segmentsOf path))
  else if isDrive name then some (.name [], .ofFile (segmentsOf s))
  else do
    let host ← Host.parse? true name
    if host = .name "localhost".toList then return (.name [], .ofFile (segmentsOf path))
    let segments := segmentsOf (path.drop 1)
    return (if segments.head?.any isDrive then .name [] else host, .ofFile segments)

def server? (atEnd : Bool) : Layout → List Char → Option (Option Authority × Path)
  | .file, '/' :: '/' :: s => do
    let (host, path) ← file? s
    return (some { host }, path)
  | .file, '/' :: s | .file, s => some (some { host := .name [] }, .ofFile (segmentsOf s))
  | .free, '/' :: '/' :: s => do
    let text := s.takeWhile (· ≠ '/')
    let path := s.drop text.length
    let (authority, rest) ← authority? .free (atEnd && path.isEmpty) text
    let path := rest ++ path
    return (some authority, if path.isEmpty then .segmented [] else .ofText path)
  | .free, '/' :: s => some (none, .ofText ('/' :: s))
  | .free, s => some (none, .flat (Part.flat.escape s))
  | .network port, s => do
    let s := s.dropWhile (· = '/')
    let text := s.takeWhile (· ≠ '/')
    let (authority, _) ← authority? (.network port) atEnd text
    return (some authority, .ofText (s.drop text.length))

/-- Read a URL. One that begins with no scheme is relative, and is refused. -/
def parse? (text : String) : Option Url := do
  let (scheme, s) ← scheme? (cleaned text.toList)
  let layout := Layout.ofScheme scheme
  let body := s.takeWhile fun c => c ≠ '?' && c ≠ '#'
  let s := s.drop body.length
  let query := s.takeWhile (· ≠ '#')
  let fragment := s.drop query.length
  let slashed := body.map fun c => if c = '\\' && layout ≠ .free then '/' else c
  let (authority, path) ← server? (query.isEmpty && fragment.isEmpty) layout slashed
  let queryPart := if layout = .free then Part.query else Part.networkQuery
  return { scheme, authority, path
           query := query.head?.map fun _ => queryPart.escape query.tail
           fragment := fragment.head?.map fun _ => Part.fragment.escape fragment.tail }

def userText (user password : List Char) : List Char :=
  user ++ (if password.isEmpty then [] else ':' :: password) ++
    (if user.isEmpty && password.isEmpty then [] else ['@'])

def Authority.text (a : Authority) : List Char :=
  userText a.user a.password ++ a.host.text ++
    (a.port.map fun port => ':' :: Nat.toDigits 10 port).getD []

/-- What a path needs before it so that it is not taken for a host. -/
def Path.guard : Path → List Char
  | .segmented ([] :: _ :: _) => ['/', '.']
  | _ => []

def text (u : Url) : String :=
  let start := match u.authority with
    | some a => '/' :: '/' :: a.text
    | none => u.path.guard
  .ofList (u.scheme.toList ++ ':' :: start ++ u.path.text ++
    (u.query.map ('?' :: ·)).getD [] ++ (u.fragment.map ('#' :: ·)).getD [])

end Url

end DocumentRest
