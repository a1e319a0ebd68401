import DocumentRest.Text.Utf8
import DocumentRest.Url.Domain

namespace DocumentRest.Url

inductive Host
  | name (text : List Char)
  | fourBytes (bytes : List Nat)
  | eightGroups (groups : List Nat)
  deriving DecidableEq, Repr

def isHostSeparator (c : Char) : Bool :=
  ['\x00', ' ', '#', '/', ':', '<', '>', '?', '@', '[', '\\', ']', '^', '|'].contains c

def Host.inNetwork? (s : List Char) : Option Host := do
  let text ← (Text.ofUtf8 (unescape s)).toOption
  let labels := (← Domain.labels? text.toList).map (·.text)
  if labels = [[]] then none
  if endsInNumber labels then .fourBytes <$> fourBytes? labels
  else some (.name (['.'].intercalate labels))

def Host.parse? (network : Bool) (s : List Char) : Option Host :=
  match s with
  | '[' :: rest =>
    if rest.getLast? = some ']' then .eightGroups <$> eightGroups? rest.dropLast else none
  | _ =>
    if network then Host.inNetwork? s
    else if s.any isHostSeparator then none
    else some (.name (Part.flat.escape s))

def Host.text : Host → List Char
  | .name s => s
  | .fourBytes bytes => fourBytesText bytes
  | .eightGroups groups => '[' :: eightGroupsText groups ++ [']']

end DocumentRest.Url
