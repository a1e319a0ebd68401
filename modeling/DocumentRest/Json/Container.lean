import DocumentRest.Json.Lexical

namespace DocumentRest.Json

variable {α σ κ : Type}

/-- What is wrong with a container that is closed, or cut off, right behind a comma. -/
structure AfterComma where
  listClosed : Cause
  objectClosed : Cause
  objectCut : Part

def AfterComma.whenRead : AfterComma := ⟨.trailingComma, .trailingComma, .value⟩

def AfterComma.whenSkipped : AfterComma := ⟨.noValue, .noKey, .object⟩

def moreItems (ac : AfterComma) (item : Reader α) : (fuel : Nat) → Reader (List α)
  | 0, s => failBefore (.unfinished .list) s
  | fuel + 1, s =>
    match skipSpace s with
    | [] => failBefore (.unfinished .list) []
    | ']' :: r => .ok ([], r)
    | ',' :: r =>
      match skipSpace r with
      | ']' :: r => failAt ac.listClosed (']' :: r)
      | r => do
        let (a, r) ← item r
        let (as, r) ← moreItems ac item fuel r
        return (a :: as, r)
    | r => failAt .noItemEnd r

def items (ac : AfterComma) (item : Reader α) : Reader (List α) := fun s =>
  match skipSpace s with
  | [] => failBefore (.unfinished .list) []
  | ']' :: r => .ok ([], r)
  | r => do
    let (a, r) ← item r
    let (as, r) ← moreItems ac item (r.length + 1) r
    return (a :: as, r)

def colon (s : List Char) : Except Failure (List Char) :=
  match skipSpace s with
  | [] => failBefore (.unfinished .object) []
  | ':' :: r => .ok r
  | r => failAt .noColon r

/-- The members that follow another one, up to the end of the object. `member` reads on behind a
key, which `key` has read from behind its first quote, and adds to what the members before it came
to. -/
def moreMembers (ac : AfterComma) (key : Reader κ) (member : κ → σ → Reader σ) :
    (fuel : Nat) → σ → Reader σ
  | 0, _, s => failBefore (.unfinished .object) s
  | fuel + 1, a, s =>
    match skipSpace s with
    | [] => failBefore (.unfinished .object) []
    | '\x7d' :: r => .ok (a, r)
    | ',' :: r =>
      match skipSpace r with
      | [] => failBefore (.unfinished ac.objectCut) []
      | '\x7d' :: r => failAt ac.objectClosed ('\x7d' :: r)
      | '"' :: r => do
        let (k, r) ← key r
        let (a, r) ← member k a r
        moreMembers ac key member fuel a r
      | r => failAt .noKey r
    | r => failAt .noMemberEnd r

def members (ac : AfterComma) (key : Reader κ) (member : κ → σ → Reader σ) (a : σ) :
    Reader σ := fun s =>
  match skipSpace s with
  | [] => failBefore (.unfinished .object) []
  | '\x7d' :: r => .ok (a, r)
  | '"' :: r => do
    let (k, r) ← key r
    let (a, r) ← member k a r
    moreMembers ac key member (r.length + 1) a r
  | r => failAt .noKey r

end DocumentRest.Json
