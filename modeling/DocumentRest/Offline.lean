import DocumentRest.Exchange
import DocumentRest.Url

namespace DocumentRest

namespace Url

def isWeb (u : Url) : Bool := u.scheme = "http" || u.scheme = "https"

def isText (s : List Char) : Bool := (Text.ofUtf8 (unescape s)).toOption.isSome

/-- A URL without its user, who is named to a server in the head of a request. A user whose escapes
stand for no text stays. -/
def withoutUser (u : Url) : Url :=
  match u.authority with
  | some a =>
    if isText a.user && (!a.user.isEmpty || isText a.password) then
      { u with authority := some { a with user := [], password := [] } }
    else u
  | none => u

def maxLength : Nat := 65534

def isUnsendable (c : Char) : Bool := ['"', '\x60', '\x7b', '\x7d'].contains c

def isSendable (u : Url) : Bool :=
  u.text.length ≤ maxLength && u.authority.all (!·.host.text.any isUnsendable)

end Url

inductive Refusal
  | malformed
  | unsupported (url : Url)
  deriving DecidableEq, Repr

def Refusal.message : Refusal → String
  | .malformed => "builder error"
  | .unsupported url => "builder error for url (" ++ url.text ++ ")"

def Url.target (url : String) : Except Refusal Url :=
  match parse? url with
  | none => .error .malformed
  | some u =>
    let u := u.withoutUser
    if u.isWeb && u.isSendable then .ok u else .error (.unsupported u)

def offlineFailure (url : String) : TransportFailure :=
  match Url.target url with
  | .error refusal => ⟨none, refusal.message⟩
  | .ok u => ⟨none, "error sending request for url (" ++ u.text ++ ")"⟩

def Transport.offline : Transport := fun _ request => .error (offlineFailure request.url)

end DocumentRest
