import DocumentRest.Body
import DocumentRest.Credentials
import DocumentRest.Endpoint

namespace DocumentRest

structure Request where
  method : Method
  url : String
  credentials : Option Credentials
  deriving DecidableEq

structure TransportFailure where
  status : Option UInt16
  body : String
  deriving DecidableEq, Repr

abbrev Answer := Except TransportFailure String

/-- What answers a request, after the requests that were sent before it. -/
abbrev Transport := List Request → Request → Answer

/-- Answers that do not depend on the requests. Once they are used up, every answer is an empty
object. -/
def Transport.scripted (answers : List Answer) : Transport := fun past _ =>
  answers.getD past.length (.ok "\x7b\x7d")

inductive ClientError
  | requestFailed (family : Family) (body : String)
  | databaseClosed
  deriving DecidableEq, Repr

def ClientError.message : ClientError → String
  | .requestFailed family body => family.name ++ " error: " ++ body
  | .databaseClosed => "Database is closed"

structure Exchange where
  endpoint : Endpoint
  structured : Bool
  request : Request
  answer : Answer

/-- The body of the answer, or the failure. A text that cannot be parsed fails like a refused
request. -/
def Exchange.outcome (e : Exchange) : Except ClientError Body :=
  match e.answer with
  | .error failure => .error (.requestFailed e.endpoint.family failure.body)
  | .ok text =>
    match Body.ofText (e.structured && e.endpoint.parsesAnswer) text with
    | .ok body => .ok body
    | .error _ => .error (.requestFailed e.endpoint.family text)

end DocumentRest
