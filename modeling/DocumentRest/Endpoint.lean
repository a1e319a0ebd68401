import DocumentRest.DatabasePath
import DocumentRest.Family
import DocumentRest.Text.Percent

namespace DocumentRest

inductive Method
  | get
  | post
  deriving DecidableEq, Repr

def Method.name : Method → String
  | .get => "GET"
  | .post => "POST"

/-- The JSON form of a method, which is not the name that requests have it by. -/
def Method.toJson : Method → Json.Value
  | .get => .string "Get"
  | .post => .string "Post"

/-- One resource of the server. Limits and fetch plans that are empty count as absent. -/
inductive Endpoint
  | connect
  | query (sql : String) (limit fetchPlan : Option String)
  | document (rid : String) (fetchPlan : Option String)
  | classInfo (name : String)
  | createClass (name : String)
  | cluster (name : String)
  | command (sql : String)
  | server
  | disconnect
  deriving DecidableEq, Repr

def bareRecordId (rid : String) : String :=
  match rid.toList with
  | '#' :: r => .ofList r
  | _ => rid

def nonEmpty (text : Option String) : Option String := text.filter (· ≠ "")

def defaultLimit : String := "20"

/-- The last segments of a query's path. A fetch plan always has a limit before it. -/
def querySuffix (limit fetchPlan : Option String) : String :=
  match nonEmpty limit, nonEmpty fetchPlan with
  | none, none => ""
  | some n, none => "/" ++ n
  | none, some plan => "/" ++ defaultLimit ++ "/" ++ plan
  | some n, some plan => "/" ++ n ++ "/" ++ plan

namespace Endpoint

def method : Endpoint → Method
  | createClass _ | command _ => .post
  | _ => .get

def family : Endpoint → Family
  | connect => .connect
  | query .. | document .. => .query
  | _ => .command

/-- Whether a successful answer may be parsed. The answers to class creation and to commands are
always kept as they came. -/
def parsesAnswer : Endpoint → Bool
  | createClass _ | command _ => false
  | _ => true

def path (database : String) : Endpoint → String
  | connect => "/connect/" ++ database
  | query sql limit fetchPlan =>
    "/query/" ++ database ++ "/sql/" ++ Text.percentEncode sql ++ querySuffix limit fetchPlan
  | document rid fetchPlan =>
    "/document/" ++ database ++ "/" ++ bareRecordId rid ++
      match nonEmpty fetchPlan with
      | some plan => "/" ++ plan
      | none => ""
  | classInfo name | createClass name => "/class/" ++ database ++ "/" ++ name
  | cluster name => "/cluster/" ++ database ++ "/" ++ name
  | command sql => "/command/" ++ database ++ "/sql/" ++ Text.percentEncode sql ++ "/"
  | server => "/server"
  | disconnect => "/disconnect"

def url (p : DatabasePath) (e : Endpoint) : String := p.serverUrl ++ e.path p.database

/-- The endpoint of the same request that is written out in full: no limit or fetch plan is empty, a
fetch plan has a limit, and a record id has lost the `#` that led it. -/
def normalize : Endpoint → Endpoint
  | query sql limit fetchPlan =>
    match nonEmpty limit, nonEmpty fetchPlan with
    | none, some plan => query sql (some defaultLimit) (some plan)
    | n, plan => query sql n plan
  | document rid fetchPlan => document (bareRecordId rid) (nonEmpty fetchPlan)
  | e => e

end Endpoint

end DocumentRest
