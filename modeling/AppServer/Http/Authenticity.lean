import AppServer.Http.Form
import AppServer.Http.Handler

/-!
# The authenticity check

A request that may change something has to echo the authenticity token of its
session, in a header or, failing a readable one, in a field of its form body.
Requests with a safe method pass unchecked, but like all others they need a
session layer around the check.
-/

namespace AppServer.Http

def authenticityField : String := "authenticityToken"

def authenticityHeader : String := "x-authenticity-token"

def formContentType : String := "application/x-www-form-urlencoded"

def maxFormBytes : Nat := 64 * 1024

def safeMethods : List String := ["GET", "HEAD", "OPTIONS", "TRACE"]

inductive Verdict where
  | pass
  | forbidden
  | tooLarge
deriving DecidableEq, Repr

def Verdict.rejection? : Verdict → Option Response
  | .pass => none
  | .forbidden => some (Response.ofText 403 "invalid authenticity token")
  | .tooLarge => some (Response.ofText 413 "form body too large")

def Request.isForm (request : Request) : Bool :=
  match request.headers.text? "content-type" with
  | some type => (Text.dropStart? formContentType.toList type.toList).isSome
  | none => false

def judgeCandidate (session : Session) (candidate : String) : Verdict :=
  if session.verify candidate then .pass else .forbidden

def judge (session : Session) (request : Request) : Verdict :=
  if request.method ∈ safeMethods then .pass
  else match request.headers.text? authenticityHeader with
    | some candidate => judgeCandidate session candidate
    | none =>
      if !request.isForm then .forbidden
      else if maxFormBytes < request.body.length then .tooLarge
      else match (Form.decode request.body).lookup authenticityField with
        | some candidate => judgeCandidate session candidate
        | none => .forbidden

/-- Lets only requests through that the check passes. -/
def requireToken (inner : Handler ν) : Handler ν :=
  fun request context realm =>
    match context with
    | none => ⟨sessionLayerMissing, realm, none⟩
    | some ref =>
      match (judge (realm.session ref) request).rejection? with
      | some response => ⟨response, realm, none⟩
      | none => inner request context realm

end AppServer.Http
