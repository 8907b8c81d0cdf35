import Rollout.Datum

/-!
# Pages

The answer to a request is a **page**: a status, the type of its content, and a document. Pages
in plain language, which the server gives for paths that it does not know and for failures, have
no document.
-/

namespace Rollout.Monitoring

/-- The answer to a request. -/
structure Page where
  status : Nat
  contentType : String
  document : Option Datum

namespace Page

/-- A page of the history. -/
def history (status : Nat) (document : Datum) : Page where
  status := status
  contentType := "application/json; charset=utf-8"
  document := some document

/-- A page of the catalog. -/
def catalog (status : Nat) (document : Datum) : Page where
  status := status
  contentType := "application/json"
  document := some document

/-- A page in plain language. -/
def plain (status : Nat) : Page where
  status := status
  contentType := "text/html; charset=utf-8"
  document := none

/-- The answer to a request line that is not one. -/
def malformedRequest : Page where
  status := 400
  contentType := "text/html;charset=utf-8"
  document := none

/-- Why a page has no content to show. -/
inductive Refusal where
  | badRequest
  | notFound
  | invalidPlan
  | serverError
  deriving DecidableEq, Repr

/-- The status of a refusal. -/
def Refusal.status : Refusal → Nat
  | badRequest => 400
  | notFound => 404
  | invalidPlan => 422
  | serverError => 500

/-- The title of a refusal. -/
def Refusal.title : Refusal → String
  | badRequest => "Bad Request"
  | notFound => "Not Found"
  | invalidPlan => "Invalid Rampup Plan"
  | serverError => "Internal Server Error"

/-- The title in capitals and without spaces. -/
def Refusal.code : Refusal → String
  | badRequest => "BAD_REQUEST"
  | notFound => "NOT_FOUND"
  | invalidPlan => "INVALID_RAMPUP_PLAN"
  | serverError => "INTERNAL_SERVER_ERROR"

/-- The document that explains a refusal. -/
def Refusal.document (refusal : Refusal) (message : String) : Datum :=
  .record
    [("error", .text refusal.title), ("error_code", .text refusal.code),
     ("message", .text message)]

/-- A history page that explains a refusal. -/
def historyRefusal (refusal : Refusal) (message : String) : Page :=
  history refusal.status (refusal.document message)

/-- A catalog page that explains a refusal. -/
def catalogRefusal (refusal : Refusal) (message : String) : Page :=
  catalog refusal.status (refusal.document message)

end Page

end Rollout.Monitoring
