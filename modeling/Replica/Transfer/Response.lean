import Replica.Bytes
import Replica.Decimal.Digits
import Replica.Text

/-!
# Answers of a blob server

A response has a status line, a content type and a body that arrives in pieces. Any status is a
response; where none is obtained there is only the text of what went wrong.
-/

namespace Replica

/-- What a body stream yields: octets, or an error that ends it. -/
inductive Piece where
  | octets (bs : Bytes)
  | error (text : String)

/-- A response whose body is yet to be read. -/
structure Response where
  status : Nat
  reason : String
  contentType? : Option String
  body : List Piece

namespace Response

/-- The statuses from 200 to 299. -/
def isSuccessStatus (status : Nat) : Bool := 200 ≤ status && status < 300

/-- The response brings a blob. -/
def isSuccess (r : Response) : Bool := isSuccessStatus r.status

/-- The response as shown in a diagnostic; its body is not. -/
def describe (r : Response) : String :=
  let contentType :=
    match r.contentType? with
    | some t => "Some(" ++ Text.quoted t ++ ")"
    | none => "None"
  "HttpResponse \x7b status: " ++ natText r.status ++ ", reason: " ++ Text.quoted r.reason ++
    ", content_type: " ++ contentType ++ ", body: " ++ Text.quoted "\x7b ... \x7d" ++ " \x7d"

end Response

end Replica
