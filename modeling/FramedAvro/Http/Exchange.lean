import FramedAvro.Http.Header
import FramedAvro.Http.Base64
import FramedAvro.Http.Status
import FramedAvro.Url.Basic

/-!
# Exchanges

One request over HTTP and the answer to it. What lies between is a `Transport`, which may answer
every request differently or not at all.

## Main definitions

* `Request`, `Reply`: what goes over the wire.
* `Transport`: what takes requests.
* `Authorization.ofUrl`: the name and the password in a URL, which are said in a header.
* `Request.make`: the request of a call with its headers.
-/

namespace FramedAvro.Http

/-- What a request does. -/
inductive Method where
  | get
  | post
deriving DecidableEq, Repr

/-- The name of a method. -/
def Method.name : Method → String
  | get => "GET"
  | post => "POST"

/-- A request. The names of its headers are in lower case. -/
structure Request where
  method : Method
  url : Url
  headers : List (String × String)
  body : Option String

/-- An answer. The body of one that is not complete breaks off. -/
structure Reply where
  status : Nat
  body : Bytes
  complete : Bool
deriving DecidableEq, Repr

/-- The text of the body, if it is complete. -/
def Reply.text? (reply : Reply) : Option String :=
  if reply.complete then some (Utf8.decodeLossy reply.body) else none

/-- What takes requests, with a state of its own. No reply means that there was no answer. -/
structure Transport (τ : Type) where
  send : Request → StateM τ (Option Reply)

/-- A transport on which no host answers. -/
def Transport.silent : Transport Unit where
  send _ := return none

/-- What a scripted transport answers with: the requests it took, and the replies it has left. -/
structure Script where
  requests : List Request
  replies : List (Option Reply)

/-- The answer when there are no replies left. -/
def noReplyLeft : Reply :=
  ⟨500, Utf8.encode "no reply left", true⟩

/-- A transport that gives the replies of a script one after the other. -/
def Transport.scripted : Transport Script where
  send request := fun script =>
    let requests := script.requests ++ [request]
    match script.replies with
    | reply :: rest => (reply, ⟨requests, rest⟩)
    | [] => (some noReplyLeft, ⟨requests, []⟩)

/-- Who a request says it comes from. -/
inductive Authorization where
  | none
  | token (text : String)
  | basic (user : String) (password : Option String)
deriving DecidableEq, Repr

namespace Authorization

/-- The name of the way in which requests say it. -/
def label : Authorization → String
  | none => "None"
  | token _ => "Token"
  | basic _ _ => "Basic"

/-- The value of the header. -/
def header? : Authorization → Option String
  | none => Option.none
  | token text => some ("Bearer " ++ text)
  | basic user password =>
    let plain := user ++ ":" ++ password.getD ""
    some ("Basic " ++ String.ofList (Base64.encode (Utf8.encode plain)))

/-- The headers in which a request says it: one or none. -/
def headers (authorization : Authorization) : List (String × String) :=
  match authorization.header? with
  | some value => [("authorization", value)]
  | Option.none => []

/-- The name and the password in a URL, decoded. A password that is no text counts as none, and with
a name that is no text neither is said. -/
def ofUrl (url : Url) : Authorization :=
  match Utf8.decode? (Url.Percent.decode url.user.toList) with
  | some user =>
    let password := url.password.bind fun text => Utf8.decode? (Url.Percent.decode text.toList)
    if user.isEmpty && password.isNone then none else basic user password
  | Option.none => none

end Authorization

namespace Request

/-- The URL to which a request goes. A name and a password that a header says are not in it. -/
def target (url : Url) : Url :=
  if Authorization.ofUrl url = .none then url else { url with user := "", password := none }

/-- Saying in a header who a request comes from does not change the scheme of the URL. -/
@[simp] theorem scheme_target (url : Url) : (target url).scheme = url.scheme := by
  rw [target]
  split <;> rfl

/-- Saying it in a header does not change the host. -/
@[simp] theorem host_target (url : Url) : (target url).host = url.host := by
  rw [target]
  split <;> rfl

/-- Saying it in a header does not change the path. -/
@[simp] theorem path_target (url : Url) : (target url).path = url.path := by
  rw [target]
  split <;> rfl

/-- The URL to which a request goes says nothing more about who it comes from. -/
theorem ofUrl_target (url : Url) : Authorization.ofUrl (target url) = .none := by
  rw [target]
  split
  · next hnone => exact hnone
  · have hnobody : Utf8.decode? (Url.Percent.decode []) = some "" := by
      rw [Url.Percent.decode]
      exact Utf8.decode?_encode ""
    simp [Authorization.ofUrl, hnobody]

/-- The headers that a call sets itself, which come before those that are set for all calls. Who it
comes from may be said twice, first as the URL has it. -/
def ownHeaders (login authorization : Authorization) (body : Option String) :
    List (String × String) :=
  login.headers ++
    (if body.isSome then [("content-type", "application/json"), ("accept", "application/json")]
      else []) ++
    authorization.headers

/-- The headers of a request: its own, those that are set for all calls under other names, and the
one that says that every kind of answer is welcome unless another says which. -/
def headersWith (own custom : List (String × String)) : List (String × String) :=
  let headers := own ++ custom.filter fun header => (own.lookup header.1).isNone
  if (headers.lookup "accept").isSome then headers else headers ++ [("accept", "*/*")]

/-- The request of a call: one with a body posts it. A name and a password in the URL come before
those of the settings. -/
def make (url : Url) (authorization : Authorization) (custom : List (String × String))
    (body : Option String) : Request where
  method := if body.isSome then .post else .get
  url := target url
  headers := headersWith (ownHeaders (.ofUrl url) authorization body) custom
  body := body

/-- Whether a request can be sent: over HTTP, to a host, and with headers that can be sent. -/
def isSendable (request : Request) : Bool :=
  ["http", "https"].contains request.url.scheme && request.url.host.isSome &&
    request.headers.all fun header => Header.isValue header.2

end Request

end FramedAvro.Http
