import RegionAudit.Url

/-!
What goes back and forth between an audit and a remote side: requests, and the replies to them.
-/
namespace RegionAudit

structure Request where
  url : Url
  userAgent : String
  deriving DecidableEq, Repr

namespace Request

/-- A safe connection begins with a request for a tunnel to the host. -/
def isTunnel (r : Request) : Bool :=
  r.url.scheme = "https".toList

def tunnelEnd (u : Url) : List Char :=
  ((u.host.map Url.Host.text).getD []) ++ ':' ::
    Nat.toDigits 10 (u.port.getD ((Url.usualPort? u.scheme).getD 0))

def line (r : Request) : String :=
  if r.isTunnel then "CONNECT " ++ String.ofList (tunnelEnd r.url)
  else "GET " ++ String.ofList r.url.sentText

/-- The order of requests by their lines and then by the names under which they are made. -/
def before (a b : Request) : Bool :=
  a.line < b.line || (a.line = b.line && a.userAgent ≤ b.userAgent)

end Request

structure Response where
  status : Nat
  /-- Where else to ask. -/
  location : Option String
  body : List Nat
  /-- Whether the body came to its announced end. -/
  isWhole : Bool
  deriving DecidableEq, Repr

namespace Response

def movedStatuses : List Nat := [301,302,303,307,308]

def isRefusal (r : Response) : Bool :=
  400 ≤ r.status && r.status ≤ 599

/-- Where an answer to a request for `url` sends the asker, if it does. -/
def target? (r : Response) (url : Url) : Option Url :=
  if r.status ∈ movedStatuses then r.location.bind fun l => url.join? l.toList else none

/-- The bytes of the answer; some statuses never come with any. -/
def content? (r : Response) : Option (List Nat) :=
  if r.status = 204 || r.status = 304 then some []
  else if r.isWhole then some r.body
  else none

end Response

inductive Reply
  /-- No connection is made, and the request is not seen. -/
  | refused
  /-- The connection ends without a response. -/
  | dropped
  /-- Nothing ever comes. -/
  | silent
  | response (r : Response)
  deriving DecidableEq, Repr

/-- The remote side: its reply to a request that follows some others. -/
abbrev Remote := Nat → Request → Reply

def Remote.unreachable : Remote := fun _ _ => .refused

end RegionAudit
