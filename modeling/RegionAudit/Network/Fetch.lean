import RegionAudit.Run
import RegionAudit.Text.Bytes

/-!
Asking for what stands at an address. An answer may send the asker on, ten times at most; whatever goes
wrong, the failure names the address that was asked for in the first place.
-/
namespace RegionAudit

/-- One who asks: under which name, and how many seconds it waits. -/
structure Client where
  timeout : Nat
  userAgent : String
  deriving DecidableEq, Repr

namespace Client

/-- Whether a character may stand in the name under which one asks. -/
def isNameChar (c : Char) : Bool :=
  c = '\t' || (' ' ≤ c && c ≠ '\x7f')

def ofSettings (s : Settings) : Except Failure Client :=
  if s.userAgent.toList.all isNameChar then .ok ⟨s.timeout,s.userAgent⟩
  else .error (.noClient "builder error")

end Client

namespace Network

/-- How an exchange ends: with a response that leads nowhere else, with nothing, or for a reason. -/
inductive Ending
  | response (r : Response)
  | silent
  | failed (reason : String)
  deriving DecidableEq, Repr

def unsent (first : Url) : Ending :=
  .failed ("error sending request for url (" ++ first.text ++ ")")

/-- Makes one request. No tunnel is ever opened, so a safe connection fails. -/
def ask (remote : Remote) (asked : Nat) (request : Request) : Run Reply :=
  match remote asked request with
  | .refused => pure .refused
  | reply => do
    Run.send request
    return if request.isTunnel then .dropped else reply

/-- Asks at an address, and goes on where the answers lead. `first` is where it began, `left` the number of
times that it may still be sent on, and `asked` the number of requests made before. -/
def follow (remote : Remote) (client : Client) (first : Url) (left asked : Nat) (url : Url) :
    Run Ending := do
  match ← ask remote asked ⟨url,client.userAgent⟩ with
  | .refused | .dropped => return unsent first
  | .silent => return .silent
  | .response r =>
    match r.target? url with
    | none => return .response r
    | some target =>
      match left with
      | 0 => return .failed ("error following redirect for url (" ++ url.text ++ ")")
      | left + 1 =>
        if target.isWeb then follow remote client first left (asked + 1) target
        else return .failed ("builder error for url (" ++ target.text ++ ")")

def redirectLimit : Nat := 10

def request (remote : Remote) (client : Client) (url : String) : Run Ending :=
  match Url.ofText? url.toList with
  | none => pure (.failed "builder error")
  | some u =>
    if u.isWeb then follow remote client u redirectLimit 0 u
    else pure (.failed ("builder error for url (" ++ u.text ++ ")"))

def outcome (url : String) : Ending → Except Failure (List Char)
  | .silent => .error (.timedOut url)
  | .failed reason => .error (.requestFailed url reason)
  | .response r =>
    if r.isRefusal then .error (.unexpectedStatus url r.status)
    else
      match r.content? with
      | some bytes => .ok (Text.decode bytes)
      | none => .error (.requestFailed url "error decoding response body")

def fetch (remote : Remote) (client : Client) (url : String) :
    Run (Except Failure (List Char)) := do
  Run.tell (.fetching url)
  let ending ← request remote client url
  match outcome url ending with
  | .ok text =>
    Run.tell (.fetched url (Text.byteLength text))
    return .ok text
  | .error f => return .error f

end Network

end RegionAudit
