import CloudCensus.Http.Status
import CloudCensus.Http.Url
import CloudCensus.Limiter
import CloudCensus.Retry
import CloudCensus.Wire.Tree

/-!
Calls to a JSON service over HTTP.

Every attempt of a call passes the limiter and sends one request; passing failures are retried as the
policy says.  The service is a script of replies.
-/

namespace CloudCensus.Http

structure Body where
  bytes : List Nat
  /-- The connection ends before the body does. -/
  truncated : Bool
  deriving Repr

inductive Reply where
  | response (status : Nat) (body : Body)
  | closed
  | stalled
  /-- The run is cancelled while the answer is awaited. -/
  | cancels
  deriving Repr

structure Message where
  target : String
  authorization : Option String
  deriving DecidableEq, Repr

structure Sent extends Message where
  /-- The waits for its method that had been counted by then. -/
  waits : Nat
  deriving DecidableEq, Repr

structure Link where
  listening : Option Origin
  replies : List Reply
  sent : List Sent
  limiter : Limiter
  fired : Bool
  ledger : Ledger

/-- The service's answer once its script is used up. -/
def exhausted : Reply := .response 404 ⟨Utf8.encode "script exhausted", false⟩

/-- Whether a text can stand in a header: no control characters but the tab. -/
def isHeaderText (s : String) : Bool :=
  s.toList.all fun c => (0x20 ≤ c.toNat && c.toNat ≠ 0x7f) || c = '\t'

structure Query where
  method : String
  url : String
  pairs : List (String × String)
  deriving DecidableEq, Repr

def foreign (r : Reason) : Failure := .because r .foreign

def Query.request? (q : Query) (token : Option String) : Option (Url × Message) := do
  let url := (← Url.parse? q.url).addPairs q.pairs
  if token.all isHeaderText && url.write.length ≤ Url.limit then
    some (url, ⟨url.target, token.map ("Bearer " ++ ·)⟩)
  else none

def answer (l : Link) : Reply → Outcome (Nat × Body) × Link
  | .response status body =>
    if !Status.isFinal status then (.error (foreign .requestFailed), l)
    else (.ok (status, if Status.hasBody status then body else ⟨[], false⟩), l)
  | .closed => (.error (foreign .requestFailed), l)
  | .stalled => (.error (foreign .deadlineExceeded), l)
  | .cancels => (.error .cancelled, { l with fired := true })

/-- Sends one request.  A request that cannot be written fails before anything else is looked at but a
cancellation. -/
def send (q : Query) (token : Option String) (l : Link) : Outcome (Nat × Body) × Link :=
  if l.fired then (.error .cancelled, l)
  else
    match q.request? token with
    | none => (.error (foreign .requestFailed), l)
    | some (url, message) =>
      if l.listening ≠ some url.origin then (.error (foreign .unavailable), l)
      else
        let sent : Sent := ⟨message, l.ledger.count (.limiterWaits q.method)⟩
        answer { l with sent := l.sent ++ [sent], replies := l.replies.drop 1 }
          (l.replies.head?.getD exhausted)

def meaning {α : Type} (decode : Written → Option α) (status : Nat) (body : Body) : Outcome α :=
  if Status.isSuccess status then
    if body.truncated then .error (foreign .invalidResponse)
    else
      let text := Utf8.lossyText body.bytes
      match (Written.ofText? text).bind decode with
      | some v => .ok v
      | none => .error (Status.badBody status text)
  else .error (Status.failure status (if body.truncated then "" else Utf8.lossyText body.bytes))

/-- One attempt of a call: the limiter, the request, the meaning of the response.  A call that the limiter
holds goes ahead once its time has come. -/
def attempt {α : Type} (q : Query) (token : Option String) (decode : Written → Option α) (l : Link) :
    Outcome α × Link :=
  let w := l.limiter.wait q.method l.fired
  let (answer, l) := send q token { l with limiter := w.limiter, ledger := l.ledger ++ w.ledger }
  match answer with
  | .ok (status, body) => (meaning decode status body, l)
  | .error e => (.error e, l)

def caller {α : Type} (q : Query) (token : Option String) (decode : Written → Option α) :
    RetryPolicy.Caller Link α where
  call _ l := attempt q token decode l
  wait _ l := l
  fired l := l.fired

def call {α : Type} (policy : RetryPolicy) (q : Query) (token : Option String) (decode : Written → Option α)
    (l : Link) : Outcome α × Link :=
  let r := policy.run (caller q token decode) l
  (r.result, { r.state with ledger := r.state.ledger ++ r.ledger q.method })

end CloudCensus.Http
