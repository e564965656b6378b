import CloudCensus.Proofs.Http.Sends
import CloudCensus.Proofs.Http.Url
import CloudCensus.Proofs.Ledger
import CloudCensus.Proofs.Limiter
import Mathlib.Logic.Function.Iterate
import Mathlib.Order.Bounds.Basic

namespace CloudCensus

namespace Ledger

theorem count_replicate (n : Nat) (d c : Counter) :
    Ledger.count (List.replicate n (d, 1)) c = if c = d then n else 0 := by
  induction n with
  | zero => simp [count, total]
  | succ n ih =>
      rw [List.replicate_succ, ← List.singleton_append, count_append, ih]
      by_cases same : c = d
      · simp [same, count, total, Nat.add_comm]
      · rw [count_of_ne _ _ _ (Ne.symm same), if_neg same, if_neg same]

end Ledger

namespace Http

def Link.served (method : String) (message : Message) (l : Link) : Link :=
  let ledger := l.ledger ++ (l.limiter.wait method false).ledger
  { l with
    replies := l.replies.drop 1
    sent := l.sent ++ [⟨message, ledger.count (.limiterWaits method)⟩]
    limiter := l.limiter.waited method
    ledger := ledger }

def Link.waitsFor (l : Link) (method : String) (n : Nat) : Nat :=
  if l.limiter.isThrottled method then n else 0

def Link.sentBy (l : Link) (method : String) (message : Message) (n : Nat) : List Sent :=
  (List.range n).map fun i =>
    ⟨message, l.ledger.count (.limiterWaits method) + l.waitsFor method (i + 1)⟩

theorem iterate_served (method : String) (message : Message) (l : Link) (n : Nat) :
    (Link.served method message)^[n] l =
      { l with
        replies := l.replies.drop n
        sent := l.sent ++ l.sentBy method message n
        limiter := (Limiter.waited method)^[n] l.limiter
        ledger := l.ledger ++ List.replicate (l.waitsFor method n) (.limiterWaits method, 1) } := by
  induction n with
  | zero => simp [Link.sentBy, Link.waitsFor]
  | succ n ih =>
      have ledger : List.replicate (l.waitsFor method n) (Counter.limiterWaits method, 1) ++
          (((Limiter.waited method)^[n] l.limiter).wait method false).ledger =
            List.replicate (l.waitsFor method (n + 1)) (Counter.limiterWaits method, 1) := by
        rw [Limiter.ledger_wait, Limiter.isThrottled_iterate_waited, Link.waitsFor, Link.waitsFor]
        cases l.limiter.isThrottled method <;> simp [List.replicate_succ']
      rw [Function.iterate_succ_apply', ih, Link.served]
      simp only [List.append_assoc, ledger, Function.iterate_succ_apply', Ledger.count_append,
        Ledger.count_replicate, if_true, List.drop_drop]
      simp [Link.sentBy, List.range_succ]

structure Reaches (q : Query) (token : Option String) (message : Message) (l : Link) : Prop where
  exists_url : ∃ url, q.request? token = some (url, message) ∧ l.listening = some url.origin
  calm : l.fired = false

section

variable {α : Type} {q : Query} {token : Option String} {message : Message} {l : Link}
variable (decode : Written → Option α)

theorem reaches_iterate_served (reaches : Reaches q token message l) (n : Nat) :
    Reaches q token message ((Link.served q.method message)^[n] l) := by
  rw [iterate_served]
  exact ⟨reaches.exists_url, reaches.calm⟩

theorem send_of_reaches (reaches : Reaches q token message l) :
    send q token l =
      answer
        { l with
          sent := l.sent ++ [⟨message, l.ledger.count (.limiterWaits q.method)⟩]
          replies := l.replies.drop 1 }
        (l.replies.head?.getD exhausted) := by
  obtain ⟨url, writable, listening⟩ := reaches.exists_url
  simp [send, reaches.calm, writable, listening]

theorem attempt_of_response (reaches : Reaches q token message l) (r : Response)
    (final : Status.isFinal r.status = true) (replies : l.replies.head?.getD exhausted = r.reply) :
    attempt q token decode l = (r.outcome decode, l.served q.method message) := by
  have waited : Reaches q token message (l.waited q.method) := ⟨reaches.exists_url, reaches.calm⟩
  have head : (l.waited q.method).replies.head?.getD exhausted = r.reply := replies
  have answered := send_of_reaches waited
  rw [head, Response.reply, answer, final, if_neg (by decide)] at answered
  rw [attempt_eq, answered, Link.served, Limiter.waited, Link.waited, reaches.calm]
  rfl

variable {rs : List Response}

theorem head_drop_replies (n : Nat) :
    ((rs.map Response.reply).drop (n - 1)).head?.getD exhausted = (Response.numbered rs n).reply := by
  rw [List.head?_drop, List.getElem?_map, Response.numbered]
  cases rs[n - 1]? <;> rfl

theorem isFinal_numbered (final : ∀ r ∈ rs, Status.isFinal r.status = true) (n : Nat) :
    Status.isFinal (Response.numbered rs n).status = true := by
  rw [Response.numbered]
  cases found : rs[n - 1]? with
  | none => rfl
  | some r => exact final r (List.mem_of_getElem? found)

theorem caller_follows (reaches : Reaches q token message l) (script : l.replies = rs.map Response.reply)
    (final : ∀ r ∈ rs, Status.isFinal r.status = true) :
    RetryPolicy.Follows (caller q token decode) (fun n => (Response.numbered rs n).outcome decode)
      fun n => (Link.served q.method message)^[n - 1] l where
  call := by
    intro n positive
    have there := reaches_iterate_served reaches (n - 1)
    have replies : ((Link.served q.method message)^[n - 1] l).replies.head?.getD exhausted =
        (Response.numbered rs n).reply := by
      rw [iterate_served, script]
      exact head_drop_replies n
    have answered := attempt_of_response decode there _ (isFinal_numbered final n) replies
    have next : n + 1 - 1 = n - 1 + 1 := by omega
    rw [next, Function.iterate_succ_apply']
    exact answered
  wait _ := rfl
  calm n := (reaches_iterate_served reaches (n - 1)).calm

end

/-- The number of the first response that ends a call: one whose status is not retried, or the last that
the policy allows. -/
def IsDecisive (policy : RetryPolicy) (rs : List Response) (k : Nat) : Prop :=
  IsLeast {n | 1 ≤ n ∧
    (¬ Status.Retried (Response.numbered rs n).status ∨ n = max 1 policy.attempts)} k

theorem decides_outcome_iff {α : Type} (policy : RetryPolicy) (decode : Written → Option α)
    (rs : List Response) (n : Nat) :
    policy.Decides (fun n => (Response.numbered rs n).outcome decode) n ↔
      ¬ Status.Retried (Response.numbered rs n).status ∨ n = max 1 policy.attempts := by
  rw [← passing_outcome_iff decode]
  cases outcome : (Response.numbered rs n).outcome decode with
  | ok v => simp [RetryPolicy.Decides, outcome]
  | error e => simp [RetryPolicy.Decides, outcome]

theorem decidedBy_outcome_iff {α : Type} (policy : RetryPolicy) (decode : Written → Option α)
    (rs : List Response) (k : Nat) :
    policy.DecidedBy (fun n => (Response.numbered rs n).outcome decode) k ↔ IsDecisive policy rs k := by
  constructor
  · intro decided
    refine ⟨⟨decided.positive, (decides_outcome_iff policy decode rs k).mp decided.decides⟩, ?_⟩
    rintro n ⟨positive, ends⟩
    by_contra before
    have earlier : n < k := by omega
    exact decided.first n positive earlier ((decides_outcome_iff policy decode rs n).mpr ends)
  · rintro ⟨⟨positive, ends⟩, least⟩
    refine ⟨positive, (decides_outcome_iff policy decode rs k).mpr ends, ?_⟩
    intro n low before decides
    have bound : k ≤ n := least ⟨low, (decides_outcome_iff policy decode rs n).mp decides⟩
    omega

theorem call_of_isDecisive {α : Type} {policy : RetryPolicy} {q : Query} {token : Option String}
    (decode : Written → Option α) {l : Link} {rs : List Response} {message : Message}
    (reaches : Reaches q token message l) (script : l.replies = rs.map Response.reply)
    (final : ∀ r ∈ rs, Status.isFinal r.status = true) {k : Nat}
    (decisive : IsDecisive policy rs k) :
    call policy q token decode l =
      ((Response.numbered rs k).outcome decode,
        let served := (Link.served q.method message)^[k] l
        { served with ledger := served.ledger ++ [(.retries q.method, k - 1)] }) := by
  have decided := (decidedBy_outcome_iff policy decode rs k).mpr decisive
  have run := policy.run_of_follows (caller_follows decode reaches script final) decided
  simp only [Nat.sub_self, Function.iterate_zero_apply, Nat.add_sub_cancel] at run
  rw [call, run]
  rfl

/-- A call to a service that answers with complete responses sends its request once for each response up
to the first that is not worth another try, each after one more wait at the limiter, and returns what the
last of these responses means. -/
theorem call_of_responses {α : Type} (policy : RetryPolicy) (q : Query) (token : Option String)
    (decode : Written → Option α) (l : Link) (rs : List Response) (message : Message)
    (reaches : Reaches q token message l) (script : l.replies = rs.map Response.reply)
    (final : ∀ r ∈ rs, Status.isFinal r.status = true) :
    ∃ k, IsDecisive policy rs k ∧
      let done := call policy q token decode l
      done.2.sent = l.sent ++ (List.range k).map (fun i => ⟨message,
          l.ledger.count (.limiterWaits q.method) +
            if l.limiter.isThrottled q.method then i + 1 else 0⟩) ∧
        (∀ method, done.2.limiter.left? method =
          if method = q.method then (l.limiter.left? method).map (· - k)
          else l.limiter.left? method) ∧
        (∀ c, done.2.ledger.count c = l.ledger.count c +
          if c = .limiterWaits q.method then (if l.limiter.isThrottled q.method then k else 0)
          else if c = .retries q.method then k - 1 else 0) ∧
        Means decode (Response.numbered rs k) done.1 := by
  obtain ⟨k, decided⟩ :=
    policy.exists_decidedBy fun n => (Response.numbered rs n).outcome decode
  have decisive := (decidedBy_outcome_iff policy decode rs k).mp decided
  refine ⟨k, decisive, ?_⟩
  rw [call_of_isDecisive decode reaches script final decisive, iterate_served]
  refine ⟨rfl, ?left, ?counts, means_outcome decode _⟩
  case left =>
    intro method
    exact Limiter.left?_iterate_waited _ _ _ _
  case counts =>
    intro c
    rw [Ledger.count_append, Ledger.count_append, Ledger.count_replicate, Nat.add_assoc, Link.waitsFor]
    congr 1
    by_cases waits : c = .limiterWaits q.method
    · rw [if_pos waits, if_pos waits, waits, Ledger.count_of_ne _ _ _ (by simp), Nat.add_zero]
    · rw [if_neg waits, if_neg waits, Nat.zero_add]
      by_cases retries : c = .retries q.method
      · simp [retries, Ledger.count, total]
      · rw [if_neg retries, Ledger.count_of_ne _ _ _ (Ne.symm retries)]

section faltering

def falteringResponses : List Response := [⟨503, []⟩, ⟨404, Utf8.encode "no such thing"⟩]

def falteringLink : Link :=
  ⟨some ⟨false, "h", 80⟩, falteringResponses.map Response.reply, [], ⟨[("m", 1)]⟩, false, []⟩

theorem written_faltering :
    Query.request? ⟨"m", "http://h/", []⟩ none =
      some (⟨⟨false, "h", 80⟩, [], none, none⟩, ⟨"/", none⟩) := by
  have scheme : Url.scheme? (Url.significant "http://h/") = some (false, ['h', '/']) := by
    decide +kernel
  have before : ['h', '/'].takeWhile (!Url.endsHost ·) = ['h'] := by decide
  have after : ['h', '/'].dropWhile (!Url.endsHost ·) = ['/'] := by decide
  have parsed := Url.parse?_of_parts scheme before Url.origin?_h after (by decide) (by decide)
  have empty : ['/'].intercalate (Url.resolveDots [] ((Host.parts '/'
      (['/'].map fun c => if Url.isSlash c then '/' else c)).drop 1)) = [] := by decide +kernel
  have unchanged : Url.addPairs [] ⟨⟨false, "h", 80⟩, [], none, none⟩ =
      ⟨⟨false, "h", 80⟩, [], none, none⟩ := by rfl
  have target : Url.target ⟨⟨false, "h", 80⟩, [], none, none⟩ = "/" := by decide +kernel
  rw [empty] at parsed
  have written := @Query.writes_of_parsed ⟨"m", "http://h/", []⟩ ⟨⟨false, "h", 80⟩, [], none, none⟩
    parsed (by decide +kernel)
  dsimp only at written
  rw [written, unchanged, target]
theorem reaches_faltering : Reaches ⟨"m", "http://h/", []⟩ none ⟨"/", none⟩ falteringLink where
  exists_url := ⟨_, written_faltering, rfl⟩
  calm := rfl

theorem isDecisive_faltering : IsDecisive .standard falteringResponses 2 := by
  refine ⟨⟨by decide, .inl (by decide)⟩, ?_⟩
  rintro n ⟨positive, ends⟩
  by_contra before
  obtain rfl : n = 1 := by omega
  rcases ends with settled | last
  · exact settled (by decide)
  · exact absurd last (by decide)

/-- A request after each of two waits, of which the second finds no permit, and one retry. -/
theorem call_of_responses_faltering :
    let done := call .standard ⟨"m", "http://h/", []⟩ none Written.text? falteringLink
    done.2.sent = [⟨⟨"/", none⟩, 1⟩, ⟨⟨"/", none⟩, 2⟩] ∧
      done.2.limiter.left? "m" = some 0 ∧
      done.2.ledger.count (.limiterWaits "m") = 2 ∧
      done.2.ledger.count (.retries "m") = 1 ∧
      done.1 = .error (.because .notFound (.stated "404 Not Found: no such thing")) := by
  obtain ⟨k, decisive, sent, left, counts, means⟩ :=
    call_of_responses .standard ⟨"m", "http://h/", []⟩ none Written.text? falteringLink
      falteringResponses ⟨"/", none⟩ reaches_faltering rfl (by decide)
  obtain rfl : k = 2 := IsLeast.unique decisive isDecisive_faltering
  intro done
  refine ⟨sent, left "m", counts _, counts _, ?_⟩
  change Means _ _ done.1 at means
  generalize done.1 = result at means
  cases means with
  | value success => exact absurd success (by decide)
  | malformed success => exact absurd success (by decide)
  | refused _ => decide

end faltering

end Http
end CloudCensus
