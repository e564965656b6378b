import CloudCensus.Proofs.Http.Answer
import CloudCensus.Proofs.Retry.Follow

namespace CloudCensus.Http

def Query.Writes (q : Query) (token : Option String) (message : Message) : Prop :=
  ∃ url, q.request? token = some (url, message)

structure Sends (q : Query) (token : Option String) (requests : List Sent) (l after : Link) : Prop where
  sent : after.sent = l.sent ++ requests
  replies : after.replies = l.replies.drop requests.length
  own : ∀ request ∈ requests, q.Writes token request.toMessage

section

variable {α : Type} {q : Query} {token : Option String} {l : Link}

theorem Sends.refl (q : Query) (token : Option String) (l : Link) : Sends q token [] l l where
  sent := (List.append_nil _).symm
  replies := rfl
  own := nofun

theorem Sends.trans {front back : List Sent} {mid after : Link} (first : Sends q token front l mid)
    (second : Sends q token back mid after) : Sends q token (front ++ back) l after where
  sent := by rw [second.sent, first.sent, List.append_assoc]
  replies := by rw [second.replies, first.replies, List.drop_drop, List.length_append]
  own := List.forall_mem_append.mpr ⟨first.own, second.own⟩

theorem answer_link (l : Link) (r : Reply) :
    (answer l r).2.sent = l.sent ∧ (answer l r).2.replies = l.replies := by
  cases r with
  | response status body =>
      simp only [answer]
      split <;> exact ⟨rfl, rfl⟩
  | closed => exact ⟨rfl, rfl⟩
  | stalled => exact ⟨rfl, rfl⟩
  | cancels => exact ⟨rfl, rfl⟩

theorem answer_ok {l after : Link} {r : Reply} {status : Nat} {body : Body}
    (answered : answer l r = (.ok (status, body), after)) :
    ∃ given, r = .response status given ∧
      body = if Status.hasBody status then given else ⟨[], false⟩ := by
  cases r with
  | response number given =>
      simp only [answer] at answered
      split at answered
      · cases answered
      · cases answered
        exact ⟨given, rfl, rfl⟩
  | closed => cases answered
  | stalled => cases answered
  | cancels => cases answered

/-- A request is either not sent or takes a reply. -/
theorem send_cases (q : Query) (token : Option String) (l : Link) :
    (∃ e, send q token l = (.error e, l)) ∨
      ∃ request, Sends q token [request] l (send q token l).2 ∧
        ∀ status body, (send q token l).1 = .ok (status, body) → ∃ given,
          l.replies.head?.getD exhausted = .response status given ∧
            body = if Status.hasBody status then given else ⟨[], false⟩ := by
  cases fired : l.fired with
  | true => exact .inl ⟨.cancelled, by simp [send, fired]⟩
  | false =>
      cases written : q.request? token with
      | none => exact .inl ⟨foreign .requestFailed, by simp [send, fired, written]⟩
      | some pair =>
          obtain ⟨url, message⟩ := pair
          by_cases listening : l.listening = some url.origin
          · let request : Sent := ⟨message, l.ledger.count (.limiterWaits q.method)⟩
            refine .inr ⟨request, ?_⟩
            have sent : send q token l =
                answer { l with sent := l.sent ++ [request], replies := l.replies.drop 1 }
                  (l.replies.head?.getD exhausted) := by
              simp [send, fired, written, listening, request]
            have link := answer_link
              { l with sent := l.sent ++ [request], replies := l.replies.drop 1 }
              (l.replies.head?.getD exhausted)
            rw [← sent] at link
            refine ⟨⟨link.1, link.2, ?_⟩, ?_⟩
            · intro other member
              obtain rfl := List.mem_singleton.mp member
              exact ⟨url, written⟩
            · intro status body answered
              rw [sent] at answered
              exact answer_ok (Prod.ext answered rfl)
          · exact .inl ⟨foreign .unavailable, by simp [send, fired, written, listening]⟩

def Link.waited (method : String) (l : Link) : Link :=
  { l with
    limiter := (l.limiter.wait method l.fired).limiter
    ledger := l.ledger ++ (l.limiter.wait method l.fired).ledger }

theorem attempt_eq (decode : Written → Option α) :
    attempt q token decode l =
      match send q token (l.waited q.method) with
      | (.ok (status, body), l) => (meaning decode status body, l)
      | (.error e, l) => (.error e, l) := by
  rcases answered : send q token (l.waited q.method) with ⟨e | ⟨status, body⟩, after⟩ <;>
    · rw [Link.waited] at answered
      simp only [attempt, answered]

theorem meaning_ok {decode : Written → Option α} {status : Nat} {body : Body} {v : α}
    (read : meaning decode status body = .ok v) :
    body.truncated = false ∧ ∃ node, Written.ofText? (Utf8.lossyText body.bytes) = some node := by
  rw [meaning] at read
  split at read
  · split at read
    · cases read
    · rename_i whole
      refine ⟨Bool.eq_false_iff.mpr whole, ?_⟩
      cases json : Written.ofText? (Utf8.lossyText body.bytes) with
      | some node => exact ⟨node, rfl⟩
      | none => simp [json] at read
  · cases read

theorem means_of_meaning {decode : Written → Option α} {status : Nat} {given : Body} {v : α}
    (read : meaning decode status (if Status.hasBody status then given else ⟨[], false⟩) = .ok v) :
    ∃ r : Response, r.reply = .response status given ∧ Means decode r (.ok v) := by
  obtain ⟨whole, node, json⟩ := meaning_ok read
  have carried : Status.hasBody status = true := by
    apply Bool.of_not_eq_false
    intro bare
    have empty : Written.ofText? (Utf8.lossyText []) = none := by decide +kernel
    rw [bare, if_neg Bool.false_ne_true, empty] at json
    cases json
  rw [carried, if_pos rfl] at whole
  obtain ⟨bytes, truncated⟩ := given
  obtain rfl : truncated = false := whole
  refine ⟨⟨status, bytes⟩, rfl, ?_⟩
  rw [← read]
  exact means_outcome decode ⟨status, bytes⟩

/-- An attempt sends one request at most, and a value that it returns is what the next reply means. -/
theorem attempt_sends (q : Query) (token : Option String) (l : Link) (decode : Written → Option α) :
    ∃ requests, Sends q token requests l (attempt q token decode l).2 ∧
      ∀ v, (attempt q token decode l).1 = .ok v → requests ≠ [] ∧
        ∃ r : Response, l.replies.head? = some r.reply ∧ Means decode r (.ok v) := by
  rw [attempt_eq]
  rcases send_cases q token (l.waited q.method) with ⟨e, failed⟩ | ⟨request, sends, answers⟩
  · rw [failed]
    exact ⟨[], ⟨(List.append_nil _).symm, rfl, nofun⟩, nofun⟩
  · rcases answered : send q token (l.waited q.method) with ⟨e | ⟨status, body⟩, after⟩
    · rw [answered] at sends
      exact ⟨[request], ⟨sends.sent, sends.replies, sends.own⟩, nofun⟩
    · rw [answered] at sends
      refine ⟨[request], ⟨sends.sent, sends.replies, sends.own⟩, ?_⟩
      intro v succeeded
      refine ⟨List.cons_ne_nil _ _, ?_⟩
      obtain ⟨given, reply, rfl⟩ := answers status body (congrArg Prod.fst answered)
      obtain ⟨r, same, means⟩ := means_of_meaning succeeded
      refine ⟨r, ?_, means⟩
      change l.replies.head?.getD exhausted = _ at reply
      cases next : l.replies.head? with
      | some head =>
          rw [next] at reply
          rw [same, ← reply]
          rfl
      | none =>
          -- The answer to a request without a reply is no success.
          rw [next, Option.getD_none, ← same] at reply
          have unknown : 404 = r.status := (Reply.response.inj reply).1
          cases means with
          | value success =>
              rw [← unknown] at success
              exact absurd success (by decide)

/-- A call sends its own request only, and a value that it returns is what one of the replies means that
it took. -/
theorem call_sends (policy : RetryPolicy) (q : Query) (token : Option String) (l : Link)
    (decode : Written → Option α) :
    ∃ requests, Sends q token requests l (call policy q token decode l).2 ∧
      ∀ v, (call policy q token decode l).1 = .ok v →
        ∃ r : Response, r.reply ∈ l.replies.take requests.length ∧ Means decode r (.ok v) := by
  have step : ∀ n s, (∃ requests, Sends q token requests l s) →
      ∃ requests, Sends q token requests l ((caller q token decode).call n s).2 := by
    rintro _ s ⟨before, sends⟩
    obtain ⟨requests, more, _⟩ := attempt_sends q token s decode
    exact ⟨before ++ requests, sends.trans more⟩
  obtain ⟨⟨requests, sends⟩, last⟩ :=
    policy.run_induction (caller q token decode) step (fun _ _ kept => kept) l ⟨[], .refl q token l⟩
  refine ⟨requests, ⟨sends.sent, sends.replies, sends.own⟩, ?_⟩
  intro v succeeded
  obtain ⟨_, mid, ⟨before, earlier⟩, called⟩ := last v succeeded
  obtain ⟨own, taken, enough⟩ := attempt_sends q token mid decode
  have succeeds : (attempt q token decode mid).1 = .ok v := congrArg Prod.fst called
  have ends : (attempt q token decode mid).2 = (policy.run (caller q token decode) l).state :=
    congrArg Prod.snd called
  obtain ⟨asked, r, next, means⟩ := enough v succeeds
  refine ⟨r, ?_, means⟩
  have split : requests = before ++ own := by
    have whole := (earlier.trans taken).sent
    rw [ends, sends.sent] at whole
    exact List.append_cancel_left whole
  have at_before : l.replies[before.length]? = some r.reply := by
    rw [← List.head?_drop, ← earlier.replies]
    exact next
  have bound : before.length < requests.length := by
    rw [split, List.length_append]
    exact Nat.lt_add_of_pos_right (List.length_pos_iff.mpr asked)
  apply List.mem_of_getElem?
  rw [List.getElem?_take_of_lt bound]
  exact at_before

end

end CloudCensus.Http
