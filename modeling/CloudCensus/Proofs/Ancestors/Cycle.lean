import CloudCensus.Proofs.Ancestors.Direct
import CloudCensus.Proofs.Ancestors.Listings
import Mathlib.Data.List.DropRight

/-!
How often each ancestor is listed.

A cycle begins where the policies were last forgotten.  What is remembered after any calls are the
ancestors named in the cycle so far whose listings come to their end, so such an ancestor is listed once
per cycle, and one whose listing breaks each time it is named.
-/

namespace CloudCensus.Walk

def Call.isVisit : Call → Bool
  | .visit _ _ _ => true
  | .clearPolicies => false
  | .clear => false

def Call.ancestors : Call → List String
  | .visit _ ancestors _ => ancestors
  | .clearPolicies => []
  | .clear => []

def namedSince (past : List Call) : List String :=
  (past.rtakeWhile Call.isVisit).flatMap Call.ancestors

def known (inventory : Inventory) (past : List Call) (ancestor : String) : Bool :=
  decide (ancestor ∈ namedSince past) && finishes inventory ancestor

def timesNamed (calls : List Call) (ancestor : String) : Nat :=
  calls.countP fun c => decide (ancestor ∈ c.ancestors)

def timesListed (replies : List Reply) (ancestor : String) : Nat :=
  (replies.flatMap (·.requests)).countP fun request => decide (request.parent = ancestor)

def timesDue (inventory : Inventory) (ancestor : String) (named : Nat) : Nat :=
  if (listingFor? ancestor).isNone then 0
  else if finishes inventory ancestor then min 1 named
  else named

/-- Calls that are not cancelled, find listings that end as they do in one inventory, and name no
ancestor twice. -/
structure Steady (inventory : Inventory) (calls : List Call) : Prop where
  endings : ∀ now ancestors cancelled, .visit now ancestors cancelled ∈ calls → ∀ request,
    Item.complete? (now.inventory request) = Item.complete? (inventory request)
  calm : ∀ reply ∈ (run start calls).1, reply.fired = false
  distinct : ∀ c ∈ calls, c.ancestors.Nodup

namespace Steady

variable {inventory : Inventory} {past rest : List Call}

theorem before (steady : Steady inventory (past ++ rest)) : Steady inventory past where
  endings now ancestors cancelled member :=
    steady.endings now ancestors cancelled (List.mem_append_left rest member)
  calm reply member := by
    apply steady.calm reply
    rw [run, Steps.run_append]
    exact List.mem_append_left _ member
  distinct c member := steady.distinct c (List.mem_append_left rest member)

theorem finishes_eq {now : Sources} {ancestors : List String} {cancelled : Bool}
    (steady : Steady inventory (past ++ .visit now ancestors cancelled :: rest)) (ancestor : String) :
    finishes now.inventory ancestor = finishes inventory ancestor := by
  have endings := steady.endings now ancestors cancelled (by simp)
  rw [finishes, finishes]
  cases listingFor? ancestor with
  | none => rfl
  | some request => exact congrArg Option.isSome (endings request)

theorem unfired {c : Call} (steady : Steady inventory (past ++ c :: rest)) :
    (step (after past) c).1.fired = false :=
  steady.calm _ (Steps.reply_mem start past rest c)

end Steady

theorem namedSince_visit (past : List Call) (c : Call) (visits : c.isVisit = true) :
    namedSince (past ++ [c]) = namedSince past ++ c.ancestors := by
  rw [namedSince, List.rtakeWhile_concat, if_pos visits]
  simp [namedSince]

theorem namedSince_forget (past : List Call) (c : Call) (forgets : c.isVisit = false) :
    namedSince (past ++ [c]) = [] := by
  rw [namedSince, List.rtakeWhile_concat, if_neg (Bool.eq_false_iff.mp forgets)]
  rfl

theorem labelled_resume (w : Walk) (cancelled : Bool) (own : Labelled w) :
    Labelled (w.resume cancelled) := ⟨own.policies, own.accounts⟩

theorem labelled_step (w : Walk) (c : Call) (own : Labelled w) : Labelled (step w c).2 := by
  cases c with
  | visit now ancestors cancelled =>
      exact (listed_policiesFor now _ ancestors (labelled_resume w cancelled own)).labelled
  | clearPolicies => exact ⟨own.policies, own.accounts⟩
  | clear => exact ⟨own.policies, own.accounts⟩

theorem labelled_after (calls : List Call) : Labelled (after calls) := by
  refine Steps.state_induction (motive := fun (_ : List Call) (w : Walk) => Labelled w)
    start ⟨rfl, rfl⟩ calls ?_
  intro past c rest _ own
  exact labelled_step _ c own

/-- What is remembered after steady calls are the ancestors named in the cycle so far whose listings
come to their end. -/
theorem remembered_after (inventory : Inventory) (calls : List Call) (steady : Steady inventory calls)
    (ancestor : String) :
    ((after calls).memo.find? ancestor).isSome ↔
      ancestor ∈ namedSince calls ∧ finishes inventory ancestor := by
  refine Steps.state_induction
    (motive := fun (past : List Call) (w : Walk) => (w.memo.find? ancestor).isSome ↔
      ancestor ∈ namedSince past ∧ finishes inventory ancestor)
    start (by simp [start, Memo.empty, Memo.find?, namedSince]) calls ?_
  intro past c rest split earlier
  rw [split] at steady
  have calm := steady.unfired
  cases c with
  | visit now ancestors cancelled =>
      have visited := remembered_policiesFor now ((after past).resume cancelled) ancestors calm ancestor
      change ((policiesFor now ((after past).resume cancelled) ancestors).2.memo.find?
        ancestor).isSome ↔ _
      rw [visited, steady.finishes_eq, namedSince_visit past _ rfl, List.mem_append, or_and_right]
      exact or_congr_left earlier
  | clearPolicies =>
      rw [namedSince_forget past _ rfl]
      simp [step, clearPolicies, Memo.clear, Memo.find?]
  | clear =>
      rw [namedSince_forget past _ rfl]
      simp [step, clear, clearPolicies, Memo.clear, Memo.find?]

theorem knows_after (inventory : Inventory) (calls : List Call) (steady : Steady inventory calls) :
    knows (after calls).memo = known inventory calls := by
  funext ancestor
  have remembered := remembered_after inventory calls steady ancestor
  rw [Bool.eq_iff_iff, knows, known, Bool.and_eq_true, Bool.and_eq_true, remembered,
    decide_eq_true_eq]
  constructor
  · rintro ⟨_, both⟩
    exact both
  · intro both
    exact ⟨supported_of_finishes inventory ancestor both.2, both⟩

theorem misses_step (w : Walk) (c : Call) (own : Labelled w) :
    (step w c).1.ledger.count policyMisses = (step w c).1.requests.length := by
  cases c with
  | visit now ancestors cancelled =>
      have listed := listed_policiesFor now _ ancestors (labelled_resume w cancelled own)
      have made : (step w (.visit now ancestors cancelled)).1.requests = _ := listed.made
      rw [made]
      exact listed.misses.trans (Nat.zero_add _)
  | clearPolicies => rfl
  | clear => rfl

theorem visit_listings (inventory : Inventory) (past : List Call) (now : Sources)
    (ancestors : List String) (cancelled : Bool) (steady : Steady inventory past) :
    let reply := (step (after past) (.visit now ancestors cancelled)).1
    reply.requests = ancestors.filterMap
        (fun ancestor => if known inventory past ancestor then none else listingFor? ancestor) ∧
      reply.ledger.count policyHits = ancestors.countP (known inventory past) ∧
      reply.ledger.count policyMisses = reply.requests.length := by
  intro reply
  have own := labelled_resume (after past) cancelled (labelled_after past)
  have listed := listed_policiesFor now ((after past).resume cancelled) ancestors own
  have made : reply.requests = ancestors.filterMap (missing? (after past).memo) := listed.made
  refine ⟨?_, ?_, misses_step _ _ (labelled_after past)⟩
  · rw [made, ← knows_after inventory past steady]
    rfl
  · rw [← knows_after inventory past steady]
    exact listed.hits.trans (Nat.zero_add _)

section cycle

variable (inventory : Inventory) (ancestor : String)

theorem parent_of_listingFor (place : String) (request : Request)
    (found : listingFor? place = some request) : request.parent = place := by
  rw [listingFor?_eq] at found
  obtain ⟨kind, _, rfl⟩ := Option.map_eq_some_iff.mp found
  rfl

theorem countP_parent (ancestors : List String) (distinct : ancestors.Nodup)
    (request? : String → Option Request)
    (own : ∀ place request, request? place = some request → request.parent = place) :
    (ancestors.filterMap request?).countP (fun request => decide (request.parent = ancestor)) =
      if ancestor ∈ ancestors ∧ (request? ancestor).isSome then 1 else 0 := by
  induction ancestors with
  | nil => rfl
  | cons place rest ih =>
      obtain ⟨fresh, others⟩ := List.nodup_cons.mp distinct
      have later := ih others
      by_cases here : place = ancestor
      · subst here
        rw [if_neg fun both => fresh both.1] at later
        cases found : request? place with
        | none => simp [found, later]
        | some request => simp [found, later, own place request found]
      · have other : ancestor ≠ place := fun same => here same.symm
        cases found : request? place with
        | none => simp [found, later, other]
        | some request =>
            have parent := own place request found
            simp [found, later, other, parent, here]

theorem timesListed_append (front back : List Reply) :
    timesListed (front ++ back) ancestor = timesListed front ancestor + timesListed back ancestor := by
  simp [timesListed]

theorem timesNamed_concat (calls : List Call) (c : Call) :
    timesNamed (calls ++ [c]) ancestor =
      timesNamed calls ancestor + (decide (ancestor ∈ c.ancestors)).toNat := by
  rw [timesNamed, List.countP_append, timesNamed]
  by_cases named : ancestor ∈ c.ancestors <;> simp [named]

theorem timesNamed_pos_iff (calls : List Call) :
    0 < timesNamed calls ancestor ↔ ancestor ∈ calls.flatMap Call.ancestors := by
  simp [timesNamed, List.countP_pos_iff]

theorem timesDue_add (named : Nat) (again : Bool) :
    timesDue inventory ancestor (named + again.toNat) =
      timesDue inventory ancestor named +
        if again = true ∧ ¬(0 < named ∧ finishes inventory ancestor = true) ∧
          (listingFor? ancestor).isSome then 1 else 0 := by
  cases again with
  | false => simp
  | true =>
      cases supported : listingFor? ancestor with
      | none => simp [timesDue, supported]
      | some request =>
          cases ends : finishes inventory ancestor with
          | false => simp [timesDue, supported, ends]
          | true =>
              by_cases before : 0 < named
              · simp [timesDue, supported, ends, before]
                omega
              · have first : named = 0 := by omega
                simp [timesDue, supported, ends, first]

theorem timesListed_step (past rest : List Call) (c : Call) (visits : c.isVisit = true)
    (steady : Steady inventory (past ++ c :: rest)) :
    timesListed [(step (after past) c).1] ancestor =
      if ancestor ∈ c.ancestors ∧ ¬known inventory past ancestor ∧ (listingFor? ancestor).isSome
      then 1 else 0 := by
  cases c with
  | clearPolicies => cases visits
  | clear => cases visits
  | visit now ancestors cancelled =>
      have distinct : ancestors.Nodup := steady.distinct (.visit now ancestors cancelled) (by simp)
      have made := (visit_listings inventory past now ancestors cancelled steady.before).1
      have own (place : String) (request : Request)
          (found : (if known inventory past place then none else listingFor? place) = some request) :
          request.parent = place := by
        split at found
        · cases found
        · exact parent_of_listingFor place request found
      rw [timesListed, List.flatMap_singleton, made, countP_parent ancestor ancestors distinct _ own]
      cases known inventory past ancestor <;> simp [Call.ancestors]

theorem namedSince_cycle (past cycle : List Call)
    (begins : ∀ last ∈ past.getLast?, last.isVisit = false) (visits : ∀ c ∈ cycle, c.isVisit = true) :
    namedSince (past ++ cycle) = cycle.flatMap Call.ancestors := by
  induction cycle using List.reverseRecOn with
  | nil =>
      rw [List.append_nil]
      rcases List.eq_nil_or_concat past with rfl | ⟨earlier, last, rfl⟩
      · rfl
      · rw [List.concat_eq_append] at begins ⊢
        exact namedSince_forget earlier last (begins last (by simp))
  | append_singleton earlier c ih =>
      have others := ih fun d member => visits d (List.mem_append_left _ member)
      rw [← List.append_assoc, namedSince_visit _ c (visits c (by simp)), others]
      simp

theorem after_append (past cycle : List Call) :
    after (past ++ cycle) = (run (after past) cycle).2 := by
  rw [after, run, Steps.run_append]
  rfl

theorem timesListed_cycle (past cycle : List Call)
    (begins : ∀ last ∈ past.getLast?, last.isVisit = false) (visits : ∀ c ∈ cycle, c.isVisit = true)
    (steady : Steady inventory (past ++ cycle)) :
    timesListed (run (after past) cycle).1 ancestor =
      timesDue inventory ancestor (timesNamed cycle ancestor) := by
  -- From the end, since what is known to a call was named by the calls of the cycle before it.
  induction cycle using List.reverseRecOn with
  | nil => simp [run, Steps.run, timesListed, timesNamed, timesDue]
  | append_singleton earlier c ih =>
      have visitsBefore (d : Call) (member : d ∈ earlier) := visits d (List.mem_append_left _ member)
      rw [← List.append_assoc] at steady
      have before := ih visitsBefore steady.before
      have last := timesListed_step inventory ancestor (past ++ earlier) [] c
        (visits c (by simp)) steady
      have named := namedSince_cycle past earlier begins visitsBefore
      have knownIff : known inventory (past ++ earlier) ancestor = true ↔
          0 < timesNamed earlier ancestor ∧ finishes inventory ancestor = true := by
        rw [known, named, Bool.and_eq_true, decide_eq_true_eq, timesNamed_pos_iff]
      rw [run, Steps.replies_concat, timesListed_append, ← run, before, timesNamed_concat]
      rw [after_append] at last
      rw [timesDue_add, last]
      simp only [knownIff, decide_eq_true_eq]

end cycle

theorem count_flatMap_misses (replies : List Reply)
    (each : ∀ reply ∈ replies, reply.ledger.count policyMisses = reply.requests.length) :
    Ledger.count (replies.flatMap (·.ledger)) policyMisses =
      (replies.flatMap (·.requests)).length := by
  induction replies with
  | nil => rfl
  | cons reply rest ih =>
      have here := each reply List.mem_cons_self
      have there := ih fun other later => each other (List.mem_cons_of_mem _ later)
      rw [List.flatMap_cons, List.flatMap_cons, Ledger.count_append, List.length_append, here, there]

/-- In every sequence of steady calls, a visit lists of its ancestors those folders and organizations
that were not named in the cycle before or whose listings break; it counts a hit for each of the others
that it knows, and a miss for each listing.  So in every cycle an ancestor whose listing comes to its end
is listed once if it is named at all, one whose listing breaks each time it is named, and one of another
kind never.  The misses of the whole run are the listings made. -/
theorem ancestors_listed_once (inventory : Inventory) (calls : List Call)
    (steady : Steady inventory calls) :
    (∀ past now ancestors cancelled rest, calls = past ++ .visit now ancestors cancelled :: rest →
      let reply := (step (after past) (.visit now ancestors cancelled)).1
      reply.requests = ancestors.filterMap
          (fun ancestor => if known inventory past ancestor then none else listingFor? ancestor) ∧
        reply.ledger.count policyHits = ancestors.countP (known inventory past) ∧
        reply.ledger.count policyMisses = reply.requests.length) ∧
    (∀ past cycle rest, calls = past ++ cycle ++ rest →
      (∀ last ∈ past.getLast?, last.isVisit = false) → (∀ c ∈ cycle, c.isVisit = true) →
      ∀ ancestor, timesListed (run (after past) cycle).1 ancestor =
        timesDue inventory ancestor (timesNamed cycle ancestor)) ∧
    Ledger.count ((run start calls).1.flatMap (·.ledger)) policyMisses =
      ((run start calls).1.flatMap (·.requests)).length := by
  refine ⟨?_, ?_, ?_⟩
  · intro past now ancestors cancelled rest split
    rw [split] at steady
    exact visit_listings inventory past now ancestors cancelled steady.before
  · intro past cycle rest split begins visits ancestor
    rw [split] at steady
    exact timesListed_cycle inventory ancestor past cycle begins visits steady.before
  · apply count_flatMap_misses
    apply Steps.forall_replies
    intro past c rest _
    exact misses_step _ c (labelled_after past)

def twoCycles : List Call :=
  [.visit (estate false) ["folders/3", "folders/2", "billing/4"] false,
    .visit (estate false) ["folders/2", "folders/3", "organizations/1"] false,
    .clearPolicies,
    .visit (estate false) ["folders/2"] false]

theorem ancestors_listed_once_two_cycles :
    Steady (estate false).inventory twoCycles ∧
    ["folders/2", "folders/3", "organizations/1", "billing/4"].map
        (timesListed (run start (twoCycles.take 2)).1) = [1, 2, 1, 0] ∧
    timesListed (run (after (twoCycles.take 3)) (twoCycles.drop 3)).1 "folders/2" = 1 ∧
    ((run start twoCycles).1.flatMap (·.requests)).length = 5 := by
  have steady : Steady (estate false).inventory twoCycles := by
    refine ⟨?_, by decide +kernel, by decide⟩
    intro now ancestors cancelled member request
    simp only [twoCycles, List.mem_cons, Call.visit.injEq, reduceCtorEq, List.not_mem_nil, or_false,
      false_or] at member
    rcases member with ⟨rfl, -⟩ | ⟨rfl, -⟩ | ⟨rfl, -⟩ <;> rfl
  obtain ⟨-, cycles, misses⟩ := ancestors_listed_once (estate false).inventory twoCycles steady
  have first := cycles [] (twoCycles.take 2) (twoCycles.drop 2) rfl (by simp) (by decide)
  have second := cycles (twoCycles.take 3) (twoCycles.drop 3) [] rfl (by decide) (by decide)
  refine ⟨steady, ?_, ?_, ?_⟩
  · exact (List.map_congr_left fun ancestor _ => first ancestor).trans (by decide +kernel)
  · exact (second "folders/2").trans (by decide +kernel)
  · exact misses.symm.trans (by decide +kernel)

end CloudCensus.Walk
