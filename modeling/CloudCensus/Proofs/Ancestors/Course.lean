import CloudCensus.Proofs.Ancestors.Visit
import CloudCensus.Proofs.Listing.Rounds

/-!
The course of a run: what it asks of the sources, when it is cancelled, and what it remembers.

A run is cancelled at an asset of a listing that it requests or at a look-up that it makes.  Nothing is
remembered from then on, and what is remembered before was looked up or listed to its end.
-/

namespace CloudCensus

def Directory.firesAt (directory : Directory) (lookUp : Level × String) : Prop :=
  (directory lookUp.1 lookUp.2 false).fires = true

namespace Accounts

/-- An account that was looked up under a key from beginning to end while nobody had cancelled the run. -/
def Whole (scope : Scope) (directory : Directory) (key : String) (a : Account) : Prop :=
  ∃ chain before after, key = chainKey chain ∧
    lookUp scope directory (projectId chain) (organizationId chain) before = (.ok a, after) ∧
    after.fired = false

section

variable (scope : Scope) (directory : Directory) (chain : List String) (s : Accounts)

theorem fired_nameIf_iff (wanted : Bool) (level : Level) (id : String) :
    (nameIf wanted directory level id s).2.fired = true ↔
      s.fired = true ∨ wanted = true ∧ directory.firesAt (level, resourceName level id) := by
  obtain ⟨_, state⟩ := displayName_state directory level id s
  cases wanted with
  | false => simp [nameIf]
  | true =>
      rw [nameIf, if_pos rfl, state]
      cases before : s.fired <;> simp [Directory.firesAt]

theorem fired_lookUp_iff :
    (lookUp scope directory (projectId chain) (organizationId chain) s).2.fired = true ↔
      s.fired = true ∨ ∃ n ∈ due scope chain, directory.firesAt n := by
  rw [lookUp_eq]
  change (nameIf _ _ _ _ (nameIf _ _ _ _ s).2).2.fired = true ↔ _
  rw [fired_nameIf_iff, fired_nameIf_iff, or_assoc, due]
  cases scope.isOrganization && !(organizationId chain).isEmpty <;>
    cases (projectId chain).isEmpty <;> simp [resourceName]

theorem resolve_parts :
    let after := (resolve scope directory chain s).2
    ∃ named, after.lookUps = s.lookUps ++ named ∧
      (after.fired = true ↔ s.fired = true ∨ ∃ n ∈ named, directory.firesAt n) ∧
      (after.memo = s.memo ∨ after.fired = false ∧
        ∃ a, Whole scope directory (chainKey chain) a ∧ after.memo = s.memo.insert (chainKey chain) a) := by
  intro after
  cases found : s.memo.find? (chainKey chain) with
  | some a =>
      have same : after = { s with ledger := s.ledger ++ s.memo.tally (chainKey chain) } :=
        congrArg Prod.snd (resolve_of_known scope directory chain s a found)
      exact ⟨[], by simp [same], by simp [same], .inl (by simp [same])⟩
  | none =>
      let begun : Accounts := { s with ledger := s.ledger ++ s.memo.tally (chainKey chain) }
      obtain ⟨a, last, looked, computed⟩ := lookUp_spec scope directory chain begun
      have fires := fired_lookUp_iff scope directory chain begun
      rw [computed] at fires
      have resolved : after = (taken (s.memo.getOrCompute (chainKey chain)
          (lookUp scope directory (projectId chain) (organizationId chain)) begun)).2 := rfl
      cases fired : last.fired with
      | true =>
          rw [fired] at computed
          rw [Memo.getOrCompute_of_failed _ _ _ begun last a found computed] at resolved
          exact ⟨due scope chain, by rw [resolved]; exact looked.lookUps, by rw [resolved]; exact fires,
            .inl (by rw [resolved]; rfl)⟩
      | false =>
          rw [fired] at computed
          rw [Memo.getOrCompute_of_computed _ _ _ begun last a found computed] at resolved
          refine ⟨due scope chain, by rw [resolved]; exact looked.lookUps, by rw [resolved]; exact fires,
            .inr ⟨by rw [resolved]; exact fired, a, ⟨chain, begun, last, rfl, computed, fired⟩, ?_⟩⟩
          rw [resolved]
          rfl

end

end Accounts

namespace Walk

/-- Policies of an ancestor whose listing came to its end, with accounts that were all resolved while
nobody had cancelled the run. -/
def WholeList (src : Sources) (ancestor : String) (policies : List Placed) : Prop :=
  ∃ kind assets w, kindOf? ancestor = some kind ∧
    src.inventory (requestFor ancestor kind) = assets.map .calm ∧
    (placeAll src w assets).1 = policies ∧ (placeAll src w assets).2.fired = false

structure Remembers (src : Sources) (w after : Walk) : Prop where
  lasting : w.fired = true → after.fired = true
  frozen : w.fired = true → after.accounts.memo = w.accounts.memo ∧ after.memo = w.memo
  accounts : ∀ key a, after.accounts.memo.find? key = some a →
    w.accounts.memo.find? key = some a ∨ Accounts.Whole src.scope src.directory key a
  policies : ∀ ancestor ps, after.memo.find? ancestor = some ps →
    w.memo.find? ancestor = some ps ∨ WholeList src ancestor ps

/-- What a run asks of the sources, and whether anything cancels it then. -/
structure Course (src : Sources) (w after : Walk) (asked : List Request)
    (named : List (Level × String)) : Prop extends Remembers src w after where
  requests : after.requests = w.requests ++ asked
  lookUps : after.accounts.lookUps = w.accounts.lookUps ++ named
  fired : after.fired = true ↔
    w.fired = true ∨ (∃ q ∈ asked, Item.Fires (src.inventory q)) ∨ ∃ n ∈ named, src.directory.firesAt n

section

variable {src : Sources} {w middle after : Walk}

theorem Remembers.same (accounts : after.accounts.memo = w.accounts.memo) (policies : after.memo = w.memo)
    (lasting : w.fired = true → after.fired = true) : Remembers src w after where
  lasting := lasting
  frozen _ := ⟨accounts, policies⟩
  accounts _ _ found := .inl (accounts ▸ found)
  policies _ _ found := .inl (policies ▸ found)

theorem Remembers.refl (src : Sources) (w : Walk) : Remembers src w w := .same rfl rfl id

theorem Remembers.trans (first : Remembers src w middle) (second : Remembers src middle after) :
    Remembers src w after where
  lasting := second.lasting ∘ first.lasting
  frozen fired := by
    obtain ⟨accounts, policies⟩ := first.frozen fired
    obtain ⟨accountsToo, policiesToo⟩ := second.frozen (first.lasting fired)
    exact ⟨accountsToo.trans accounts, policiesToo.trans policies⟩
  accounts key a found := (second.accounts key a found).elim (first.accounts key a) .inr
  policies ancestor ps found := (second.policies ancestor ps found).elim (first.policies ancestor ps) .inr

theorem Remembers.unfired (run : Remembers src w after) (calm : after.fired = false) : w.fired = false :=
  Bool.eq_false_iff.mpr fun now => Bool.false_ne_true (calm.symm.trans (run.lasting now))

theorem Course.refl (src : Sources) (w : Walk) : Course src w w [] [] where
  toRemembers := .refl src w
  requests := (List.append_nil _).symm
  lookUps := (List.append_nil _).symm
  fired := by simp

theorem Course.trans {front back : List Request} {here there : List (Level × String)}
    (first : Course src w middle front here) (second : Course src middle after back there) :
    Course src w after (front ++ back) (here ++ there) where
  toRemembers := first.toRemembers.trans second.toRemembers
  requests := by rw [second.requests, first.requests, List.append_assoc]
  lookUps := by rw [second.lookUps, first.lookUps, List.append_assoc]
  fired := by
    rw [second.fired, first.fired]
    simp only [List.mem_append, or_and_right, exists_or]
    constructor
    · rintro ((before | listing | lookUp) | listing | lookUp)
      · exact .inl before
      · exact .inr (.inl (.inl listing))
      · exact .inr (.inr (.inl lookUp))
      · exact .inr (.inl (.inr listing))
      · exact .inr (.inr (.inr lookUp))
    · rintro (before | (listing | listing) | lookUp | lookUp)
      · exact .inl (.inl before)
      · exact .inl (.inr (.inl listing))
      · exact .inr (.inl listing)
      · exact .inl (.inr (.inr lookUp))
      · exact .inr (.inr lookUp)

end

/-- A run all of whose listings name the types that they ask for. -/
def Typed (src : Sources) (w after : Walk) : Prop :=
  ∃ asked named, (∀ q ∈ asked, q.kinds ≠ []) ∧ Course src w after asked named

section

variable {src : Sources} {w middle after : Walk}

theorem Typed.refl (src : Sources) (w : Walk) : Typed src w w := ⟨[], [], nofun, .refl src w⟩

theorem Typed.trans (first : Typed src w middle) (second : Typed src middle after) :
    Typed src w after := by
  obtain ⟨front, here, typed, course⟩ := first
  obtain ⟨back, there, typedToo, courseToo⟩ := second
  exact ⟨front ++ back, here ++ there, List.forall_mem_append.mpr ⟨typed, typedToo⟩,
    course.trans courseToo⟩

theorem Typed.remembers (run : Typed src w after) : Remembers src w after := by
  obtain ⟨_, _, _, course⟩ := run
  exact course.toRemembers

end

section parts

variable (src : Sources) (w : Walk)

theorem typed_place (a : Asset) : Typed src w (place src w a).2 := by
  obtain ⟨named, lookUps, fired, memo⟩ :=
    Accounts.resolve_parts src.scope src.directory a.ancestors w.accounts
  have flag : (place src w a).2.fired = true ↔ w.fired = true ∨ ∃ n ∈ named, src.directory.firesAt n := fired
  refine ⟨[], named, nofun, ⟨?_, (List.append_nil _).symm, lookUps, by simpa using flag⟩⟩
  rcases memo with same | ⟨calm, account, whole, stored⟩
  · exact .same same rfl fun before => flag.mpr (.inl before)
  · have unfired : w.fired ≠ true := fun before => Bool.false_ne_true (calm.symm.trans (fired.mpr (.inl before)))
    refine ⟨fun before => absurd before unfired, fun before => absurd before unfired, ?_,
      fun _ _ found => .inl found⟩
    intro key b found
    change (Accounts.resolve _ _ _ _).2.memo.find? key = some b at found
    rw [stored, Memo.find?_insert] at found
    split at found
    · rename_i own
      cases found
      exact .inr (own ▸ whole)
    · exact .inl found

theorem typed_placeAll (assets : List Asset) : Typed src w (placeAll src w assets).2 := by
  induction assets generalizing w with
  | nil => exact .refl src w
  | cons a rest ih =>
      rw [placeAll_cons]
      exact (typed_place src w a).trans (ih _)

theorem course_noting (requests : List Request) (fired : Bool) (ledger : Ledger)
    (fires : fired = true ↔ w.fired = true ∨ ∃ q ∈ requests, Item.Fires (src.inventory q)) :
    Course src w (w.noting requests fired ledger) requests [] where
  toRemembers := .same rfl rfl fun before => fires.mpr (.inl before)
  requests := rfl
  lookUps := (List.append_nil _).symm
  fired := by
    change fired = true ↔ _
    rw [fires]
    simp

theorem course_tally (ledger : Ledger) : Course src w (w.tally ledger) [] [] where
  toRemembers := .same rfl rfl id
  requests := (List.append_nil _).symm
  lookUps := (List.append_nil _).symm
  fired := by
    change w.fired = true ↔ _
    simp

theorem typed_plan (ancestor : String) : Typed src w (plan src w ancestor).2 := by
  cases plan_planned src w ancestor with
  | unsupported _ made =>
      rw [made]
      exact .refl src w
  | known kind policies _ _ made =>
      rw [made]
      exact ⟨[], [], nofun, course_tally src w _⟩
  | listed kind p _ _ produced made =>
      rw [made, produced]
      refine ⟨[requestFor ancestor kind], [], by simp [requestFor], ?_⟩
      refine (course_tally src w _).trans (course_noting src _ [requestFor ancestor kind] _ _ ?_)
      change (produce _ _ true w.fired).fired = true ↔ w.fired = true ∨ _
      rw [fired_produce_iff]
      simp

theorem typed_planAll (ancestors : List String) : Typed src w (planAll src w ancestors).2 := by
  induction ancestors generalizing w with
  | nil => exact .refl src w
  | cons ancestor rest ih =>
      rw [planAll_cons]
      exact (typed_plan src w ancestor).trans (ih _)

def Plan.Own : Plan → Prop
  | .unsupported => True
  | .known _ => True
  | .listing ancestor p => ∃ kind fired, kindOf? ancestor = some kind ∧ p = listingOf src ancestor kind fired

theorem plan_own (ancestor : String) : (plan src w ancestor).1.Own src := by
  cases plan_planned src w ancestor with
  | unsupported _ made => rw [made]; trivial
  | known _ _ _ _ made => rw [made]; trivial
  | listed kind p supported _ produced made =>
      rw [made]
      exact ⟨kind, w.fired, supported, produced⟩

theorem planAll_own (ancestors : List String) : ∀ p ∈ (planAll src w ancestors).1, p.Own src := by
  induction ancestors generalizing w with
  | nil => nofun
  | cons ancestor rest ih =>
      rw [planAll_cons]
      exact List.forall_mem_cons.mpr ⟨plan_own src w ancestor, ih _⟩

/-- A list is remembered if its listing and all its accounts were done before a cancellation. -/
theorem typed_carryOut (plan : Plan) (own : plan.Own src) : Typed src w (carryOut src w plan).2 := by
  cases plan with
  | unsupported => exact .refl src w
  | known policies => exact .refl src w
  | listing ancestor p =>
      obtain ⟨kind, before, supported, rfl⟩ := own
      let p := listingOf src ancestor kind before
      cases outcome : p.outcome with
      | error e =>
          rw [carryOut_of_error src ancestor w p e outcome]
          exact .refl src w
      | ok count =>
          cases calm : w.fired with
          | true =>
              rw [carryOut_of_fired src ancestor w p calm]
              exact .refl src w
          | false =>
              obtain ⟨assets, whole, queue⟩ := calm_of_produce before (congrArg Outcome.bare outcome)
              have carried : carryOut src w (.listing ancestor p) =
                  if (placeAll src w assets).2.fired then ([], (placeAll src w assets).2)
                  else ((placeAll src w assets).1,
                    { (placeAll src w assets).2 with
                      memo := w.memo.insert ancestor (placeAll src w assets).1 }) := by
                have received : received p.queue = assets :=
                  (congrArg received queue).trans (received_map_ok assets)
                simp only [carryOut, calm, outcome, received, memo_placeAll]
                rfl
              obtain ⟨asked, named, typed, course⟩ := typed_placeAll src w assets
              rw [carried]
              cases late : (placeAll src w assets).2.fired with
              | true => exact ⟨asked, named, typed, course⟩
              | false =>
                  have unfired : w.fired ≠ true := by simp [calm]
                  refine ⟨asked, named, typed, ⟨⟨fun now => absurd now unfired,
                    fun now => absurd now unfired, course.accounts, ?_⟩, course.requests,
                    course.lookUps, course.fired⟩⟩
                  intro other ps found
                  rw [if_neg Bool.false_ne_true, Memo.find?_insert] at found
                  split at found
                  · rename_i here
                    rw [here]
                    exact .inr ⟨kind, assets, w, supported, whole, Option.some.inj found, late⟩
                  · exact .inl found

theorem typed_carryOutAll (plans : List Plan) (own : ∀ p ∈ plans, p.Own src) :
    Typed src w (carryOutAll src w plans).2 := by
  induction plans generalizing w with
  | nil => exact .refl src w
  | cons plan rest ih =>
      obtain ⟨here, there⟩ := List.forall_mem_cons.mp own
      rw [carryOutAll_cons]
      exact (typed_carryOut src w plan here).trans (ih _ there)

theorem typed_policiesFor (ancestors : List String) : Typed src w (policiesFor src w ancestors).2 :=
  (typed_planAll src w ancestors).trans
    (typed_carryOutAll src _ _ (planAll_own src w ancestors))

end parts

end Walk
end CloudCensus
