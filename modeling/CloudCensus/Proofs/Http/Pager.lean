import CloudCensus.Http.Service
import CloudCensus.Proofs.Steps
import Mathlib.Algebra.GroupWithZero.Nat
import Mathlib.Data.List.Basic

namespace CloudCensus

/-- The token of the page after this one; an empty token is none. -/
def Page.following (page : Page) : Option String := page.next.filter fun t => !t.isEmpty

/-- The pages of a listing, each with the number of failures before it is answered. -/
abbrev Chain := List (Nat × Page)

namespace Chain

def assets (chain : Chain) : List Asset := chain.flatMap (·.2.assets)

def failures (chain : Chain) : Nat := (chain.map (·.1)).sum

/-- The token of each fetch, from the first one on, and whether the fetch is answered. -/
def fetches (token : Option String) : Chain → List (Option String × Bool)
  | [] => []
  | (n, page) :: rest =>
    List.replicate n (token, false) ++ (token, true) :: fetches page.following rest

theorem fetches_fails (token : Option String) (n : Nat) (page : Page) (rest : Chain) :
    fetches token ((n + 1, page) :: rest) = (token, false) :: fetches token ((n, page) :: rest) := by
  simp [fetches, List.replicate_succ]

end Chain

namespace Pager

variable {σ : Type}

inductive Serves (fetch : Option String → σ → Outcome Page × σ) : Option String → σ → Chain → Prop where
  | fails {token : Option String} {s after : σ} {e : Failure} {n : Nat} {page : Page} {rest : Chain}
      (failed : fetch token s = (.error e, after)) (later : Serves fetch token after ((n, page) :: rest)) :
      Serves fetch token s ((n + 1, page) :: rest)
  | last {token : Option String} {s after : σ} {page : Page}
      (answered : fetch token s = (.ok page, after)) (ends : page.following = none) :
      Serves fetch token s [(0, page)]
  | more {token : Option String} {s after : σ} {page : Page} {next : String} {rest : Chain}
      (answered : fetch token s = (.ok page, after)) (goes : page.following = some next)
      (later : Serves fetch (some next) after rest) :
      Serves fetch token s ((0, page) :: rest)

inductive Fetches (fetch : Option String → σ → Outcome Page × σ) :
    List (Option String × Bool) → σ → σ → Prop where
  | nil (s : σ) : Fetches fetch [] s s
  | failed {token : Option String} {s after last : σ} {e : Failure} {asked : List (Option String × Bool)}
      (failed : fetch token s = (.error e, after)) (later : Fetches fetch asked after last) :
      Fetches fetch ((token, false) :: asked) s last
  | answered {token : Option String} {s after last : σ} {page : Page}
      {asked : List (Option String × Bool)}
      (answered : fetch token s = (.ok page, after)) (later : Fetches fetch asked after last) :
      Fetches fetch ((token, true) :: asked) s last

/-- The empty pages that a call passes before it comes to a page with assets, to the end or to a failure. -/
inductive Passes (fetch : Option String → σ → Outcome Page × σ) :
    Pager → σ → List Page → Pager → σ → Prop where
  | nil (p : Pager) (s : σ) : Passes fetch p s [] p s
  | cons {p last : Pager} {s after final : σ} {page : Page} {next : String} {pages : List Page}
      (answered : fetch p.token s = (.ok page, after)) (empty : page.assets = [])
      (goes : page.following = some next)
      (later : Passes fetch { p with token := some next } after pages last final) :
      Passes fetch p s (page :: pages) last final

inductive Stands (fetch : Option String → σ → Outcome Page × σ) (p : Pager) (s : σ) : Chain → Prop where
  | ended (exhausted : p.exhausted = true) : Stands fetch p s []
  | within {chain : Chain} (going : p.exhausted = false) (serves : Serves fetch p.token s chain) :
      Stands fetch p s chain

def Delivers (before after : List Asset × Nat) : Outcome (Option Asset) → Prop
  | .ok (some a) => before = (a :: after.1, after.2)
  | .ok none => before = ([], 0) ∧ after = ([], 0)
  | .error _ => before = (after.1, after.2 + 1)

def left (p : Pager) (chain : Chain) : List Asset × Nat := (p.buffer ++ chain.assets, chain.failures)

theorem buffer_take (p : Pager) (page : Page) : (p.take page).buffer = p.buffer ++ page.assets := by
  cases next : page.next with
  | none => simp [take, next]
  | some t => cases blank : t.isEmpty <;> simp [take, next, blank]

theorem take_last (p : Pager) (page : Page) (ends : page.following = none) :
    p.take page = { p with buffer := p.buffer ++ page.assets, exhausted := true } := by
  rw [Page.following] at ends
  cases next : page.next with
  | none => simp [take, next]
  | some t =>
      rw [next, Option.filter_eq_none_iff] at ends
      have blank : t.isEmpty = true := by simpa using ends t rfl
      simp [take, next, blank]

theorem take_more (p : Pager) (page : Page) (t : String) (goes : page.following = some t) :
    p.take page = { p with buffer := p.buffer ++ page.assets, token := some t } := by
  rw [Page.following, Option.filter_eq_some_iff] at goes
  obtain ⟨next, full⟩ := goes
  have filled : t.isEmpty = false := by simpa using full
  simp [take, next, filled]

section next

variable (fetch : Option String → σ → Outcome Page × σ) (fuel : Nat) (p : Pager) (s : σ)

theorem next_of_buffered (a : Asset) (rest : List Asset) (buffer : p.buffer = a :: rest) :
    p.next fetch fuel s = (.ok (some a), { p with buffer := rest }, s) := by
  unfold next
  simp [buffer]

theorem next_of_exhausted (buffer : p.buffer = []) (exhausted : p.exhausted = true) :
    p.next fetch fuel s = (.ok none, p, s) := by
  unfold next
  simp [buffer, exhausted]

variable (buffer : p.buffer = []) (going : p.exhausted = false)

include buffer going

theorem next_of_failed (e : Failure) (after : σ) (failed : fetch p.token s = (.error e, after)) :
    p.next fetch fuel s = (.error e, p, after) := by
  unfold next
  simp [buffer, going, failed]

theorem next_of_fetched (page : Page) (after : σ) (answered : fetch p.token s = (.ok page, after)) :
    p.next fetch (fuel + 1) s = (p.take page).next fetch fuel after := by
  conv =>
    left
    unfold next
  simp [buffer, going, answered]

end next

section

variable {fetch : Option String → σ → Outcome Page × σ} {p : Pager} {s : σ} {chain : Chain}

/-- A call goes on in a chain: it makes the fetches in front of the rest, and hands out what comes next. -/
structure Advances (fetch : Option String → σ → Outcome Page × σ) (p : Pager) (s : σ) (chain : Chain)
    (done : Outcome (Option Asset) × Pager × σ) (rest : Chain) (asked : List (Option String × Bool)) :
    Prop where
  stands : Stands fetch done.2.1 done.2.2 rest
  fetches : Fetches fetch asked s done.2.2
  split : Chain.fetches p.token chain = asked ++ Chain.fetches done.2.1.token rest
  delivers : Delivers (p.left chain) (done.2.1.left rest) done.1
  ended : done.1 = .ok none → done.2.1.buffer = [] ∧ done.2.1.exhausted = true

theorem advances_of_buffered (stands : Stands fetch p s chain) (fuel : Nat) (a : Asset)
    (rest : List Asset) (buffer : p.buffer = a :: rest) :
    Advances fetch p s chain (p.next fetch fuel s) chain [] := by
  rw [next_of_buffered fetch fuel p s a rest buffer]
  refine ⟨?_, .nil s, rfl, ?_, nofun⟩
  · cases stands with
    | ended exhausted => exact .ended exhausted
    | within going serves => exact .within going serves
  · simp [Delivers, left, buffer]

theorem advances_of_exhausted (fuel : Nat) (buffer : p.buffer = []) (exhausted : p.exhausted = true) :
    Advances fetch p s [] (p.next fetch fuel s) [] [] := by
  rw [next_of_exhausted fetch fuel p s buffer exhausted]
  refine ⟨.ended exhausted, .nil s, rfl, ?_, fun _ => ⟨buffer, exhausted⟩⟩
  simp [Delivers, left, buffer, Chain.assets, Chain.failures]

theorem Advances.after_page {page : Page} {after : σ} {pages rest : Chain}
    {asked : List (Option String × Bool)} {done : Outcome (Option Asset) × Pager × σ}
    (buffer : p.buffer = []) (answered : fetch p.token s = (.ok page, after))
    (tokens : Chain.fetches page.following pages = Chain.fetches (p.take page).token pages)
    (later : Advances fetch (p.take page) after pages done rest asked) :
    Advances fetch p s ((0, page) :: pages) done rest ((p.token, true) :: asked) where
  stands := later.stands
  fetches := .answered answered later.fetches
  split := by simp [Chain.fetches, tokens, later.split]
  delivers := by
    have same : p.left ((0, page) :: pages) = (p.take page).left pages := by
      simp [left, buffer_take, buffer, Chain.assets, Chain.failures]
    rw [same]
    exact later.delivers
  ended := later.ended

/-- A call hands out the next asset of what is left, or fails with the next fetch of the chain. -/
theorem next_advances (stands : Stands fetch p s chain) (fuel : Nat) (enough : chain.length ≤ fuel) :
    ∃ rest asked, Advances fetch p s chain (p.next fetch fuel s) rest asked := by
  induction fuel generalizing p s chain with
  | zero =>
      obtain rfl : chain = [] := List.length_eq_zero_iff.mp (Nat.le_zero.mp enough)
      cases buffer : p.buffer with
      | cons a rest => exact ⟨_, _, advances_of_buffered stands 0 a rest buffer⟩
      | nil =>
          cases stands with
          | ended exhausted => exact ⟨_, _, advances_of_exhausted 0 buffer exhausted⟩
          | within going serves => cases serves
  | succ fuel ih =>
      cases buffer : p.buffer with
      | cons a rest => exact ⟨_, _, advances_of_buffered stands (fuel + 1) a rest buffer⟩
      | nil =>
          cases stands with
          | ended exhausted => exact ⟨_, _, advances_of_exhausted (fuel + 1) buffer exhausted⟩
          | within going serves =>
              cases serves with
              | fails failed later =>
                  rw [next_of_failed fetch _ p s buffer going _ _ failed]
                  refine ⟨_, _, .within going later, .failed failed (.nil _), ?_, ?_, nofun⟩
                  · exact Chain.fetches_fails _ _ _ _
                  · simp [Delivers, left, Chain.assets, Chain.failures, Nat.add_right_comm]
              | last answered ends =>
                  rw [next_of_fetched fetch fuel p s buffer going _ _ answered]
                  have exhausted : (p.take _).exhausted = true :=
                    congrArg Pager.exhausted (take_last p _ ends)
                  obtain ⟨rest, asked, later⟩ := ih (.ended exhausted) (Nat.zero_le fuel)
                  exact ⟨rest, _, .after_page buffer answered rfl later⟩
              | more answered goes serves =>
                  rw [next_of_fetched fetch fuel p s buffer going _ _ answered]
                  have taken := take_more p _ _ goes
                  rename_i page next pages
                  have token : (p.take page).token = some next := congrArg Pager.token taken
                  have unended : (p.take page).exhausted = false := by
                    rw [taken]
                    exact going
                  rw [← token] at serves
                  obtain ⟨rest, asked, later⟩ :=
                    ih (.within unended serves) (Nat.le_of_succ_le_succ enough)
                  exact ⟨rest, _, .after_page buffer answered (by rw [token, goes]) later⟩

end

section run

variable {fetch : Option String → σ → Outcome Page × σ} {fuel : σ → Nat}

def call (fetch : Option String → σ → Outcome Page × σ) (fuel : σ → Nat) (place : Pager × σ) (_ : Unit) :
    Outcome (Option Asset) × Pager × σ :=
  place.1.next fetch (fuel place.2) place.2

def handed (answers : List (Outcome (Option Asset))) : List (Option Asset) :=
  answers.filterMap Except.toOption

def failed (answers : List (Outcome (Option Asset))) : Nat :=
  answers.countP fun r => r.toOption.isNone

theorem handed_append (front back : List (Outcome (Option Asset))) :
    handed (front ++ back) = handed front ++ handed back :=
  List.filterMap_append

theorem failed_append (front back : List (Outcome (Option Asset))) :
    failed (front ++ back) = failed front + failed back :=
  List.countP_append

theorem length_handed (answers : List (Outcome (Option Asset))) :
    (handed answers).length + failed answers = answers.length := by
  induction answers with
  | nil => rfl
  | cons r rest ih =>
      rw [← List.singleton_append, handed_append, failed_append, List.length_append, List.length_append,
        ← ih]
      cases r with
      | ok a =>
          have one : (handed [.ok a]).length = 1 ∧ failed [.ok a] = 0 := ⟨rfl, rfl⟩
          simp only [one, List.length_singleton]
          omega
      | error e =>
          have one : (handed [.error e]).length = 0 ∧ failed [.error e] = 1 := ⟨rfl, rfl⟩
          simp only [one, List.length_singleton]
          omega

/-- What some calls have made of a chain, of which `rest` is still to be read. -/
structure Reads (fetch : Option String → σ → Outcome Page × σ) (first : σ) (chain : Chain)
    (answers : List (Outcome (Option Asset))) (place : Pager × σ) (rest : Chain)
    (asked : List (Option String × Bool)) : Prop where
  stands : Stands fetch place.1 place.2 rest
  fetches : Fetches fetch asked first place.2
  split : Chain.fetches none chain = asked ++ Chain.fetches place.1.token rest
  failures : failed answers + rest.failures = chain.failures
  assets : ∃ ends, handed answers ++ (place.1.buffer ++ rest.assets).map some =
    chain.assets.map some ++ List.replicate ends none
  ended : .ok none ∈ answers → place.1.buffer = [] ∧ place.1.exhausted = true

theorem Fetches.append {asked more : List (Option String × Bool)} {s mid last : σ}
    (front : Fetches fetch asked s mid) (back : Fetches fetch more mid last) :
    Fetches fetch (asked ++ more) s last := by
  induction front with
  | nil s => exact back
  | failed failed _ ih => exact .failed failed (ih back)
  | answered answered _ ih => exact .answered answered (ih back)

theorem reads_start {first : σ} {chain : Chain} (serves : Serves fetch none first chain) :
    Reads fetch first chain [] (start, first) chain [] where
  stands := .within rfl serves
  fetches := .nil first
  split := rfl
  failures := Nat.zero_add _
  assets := ⟨0, by simp [handed, start]⟩
  ended := nofun

theorem failed_of_delivers {before after : List Asset × Nat} {r : Outcome (Option Asset)}
    (delivers : Delivers before after r) : failed [r] + after.2 = before.2 := by
  match r, delivers with
  | .ok (some a), delivers =>
      rw [delivers]
      exact Nat.zero_add _
  | .ok none, ⟨drained, done⟩ =>
      rw [drained, done]
      rfl
  | .error e, delivers =>
      rw [delivers]
      exact Nat.add_comm _ _

theorem handed_of_delivers {before after : List Asset × Nat} {r : Outcome (Option Asset)}
    (delivers : Delivers before after r) :
    ∃ ends, handed [r] ++ after.1.map some = before.1.map some ++ List.replicate ends none := by
  match r, delivers with
  | .ok (some a), delivers =>
      refine ⟨0, ?_⟩
      rw [delivers, List.replicate_zero, List.append_nil]
      rfl
  | .ok none, ⟨drained, done⟩ =>
      refine ⟨1, ?_⟩
      rw [drained, done]
      rfl
  | .error e, delivers =>
      refine ⟨0, ?_⟩
      rw [delivers, List.replicate_zero, List.append_nil]
      rfl

theorem Reads.next {first : σ} {chain rest : Chain} {answers : List (Outcome (Option Asset))}
    {place : Pager × σ} {asked : List (Option String × Bool)}
    (reads : Reads fetch first chain answers place rest asked)
    (enough : rest.length ≤ fuel place.2) :
    ∃ rest asked, Reads fetch first chain (answers ++ [(call fetch fuel place ()).1])
      (call fetch fuel place ()).2 rest asked := by
  obtain ⟨remaining, more, advances⟩ := next_advances reads.stands (fuel place.2) enough
  refine ⟨remaining, asked ++ more, advances.stands, reads.fetches.append advances.fetches, ?split,
    ?failures, ?assets, ?ended⟩
  case split =>
    rw [reads.split, advances.split, List.append_assoc]
    rfl
  case failures =>
    rw [failed_append, Nat.add_assoc, ← reads.failures]
    congr 1
    exact failed_of_delivers advances.delivers
  case assets =>
    obtain ⟨before, whole⟩ := reads.assets
    obtain ⟨ends, step⟩ := handed_of_delivers advances.delivers
    refine ⟨before + ends, ?_⟩
    calc
      _ = handed answers ++ ((place.1.left rest).1.map some ++ List.replicate ends none) := by
        rw [handed_append, List.append_assoc, ← step]
        rfl
      _ = _ := by
        rw [← List.append_assoc]
        exact (congrArg (· ++ List.replicate ends none) whole).trans (by
          rw [List.append_assoc, List.replicate_append_replicate])
  case ended =>
    intro member
    rcases List.mem_append.mp member with earlier | now
    · obtain ⟨buffer, exhausted⟩ := reads.ended earlier
      have idle := next_of_exhausted fetch (fuel place.2) place.1 place.2 buffer exhausted
      rw [call, idle]
      exact ⟨buffer, exhausted⟩
    · exact advances.ended (List.mem_singleton.mp now).symm

theorem Reads.handed_eq {first : σ} {chain rest : Chain} {answers : List (Outcome (Option Asset))}
    {place : Pager × σ} {asked : List (Option String × Bool)}
    (reads : Reads fetch first chain answers place rest asked) :
    handed answers = (chain.assets.map some ++ List.replicate answers.length none).take
      (answers.length - failed answers) := by
  obtain ⟨ends, whole⟩ := reads.assets
  have count := length_handed answers
  have size : answers.length - failed answers = (handed answers).length := by omega
  have within := congrArg List.length whole
  simp only [List.length_append, List.length_map, List.length_replicate] at within
  calc
    handed answers = (handed answers ++ (place.1.buffer ++ rest.assets).map some).take
        (handed answers).length := List.take_left.symm
    _ = (chain.assets.map some ++ List.replicate ends none).take (handed answers).length := by
      rw [whole]
    _ = _ := by
      rw [size, List.take_append, List.take_append, List.take_replicate, List.take_replicate,
        List.length_map]
      congr 2
      omega

theorem calls_read (fuel : σ → Nat)
    (enough : ∀ token s chain, Serves fetch token s chain → chain.length ≤ fuel s)
    {first : σ} {chain : Chain} (serves : Serves fetch none first chain) (n : Nat) :
    let run := Steps.run (call fetch fuel) (start, first) (List.replicate n ())
    ∃ rest asked, Reads fetch first chain run.1 run.2 rest asked := by
  induction n with
  | zero => exact ⟨chain, [], reads_start serves⟩
  | succ n ih =>
      obtain ⟨rest, asked, reads⟩ := ih
      simp only [List.replicate_succ', Steps.replies_concat, Steps.state_concat]
      apply reads.next
      cases reads.stands with
      | ended _ => exact Nat.zero_le _
      | within _ serves => exact enough _ _ _ serves

end run

section failing

variable {fetch : Option String → σ → Outcome Page × σ}

theorem Passes.assets_eq_nil {p last : Pager} {s final : σ} {pages : List Page}
    (passes : Passes fetch p s pages last final) : ∀ page ∈ pages, page.assets = [] := by
  induction passes with
  | nil => nofun
  | cons answered empty goes _ ih => exact List.forall_mem_cons.mpr ⟨empty, ih⟩

/-- Passing empty pages changes the token alone. -/
theorem Passes.pager_eq {p last : Pager} {s final : σ} {pages : List Page}
    (passes : Passes fetch p s pages last final) : last = { p with token := last.token } := by
  induction passes with
  | nil => rfl
  | cons answered empty goes _ ih => exact ih

theorem drained_of_next_error (fuel : Nat) {p last : Pager} {s final : σ} {e : Failure}
    (error : p.next fetch fuel s = (.error e, last, final)) :
    p.buffer = [] ∧ p.exhausted = false := by
  cases buffer : p.buffer with
  | cons a rest =>
      rw [next_of_buffered fetch fuel p s a rest buffer] at error
      cases error
  | nil =>
      refine ⟨rfl, ?_⟩
      by_contra ended
      rw [next_of_exhausted fetch fuel p s buffer (Bool.not_eq_false _ ▸ ended)] at error
      cases error

/-- A call that fails has passed empty pages at most, and stands where it failed. -/
theorem passes_of_next_error (fuel : Nat) {p last : Pager} {s final : σ} {e : Failure}
    (error : p.next fetch fuel s = (.error e, last, final)) :
    ∃ pages mid, Passes fetch p s pages last mid ∧ fetch last.token mid = (.error e, final) := by
  induction fuel generalizing p s with
  | zero =>
      obtain ⟨buffer, going⟩ := drained_of_next_error 0 error
      rcases fetched : fetch p.token s with ⟨e' | page, after⟩
      · rw [next_of_failed fetch 0 p s buffer going e' after fetched] at error
        cases error
        exact ⟨[], _, .nil _ _, fetched⟩
      · unfold next at error
        simp [buffer, going, fetched] at error
  | succ fuel ih =>
      obtain ⟨buffer, going⟩ := drained_of_next_error (fuel + 1) error
      rcases fetched : fetch p.token s with ⟨e' | page, after⟩
      · rw [next_of_failed fetch _ p s buffer going e' after fetched] at error
        cases error
        exact ⟨[], _, .nil _ _, fetched⟩
      · rw [next_of_fetched fetch fuel p s buffer going page after fetched] at error
        obtain ⟨taken, unended⟩ := drained_of_next_error fuel error
        obtain ⟨pages, mid, passes, failed⟩ := ih error
        have empty : page.assets = [] := by
          rw [buffer_take, buffer] at taken
          exact taken
        cases goes : page.following with
        | none =>
            rw [take_last p page goes] at unended
            cases unended
        | some next =>
            rw [take_more p page next goes, empty, List.append_nil] at passes
            exact ⟨page :: pages, mid, .cons fetched empty goes passes, failed⟩

end failing

end Pager
end CloudCensus
