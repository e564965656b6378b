import CloudCensus.Listing.Merged
import CloudCensus.Proofs.Listing.Produce

namespace CloudCensus

/-- How a listing ends at its first items, and the failures that it queues then. -/
inductive Leaves (request : Request) : List Item → Outcome Unit → List Failure → Prop where
  | finished : Leaves request [] (.ok ()) []
  | cancelled (rest : List Item) : Leaves request (.failure .cancelled :: rest) (.error .cancelled) []
  | broken (e : Failure) (rest : List Item) (said : e ≠ .cancelled) :
      Leaves request (.failure e :: rest) (.error (.listing request e)) [.listing request e]
  | crashed (rest : List Item) : Leaves request (.crash :: rest) (.error .crashed) []

namespace Item

def Comes (request : Request) (items : List Item) (assets : List Asset) (o : Outcome Unit)
    (fails : List Failure) : Prop :=
  ∃ rest, items = assets.map .calm ++ rest ∧ Leaves request rest o fails

def Breaks (request : Request) (items : List Item) (f : Failure) : Prop :=
  ∃ assets fails, Comes request items assets (.error f) fails

def Fires (items : List Item) : Prop :=
  ∃ (assets : List Asset) (a : Asset) (rest : List Item),
    items = assets.map .calm ++ .asset a true :: rest

theorem comes_or_fires (request : Request) (items : List Item) :
    (∃ assets o fails, Comes request items assets o fails) ∨ Fires items := by
  induction items with
  | nil => exact .inl ⟨[], _, _, [], rfl, .finished⟩
  | cons item rest ih =>
      cases item with
      | crash => exact .inl ⟨[], _, _, _, rfl, .crashed rest⟩
      | failure e =>
          by_cases silent : e = .cancelled
          · rw [silent]
            exact .inl ⟨[], _, _, _, rfl, .cancelled rest⟩
          · exact .inl ⟨[], _, _, _, rfl, .broken e rest silent⟩
      | asset a fires =>
          cases fires with
          | true => exact .inr ⟨[], a, rest, rfl⟩
          | false =>
              rcases ih with ⟨assets, o, fails, back, split, leaves⟩ | ⟨assets, b, back, split⟩
              · exact .inl ⟨a :: assets, o, fails, back, congrArg (calm a :: ·) split, leaves⟩
              · exact .inr ⟨a :: assets, b, back, congrArg (calm a :: ·) split⟩

theorem calm_append_inj {assets others : List Asset} {rest back : List Item}
    (halts : ∀ a more, rest ≠ .calm a :: more) (haltsToo : ∀ a more, back ≠ .calm a :: more)
    (same : assets.map .calm ++ rest = others.map .calm ++ back) : assets = others ∧ rest = back := by
  induction assets generalizing others with
  | nil =>
      cases others with
      | nil => exact ⟨rfl, same⟩
      | cons b others => exact absurd same (halts b _)
  | cons a assets ih =>
      cases others with
      | nil => exact absurd same.symm (haltsToo a _)
      | cons b others =>
          simp only [List.map_cons, List.cons_append, List.cons.injEq, calm, asset.injEq,
            and_true] at same
          obtain ⟨rfl, rfl⟩ := ih same.2
          exact ⟨by rw [same.1], rfl⟩

theorem halts_of_leaves {request : Request} {rest : List Item} {o : Outcome Unit}
    {fails : List Failure} (leaves : Leaves request rest o fails) (a : Asset) (more : List Item) :
    rest ≠ .calm a :: more := by
  cases leaves <;> nofun

variable {request : Request} {items : List Item} {assets others : List Asset} {o p : Outcome Unit}
  {fails more : List Failure}

theorem Comes.unique (comes : Comes request items assets o fails)
    (too : Comes request items others p more) : assets = others ∧ o = p ∧ fails = more := by
  obtain ⟨rest, split, leaves⟩ := comes
  obtain ⟨back, splitToo, leavesToo⟩ := too
  obtain ⟨rfl, rfl⟩ :=
    calm_append_inj (halts_of_leaves leaves) (halts_of_leaves leavesToo) (split.symm.trans splitToo)
  cases leaves <;> cases leavesToo <;> first | exact ⟨rfl, rfl, rfl⟩ | contradiction

theorem Comes.not_fires (comes : Comes request items assets o fails) : ¬ Fires items := by
  rintro ⟨front, a, back, splitToo⟩
  obtain ⟨rest, split, leaves⟩ := comes
  obtain ⟨-, rfl⟩ :=
    calm_append_inj (halts_of_leaves leaves) (fun b more => by nofun) (split.symm.trans splitToo)
  cases leaves

theorem comes_calm (request : Request) (assets : List Asset) :
    Comes request (assets.map .calm) assets (.ok ()) [] :=
  ⟨[], (List.append_nil _).symm, .finished⟩

theorem Comes.fails_eq_nil (comes : Comes request items assets (.ok ()) fails) : fails = [] := by
  obtain ⟨rest, _, leaves⟩ := comes
  cases leaves
  rfl

theorem Comes.eq_calm (comes : Comes request items assets (.ok ()) fails) : items = assets.map .calm := by
  obtain ⟨rest, split, leaves⟩ := comes
  cases leaves
  rw [split, List.append_nil]

theorem Breaks.unique {f g : Failure} (breaks : Breaks request items f) (too : Breaks request items g) :
    f = g := by
  obtain ⟨_, _, comes⟩ := breaks
  obtain ⟨_, _, comesToo⟩ := too
  exact Except.error.inj (comes.unique comesToo).2.1

theorem Breaks.not_calm {f : Failure} (breaks : Breaks request items f) : items ≠ assets.map .calm := by
  rintro rfl
  obtain ⟨_, _, comes⟩ := breaks
  cases (comes.unique (comes_calm request assets)).2.1

end Item

section

variable {request : Request} {items : List Item} {assets : List Asset} {o : Outcome Unit}
  {fails : List Failure}

theorem produce_of_comes (comes : Item.Comes request items assets o fails) :
    (produce request items true false).outcome.bare = o ∧
      (produce request items true false).fired = false ∧
      (produce request items true false).queue = assets.map .ok ++ fails.map .error := by
  obtain ⟨rest, rfl, leaves⟩ := comes
  rw [produce, produceFrom_calm]
  cases leaves with
  | finished => exact ⟨rfl, rfl, rfl⟩
  | cancelled rest => exact ⟨rfl, rfl, rfl⟩
  | broken e rest said =>
      rw [produceFrom_failure _ _ _ _ _ said]
      exact ⟨rfl, rfl, rfl⟩
  | crashed rest => exact ⟨rfl, rfl, rfl⟩

theorem produce_of_fires (fires : Item.Fires items) :
    (produce request items true false).outcome.bare = .error .cancelled ∧
      (produce request items true false).fired = true := by
  obtain ⟨assets, a, rest, rfl⟩ := fires
  rw [produce, produceFrom_calm]
  exact ⟨rfl, rfl⟩

theorem calm_of_produce (before : Bool)
    (fine : (produce request items true before).outcome.bare = .ok ()) :
    ∃ assets : List Asset, items = assets.map .calm ∧
      (produce request items true before).queue = assets.map .ok := by
  cases before with
  | true =>
      rw [produce, produceFrom_fired] at fine
      cases fine
  | false =>
      rcases Item.comes_or_fires request items with ⟨assets, o, fails, comes⟩ | fires
      · obtain ⟨outcome, _, queue⟩ := produce_of_comes comes
        obtain rfl : o = .ok () := outcome.symm.trans fine
        rw [comes.fails_eq_nil, List.map_nil, List.append_nil] at queue
        exact ⟨assets, comes.eq_calm, queue⟩
      · rw [(produce_of_fires fires).1] at fine
        cases fine

theorem fired_produce_iff (before : Bool) :
    (produce request items true before).fired = true ↔ before = true ∨ Item.Fires items := by
  cases before with
  | true => simp [produce, produceFrom_fired]
  | false =>
      rcases Item.comes_or_fires request items with ⟨assets, o, fails, comes⟩ | fires
      · simp [(produce_of_comes comes).2.1, comes.not_fires]
      · have fired : (produce request items true false).fired = true := (produce_of_fires fires).2
        simp [fired, fires]

end

end CloudCensus
