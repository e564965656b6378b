import CloudCensus.Asset.Kind
import CloudCensus.Proofs.Listing.Produce

namespace CloudCensus

namespace Item

def isCalm : Item → Bool
  | .asset _ fires => !fires
  | _ => false

def asset? : Item → Option Asset
  | .asset a _ => some a
  | _ => none

/-- The assets in front of the first item that is not a calm asset. -/
def handed (items : List Item) : List Asset := (items.takeWhile isCalm).filterMap asset?

theorem isCalm_iff (item : Item) : item.isCalm = true ↔ ∃ a, item = .calm a := by
  cases item with
  | asset a fires => cases fires <;> simp [isCalm, calm]
  | _ => simp [isCalm, calm]

theorem handed_append (front : List Asset) (back : List Item) :
    handed (front.map .calm ++ back) = front ++ handed back := by
  induction front with
  | nil => rfl
  | cons a front ih => exact congrArg (a :: ·) ih

theorem map_handed (items : List Item) : (handed items).map .calm = items.takeWhile isCalm := by
  induction items with
  | nil => rfl
  | cons item rest ih =>
      cases calm : item.isCalm with
      | false => simp [handed, calm]
      | true =>
          obtain ⟨a, rfl⟩ := (isCalm_iff item).mp calm
          exact congrArg (Item.calm a :: ·) ih

theorem handed_split (items : List Item) :
    items = (handed items).map .calm ++ items.dropWhile isCalm := by
  rw [map_handed, List.takeWhile_append_dropWhile]

theorem halts_dropWhile (items : List Item) (a : Asset) (more : List Item) :
    items.dropWhile isCalm ≠ .calm a :: more := by
  intro goes_on
  have stopped := List.head?_dropWhile_not isCalm items
  rw [goes_on] at stopped
  cases stopped

end Item

inductive Handover (request : Request) (assets : List Asset) : List Item → Produced → Prop where
  | finished : Handover request assets []
      ⟨.ok assets.length, assets.map .ok, false, [(.assetsListed request.facet, assets.length)],
        assets.length⟩
  | broken (e : Failure) (rest : List Item) (said : e ≠ .cancelled) :
      Handover request assets (.failure e :: rest)
        ⟨.error (.listing request e), assets.map .ok ++ [.error (.listing request e)], false,
          [(.streamErrors request.facet e.label, 1)], assets.length + 1⟩
  | cancelled (rest : List Item) : Handover request assets (.failure .cancelled :: rest)
      ⟨.error .cancelled, assets.map .ok, false, [], assets.length + 1⟩
  | fired (a : Asset) (rest : List Item) : Handover request assets (.asset a true :: rest)
      ⟨.error .cancelled, assets.map .ok, true, [], assets.length + 1⟩
  | crashed (rest : List Item) : Handover request assets (.crash :: rest)
      ⟨.error .crashed, assets.map .ok, false, [], assets.length + 1⟩

theorem handover_produce (request : Request) (assets : List Asset) (rest : List Item)
    (halts : ∀ a more, rest ≠ .calm a :: more) :
    Handover request assets rest (produce request (assets.map .calm ++ rest) true false) := by
  rw [produce, produceFrom_calm, Nat.zero_add]
  cases rest with
  | nil =>
      simp only [produceFrom_nil, List.append_nil, Nat.zero_add]
      exact .finished
  | cons item rest =>
      cases item with
      | asset a fires =>
          cases fires with
          | false => exact absurd rfl (halts a rest)
          | true =>
              simp only [produceFrom_asset, if_true, List.append_nil, Nat.add_comm 1]
              exact .fired a rest
      | failure e =>
          by_cases silent : e = .cancelled
          · subst silent
            simp only [produceFrom_cancelled, List.append_nil, Nat.add_comm 1]
            exact .cancelled rest
          · simp only [produceFrom_failure _ _ _ _ _ silent, if_true, Nat.add_comm 1]
            exact .broken e rest silent
      | crash =>
          simp only [produceFrom_crash, List.append_nil, Nat.add_comm 1]
          exact .crashed rest

theorem produceFrom_unread (request : Request) (kept : Bool) (item : Item) (more other : List Item)
    (count : Nat) (halts : ∀ a, item ≠ .calm a) :
    produceFrom request kept false (item :: more) count =
      produceFrom request kept false (item :: other) count := by
  cases item with
  | asset a fires =>
      cases fires with
      | false => exact absurd rfl (halts a)
      | true => rfl
  | failure e => cases e <;> rfl
  | crash => rfl

/-- A listing hands over the longest front of calm assets and looks at one item after them, which decides
what else it leaves behind.  Without a receiver it ends at its first asset, and its failure is told and
counted all the same. -/
theorem produce_hands_over (request : Request) (items : List Item) :
    let assets := Item.handed items
    let rest := items.dropWhile Item.isCalm
    let kept := produce request items true false
    let dropped := produce request items false false
    items = assets.map .calm ++ rest ∧
      (∀ front back, items = front.map .calm ++ back → front <+: assets) ∧
      Handover request assets rest kept ∧
      (∀ item more other, rest = item :: more →
        produce request (assets.map .calm ++ item :: other) true false = kept) ∧
      (∀ a more, items = .calm a :: more →
        dropped.outcome = .ok 0 ∧ dropped.queue = [] ∧ dropped.ledger = [(.assetsListed request.facet, 0)]) ∧
      (∀ e more, items = .failure e :: more → e ≠ .cancelled →
        dropped.outcome = .error (.listing request e) ∧ dropped.queue = [] ∧
          dropped.ledger = [(.streamErrors request.facet e.label, 1)]) ∧
      ((∃ a more, items = .asset a true :: more) ∨ (∃ more, items = .failure .cancelled :: more) →
        dropped.outcome = .error .cancelled ∧ dropped.queue = [] ∧ dropped.ledger = []) := by
  intro assets rest kept dropped
  have split : items = assets.map .calm ++ rest := Item.handed_split items
  have halts : ∀ a more, rest ≠ .calm a :: more := Item.halts_dropWhile items
  have same : produce request (assets.map .calm ++ rest) true false = kept :=
    congrArg (produce request · true false) split.symm
  refine ⟨split, ?longest, same ▸ handover_produce request assets rest halts, ?unread, ?ignored, ?told,
    ?silent⟩
  case longest =>
    intro front back split
    have more : assets = front ++ Item.handed back := by rw [← Item.handed_append, ← split]
    exact more ▸ List.prefix_append _ _
  case unread =>
    intro item more other stops
    rw [← same, produce, produce, produceFrom_calm, produceFrom_calm, stops,
      produceFrom_unread request true item other more _ fun a calm => halts a more (calm ▸ stops)]
  case ignored =>
    rintro a more rfl
    exact ⟨rfl, rfl, rfl⟩
  case told =>
    rintro e more rfl said
    have failed : dropped = _ := produceFrom_failure request false more 0 e said
    rw [failed]
    exact ⟨rfl, rfl, rfl⟩
  case silent =>
    rintro (⟨a, more, rfl⟩ | ⟨more, rfl⟩) <;> exact ⟨rfl, rfl, rfl⟩

def bucketsAsked : Request := ⟨"projects/1", [Kind.bucket], .resource⟩

def bucketNamed (name : String) : Asset := ⟨name, Kind.bucket, [], none, none, none⟩

theorem produce_hands_over_denied :
    let denied : Failure := .because .permissionDenied (.stated "denied")
    let a := bucketNamed "a"
    let b := bucketNamed "b"
    let tail : List Item := [.failure denied, .calm (bucketNamed "c")]
    let items := .calm a :: .calm b :: tail
    let kept := produce bucketsAsked items true false
    let ignored := produce bucketsAsked items false false
    let told := produce bucketsAsked tail false false
    let silent := produce bucketsAsked [.failure .cancelled] false false
    Item.handed items = [a, b] ∧ [a] <+: Item.handed items ∧
      (items.dropWhile Item.isCalm = tail ∧ Handover bucketsAsked [a, b] tail kept) ∧
      produce bucketsAsked [.calm a, .calm b, .failure denied] true false = kept ∧
      ignored.outcome = .ok 0 ∧
      (denied ≠ .cancelled ∧ told.outcome = .error (.listing bucketsAsked denied) ∧
        told.ledger = [(.streamErrors .resource "permission_denied", 1)]) ∧
      silent.outcome = .error .cancelled ∧ silent.ledger = [] := by
  intro denied a b tail items kept ignored told silent
  have said : denied ≠ .cancelled := by decide
  obtain ⟨-, longest, left, unread, received, -, -⟩ := produce_hands_over bucketsAsked items
  obtain ⟨-, -, -, -, -, broken, -⟩ := produce_hands_over bucketsAsked tail
  obtain ⟨-, -, -, -, -, -, cancelled⟩ := produce_hands_over bucketsAsked [.failure .cancelled]
  obtain ⟨outcome, -, ledger⟩ := broken denied _ rfl said
  obtain ⟨outcomeToo, -, ledgerToo⟩ := cancelled (.inr ⟨[], rfl⟩)
  exact ⟨rfl, longest [a] (.calm b :: tail) rfl, ⟨rfl, left⟩, unread _ _ [] rfl, (received a _ rfl).1,
    ⟨said, outcome, ledger⟩, outcomeToo, ledgerToo⟩

/-- Without a receiver, an asset at which the run is cancelled gives no count, and an answer that the listing
was cancelled is not counted. -/
theorem cancelled_unreceived_uncounted :
    let atAsset := produce bucketsAsked [.asset (bucketNamed "a") true] false false
    let answered := produce bucketsAsked [.failure .cancelled] false false
    (atAsset.outcome = .error .cancelled ∧ atAsset.outcome ≠ .ok 0) ∧
      answered.outcome = .error .cancelled ∧
        answered.ledger.count (.streamErrors .resource Failure.cancelled.label) ≠ 1 := by
  exact ⟨⟨rfl, nofun⟩, rfl, by decide⟩

end CloudCensus
