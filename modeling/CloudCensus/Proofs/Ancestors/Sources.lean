import CloudCensus.Ancestors
import CloudCensus.Proofs.Accounts.Transparency
import CloudCensus.Proofs.Listing.Produce

namespace CloudCensus

namespace Item

def hushed : Item → Item
  | .asset a _ => .asset a false
  | .failure e => .failure e
  | .crash => .crash

theorem complete_map_hushed (items : List Item) : complete? (items.map hushed) = complete? items := by
  induction items with
  | nil => rfl
  | cons item rest ih =>
      cases item with
      | asset a fires => exact congrArg (Option.map (a :: ·)) ih
      | failure e => rfl
      | crash => rfl

end Item

theorem Walk.kindOf?_eq (ancestor : String) :
    Walk.kindOf? ancestor =
      if (afterLead? "folders/" ancestor).isSome then some Kind.folder
      else if (afterLead? "organizations/" ancestor).isSome then some Kind.organization
      else none := by
  have folder := afterLead?_isSome_iff "folders" "folders/" ancestor '/' rfl (by decide)
  have organization :=
    afterLead?_isSome_iff "organizations" "organizations/" ancestor '/' rfl (by decide)
  unfold Walk.kindOf?
  cases found : cutAt '/' ancestor.toList with
  | none =>
      simp only [found, reduceCtorEq, exists_false, iff_false] at folder organization
      rw [if_neg folder, if_neg organization]
  | some parts =>
      obtain ⟨kind, rest⟩ := parts
      simp only [found, Option.some.injEq, Prod.mk.injEq, exists_and_left, exists_eq', and_true]
        at folder organization
      by_cases one : kind = "folders".toList
      · rw [if_pos (folder.mpr one)]
        simp only [if_pos one]
      · rw [if_neg (mt folder.mp one)]
        by_cases other : kind = "organizations".toList
        · rw [if_pos (organization.mpr other)]
          simp only [if_neg one, if_pos other]
        · rw [if_neg (mt organization.mp other)]
          simp only [if_neg one, if_neg other]

namespace Sources

/-- Answers as other sources do.  What cancels a run is left open. -/
structure Like (src now : Sources) : Prop where
  scope : now.scope = src.scope
  directory : AnswersLike src.directory now.directory
  inventory : ∀ request,
    Item.complete? (now.inventory request) = Item.complete? (src.inventory request)

theorem Like.refl (src : Sources) : src.Like src := ⟨rfl, fun _ _ _ => rfl, fun _ => rfl⟩

def Lists (src : Sources) (chain : List String) : Prop :=
  ∃ request a fires, .asset a fires ∈ src.inventory request ∧ a.ancestors = chain

def placed (src : Sources) (a : Asset) : Placed :=
  ⟨a, Accounts.direct src.scope src.directory a.ancestors⟩

def listed? (src : Sources) (ancestor kind : String) : Option (List Placed) :=
  (Item.complete? (src.inventory ⟨ancestor, [kind], .policy⟩)).map (·.map src.placed)

def policies? (src : Sources) (ancestor : String) : Option (List Placed) :=
  if (afterLead? "folders/" ancestor).isSome then src.listed? ancestor Kind.folder
  else if (afterLead? "organizations/" ancestor).isSome then src.listed? ancestor Kind.organization
  else none

theorem policies?_eq (src : Sources) (ancestor : String) :
    src.policies? ancestor = (Walk.kindOf? ancestor).bind (src.listed? ancestor) := by
  rw [policies?, Walk.kindOf?_eq]
  split
  · rfl
  · split <;> rfl

theorem listed?_of_complete (src now : Sources) (like : src.Like now) (ancestor kind : String)
    (assets : List Asset)
    (whole : Item.complete? (now.inventory (Walk.requestFor ancestor kind)) = some assets) :
    src.listed? ancestor kind = some (assets.map src.placed) ∧ ∀ a ∈ assets, src.Lists a.ancestors := by
  rw [like.inventory] at whole
  refine ⟨by rw [listed?, ← Walk.requestFor, whole]; rfl, fun a member => ?_⟩
  obtain ⟨fires, found⟩ := Item.mem_of_complete _ assets whole a member
  exact ⟨_, a, fires, found, rfl⟩

theorem listed?_of_incomplete (src now : Sources) (like : src.Like now) (ancestor kind : String)
    (part : Item.complete? (now.inventory (Walk.requestFor ancestor kind)) = none) :
    src.listed? ancestor kind = none := by
  rw [like.inventory] at part
  rw [listed?, ← Walk.requestFor, part]
  rfl

structure Quiet (src : Sources) : Prop where
  directory : NeverFires src.directory
  inventory : ∀ request a, .asset a true ∉ src.inventory request

def quiet (src : Sources) : Sources where
  scope := src.scope
  directory level name fired := ⟨(src.directory level name fired).answer, false⟩
  inventory request := (src.inventory request).map .hushed

theorem quiet_quiet (src : Sources) : src.quiet.Quiet where
  directory _ _ _ := rfl
  inventory request a member := by
    obtain ⟨item, _, same⟩ := List.mem_map.mp member
    cases item <;> cases same

theorem like_quiet (src : Sources) : src.Like src.quiet where
  scope := rfl
  directory _ _ _ := rfl
  inventory _ := Item.complete_map_hushed _

end Sources
end CloudCensus
