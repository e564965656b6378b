import CloudCensus.Proofs.Grouping
import CloudCensus.Proofs.Text.Utf8
import Mathlib.Data.List.Perm.Basic
import Mathlib.Data.List.Sort

namespace CloudCensus.Group

/-- The groups of a list of assets: one for each project, in the order of the bytes of their identifiers.
A group has the assets of its project and then those without a project, both as they came, and the
account of the first. -/
structure Partition (assets : List Placed) (groups : List Group) : Prop where
  increasing : (groups.map fun g => Utf8.encode g.account.id).Pairwise (· < ·)
  projects : ∀ id, (∃ g ∈ groups, g.account.id = id) ↔ id ≠ "" ∧ ∃ a ∈ assets, a.account.id = id
  content : ∀ g ∈ groups, g.assets =
    (assets.filter fun a => a.account.id = g.account.id) ++ assets.filter fun a => a.account.id = ""
  account : ∀ g ∈ groups, ∃ before first after, assets = before ++ first :: after ∧
    (∀ a ∈ before, a.account.id ≠ g.account.id) ∧ first.account = g.account

section byProject

variable (assets : List Placed)

theorem shared_eq : shared assets = assets.filter fun a => a.account.id = "" := by
  apply List.filter_congr
  intro a _
  rw [Bool.eq_iff_iff, String.isEmpty_iff, decide_eq_true_iff]

theorem own_of_mem_byProject {g : Group} (member : g ∈ byProject assets) :
    ∃ first rest, own g.account.id assets = first :: rest ∧ g.account = first.account ∧
      g.assets = own g.account.id assets ++ shared assets := by
  obtain ⟨id, _, made⟩ := List.mem_filterMap.mp member
  split at made
  · cases made
  · rename_i first rest found
    have named := id_of_own found
    cases made
    exact ⟨first, rest, by rw [named, found], rfl, by rw [named, found]⟩

theorem partition_byProject : Partition assets (byProject assets) where
  increasing := by
    rw [List.pairwise_map]
    refine (List.pairwise_map.mp (increasing_byProject assets)).imp ?_
    intro g h less
    exact (Utf8.encode_lt_encode_iff _ _).mpr less
  projects id := by
    rw [← mem_projectIds, ← ids_byProject, List.mem_map]
  content g member := by
    obtain ⟨_, _, _, _, content⟩ := own_of_mem_byProject assets member
    rw [content, shared_eq, own]
  account g member := by
    obtain ⟨first, rest, found, account, _⟩ := own_of_mem_byProject assets member
    obtain ⟨before, after, split, others, _⟩ := List.filter_eq_cons_iff.mp found
    exact ⟨before, first, after, split, by simpa using others, account.symm⟩

end byProject

theorem flatMap_own_perm (assets : List Placed) {ids : List String} (nodup : ids.Nodup) :
    (ids.flatMap (own · assets)).Perm (assets.filter fun a => a.account.id ∈ ids) := by
  induction ids with
  | nil => simp
  | cons id ids ih =>
      obtain ⟨fresh, later⟩ := List.nodup_cons.mp nodup
      let all := assets.filter fun a => a.account.id ∈ id :: ids
      have first : own id assets = all.filter fun a => a.account.id = id := by
        rw [own, List.filter_filter]
        apply List.filter_congr
        intro a _
        by_cases same : a.account.id = id <;> simp [same]
      have others : (assets.filter fun a => a.account.id ∈ ids) =
          all.filter fun a => !decide (a.account.id = id) := by
        rw [List.filter_filter]
        apply List.filter_congr
        intro a _
        by_cases same : a.account.id = id <;> simp [same, fresh]
      rw [List.flatMap_cons]
      refine ((ih later).append_left _).trans ?_
      rw [first, others]
      exact List.filter_append_perm _ all

namespace Partition

variable {assets : List Placed} {groups others : List Group}

theorem find?_first (parts : Partition assets groups) {g : Group} (member : g ∈ groups) :
    (assets.find? fun a => a.account.id = g.account.id).map (·.account) = some g.account := by
  obtain ⟨before, first, after, rfl, others, same⟩ := parts.account g member
  have found : (before ++ first :: after).find? (fun a => a.account.id = g.account.id) = some first :=
    List.find?_eq_some_iff_append.mpr
      ⟨by simp [same], before, after, rfl, fun a earlier => by simp [others a earlier]⟩
  rw [found, Option.map_some, same]

theorem group_eq (parts : Partition assets groups) (too : Partition assets others) {g h : Group}
    (member : g ∈ groups) (memberToo : h ∈ others) (same : g.account.id = h.account.id) : g = h := by
  have accounts : some g.account = some h.account := by
    rw [← parts.find?_first member, ← too.find?_first memberToo, same]
  have contents : g.assets = h.assets := by
    rw [parts.content g member, too.content h memberToo, same]
  cases g
  cases h
  congr 1
  exact Option.some.inj accounts

theorem mem_of_mem (parts : Partition assets groups) (too : Partition assets others) {g : Group}
    (member : g ∈ groups) : g ∈ others := by
  obtain ⟨h, there, same⟩ := (too.projects _).mpr ((parts.projects _).mp ⟨g, member, rfl⟩)
  rwa [parts.group_eq too member there same.symm]

theorem unique (parts : Partition assets groups) (too : Partition assets others) : groups = others := by
  let before (g h : Group) : Prop := Utf8.encode g.account.id < Utf8.encode h.account.id
  have irrefl : Std.Irrefl before := ⟨fun g => lt_irrefl (Utf8.encode g.account.id)⟩
  have antisymm : Std.Antisymm before := ⟨fun g h one two => absurd two (lt_asymm one)⟩
  have sorted : groups.Pairwise before := List.pairwise_map.mp parts.increasing
  have sortedToo : others.Pairwise before := List.pairwise_map.mp too.increasing
  exact sorted.eq_of_mem_iff sortedToo fun g => ⟨parts.mem_of_mem too, too.mem_of_mem parts⟩

theorem mem_assets_iff (parts : Partition assets groups) {g : Group} (member : g ∈ groups) (a : Placed) :
    a ∈ g.assets ↔ a ∈ assets ∧ (a.account.id = g.account.id ∨ a.account.id = "") := by
  rw [parts.content g member, List.mem_append, List.mem_filter, List.mem_filter, ← and_or_left,
    decide_eq_true_iff, decide_eq_true_iff]

theorem nodup_ids (parts : Partition assets groups) : (groups.map (·.account.id)).Nodup := by
  have distinct := parts.increasing.imp ne_of_lt
  rw [List.pairwise_map] at distinct
  exact List.pairwise_map.mpr (distinct.imp fun different same => different (congrArg Utf8.encode same))

/-- Nothing is lost and nothing is there more often than it came, but for what all groups share. -/
theorem flatMap_perm (parts : Partition assets groups) :
    (groups.flatMap (·.assets)).Perm ((assets.filter fun a => a.account.id ≠ "") ++
      groups.flatMap fun _ => assets.filter fun a => a.account.id = "") := by
  have ids : (assets.filter fun a => a.account.id ∈ groups.map (·.account.id)) =
      assets.filter fun a => a.account.id ≠ "" := by
    apply List.filter_congr
    intro a member
    rw [decide_eq_decide, List.mem_map, parts.projects]
    exact and_iff_left ⟨a, member, rfl⟩
  have owns : groups.flatMap (·.assets) = groups.flatMap fun g =>
      own g.account.id assets ++ assets.filter fun a => a.account.id = "" :=
    List.flatMap_congr parts.content
  have apart := flatMap_own_perm assets parts.nodup_ids
  rw [ids, List.flatMap_map] at apart
  rw [owns]
  exact (List.flatMap_append_perm _ _ _).symm.trans (apart.append_right _)

end Partition

/-- The groups are the partition of the assets by project, and there is no other.  An asset of a project
stands in one group, an asset without a project in all of them, and where there is a project no asset is
lost. -/
theorem byProject_parts (assets : List Placed) :
    let groups := byProject assets
    let shared := assets.filter fun a => a.account.id = ""
    Partition assets groups ∧ (∀ others, Partition assets others → others = groups) ∧
      (groups.flatMap (·.assets)).Perm
        ((assets.filter fun a => a.account.id ≠ "") ++ groups.flatMap fun _ => shared) ∧
      (∀ a ∈ assets, a.account.id ≠ "" → ∃! g, g ∈ groups ∧ a ∈ g.assets) ∧
      (∀ a ∈ assets, a.account.id = "" → ∀ g ∈ groups, a ∈ g.assets) ∧
      ((∃ a ∈ assets, a.account.id ≠ "") → ∀ a ∈ assets, ∃ g ∈ groups, a ∈ g.assets) := by
  intro groups shared
  have parts : Partition assets groups := partition_byProject assets
  have own_group (a : Placed) (member : a ∈ assets) (project : a.account.id ≠ "") :
      ∃ g ∈ groups, g.account.id = a.account.id := (parts.projects _).mpr ⟨project, a, member, rfl⟩
  refine ⟨parts, fun others too => too.unique parts, parts.flatMap_perm, ?once, ?everywhere, ?kept⟩
  case once =>
    intro a member project
    obtain ⟨g, there, same⟩ := own_group a member project
    refine ⟨g, ⟨there, (parts.mem_assets_iff there a).mpr ⟨member, .inl same.symm⟩⟩, ?_⟩
    rintro h ⟨thereToo, holds⟩
    have sameToo := ((parts.mem_assets_iff thereToo a).mp holds).2.resolve_right project
    exact parts.group_eq parts thereToo there (sameToo.symm.trans same.symm)
  case everywhere =>
    intro a member none g there
    exact (parts.mem_assets_iff there a).mpr ⟨member, .inr none⟩
  case kept =>
    rintro ⟨b, present, project⟩ a member
    by_cases none : a.account.id = ""
    · obtain ⟨g, there, _⟩ := own_group b present project
      exact ⟨g, there, (parts.mem_assets_iff there a).mpr ⟨member, .inr none⟩⟩
    · obtain ⟨g, there, same⟩ := own_group a member none
      exact ⟨g, there, (parts.mem_assets_iff there a).mpr ⟨member, .inl same.symm⟩⟩

def placedIn (id organization name : String) : Placed :=
  ⟨⟨name, "", [], none, none, none⟩, ⟨id, "", organization, ""⟩⟩

theorem byProject_parts_mingled :
    let z := placedIn "z" "9" "z1"
    let shared := placedIn "" "9" "s"
    let assets := [z, placedIn "é" "9" "é1", shared, placedIn "a" "9" "a1", placedIn "z" "8" "z2", z]
    let groups := byProject assets
    groups.map (fun g => (g.account.id, g.account.organization, g.assets.map (·.asset.name))) =
        [("a", "9", ["a1", "s"]), ("z", "9", ["z1", "z2", "z1", "s"]), ("é", "9", ["é1", "s"])] ∧
      (z ∈ assets ∧ z.account.id ≠ "" ∧ ∃! g, g ∈ groups ∧ z ∈ g.assets) ∧
      (shared ∈ assets ∧ shared.account.id = "" ∧ ∀ g ∈ groups, shared ∈ g.assets) ∧
      ∃ g ∈ groups, shared ∈ g.assets := by
  intro z shared assets groups
  obtain ⟨-, -, -, once, everywhere, kept⟩ := byProject_parts assets
  have here : z ∈ assets := by simp [assets]
  have there : shared ∈ assets := by simp [assets]
  have project : z.account.id ≠ "" := by decide
  have none : shared.account.id = "" := by decide
  exact ⟨by decide +kernel, ⟨here, project, once z here project⟩,
    ⟨there, none, everywhere shared there none⟩, kept ⟨z, here, project⟩ shared there⟩

end CloudCensus.Group
