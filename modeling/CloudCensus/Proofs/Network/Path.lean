import CloudCensus.Network
import CloudCensus.Proofs.Text.Cut

/-!
Networks are told apart by their paths.

A path is compared as the ending of a URL.  As its project and its network are single segments behind
fixed words, a URL ends in a path exactly if it is that of the same network of the same project.
-/

namespace CloudCensus

/-- The path of a network: its project and its name, each a single segment. -/
@[ext]
structure NetworkPath where
  project : String
  network : String
  project_plain : '/' ∉ project.toList := by decide
  network_plain : '/' ∉ network.toList := by decide
  deriving DecidableEq

namespace NetworkPath

def text (p : NetworkPath) : String := "/projects/" ++ p.project ++ "/global/networks/" ++ p.network

theorem append_text_inj (front other : String) (p q : NetworkPath)
    (same : front ++ p.text = other ++ q.text) : front = other ∧ p = q := by
  have cut (s : String) (r : NetworkPath) : (s ++ r.text).toList =
      ((s.toList ++ "/projects".toList ++ '/' :: r.project.toList) ++ "/global/networks".toList) ++
        '/' :: r.network.toList := by
    simp [text]
  have split := congrArg String.toList same
  rw [cut, cut] at split
  obtain ⟨heads, networks⟩ := last_cut_inj '/' _ _ _ _ p.network_plain q.network_plain split
  obtain ⟨fronts, projects⟩ := last_cut_inj '/' _ _ _ _ p.project_plain q.project_plain
    (List.append_cancel_right heads)
  refine ⟨String.toList_inj.mp (List.append_cancel_right fronts), ?_⟩
  cases p
  cases q
  congr 1
  · exact String.toList_inj.mp projects
  · exact String.toList_inj.mp networks

end NetworkPath

/-- A URL of a network: its path, and whatever stands in front of it. -/
structure NetworkUrl where
  base : String
  path : NetworkPath

namespace NetworkUrl

def text (u : NetworkUrl) : String := u.base ++ u.path.text

theorem endsIn_text_iff (path : NetworkPath) (u : NetworkUrl) :
    endsIn path.text u.text = true ↔ u.path = path := by
  rw [endsIn_iff]
  constructor
  · rintro ⟨front, same⟩
    exact (NetworkPath.append_text_inj _ _ _ _ same).2
  · rintro rfl
    exact ⟨u.base, rfl⟩

end NetworkUrl

namespace DnsPolicy

structure Attachment where
  urls : List NetworkUrl
  logging : Bool

namespace Attachment

def policy (a : Attachment) : DnsPolicy := ⟨a.urls.map (·.text), a.logging⟩

def names (path : NetworkPath) (a : Attachment) : Bool :=
  a.urls.any fun u => u.path.project = path.project ∧ u.path.network = path.network

theorem names_iff (path : NetworkPath) (a : Attachment) :
    a.names path = true ↔ ∃ u ∈ a.urls, u.path = path := by
  simp only [names, List.any_eq_true, decide_eq_true_iff, NetworkPath.ext_iff]

theorem attaches_policy (path : NetworkPath) (a : Attachment) :
    a.policy.attaches path.text = a.names path := by
  rw [Bool.eq_iff_iff, names_iff, attaches, policy, List.any_map, List.any_eq_true]
  simp only [Function.comp_apply, NetworkUrl.endsIn_text_iff]

end Attachment

theorem networkId_compute (path : String) : networkId ("//compute.googleapis.com" ++ path) = path := by
  rw [networkId, afterLead?_append, Option.getD_some]

/-- The policy of a network is the first with an attached URL of the same project and network, and there is
none if all attached URLs are those of other networks. -/
theorem findFor?_network (attachments : List Attachment) (path : NetworkPath) :
    let policies := attachments.map (·.policy)
    let network := networkId ("//compute.googleapis.com" ++ path.text)
    findFor? policies network = (attachments.find? (·.names path)).map (·.policy) ∧
      indexFor? policies network = attachments.findIdx? (·.names path) ∧
      (findFor? policies network = none ↔ ∀ a ∈ attachments, ∀ u ∈ a.urls, u.path ≠ path) := by
  intro policies network
  have identifier : network = path.text := networkId_compute path.text
  have named : (fun p : DnsPolicy => p.attaches network) ∘ Attachment.policy = (·.names path) := by
    funext a
    rw [Function.comp_apply, identifier, a.attaches_policy]
  have found : findFor? policies network = (attachments.find? (·.names path)).map (·.policy) := by
    rw [findFor?, List.find?_map, named]
  refine ⟨found, ?_, ?_⟩
  · rw [indexFor?, List.findIdx?_map, named]
  · rw [found, Option.map_eq_none_iff, List.find?_eq_none]
    simp only [Attachment.names_iff, not_exists, not_and]

/-- A name that ends in the one asked for, or goes on behind it, is another name. -/
theorem findFor?_network_lookalikes :
    let path : NetworkPath := { project := "p", network := "a" }
    let lookalikes : Attachment :=
      ⟨[⟨"compute", { project := "xp", network := "a" }⟩, ⟨"compute", { project := "p", network := "xa" }⟩,
        ⟨path.text, { project := "p", network := "ax" }⟩], true⟩
    let own : Attachment :=
      ⟨[⟨"", { project := "p", network := "b" }⟩, ⟨"compute/projects/x", path⟩], false⟩
    let later : Attachment := ⟨[⟨"", path⟩], true⟩
    let network := networkId "//compute.googleapis.com/projects/p/global/networks/a"
    findFor? [lookalikes.policy, own.policy, later.policy] network = some own.policy ∧
      indexFor? [lookalikes.policy, own.policy, later.policy] network = some 1 ∧
      findFor? [lookalikes.policy] network = none := by
  intro path lookalikes own later network
  obtain ⟨found, place, -⟩ := findFor?_network [lookalikes, own, later] path
  obtain ⟨-, -, missing⟩ := findFor?_network [lookalikes] path
  exact ⟨found, place, missing.mpr (by decide)⟩

end DnsPolicy
end CloudCensus
