import CloudCensus.Network
import CloudCensus.Proofs.Json.Members
import CloudCensus.Proofs.Text.Cut

namespace CloudCensus

namespace DnsPolicy

def NamesUrl (url : String) (element : Json) : Prop :=
  ∃ members, element = .record members ∧ Members.get? "networkUrl" members = some (.text url)

def Lists (p : Asset) (elements : List Json) : Prop :=
  ∃ r, p.resource = some r ∧ Members.get? "networks" r.data = some (.list elements)

def AttachedTo (network : String) (p : Asset) : Prop :=
  ∃ elements, Lists p elements ∧ ∃ e ∈ elements, ∃ base, NamesUrl (base ++ network) e

/-- An asset whose payload asks for logging; anything but `true` does not. -/
def Logs (p : Asset) : Prop :=
  ∃ r, p.resource = some r ∧ Members.get? "enableLogging" r.data = some (.bool true)

theorem url?_eq_some_iff (e : Json) (url : String) : url? e = some url ↔ NamesUrl url e := by
  constructor
  · intro read
    cases e with
    | record members =>
        obtain ⟨value, found, text⟩ := Option.bind_eq_some_iff.mp read
        cases value <;> cases text
        exact ⟨members, rfl, found⟩
    | _ => cases read
  · rintro ⟨members, rfl, found⟩
    rw [url?, found]
    rfl

section ofAsset

variable {p : Asset}

theorem networks_of_lists {elements : List Json} (lists : Lists p elements) :
    (ofAsset p).networks = elements.filterMap url? := by
  obtain ⟨r, there, found⟩ := lists
  simp only [ofAsset, there, Option.map_some, Option.getD_some, found, Option.bind_some, Json.list?]

theorem networks_of_not_lists (none : ∀ elements, ¬ Lists p elements) : (ofAsset p).networks = [] := by
  rw [ofAsset]
  cases there : p.resource with
  | none => rfl
  | some r =>
      cases found : Members.get? "networks" r.data with
      | none => simp [found]
      | some value =>
          cases value with
          | list elements => exact absurd ⟨r, there, found⟩ (none elements)
          | _ => simp [found, Json.list?]

theorem mem_networks_ofAsset (url : String) :
    url ∈ (ofAsset p).networks ↔ ∃ elements, Lists p elements ∧ ∃ e ∈ elements, NamesUrl url e := by
  constructor
  · intro listed
    by_cases lists : ∃ elements, Lists p elements
    · obtain ⟨elements, lists⟩ := lists
      rw [networks_of_lists lists, List.mem_filterMap] at listed
      obtain ⟨e, member, read⟩ := listed
      exact ⟨elements, lists, e, member, (url?_eq_some_iff e url).mp read⟩
    · rw [networks_of_not_lists (not_exists.mp lists)] at listed
      cases listed
  · rintro ⟨elements, lists, e, member, names⟩
    rw [networks_of_lists lists, List.mem_filterMap]
    exact ⟨e, member, (url?_eq_some_iff e url).mpr names⟩

theorem attaches_ofAsset (network : String) :
    (ofAsset p).attaches network = true ↔ AttachedTo network p := by
  rw [attaches, List.any_eq_true]
  constructor
  · rintro ⟨url, listed, ends⟩
    obtain ⟨elements, lists, e, member, names⟩ := (mem_networks_ofAsset url).mp listed
    obtain ⟨base, rfl⟩ := (endsIn_iff network url).mp ends
    exact ⟨elements, lists, e, member, base, names⟩
  · rintro ⟨elements, lists, e, member, base, names⟩
    exact ⟨base ++ network, (mem_networks_ofAsset _).mpr ⟨elements, lists, e, member, names⟩,
      (endsIn_iff network _).mpr ⟨base, rfl⟩⟩

theorem logging_ofAsset : (ofAsset p).logging = true ↔ Logs p := by
  rw [ofAsset, Logs]
  cases p.resource with
  | none => simp [Members.get?]
  | some r =>
      simp only [Option.map_some, Option.getD_some, Option.some.injEq, exists_eq_left']
      cases Members.get? "enableLogging" r.data with
      | none => simp
      | some value => cases value <;> simp [Json.bool?]

end ofAsset

section findFor

variable {before after policies : List Asset} {p : Asset} {network : String}

theorem findFor?_of_none (none : ∀ p ∈ policies, ¬ AttachedTo network p) :
    findFor? (policies.map .ofAsset) network = .none := by
  rw [findFor?, List.find?_eq_none]
  intro policy member
  obtain ⟨p, there, rfl⟩ := List.mem_map.mp member
  rw [attaches_ofAsset]
  exact none p there

theorem findFor?_of_first (first : ∀ q ∈ before, ¬ AttachedTo network q) (attached : AttachedTo network p) :
    findFor? ((before ++ p :: after).map .ofAsset) network = some (.ofAsset p) := by
  have early := findFor?_of_none first
  have here : (ofAsset p).attaches network = true := attaches_ofAsset network |>.mpr attached
  rw [findFor?] at early ⊢
  rw [List.map_append, List.find?_append, early, Option.none_or, List.map_cons, List.find?_cons, here]

theorem findFor?_without (apart : ¬ AttachedTo network p) :
    findFor? ((before ++ after).map .ofAsset) network =
      findFor? ((before ++ p :: after).map .ofAsset) network := by
  have here : (ofAsset p).attaches network = false :=
    Bool.eq_false_iff.mpr fun attaches => apart ((attaches_ofAsset network).mp attaches)
  rw [findFor?, findFor?, List.map_append, List.map_append, List.find?_append, List.find?_append,
    List.map_cons, List.find?_cons, here]

end findFor

def relisted (elements : List Json) (p : Asset) : Asset :=
  { p with
    resource := p.resource.map fun r =>
      { r with data := Members.insert "networks" (.list elements) r.data } }

theorem ofAsset_relisted {p : Asset} {front back : List Json} {e : Json}
    (lists : Lists p (front ++ e :: back)) (unnamed : ∀ url, ¬ NamesUrl url e) :
    ofAsset (relisted (front ++ back) p) = ofAsset p := by
  have skipped : url? e = none :=
    Option.eq_none_iff_forall_ne_some.mpr fun url read => unnamed url ((url?_eq_some_iff e url).mp read)
  have listed : Lists (relisted (front ++ back) p) (front ++ back) := by
    obtain ⟨r, there, _⟩ := lists
    refine ⟨_, by rw [relisted, there]; rfl, ?_⟩
    rw [Members.get?_insert, if_pos rfl]
  have networks : (ofAsset (relisted (front ++ back) p)).networks = (ofAsset p).networks := by
    rw [networks_of_lists listed, networks_of_lists lists]
    simp [skipped]
  have logging : (ofAsset (relisted (front ++ back) p)).logging = (ofAsset p).logging := by
    obtain ⟨r, there, _⟩ := lists
    rw [Bool.eq_iff_iff, logging_ofAsset, logging_ofAsset, Logs, Logs, relisted, there]
    simp [Members.get?_insert]
  exact congrArg₂ DnsPolicy.mk networks logging

end DnsPolicy

/-- A network with its logging flag set to a value: everything else is as it was, and a network without a
resource has got an empty one for it. -/
structure Flagged (flag : Bool) (n flagged : Placed) : Prop where
  account : flagged.account = n.account
  name : flagged.asset.name = n.asset.name
  kind : flagged.asset.kind = n.asset.kind
  ancestors : flagged.asset.ancestors = n.asset.ancestors
  policy : flagged.asset.policy = n.asset.policy
  updated : flagged.asset.updated = n.asset.updated
  resource : ∃ r, flagged.asset.resource = some r ∧
    let old := n.asset.resource.getD ⟨none, none, none, []⟩
    r.version = old.version ∧ r.parent = old.parent ∧ r.location = old.location ∧
      (∀ key, Members.get? key r.data =
        if key = "enabledDnsLogging" then some (.bool flag) else Members.get? key old.data) ∧
      (Members.Sorted old.data → Members.Sorted r.data)

theorem flagged_setField (flag : Bool) (n : Placed) :
    Flagged flag n (n.setField dnsLoggingField (.bool flag)) where
  account := rfl
  name := rfl
  kind := rfl
  ancestors := rfl
  policy := rfl
  updated := rfl
  resource := ⟨_, rfl, rfl, rfl, rfl, fun key => Members.get?_insert _ key _ _, fun sorted => sorted.insert⟩

open DnsPolicy

/-- What becomes of a network beside policies: it stays what it was unless one is attached to it, and the
first that is decides its flag. -/
structure Annotates (policies : List Asset) (n annotated : Placed) : Prop where
  unmatched : (∀ p ∈ policies, ¬ AttachedTo (networkId n.asset.name) p) → annotated = n
  matched : ∀ before p after, policies = before ++ p :: after →
    (∀ q ∈ before, ¬ AttachedTo (networkId n.asset.name) q) → AttachedTo (networkId n.asset.name) p →
      ∃ flag, (flag = true ↔ Logs p) ∧ Flagged flag n annotated

theorem annotateNetworks_congr {networks : List Placed} {policies others : List DnsPolicy}
    (same : ∀ network, findFor? policies network = findFor? others network) :
    annotateNetworks networks policies = annotateNetworks networks others := by
  simp only [annotateNetworks, same]

/-- Networks are joined with policies one by one and in their order.  An asset that lists no networks, and an
element of a list that names no URL, are attached to nothing and might as well not be there. -/
theorem annotateNetworks_joins (networks : List Placed) (policies : List Asset) :
    let joined := annotateNetworks networks (policies.map .ofAsset)
    List.Forall₂ (Annotates policies) networks joined ∧
      ∀ before p after, policies = before ++ p :: after →
        ((∀ elements, ¬ Lists p elements) → (∀ network, ¬ AttachedTo network p) ∧
          annotateNetworks networks ((before ++ after).map .ofAsset) = joined) ∧
        ∀ front e back, Lists p (front ++ e :: back) → (∀ url, ¬ NamesUrl url e) →
          annotateNetworks networks ((before ++ relisted (front ++ back) p :: after).map .ofAsset) =
            joined := by
  intro joined
  constructor
  · change List.Forall₂ _ networks (networks.map _)
    rw [List.forall₂_map_right_iff, List.forall₂_same]
    intro n _
    constructor
    · intro none
      rw [findFor?_of_none none]
    · rintro before p after rfl first attached
      rw [findFor?_of_first first attached]
      exact ⟨(ofAsset p).logging, logging_ofAsset, flagged_setField _ n⟩
  · rintro before p after rfl
    constructor
    · intro unlisted
      have apart : ∀ network, ¬ AttachedTo network p := by
        rintro network ⟨elements, lists, _⟩
        exact unlisted elements lists
      exact ⟨apart, annotateNetworks_congr fun network => findFor?_without (apart network)⟩
    · intro front e back lists unnamed
      rw [List.map_append, List.map_cons, ofAsset_relisted lists unnamed, ← List.map_cons, ← List.map_append]

def wire (name : String) (resource : Option Resource) : Placed :=
  ⟨⟨"//compute.googleapis.com/" ++ name, "", [], resource, none, none⟩, .empty⟩

def listedUrl (name : String) : Json := .record [("networkUrl", .text ("v1/" ++ name))]

def dnsAsset (data : Members Json) : Asset := ⟨"", "", [], some { Resource.empty with data }, none, none⟩

theorem annotateNetworks_joins_malformed :
    let unlisted := dnsAsset [("enableLogging", .bool true), ("networks", .text "all")]
    let unclear := dnsAsset [("enableLogging", .text "yes"), ("networks", .list [.null, listedUrl "a"])]
    let clear := dnsAsset [("enableLogging", .bool true), ("networks", .list [listedUrl "a", listedUrl "b"])]
    let a := wire "a" none
    let b := wire "b" (some { Resource.empty with data := [("autoCreateSubnetworks", .bool false)] })
    let joined (policies : List Asset) := annotateNetworks [a, b, wire "c" none] (policies.map .ofAsset)
    let all := [unlisted, unclear, clear]
    (joined all).map (fun n => (n.field? "enabledDnsLogging").bind Json.bool?) =
        [some false, some true, none] ∧
      (∃ annotated ∈ joined all, ¬ Logs unclear ∧ Flagged false a annotated) ∧
      (∃ annotated ∈ joined all, Logs clear ∧ Flagged true b annotated) ∧
      (∃ annotated ∈ joined all, annotated = wire "c" none) ∧
      ((∀ elements, ¬ Lists unlisted elements) ∧ joined [unclear, clear] = joined all) ∧
      (∀ url, ¬ NamesUrl url .null) ∧
        joined [unlisted, relisted [listedUrl "a"] unclear, clear] = joined all := by
  intro unlisted unclear clear a b joined all
  have attached (network : String) (p : Asset) (yes : (ofAsset p).attaches network = true) :
      AttachedTo network p := (attaches_ofAsset network).mp yes
  have apart (network : String) (p : Asset) (no : (ofAsset p).attaches network = false) :
      ¬ AttachedTo network p := fun too => by simp [(attaches_ofAsset network).mpr too] at no
  obtain ⟨annotates, drops⟩ := annotateNetworks_joins [a, b, wire "c" none] all
  obtain ⟨forA, later⟩ := List.forall₂_cons.mp annotates
  obtain ⟨forB, last⟩ := List.forall₂_cons.mp later
  obtain ⟨forC, -⟩ := List.forall₂_cons.mp last
  have unlists (elements : List Json) : ¬ Lists unlisted elements := by
    rintro ⟨r, there, found⟩
    cases there
    simp [Members.get?, lookup_cons_eq] at found
  have unnamed (url : String) : ¬ NamesUrl url .null := by
    rintro ⟨members, same, _⟩
    cases same
  have quiet : ¬ Logs unclear := fun asks => absurd (logging_ofAsset.mpr asks) (by decide +kernel)
  have asks : Logs clear := logging_ofAsset.mp (by decide +kernel)
  obtain ⟨no, low, flaggedA⟩ := forA.matched [unlisted] unclear [clear] rfl
    (List.forall_mem_singleton.mpr (apart _ _ (by decide +kernel))) (attached _ _ (by decide +kernel))
  obtain ⟨yes, high, flaggedB⟩ := forB.matched [unlisted, unclear] clear [] rfl
    (List.forall_mem_cons.mpr ⟨apart _ _ (by decide +kernel),
      List.forall_mem_singleton.mpr (apart _ _ (by decide +kernel))⟩) (attached _ _ (by decide +kernel))
  obtain rfl : no = false := Bool.eq_false_iff.mpr fun too => quiet (low.mp too)
  obtain rfl : yes = true := high.mpr asks
  have untouched := forC.unmatched (List.forall_mem_cons.mpr ⟨apart _ _ (by decide +kernel),
    List.forall_mem_cons.mpr ⟨apart _ _ (by decide +kernel),
      List.forall_mem_singleton.mpr (apart _ _ (by decide +kernel))⟩⟩)
  exact ⟨by decide +kernel, ⟨_, .head _, quiet, flaggedA⟩, ⟨_, .tail _ (.head _), asks, flaggedB⟩,
    ⟨_, .tail _ (.tail _ (.head _)), untouched⟩,
    ⟨unlists, ((drops [] unlisted [unclear, clear] rfl).1 unlists).2⟩, unnamed,
    (drops [unlisted] unclear [clear] rfl).2 [] .null [listedUrl "a"] ⟨_, rfl, rfl⟩ unnamed⟩

end CloudCensus
