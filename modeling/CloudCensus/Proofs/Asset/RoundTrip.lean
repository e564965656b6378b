import CloudCensus.Proofs.Time.Rfc3339
import CloudCensus.Proofs.Wire.Objects

namespace CloudCensus

open PayloadTree WireTree

section writing

variable {N : Type} [PayloadTree N]

def Keeps (value : Json) (node : N) : Prop := payload? node = some value

def Resource.Writes (value : Json) (node : N) : Prop :=
  WritesRecord Resource.keys (fun _ => Keeps) value node

/-- A part of an asset, of which the resource may itself hold more than is asked for. -/
def Asset.WritesPart (key : String) (value : Json) (node : N) : Prop :=
  if key = "resource" then Resource.Writes value node else Keeps value node

def Asset.Writes (value : Json) (node : N) : Prop := WritesRecord Asset.keys Asset.WritesPart value node

theorem Asset.writesPart_resource {value : Json} {node : N} :
    Asset.WritesPart "resource" value node ↔ Resource.Writes value node :=
  iff_of_eq (if_pos rfl)

theorem Asset.writesPart_of_ne {key : String} {value : Json} {node : N} (other : key ≠ "resource") :
    Asset.WritesPart key value node ↔ Keeps value node :=
  iff_of_eq (if_neg other)

end writing

section reading

variable {N : Type} [PayloadTree N] [LawfulTree N] {node : N}

theorem option?_of_ne_null (present : payload? node ≠ some .null) : option? node = some (some node) := by
  rcases LawfulTree.option_cases node with ⟨null, _⟩ | ⟨_, same⟩
  · exact absurd null present
  · exact same

theorem text_of_keeps {s : String} (keeps : Keeps (.text s) node) :
    option? node = some (some node) ∧ text? node = some s := by
  refine ⟨option?_of_ne_null ?_, LawfulTree.text_of_payload keeps⟩
  rw [keeps]
  nofun

theorem texts_of_keeps {ss : List String} (keeps : Keeps (Json.texts ss) node) :
    listOf? text? node = some ss := by
  obtain ⟨nodes, list, all⟩ := LawfulTree.list_of_payload keeps
  rw [listOf?, list, Option.bind_some]
  clear list keeps
  induction ss generalizing nodes with
  | nil =>
      cases all
      rfl
  | cons s ss ih =>
      cases all with
      | cons first rest =>
          rw [List.mapM_cons, LawfulTree.text_of_payload first, ih _ rest]
          rfl

namespace Resource

theorem encode_members (r : Resource) :
    ∃ members, r.encode = .record members ∧ (members.map (·.1)).Nodup ∧
      Members.get? "version" members = r.version.map .text ∧
      Members.get? "parent" members = r.parent.map .text ∧
      Members.get? "location" members = r.location.map .text ∧
      Members.get? "data" members = some (.record r.data) := by
  obtain ⟨members, same, nodup, found⟩ : ∃ members, r.encode = .record members ∧ _ :=
    Json.ofOptions_members (by simp)
  refine ⟨members, same, nodup, ?_⟩
  simp only [found, lookup_cons_eq, String.reduceEq, if_true, if_false, Option.join_some, and_self]

theorem decode?_of_writes {r : Resource} (writes : Resource.Writes r.encode node) :
    Resource.decode? node = some r := by
  obtain ⟨members, same, nodup, version, parent, location, data⟩ := r.encode_members
  rw [Resource.Writes, same] at writes
  obtain ⟨fields, read, rel⟩ := writes.fields nodup
  have text (o : Option String) :
      ∀ x n, o = some x → Keeps (.text x) n → option? n = some (some n) ∧ text? n = some x :=
    fun _ (n : N) _ keeps => text_of_keeps keeps
  have readVersion := optional_of_rel (version ▸ rel "version" (by decide)) (text r.version)
  have readParent := optional_of_rel (parent ▸ rel "parent" (by decide)) (text r.parent)
  have readLocation := optional_of_rel (location ▸ rel "location" (by decide)) (text r.location)
  have readData : defaulted fields "data" (fun n => (payload? n).bind Json.record?) [] = some r.data := by
    apply defaulted_of_rel (data ▸ rel "data" (by decide))
    intro n keeps
    rw [keeps]
    rfl
  refine Option.bind_eq_some_iff.mpr ⟨_, read, ?_⟩
  refine Option.bind_eq_some_iff.mpr ⟨_, readVersion, ?_⟩
  refine Option.bind_eq_some_iff.mpr ⟨_, readParent, ?_⟩
  refine Option.bind_eq_some_iff.mpr ⟨_, readLocation, ?_⟩
  exact Option.bind_eq_some_iff.mpr ⟨_, readData, rfl⟩

end Resource

namespace Asset

structure Lawful (a : Asset) : Prop where
  policy : a.policy ≠ some .null
  updated : ∀ t, a.updated = some t → Rfc3339.Named t

/-- The members that are looked up are those of the asset, whatever else is there. -/
structure Shown (a : Asset) (members : Members Json) : Prop where
  nodup : (members.map (·.1)).Nodup
  name : Members.get? "name" members = some (.text a.name)
  kind : Members.get? "assetType" members = some (.text a.kind)
  ancestors : Members.get? "ancestors" members = some (Json.texts a.ancestors)
  resource : Members.get? "resource" members = a.resource.map Resource.encode
  policy : Members.get? "iamPolicy" members = a.policy
  updated : Members.get? "updateTime" members = a.updated.map fun t => .text (Rfc3339.render t)

theorem encode_shown (a : Asset) : ∃ members, a.encode = .record members ∧ a.Shown members := by
  obtain ⟨members, same, nodup, found⟩ : ∃ members, a.encode = .record members ∧ _ :=
    Json.ofOptions_members (by simp [entries])
  refine ⟨members, same, nodup, ?_, ?_, ?_, ?_, ?_, ?_⟩
  all_goals
    simp only [found, entries, lookup_cons_eq, String.reduceEq, if_true, if_false, Option.join_some]

theorem placed_shown (p : Placed) : ∃ members, p.encode = .record members ∧ p.asset.Shown members := by
  obtain ⟨members, same, nodup, found⟩ : ∃ members, p.encode = .record members ∧ _ :=
    Json.ofOptions_members (by simp [entries])
  refine ⟨members, same, nodup, ?_, ?_, ?_, ?_, ?_, ?_⟩
  all_goals
    simp only [found, entries, List.cons_append, lookup_cons_eq, String.reduceEq, if_true, if_false,
      Option.join_some]

theorem decode?_of_shown {a : Asset} {members : Members Json} (lawful : a.Lawful)
    (shown : a.Shown members) (writes : Asset.Writes (.record members) node) :
    Asset.decode? node = some a := by
  obtain ⟨fields, read, rel⟩ := writes.fields shown.nodup
  have readName : required fields "name" text? = some a.name := by
    apply required_of_rel (shown.name ▸ rel "name" (by decide))
    intro n part
    exact (text_of_keeps ((writesPart_of_ne (by decide)).mp part)).2
  have readKind : defaulted fields "assetType" text? "" = some a.kind := by
    apply defaulted_of_rel (shown.kind ▸ rel "assetType" (by decide))
    intro n part
    exact (text_of_keeps ((writesPart_of_ne (by decide)).mp part)).2
  have readAncestors : defaulted fields "ancestors" (listOf? text?) [] = some a.ancestors := by
    apply defaulted_of_rel (shown.ancestors ▸ rel "ancestors" (by decide))
    intro n part
    exact texts_of_keeps ((writesPart_of_ne (by decide)).mp part)
  have readResource : WireTree.optional fields "resource" Resource.decode? = some a.resource := by
    apply optional_of_rel (shown.resource ▸ rel "resource" (by decide))
    intro r n _ part
    have writes := writesPart_resource.mp part
    exact ⟨option?_of_ne_null writes.payload_ne_null, Resource.decode?_of_writes writes⟩
  have readPolicy : WireTree.optional fields "iamPolicy" payload? = some a.policy := by
    have own := rel "iamPolicy" (by decide)
    have kept : a.policy.map id = a.policy := Option.map_id_apply
    rw [shown.policy, ← kept] at own
    apply optional_of_rel own
    intro policy n same part
    have keeps : payload? n = some policy := (writesPart_of_ne (by decide)).mp part
    refine ⟨option?_of_ne_null ?_, keeps⟩
    rw [keeps, ← same]
    exact lawful.policy
  have readUpdated : WireTree.optional fields "updateTime"
      (fun n => (text? n).bind Rfc3339.parse?) = some a.updated := by
    apply optional_of_rel (shown.updated ▸ rel "updateTime" (by decide))
    intro t n same part
    obtain ⟨present, text⟩ := text_of_keeps ((writesPart_of_ne (by decide)).mp part)
    refine ⟨present, ?_⟩
    rw [text, Option.bind_some]
    exact Rfc3339.parse?_render (lawful.updated t same)
  refine Option.bind_eq_some_iff.mpr ⟨_, read, ?_⟩
  refine Option.bind_eq_some_iff.mpr ⟨_, readName, ?_⟩
  refine Option.bind_eq_some_iff.mpr ⟨_, readKind, ?_⟩
  refine Option.bind_eq_some_iff.mpr ⟨_, readAncestors, ?_⟩
  refine Option.bind_eq_some_iff.mpr ⟨_, readResource, ?_⟩
  refine Option.bind_eq_some_iff.mpr ⟨_, readPolicy, ?_⟩
  exact Option.bind_eq_some_iff.mpr ⟨_, readUpdated, rfl⟩

/-- A policy that was read is a value other than null, and a time that was read has a name. -/
theorem lawful_of_decode? {a : Asset} (decoded : Asset.decode? node = some a) : a.Lawful := by
  obtain ⟨fields, -, decoded⟩ := Option.bind_eq_some_iff.mp decoded
  obtain ⟨name, -, decoded⟩ := Option.bind_eq_some_iff.mp decoded
  obtain ⟨kind, -, decoded⟩ := Option.bind_eq_some_iff.mp decoded
  obtain ⟨ancestors, -, decoded⟩ := Option.bind_eq_some_iff.mp decoded
  obtain ⟨resource, -, decoded⟩ := Option.bind_eq_some_iff.mp decoded
  obtain ⟨policy, readPolicy, decoded⟩ := Option.bind_eq_some_iff.mp decoded
  obtain ⟨updated, readUpdated, decoded⟩ := Option.bind_eq_some_iff.mp decoded
  obtain rfl := Option.some.inj decoded
  refine ⟨?_, ?_⟩
  · rintro rfl
    obtain ⟨n, inner, -, given, null⟩ := optional_eq_some readPolicy
    rcases LawfulTree.option_cases n with ⟨_, absent⟩ | ⟨value, present⟩
    · cases given.symm.trans absent
    · obtain rfl : inner = n := Option.some.inj (Option.some.inj (given.symm.trans present))
      exact value null
  · rintro t rfl
    obtain ⟨_, n, -, -, parsed⟩ := optional_eq_some readUpdated
    obtain ⟨text, -, parsed⟩ := Option.bind_eq_some_iff.mp parsed
    exact Rfc3339.named_of_parse? parsed

def Decoded (a : Asset) : Prop :=
  (∃ node : Json, Asset.decode? node = some a) ∨ ∃ node : Written, Asset.decode? node = some a

theorem Decoded.lawful {a : Asset} (decoded : a.Decoded) : a.Lawful := by
  rcases decoded with ⟨_, value⟩ | ⟨_, text⟩
  · exact lawful_of_decode? value
  · exact lawful_of_decode? text

end Asset

end reading

section values

theorem Resource.writes_encode (r : Resource) : Resource.Writes r.encode r.encode :=
  .alone rfl (List.forall₂_same.mpr fun _ _ => ⟨rfl, rfl⟩)

theorem Asset.Shown.writes {a : Asset} {members : Members Json} (shown : a.Shown members) :
    Asset.Writes (Json.record members) (Json.record members) := by
  refine .alone rfl (List.forall₂_same.mpr ?_)
  rintro ⟨key, value⟩ mem
  refine ⟨rfl, ?_⟩
  by_cases own : key = "resource"
  · subst own
    have found := (lookup_eq_some_iff_mem shown.nodup).mpr mem
    obtain ⟨r, -, rfl⟩ := Option.map_eq_some_iff.mp (shown.resource.symm.trans found)
    exact Asset.writesPart_resource.mpr r.writes_encode
  · exact (Asset.writesPart_of_ne own).mpr rfl

/-- Nothing else is asked of an asset to be decoded from something. -/
theorem Asset.decoded_iff_lawful {a : Asset} : a.Decoded ↔ a.Lawful := by
  refine ⟨Asset.Decoded.lawful, ?_⟩
  intro lawful
  obtain ⟨members, same, shown⟩ := a.encode_shown
  exact .inl ⟨.record members, Asset.decode?_of_shown lawful shown shown.writes⟩

end values

/-- A decoded asset has no null for its policy, and it is what its own encoding decodes to, as a value and
in every other order of the members, with any unknown members beside them or inside the resource.  The
encoding of the asset together with an account decodes to the asset as well. -/
theorem decoded_asset_round_trips (a : Asset) (decoded : a.Decoded) :
    let Reads (value : Json) : Prop :=
      Asset.decode? value = some a ∧
        (∀ node : Json, Asset.Writes value node → Asset.decode? node = some a) ∧
        ∀ node : Written, Asset.Writes value node →
          Asset.decode? node = some a ∧
            ∀ text, Written.ofText? text = some node → Asset.ofText? text = some a
    a.policy ≠ some .null ∧ Reads a.encode ∧ ∀ account, Reads (Placed.encode ⟨a, account⟩) := by
  intro Reads
  have lawful := decoded.lawful
  have reads : ∀ members, a.Shown members → Reads (.record members) := by
    intro members shown
    refine ⟨Asset.decode?_of_shown lawful shown shown.writes, ?_, ?_⟩
    · intro node writes
      exact Asset.decode?_of_shown lawful shown writes
    · intro node writes
      have same := Asset.decode?_of_shown lawful shown writes
      refine ⟨same, ?_⟩
      intro text written
      rw [Asset.ofText?, written]
      exact same
  refine ⟨lawful.policy, ?_, ?_⟩
  · obtain ⟨members, same, shown⟩ := a.encode_shown
    rw [same]
    exact reads members shown
  · intro account
    obtain ⟨members, same, shown⟩ := Asset.placed_shown ⟨a, account⟩
    rw [same]
    exact reads members shown

def bucket : Asset where
  name := "b"
  kind := "storage.googleapis.com/Bucket"
  ancestors := ["projects/10", "organizations/1"]
  resource := some ⟨some "v1", none, none, [("size", .integer 3)]⟩
  policy := some (.record [])
  updated := some ⟨1709287200, 500000000⟩

def bucketMembers (resource : List (String × Json)) : Members Json := [
  ("ancestors", Json.texts bucket.ancestors), ("assetType", .text bucket.kind),
  ("iamPolicy", .record []), ("name", .text bucket.name), ("resource", .record resource),
  ("updateTime", .text "2024-03-01T10:00:00.500Z")]

def bucketResource : Members Json := [("data", .record [("size", .integer 3)]), ("version", .text "v1")]

theorem bucket_encode : bucket.encode = .record (bucketMembers bucketResource) := by
  have time : bucket.updated.map (fun t => Json.text (Rfc3339.render t)) =
      some (.text "2024-03-01T10:00:00.500Z") := by
    have text : Rfc3339.render ⟨1709287200, 500000000⟩ = "2024-03-01T10:00:00.500Z" := by decide +kernel
    rw [bucket, Option.map_some, text]
  rw [Asset.encode, Asset.entries, time]
  rfl

def bucketNode : Json :=
  .record (("cloudAccount", .null) :: (bucketMembers (("etag", .null) :: bucketResource.reverse)).reverse)

theorem bucketNode_writes : Asset.Writes bucket.encode bucketNode := by
  have turned (ms : Members Json) (extra : String × Json) : (extra :: ms.reverse).Perm (ms ++ [extra]) := by
    have front : (extra :: ms.reverse).Perm (ms.reverse ++ [extra]) := (List.perm_append_singleton ..).symm
    exact front.trans ((List.reverse_perm ms).append_right _)
  have resource : Resource.Writes (Json.record bucketResource)
      (Json.record (("etag", .null) :: bucketResource.reverse)) := by
    refine .intro rfl (turned _ _) (List.forall₂_same.mpr fun _ _ => ⟨rfl, rfl⟩) ?_
    decide
  have other (key : String) (value : Json) (ne : key ≠ "resource") :
      key = key ∧ Asset.WritesPart key value value := ⟨rfl, (Asset.writesPart_of_ne ne).mpr rfl⟩
  rw [bucket_encode]
  refine .intro rfl (turned _ _) ?_ (by decide)
  refine .cons (other _ _ (by decide)) (.cons (other _ _ (by decide)) (.cons (other _ _ (by decide)) ?_))
  refine .cons (other _ _ (by decide)) (.cons ⟨rfl, Asset.writesPart_resource.mpr resource⟩ ?_)
  exact .cons (other _ _ (by decide)) .nil

theorem decoded_asset_round_trips_bucket :
    bucket.Decoded ∧ bucket.policy ≠ some .null ∧ Asset.decode? bucketNode = some bucket ∧
      Asset.decode? (Placed.encode ⟨bucket, Account.empty⟩) = some bucket := by
  have decoded : bucket.Decoded := by
    refine Asset.decoded_iff_lawful.mpr ⟨nofun, ?_⟩
    rintro t ⟨⟩
    have parsed : Rfc3339.parse? "2024-03-01T11:00:00.5+01:00" = some ⟨1709287200, 500000000⟩ := by
      decide +kernel
    exact Rfc3339.named_of_parse? parsed
  obtain ⟨present, reads, placed⟩ := decoded_asset_round_trips bucket decoded
  exact ⟨decoded, present, reads.2.1 bucketNode bucketNode_writes, (placed Account.empty).1⟩

end CloudCensus
