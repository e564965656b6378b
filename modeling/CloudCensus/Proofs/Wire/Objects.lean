import CloudCensus.Asset.Codec
import CloudCensus.Proofs.Json.Members

namespace CloudCensus

open PayloadTree WireTree

/-- Notations whose parts say the same as the values of their nodes. -/
class LawfulTree (N : Type) [PayloadTree N] : Prop where
  text_of_payload {node : N} {s : String} : payload? node = some (.text s) → text? node = some s
  list_of_payload {node : N} {values : List Json} : payload? node = some (.list values) →
    ∃ nodes, list? node = some nodes ∧ List.Forall₂ (fun n v => payload? n = some v) nodes values
  option_cases (node : N) : payload? node = some .null ∧ option? node = some none ∨
    payload? node ≠ some .null ∧ option? node = some (some node)
  present_of_entries {node : N} {es : List (String × N)} : entries? node = some es →
    payload? node ≠ some .null

instance : LawfulTree Json where
  text_of_payload := by
    rintro node s ⟨⟩
    rfl
  list_of_payload := by
    rintro node values ⟨⟩
    exact ⟨values, rfl, List.forall₂_same.mpr fun _ _ => rfl⟩
  option_cases node := by
    cases node with
    | null => exact .inl ⟨rfl, rfl⟩
    | bool | integer | real | text | list | record => exact .inr ⟨nofun, rfl⟩
  present_of_entries := by
    rintro node es entries ⟨⟩
    cases entries

namespace Written

theorem numeric {t : NumberText} {v : Json} (value : t.value? = some v) :
    (∃ n, v = .integer n) ∨ ∃ x, v = .real x := by
  unfold NumberText.value? at value
  by_cases whole : (t.fraction.isEmpty && t.exponent.isNone && (if t.negative then
      0 < ofDigits 10 t.whole && ofDigits 10 t.whole ≤ twoTo 63
      else ofDigits 10 t.whole < NumberText.wordLimit)) = true
  · rw [if_pos whole] at value
    exact .inl ⟨_, (Option.some.inj value).symm⟩
  · rw [if_neg whole] at value
    obtain ⟨x, -, same⟩ := Option.map_eq_some_iff.mp value
    exact .inr ⟨x, same.symm⟩

theorem value?_shape {w : Written} {v : Json} (value : w.value? = some v) :
    match w with
    | .null => v = .null
    | .bool b => v = .bool b
    | .number _ => (∃ n, v = .integer n) ∨ ∃ x, v = .real x
    | .text t => ∃ s, t = some s ∧ v = .text s
    | .list ws => ∃ vs, values? ws = some vs ∧ v = .list vs
    | .record _ => ∃ members, v = .record members
    | .buried => False := by
  cases w with
  | null => exact (Option.some.inj value).symm
  | bool b => exact (Option.some.inj value).symm
  | number t => exact numeric value
  | text t =>
      obtain ⟨s, text, same⟩ := Option.map_eq_some_iff.mp value
      exact ⟨s, text, same.symm⟩
  | list ws =>
      obtain ⟨vs, kept, same⟩ := Option.map_eq_some_iff.mp value
      exact ⟨vs, kept, same.symm⟩
  | record ms =>
      obtain ⟨es, -, same⟩ := Option.map_eq_some_iff.mp value
      exact ⟨_, same.symm⟩
  | buried => cases value

theorem forall₂_of_values {ws : List Written} {values : List Json} (kept : values? ws = some values) :
    List.Forall₂ (fun w v => value? w = some v) ws values := by
  induction ws generalizing values with
  | nil =>
      cases kept
      exact .nil
  | cons w ws ih =>
      rw [values?] at kept
      obtain ⟨v, head, kept⟩ := Option.bind_eq_some_iff.mp kept
      obtain ⟨vs, tail, same⟩ := Option.bind_eq_some_iff.mp kept
      cases same
      exact .cons head (ih tail)

theorem not_null {w : Written} (present : w ≠ .null) : w.value? ≠ some .null := by
  intro value
  have shape := value?_shape value
  cases w with
  | null => exact present rfl
  | bool | text | list | record | buried => simp at shape
  | number t => rcases shape with ⟨_, ⟨⟩⟩ | ⟨_, ⟨⟩⟩

theorem eq_of_text? {w : Written} {t : String} (read : WireTree.text? w = some t) :
    w = .text (some t) := by
  cases w with
  | text s => exact congrArg Written.text read
  | _ => cases read

theorem eq_of_list? {w : Written} {xs : List Written} (read : WireTree.list? w = some xs) :
    w = .list xs := by
  cases w with
  | list ys => exact congrArg Written.list (Option.some.inj read)
  | _ => cases read

theorem eq_of_option? {w : Written} {part : Option Written}
    (given : WireTree.option? w = some part) : w = part.getD .null := by
  cases w <;> cases given <;> rfl

end Written

instance : LawfulTree Written where
  text_of_payload {node s} payload := by
    have shape := Written.value?_shape payload
    cases node with
    | text t =>
        obtain ⟨_, rfl, ⟨⟩⟩ := shape
        rfl
    | null | bool | list | record | buried => simp at shape
    | number t => rcases shape with ⟨_, ⟨⟩⟩ | ⟨_, ⟨⟩⟩
  list_of_payload {node values} payload := by
    have shape := Written.value?_shape payload
    cases node with
    | list ws =>
        obtain ⟨_, kept, ⟨⟩⟩ := shape
        exact ⟨ws, rfl, Written.forall₂_of_values kept⟩
    | null | bool | text | record | buried => simp at shape
    | number t => rcases shape with ⟨_, ⟨⟩⟩ | ⟨_, ⟨⟩⟩
  option_cases node := by
    cases node with
    | null => exact .inl ⟨rfl, rfl⟩
    | bool | number | text | list | record | buried => exact .inr ⟨Written.not_null nofun, rfl⟩
  present_of_entries {node es} entries := by
    apply Written.not_null
    rintro rfl
    cases entries

section records

variable {N : Type} [PayloadTree N] {keys : List String} {part : String → Json → N → Prop}

/-- The node holds the members of a record in any order, each written as `part` has it, and beside them
others whose keys are not among those that are asked for. -/
inductive WritesRecord (keys : List String) (part : String → Json → N → Prop) : Json → N → Prop where
  | intro {members : Members Json} {node : N} {es known unknown : List (String × N)}
      (entries : entries? node = some es) (perm : es.Perm (known ++ unknown))
      (written : List.Forall₂ (fun m e => m.1 = e.1 ∧ part m.1 m.2 e.2) members known)
      (foreign : ∀ e ∈ unknown, e.1 ∉ keys) : WritesRecord keys part (.record members) node

theorem WritesRecord.payload_ne_null [LawfulTree N] {value : Json} {node : N}
    (writes : WritesRecord keys part value node) : payload? node ≠ some .null := by
  obtain ⟨entries, -, -, -⟩ := writes
  exact LawfulTree.present_of_entries entries

theorem WritesRecord.fields {members : Members Json} {node : N}
    (writes : WritesRecord keys part (.record members) node) (nodup : (members.map (·.1)).Nodup) :
    ∃ fields, fields? keys node = some fields ∧ ∀ key ∈ keys,
      Option.Rel (part key) (Members.get? key members) (List.lookup key fields) := by
  obtain ⟨entries, perm, written, foreign⟩ := writes
  rename_i es known unknown
  rw [keys_of_forall₂ written] at nodup
  refine ⟨es.filter (·.1 ∈ keys), ?_, ?_⟩
  · have once : (keys.all fun name => decide ((es.filter (·.1 = name)).length ≤ 1)) = true := by
      rw [List.all_eq_true]
      intro name mem
      have nowhere : unknown.filter (·.1 = name) = [] := by
        rw [List.filter_eq_nil_iff]
        intro e inUnknown
        rw [decide_eq_true_eq]
        rintro rfl
        exact foreign e inUnknown mem
      have few := List.nodup_iff_count.mp nodup name
      rw [List.count_eq_countP, List.countP_map, List.countP_eq_length_filter] at few
      rw [decide_eq_true_eq, (perm.filter _).length_eq, List.filter_append, nowhere, List.append_nil]
      simpa [Function.comp_def, beq_eq_decide] using few
    rw [fields?, entries]
    exact if_pos once
  · intro key mem
    have nothing : unknown.filter (·.1 ∈ keys) = [] := by
      rw [List.filter_eq_nil_iff]
      intro e inUnknown
      rw [decide_eq_true_eq]
      exact foreign e inUnknown
    have kept : (es.filter (·.1 ∈ keys)).Perm (known.filter (·.1 ∈ keys)) := by
      have both := perm.filter (·.1 ∈ keys)
      rw [List.filter_append, nothing, List.append_nil] at both
      exact both
    have nodupKept : ((known.filter (·.1 ∈ keys)).map (·.1)).Nodup :=
      nodup.sublist (List.filter_sublist.map _)
    rw [← lookup_of_perm nodupKept kept.symm, lookup_filter_of_mem mem]
    exact lookup_of_forall₂ key written

theorem WritesRecord.alone {members : Members Json} {node : N} {nodes : List (String × N)}
    (entries : entries? node = some nodes)
    (written : List.Forall₂ (fun m e => m.1 = e.1 ∧ part m.1 m.2 e.2) members nodes) :
    WritesRecord keys part (.record members) node :=
  .intro entries (by rw [List.append_nil]) written fun _ mem => absurd mem List.not_mem_nil

end records

section reading

variable {N α : Type} {fields : List (String × N)} {name : String} {read : N → Option α}
  {part : Json → N → Prop}

theorem required_of_rel {value : Json} {x : α}
    (rel : Option.Rel part (some value) (List.lookup name fields))
    (reads : ∀ node, part value node → read node = some x) : required fields name read = some x := by
  cases found : List.lookup name fields with
  | none =>
      rw [found] at rel
      cases rel
  | some node =>
      rw [found] at rel
      cases rel with
      | some written =>
          rw [required, found]
          exact reads node written

theorem defaulted_of_rel {value : Json} {x standard : α}
    (rel : Option.Rel part (some value) (List.lookup name fields))
    (reads : ∀ node, part value node → read node = some x) :
    defaulted fields name read standard = some x := by
  rw [← required_of_rel rel reads, defaulted, required]
  cases found : List.lookup name fields with
  | none =>
      rw [found] at rel
      cases rel
  | some node => rfl

theorem optional_of_rel [WireTree N] {o : Option α} {form : α → Json}
    (rel : Option.Rel part (o.map form) (List.lookup name fields))
    (reads : ∀ x node, o = some x → part (form x) node →
      option? node = some (some node) ∧ read node = some x) :
    WireTree.optional fields name read = some o := by
  rw [WireTree.optional]
  cases found : List.lookup name fields with
  | none =>
      rw [found] at rel
      cases o with
      | none => rfl
      | some x => cases rel
  | some node =>
      rw [found] at rel
      cases o with
      | none => cases rel
      | some x =>
          cases rel with
          | some written =>
              obtain ⟨present, same⟩ := reads x node rfl written
              simp only [present, same]
              rfl

theorem optional_eq_some [WireTree N] {x : α}
    (found : WireTree.optional fields name read = some (some x)) :
    ∃ node inner, List.lookup name fields = some node ∧ option? node = some (some inner) ∧
      read inner = some x := by
  rw [WireTree.optional] at found
  cases at_ : List.lookup name fields with
  | none =>
      rw [at_] at found
      cases found
  | some node =>
      rw [at_] at found
      cases given : option? node with
      | none => simp [given] at found
      | some part =>
          cases part with
          | none => simp [given] at found
          | some inner =>
              simp only [given] at found
              obtain ⟨y, same, ⟨⟩⟩ := Option.map_eq_some_iff.mp found
              exact ⟨node, inner, rfl, given, same⟩

end reading

theorem forall₂_of_mapM {α β : Type} {read : α → Option β} {xs : List α} {ys : List β}
    (all : xs.mapM read = some ys) : List.Forall₂ (fun x y => read x = some y) xs ys := by
  induction xs generalizing ys with
  | nil =>
      obtain rfl : ys = [] := by simpa using all.symm
      exact .nil
  | cons x xs ih =>
      rw [List.mapM_cons] at all
      obtain ⟨y, here, all⟩ := Option.bind_eq_some_iff.mp all
      obtain ⟨rest, there, same⟩ := Option.bind_eq_some_iff.mp all
      obtain rfl := Option.some.inj same
      exact .cons here (ih there)

/-- A list that may be left out is absent or has all its elements read. -/
theorem WireTree.defaulted_list_cases {α : Type} {fields : List (String × Written)} {name : String}
    {read : Written → Option α} {xs : List α}
    (found : WireTree.defaulted fields name (WireTree.listOf? read) [] = some xs) :
    (List.lookup name fields = none ∧ xs = []) ∨
      ∃ nodes, List.lookup name fields = some (.list nodes) ∧
        List.Forall₂ (fun node x => read node = some x) nodes xs := by
  rw [WireTree.defaulted] at found
  split at found
  · rename_i node there
    obtain ⟨nodes, listed, all⟩ := Option.bind_eq_some_iff.mp found
    obtain rfl := Written.eq_of_list? listed
    exact .inr ⟨nodes, there, forall₂_of_mapM all⟩
  · rename_i absent
    exact .inl ⟨absent, (Option.some.inj found).symm⟩

theorem WireTree.optional_text_cases {fields : List (String × Written)} {name : String}
    {next : Option String} (read : WireTree.optional fields name WireTree.text? = some next) :
    ((List.lookup name fields = none ∨ List.lookup name fields = some .null) ∧ next = none) ∨
      ∃ t, List.lookup name fields = some (.text (some t)) ∧ next = some t := by
  cases next with
  | some t =>
      obtain ⟨node, inner, found, given, text⟩ := optional_eq_some read
      obtain rfl := Written.eq_of_option? given
      obtain rfl := Written.eq_of_text? text
      exact .inr ⟨t, found, rfl⟩
  | none =>
      refine .inl ⟨?_, rfl⟩
      rw [WireTree.optional] at read
      split at read
      · rename_i node found
        split at read
        · obtain ⟨t, _, same⟩ := Option.map_eq_some_iff.mp read
          cases same
        · rename_i given
          obtain rfl := Written.eq_of_option? given
          exact .inr found
        · cases read
      · rename_i absent
        exact .inl absent

end CloudCensus
