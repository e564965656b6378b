import CloudCensus.Config.Codec
import CloudCensus.Proofs.Json.Members
import CloudCensus.Proofs.Text.Cut

namespace CloudCensus.Scope

structure IsSegment (id : String) : Prop where
  nonempty : id ≠ ""
  plain : '/' ∉ id.toList

inductive IsName : String → Prop where
  | project (id : String) (segment : IsSegment id) : IsName ("projects/" ++ id)
  | organization (id : String) (segment : IsSegment id) : IsName ("organizations/" ++ id)

theorem isSegment_iff (id : List Char) :
    IsSegment (String.ofList id) ↔ (id.isEmpty || id.contains '/') = false := by
  rw [Bool.or_eq_false_iff, List.isEmpty_eq_false_iff, List.contains_eq_mem, decide_eq_false_iff_not]
  constructor
  · intro segment
    refine ⟨?_, by simpa using segment.plain⟩
    intro empty
    apply segment.nonempty
    rw [empty, String.ofList_nil]
  · intro good
    refine ⟨?_, by simpa using good.2⟩
    intro empty
    apply good.1
    simpa using congrArg String.toList empty

theorem isName_render (scope : Scope) (segment : IsSegment scope.id) : IsName scope.render := by
  cases scope with
  | project id => exact .project id segment
  | organization id => exact .organization id segment

theorem toList_render (scope : Scope) :
    ∃ kind : String, scope.render.toList = kind.toList ++ '/' :: scope.id.toList ∧ '/' ∉ kind.toList ∧
      (kind = "projects" ∧ scope = .project scope.id ∨
        kind = "organizations" ∧ scope = .organization scope.id) := by
  cases scope with
  | project id => exact ⟨"projects", by simp [render, Scope.id], by decide, .inl ⟨rfl, rfl⟩⟩
  | organization id => exact ⟨"organizations", by simp [render, Scope.id], by decide, .inr ⟨rfl, rfl⟩⟩

theorem parse_render (scope : Scope) (segment : IsSegment scope.id) : parse scope.render = .ok scope := by
  obtain ⟨kind, whole, plain, which⟩ := toList_render scope
  have cut : cutAt '/' scope.render.toList = some (kind.toList, scope.id.toList) :=
    (cutAt_eq_some_iff '/' _ _ _).mpr ⟨whole, plain⟩
  have good : (scope.id.toList.isEmpty || scope.id.toList.contains '/') = false := by
    rw [← isSegment_iff, String.ofList_toList]
    exact segment
  rw [parse, cut]
  simp only [good, String.ofList_toList]
  rcases which with ⟨rfl, same⟩ | ⟨rfl, same⟩
  · rw [if_neg Bool.false_ne_true, if_pos rfl]
    exact congrArg Except.ok same.symm
  · rw [if_neg Bool.false_ne_true, if_neg (by decide), if_pos rfl]
    exact congrArg Except.ok same.symm

theorem render_of_parse (text : String) (scope : Scope) (read : parse text = .ok scope) :
    scope.render = text ∧ IsSegment scope.id := by
  rw [parse] at read
  cases cut : cutAt '/' text.toList with
  | none =>
      rw [cut] at read
      cases read
  | some parts =>
      obtain ⟨kind, id⟩ := parts
      have whole : text.toList = kind ++ '/' :: id := ((cutAt_eq_some_iff '/' _ _ _).mp cut).1
      rw [cut] at read
      dsimp only at read
      by_cases bad : (id.isEmpty || id.contains '/') = true
      · rw [if_pos bad] at read
        cases read
      · have segment : IsSegment (String.ofList id) := (isSegment_iff id).mpr (Bool.eq_false_iff.mpr bad)
        rw [if_neg bad] at read
        by_cases project : kind = "projects".toList
        · rw [if_pos project] at read
          cases read
          refine ⟨String.toList_inj.mp ?_, segment⟩
          rw [whole, project]
          simp [render]
        · rw [if_neg project] at read
          by_cases organization : kind = "organizations".toList
          · rw [if_pos organization] at read
            cases read
            refine ⟨String.toList_inj.mp ?_, segment⟩
            rw [whole, organization]
            simp [render]
          · rw [if_neg organization] at read
            cases read

theorem parse_ok_iff (text : String) : (∃ scope, parse text = .ok scope) ↔ IsName text := by
  constructor
  · intro read
    obtain ⟨scope, read⟩ := read
    obtain ⟨written, segment⟩ := render_of_parse text scope read
    exact written ▸ isName_render scope segment
  · intro name
    cases name with
    | project id segment => exact ⟨.project id, parse_render (.project id) segment⟩
    | organization id segment => exact ⟨.organization id, parse_render (.organization id) segment⟩

section nodes

variable {N : Type} [WireTree N]

theorem decodeScope?_eq_some_iff (node : N) (text : String) (told : WireTree.text? node = some text)
    (scope : Scope) : Config.decodeScope? node = some scope ↔ parse text = .ok scope := by
  rw [Config.decodeScope?, told, Option.bind_some]
  cases parse text <;> simp [Except.toOption]

theorem scope_of_decode? (node : N) (c : Config) (read : Config.decode? node = some c) :
    ∃ fields part, WireTree.fields? Config.keys node = some fields ∧
      List.lookup "scope" fields = some part ∧ Config.decodeScope? part = some c.scope := by
  rw [Config.decode?] at read
  simp only [Option.bind_eq_bind, Option.bind_eq_some_iff, Option.pure_def, Option.some.injEq] at read
  obtain ⟨fields, known, scope, named, _, -, _, -, _, -, _, -, _, -, _, -, _, -, _, -, rfl⟩ := read
  rw [WireTree.required] at named
  cases part : List.lookup "scope" fields with
  | none =>
      rw [part] at named
      cases named
  | some node =>
      rw [part] at named
      exact ⟨fields, node, known, part, named⟩

end nodes

theorem scope_of_encode (c : Config) :
    ∃ members, c.encode = .record members ∧ Members.get? "scope" members = some (.text c.scope.render) := by
  refine ⟨_, rfl, ?_⟩
  rw [Members.get?_ofEntries_of_nodup (by simp)]
  rfl

/-- A text is read as a scope exactly if it is the word of a kind, a slash and a segment, and it is then what
the scope is written as.  Every scope with a segment for an identifier is read back from its name.  Scopes
are read from the nodes of any notation, and are written into configurations, by the same laws. -/
theorem names_read_as_written :
    (∀ text, (∃ scope, parse text = .ok scope) ↔ IsName text) ∧
    (∀ text scope, parse text = .ok scope → scope.render = text) ∧
    (∀ scope, IsSegment scope.id → parse scope.render = .ok scope) ∧
    (∀ (N : Type) [WireTree N] (node : N) text, WireTree.text? node = some text →
      ((∃ scope, Config.decodeScope? node = some scope) ↔ IsName text) ∧
      (∀ scope, Config.decodeScope? node = some scope → scope.render = text) ∧
      ∀ scope, IsSegment scope.id → text = scope.render → Config.decodeScope? node = some scope) ∧
    (∀ (N : Type) [WireTree N] (node : N) c, Config.decode? node = some c →
      ∃ fields part, WireTree.fields? Config.keys node = some fields ∧
        List.lookup "scope" fields = some part ∧ Config.decodeScope? part = some c.scope) ∧
    ∀ c : Config, ∃ members, c.encode = .record members ∧
      Members.get? "scope" members = some (.text c.scope.render) := by
  refine ⟨parse_ok_iff, fun text scope read => (render_of_parse text scope read).1, parse_render, ?read,
    fun N _ node c read => scope_of_decode? node c read, scope_of_encode⟩
  intro N _ node text told
  have same := decodeScope?_eq_some_iff node text told
  refine ⟨?accepts, ?writes, ?reads⟩
  case accepts =>
    rw [← parse_ok_iff]
    exact exists_congr same
  case writes =>
    intro scope read
    exact (render_of_parse text scope ((same scope).mp read)).1
  case reads =>
    intro scope segment name
    rw [same, name]
    exact parse_render scope segment

theorem names_read_as_written_project :
    parse "projects/my-project" = .ok (.project "my-project") ∧
    IsSegment "my-project" ∧ parse (Scope.project "my-project").render = .ok (.project "my-project") ∧
    (Scope.project "my-project").render = "projects/my-project" ∧
    Config.decodeScope? (Json.text "projects/my-project") = some (.project "my-project") ∧
    ¬ IsName "projects/1/zones/a" := by
  have segment : IsSegment "my-project" := ⟨by decide, by decide⟩
  have read : parse "projects/my-project" = .ok (.project "my-project") := by decide
  refine ⟨read, segment, names_read_as_written.2.2.1 (.project "my-project") segment,
    names_read_as_written.2.1 _ _ read,
    (names_read_as_written.2.2.2.1 Json (.text "projects/my-project") _ rfl).2.2 _ segment rfl, ?_⟩
  intro name
  obtain ⟨scope, readToo⟩ := (names_read_as_written.1 _).mpr name
  have refused : parse "projects/1/zones/a" = .error (.badIdentifier "projects/1/zones/a") := by decide
  rw [refused] at readToo
  cases readToo

end CloudCensus.Scope
