import CloudCensus.Config.Load
import CloudCensus.Proofs.Scope
import CloudCensus.Proofs.Text.Encoding

namespace CloudCensus

structure Overridden (o : Overrides) (c later : Config) : Prop where
  named : ∀ text, o.scope = some text → Scope.parse text = .ok later.scope
  unnamed : o.scope = none → later.scope = c.scope
  given : ∀ token, o.token = some token → token ≠ "" → later.token = some token
  withheld : (∀ token, o.token = some token → token = "") → later.token = c.token
  rest : later = { c with scope := later.scope, token := later.token }

section overrides

variable {o : Overrides} {c later other : Config}

theorem Overridden.unique (overridden : Overridden o c later) (again : Overridden o c other) :
    later = other := by
  have scopes : later.scope = other.scope := by
    cases named : o.scope with
    | none => rw [overridden.unnamed named, again.unnamed named]
    | some text =>
        have same := (overridden.named text named).symm.trans (again.named text named)
        exact Except.ok.inj same
  have tokens : later.token = other.token := by
    by_cases empty : ∀ token, o.token = some token → token = ""
    · rw [overridden.withheld empty, again.withheld empty]
    · push Not at empty
      obtain ⟨token, given, some_⟩ := empty
      rw [overridden.given token given some_, again.given token given some_]
  rw [overridden.rest, again.rest, scopes, tokens]

theorem Overridden.check_eq (overridden : Overridden o c later) : later.check = c.check := by
  rw [overridden.rest]
  rfl

namespace Config

theorem overrideScope_accepted (c : Config) (name : Option String)
    (fine : ∀ text, name = some text → ∃ scope, Scope.parse text = .ok scope) :
    ∃ scope, c.overrideScope name = (.ok (), { c with scope := scope }) ∧
      (∀ text, name = some text → Scope.parse text = .ok scope) ∧ (name = none → scope = c.scope) := by
  cases name with
  | none => exact ⟨c.scope, rfl, nofun, fun _ => rfl⟩
  | some text =>
      obtain ⟨scope, read⟩ := fine text rfl
      refine ⟨scope, by simp only [overrideScope, read], ?_, nofun⟩
      intro other same
      cases same
      exact read

theorem overrideToken_eq (c : Config) (token : Option String) :
    ∃ kept, c.overrideToken token = { c with token := kept } ∧
      (∀ t, token = some t → t ≠ "" → kept = some t) ∧
      ((∀ t, token = some t → t = "") → kept = c.token) := by
  cases token with
  | none => exact ⟨c.token, rfl, nofun, fun _ => rfl⟩
  | some t =>
      by_cases empty : t = ""
      · exact ⟨c.token, by simp [overrideToken, empty], by simp [empty], fun _ => rfl⟩
      · exact ⟨some t, by simp [overrideToken, empty], by simp, by simp [empty]⟩

theorem override_refused (c : Config) (o : Overrides) (text : String) (e : Scope.ParseError)
    (named : o.scope = some text) (refused : Scope.parse text = .error e) :
    c.override o = (.error (.badValue (.badScope e)), c) := by
  simp only [override, overrideScope, named, refused]

theorem override_accepted (c : Config) (o : Overrides)
    (fine : ∀ text, o.scope = some text → ∃ scope, Scope.parse text = .ok scope) :
    ∃ later, c.override o = (.ok (), later) ∧ Overridden o c later := by
  obtain ⟨scope, moved, named, unnamed⟩ := overrideScope_accepted c o.scope fine
  obtain ⟨token, replaced, given, withheld⟩ := overrideToken_eq { c with scope := scope } o.token
  refine ⟨{ c with scope := scope, token := token }, ?_, named, unnamed, given, withheld, rfl⟩
  rw [override, moved]
  exact congrArg (Prod.mk _) replaced

theorem overriddenBy_ok_iff (c : Config) (o : Overrides) (later : Config) :
    c.overriddenBy o = .ok later ↔ Overridden o c later := by
  by_cases fine : ∀ text, o.scope = some text → ∃ scope, Scope.parse text = .ok scope
  · obtain ⟨result, done, overridden⟩ := override_accepted c o fine
    rw [overriddenBy, done]
    constructor
    · intro same
      cases same
      exact overridden
    · intro again
      exact congrArg Except.ok (overridden.unique again)
  · push Not at fine
    obtain ⟨text, named, never⟩ := fine
    cases refused : Scope.parse text with
    | ok scope => exact absurd refused (never scope)
    | error e =>
        rw [overriddenBy, override_refused c o text e named refused]
        constructor
        · nofun
        · intro overridden
          exact absurd (overridden.named text named) (never later.scope)

theorem bind_checked_ok_iff (made : Except ConfigError Config) (later : Config) :
    made.bind checked = .ok later ↔ made = .ok later ∧ later.check = .ok () := by
  cases made with
  | error e => exact ⟨nofun, nofun⟩
  | ok c =>
      have passes : c.checked = .ok later ↔ c.check = .ok () ∧ c = later := by
        rw [checked]
        cases c.check with
        | error e => exact ⟨nofun, nofun⟩
        | ok u => exact ⟨fun same => ⟨rfl, Except.ok.inj same⟩, fun same => congrArg Except.ok same.2⟩
      refine passes.trans ?_
      constructor
      · intro fine
        cases fine.2
        exact ⟨rfl, fine.1⟩
      · intro fine
        cases fine.1
        exact ⟨fine.2, rfl⟩

theorem ofText_ok_iff (text : String) (c : Config) :
    ofText text = .ok c ↔ parse text = .ok c ∧ c.check = .ok () :=
  bind_checked_ok_iff (parse text) c

theorem resolved_ok_iff (c : Config) (o : Overrides) (later : Config) :
    c.resolved o = .ok later ↔ Overridden o c later ∧ later.check = .ok () := by
  rw [← overriddenBy_ok_iff]
  exact bind_checked_ok_iff (c.overriddenBy o) later

theorem ofFile_ok_iff (text : String) (o : Overrides) (later : Config) :
    ofFile (some (Utf8.encode text)) o = .ok later ↔
      ∃ c, ofText text = .ok c ∧ Overridden o c later := by
  have read : ofFile (some (Utf8.encode text)) o = (parse text).bind (resolved · o) := by
    rw [ofFile, Option.bind_some, Utf8.text?_encode]
    rfl
  rw [read]
  constructor
  · intro fine
    cases written : parse text with
    | error e =>
        rw [written] at fine
        cases fine
    | ok c =>
        rw [written] at fine
        obtain ⟨overridden, passes⟩ := (resolved_ok_iff c o later).mp fine
        exact ⟨c, (ofText_ok_iff text c).mpr ⟨written, overridden.check_eq ▸ passes⟩, overridden⟩
  · intro fine
    obtain ⟨c, accepted, overridden⟩ := fine
    obtain ⟨written, passes⟩ := (ofText_ok_iff text c).mp accepted
    rw [written]
    exact (resolved_ok_iff c o later).mpr ⟨overridden, overridden.check_eq.trans passes⟩

end Config
end overrides

/-- Loading a text from a file under an environment succeeds exactly if the text itself is accepted and the
environment names a scope or none.  The result is the configuration of the text with what the environment
gives in place of its scope and its token.  A configuration for which the environment gives a bad scope is
left as it was. -/
theorem file_loads_as_text (text : String) (lookUp : String → Option String) :
    let o := Overrides.ofEnvironment lookUp
    let loaded := Config.ofFile (some (Utf8.encode text)) o
    ((∃ later, loaded = .ok later) ↔ (∃ c, Config.ofText text = .ok c) ∧
      ∀ name, lookUp Overrides.scopeVariable = some name → Scope.IsName name) ∧
    (∀ c later, Config.ofText text = .ok c → loaded = .ok later → Overridden o c later) ∧
    ∀ (c : Config) (name : String), lookUp Overrides.scopeVariable = some name → ¬ Scope.IsName name →
      ∃ e, Scope.parse name = .error e ∧ c.override o = (.error (.badValue (.badScope e)), c) := by
  intro o loaded
  refine ⟨⟨?sound, ?complete⟩, ?result, ?refused⟩
  case sound =>
    intro succeeds
    obtain ⟨later, succeeds⟩ := succeeds
    obtain ⟨c, accepted, overridden⟩ := (Config.ofFile_ok_iff text o later).mp succeeds
    refine ⟨⟨c, accepted⟩, ?_⟩
    intro name given
    exact (Scope.parse_ok_iff name).mp ⟨later.scope, overridden.named name given⟩
  case complete =>
    intro fine
    obtain ⟨⟨c, accepted⟩, names⟩ := fine
    have scopes : ∀ name, o.scope = some name → ∃ scope, Scope.parse name = .ok scope :=
      fun name given => (Scope.parse_ok_iff name).mpr (names name given)
    obtain ⟨later, -, overridden⟩ := Config.override_accepted c o scopes
    exact ⟨later, (Config.ofFile_ok_iff text o later).mpr ⟨c, accepted, overridden⟩⟩
  case result =>
    intro c later accepted succeeds
    obtain ⟨other, acceptedToo, overridden⟩ := (Config.ofFile_ok_iff text o later).mp succeeds
    cases accepted.symm.trans acceptedToo
    exact overridden
  case refused =>
    intro c name given bad
    rw [← Scope.parse_ok_iff] at bad
    cases refused : Scope.parse name with
    | ok scope => exact absurd ⟨scope, refused⟩ bad
    | error e => exact ⟨e, rfl, Config.override_refused c o name e given refused⟩

def tokenAnd (scope : String) (name : String) : Option String :=
  if name = Overrides.scopeVariable then some scope
  else if name = Overrides.tokenVariable then some "secret"
  else none

theorem file_loads_as_text_moved :
    let text := "scope: projects/p\nchannel_capacity: 16\n"
    let written : Config := { Config.ofScope (.project "p") with capacity := 16 }
    Config.ofText text = .ok written ∧ Scope.IsName "organizations/9" ∧
    (∃ later, Config.ofFile (some (Utf8.encode text)) (.ofEnvironment (tokenAnd "organizations/9")) = .ok later ∧
      later = { written with scope := .organization "9", token := some "secret" }) ∧
    ¬ Scope.IsName "" ∧
    ∃ e, written.override (.ofEnvironment (tokenAnd "")) = (.error (.badValue (.badScope e)), written) := by
  intro text written
  have accepted : Config.ofText text = .ok written := by
    have found : (Config.ofText text).toOption = some written := by decide +kernel
    cases loaded : Config.ofText text with
    | error e =>
        rw [loaded] at found
        cases found
    | ok c =>
        rw [loaded] at found
        exact congrArg Except.ok (Option.some.inj found)
  have name : Scope.IsName "organizations/9" := .organization "9" ⟨by decide, by decide⟩
  have nameless : ¬ Scope.IsName "" := by
    generalize same : "" = empty
    intro name
    cases name <;> simp at same
  refine ⟨accepted, name, ?_, nameless, ?_⟩
  · have laws := file_loads_as_text text (tokenAnd "organizations/9")
    have named : ∀ other, tokenAnd "organizations/9" Overrides.scopeVariable = some other →
        Scope.IsName other := by
      intro other same
      cases same
      exact name
    obtain ⟨later, loaded⟩ := laws.1.mpr ⟨⟨written, accepted⟩, named⟩
    have overridden := laws.2.1 written later accepted loaded
    have scope : later.scope = .organization "9" := by
      have read := overridden.named "organizations/9" rfl
      exact (Except.ok.inj read).symm
    have token : later.token = some "secret" := overridden.given "secret" rfl (by decide)
    exact ⟨later, loaded, by rw [overridden.rest, scope, token]⟩
  · obtain ⟨e, -, kept⟩ := (file_loads_as_text text (tokenAnd "")).2.2 written "" rfl nameless
    exact ⟨e, kept⟩

end CloudCensus
