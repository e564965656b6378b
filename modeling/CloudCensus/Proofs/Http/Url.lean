import CloudCensus.Http.Client

namespace CloudCensus

theorem Host.parse?_of_name {cs name : List Char} (bare : cs.head? ≠ some '[')
    (decoded : Utf8.lossyText (percentDecoded cs) = String.ofList name) (given : name ≠ [])
    (admitted : ∀ c ∈ name, admits c = true) (named : endsInNumber name = false) :
    parse? cs = some (String.ofList (name.map Char.toLower)) := by
  have whole : name.all admits = true := List.all_eq_true.mpr admitted
  have there : name.isEmpty = false := by simpa using given
  rw [parse?.eq_def]
  split
  · exact absurd rfl bare
  · simp [decoded, there, whole, named]

namespace Url

theorem encodeWith_of_passes {passes : Char → Bool} {cs : List Char}
    (all : ∀ c ∈ cs, passes c = true) : encodeWith passes cs = cs := by
  rw [encodeWith]
  induction cs with
  | nil => rfl
  | cons c rest ih =>
      obtain ⟨here, there⟩ := List.forall_mem_cons.mp all
      rw [List.flatMap_cons, if_pos here, ih there]
      rfl

theorem passesPath_eq :
    passesPath = fun c => isVisible c && !decide (c ∈ "\"#<>?^`\x7b\x7d".toList) := by
  funext c
  rw [passesPath, String.contains_char_eq]

theorem origin?_of_name {secure : Bool} {cs : List Char} {host : String} (user : afterUser cs = cs)
    (port : cutPort false cs = (cs, none)) (named : Host.parse? cs = some host) :
    origin? secure cs = some ⟨secure, host, if secure then 443 else 80⟩ := by
  simp only [origin?, user, port, named, Option.bind_eq_bind, Option.bind_some]
  rfl

theorem origin?_h : origin? false ['h'] = some ⟨false, "h", 80⟩ := by
  have admitted : Host.admits 'h' = true := by
    simp only [Host.admits, String.contains_char_eq]
    decide +kernel
  have decoded : Utf8.lossyText (Host.percentDecoded ['h']) = String.ofList ['h'] := by decide +kernel
  have named : Host.parse? ['h'] = some "h" :=
    Host.parse?_of_name (by decide) decoded (by decide) (by simpa using admitted) (by decide +kernel)
  exact origin?_of_name rfl rfl named

/-- A URL with neither query nor fragment. -/
theorem parse?_of_parts {text : String} {secure : Bool} {rest host path : List Char}
    {origin : Origin} (scheme : scheme? (significant text) = some (secure, rest))
    (before : rest.takeWhile (!endsHost ·) = host) (names : origin? secure host = some origin)
    (after : rest.dropWhile (!endsHost ·) = path) (unmarked : cutOff '#' path = (path, none))
    (unasked : cutOff '?' path = (path, none)) :
    parse? text = some ⟨origin, encodeWith passesPath (['/'].intercalate (resolveDots []
      ((Host.parts '/' (path.map fun c => if isSlash c then '/' else c)).drop 1))), none, none⟩ := by
  simp only [parse?, scheme, Option.bind_eq_bind, Option.bind_some, before, names, after, unmarked,
    unasked, Option.map_none]
  rfl

/-- What stands before the pairs that are added to a URL. -/
def lead (u : Url) : List Char :=
  '/' :: u.path ++ '?' :: (if (u.query.getD []).isEmpty then [] else u.query.getD [] ++ ['&'])

theorem formPairs_ne_nil {pairs : List (String × String)} (given : pairs ≠ []) :
    formPairs pairs ≠ [] := by
  cases pairs with
  | nil => exact absurd rfl given
  | cons pair rest => cases rest <;> simp [formPairs, List.intercalate]

theorem target_addPairs (u : Url) {pairs : List (String × String)} (given : pairs ≠ []) :
    (u.addPairs pairs).target.toList = u.lead ++ formPairs pairs := by
  have added : (formPairs pairs).isEmpty = false := by simpa using formPairs_ne_nil given
  have asked : pairs.isEmpty = false := by simpa using given
  cases own : (u.query.getD []).isEmpty with
  | true => simp [addPairs, target, lead, part, own, added]
  | false => simp [addPairs, target, lead, part, own, asked]

theorem getLast?_lead (u : Url) : u.lead.getLast? = some '?' ∨ u.lead.getLast? = some '&' := by
  rw [lead]
  split
  · exact .inl List.getLast?_concat
  · refine .inr ?_
    rw [← List.cons_append, ← List.append_assoc, List.getLast?_append]
    rfl

end Url

theorem Http.Query.writes_of_parsed {q : Query} {u : Url} (parsed : Url.parse? q.url = some u)
    (short : (u.addPairs q.pairs).write.length ≤ Url.limit) :
    q.request? none = some (u.addPairs q.pairs, ⟨(u.addPairs q.pairs).target, none⟩) := by
  simp [request?, parsed, short]

end CloudCensus
