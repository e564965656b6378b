import CloudCensus.Proofs.Http.Call
import CloudCensus.Proofs.Http.Pager
import CloudCensus.Proofs.Http.Url
import CloudCensus.Proofs.Wire.Objects

namespace CloudCensus

open Http

/-- The page is what some members write.  Its token is that of the page after it, and it is the last one if
its token is absent, null or empty. -/
structure Page.Stated (page : Page) (fields : List (String × Written)) : Prop where
  assets : (List.lookup "assets" fields = none ∧ page.assets = []) ∨
    ∃ nodes, List.lookup "assets" fields = some (.list nodes) ∧
      List.Forall₂ (fun node a => Asset.decode? node = some a) nodes page.assets
  ends : page.following = none ↔ List.lookup "nextPageToken" fields = none ∨
    List.lookup "nextPageToken" fields = some .null ∨
      List.lookup "nextPageToken" fields = some (.text (some ""))
  goes (t : String) : page.following = some t ↔
    t ≠ "" ∧ List.lookup "nextPageToken" fields = some (.text (some t))

def Page.WrittenBy (page : Page) (r : Response) : Prop :=
  ∃ node fields, Written.ofText? r.text = some node ∧ decode? node = some page ∧
    WireTree.fields? keys node = some fields ∧ page.Stated fields

theorem Page.stated_of_parts {fields : List (String × Written)} {assets : List Asset}
    {next : Option String}
    (listed : WireTree.defaulted fields "assets" (WireTree.listOf? Asset.decode?) [] = some assets)
    (named : WireTree.optional fields "nextPageToken" WireTree.text? = some next) :
    Page.Stated ⟨assets, next⟩ fields := by
  have there := WireTree.defaulted_list_cases listed
  rcases WireTree.optional_text_cases named with ⟨found | found, rfl⟩ | ⟨t, found, rfl⟩
  · exact ⟨there, by simp [following, found], by simp [following, found]⟩
  · exact ⟨there, by simp [following, found], by simp [following, found]⟩
  · by_cases empty : t = ""
    · subst empty
      have last : following ⟨assets, some ""⟩ = none := by simp [following, Option.filter]
      exact ⟨there, by simp [last, found], by simp [last, found, eq_comm]⟩
    · have more : following ⟨assets, some t⟩ = some t := by simp [following, empty, Option.filter]
      refine ⟨there, by simp [more, found, empty], ?_⟩
      intro u
      simp only [more, found, Option.some.injEq, Written.text.injEq]
      exact ⟨fun same => ⟨same ▸ empty, same⟩, And.right⟩

theorem Page.writtenBy_of_means {page : Page} {r : Response} (means : Means decode? r (.ok page)) :
    page.WrittenBy r := by
  cases means with
  | value success json shape =>
      rename_i node
      obtain ⟨fields, known, decoded⟩ := Option.bind_eq_some_iff.mp shape
      obtain ⟨assets, listed, decoded⟩ := Option.bind_eq_some_iff.mp decoded
      obtain ⟨next, named, same⟩ := Option.bind_eq_some_iff.mp decoded
      obtain rfl := Option.some.inj same
      exact ⟨node, fields, json, shape, known, stated_of_parts listed named⟩

namespace Service

variable (v : Service) (request : Request)

def listingPairs : List (String × String) :=
  request.kinds.map (("assetTypes", ·)) ++
    [("contentType", request.facet.label), ("pageSize", toString (max 1 v.pageSize))]

def tokenPair : Option String → List (String × String)
  | none => []
  | some t => [("pageToken", t)]

theorem pairs_pageQuery (token : Option String) :
    (v.pageQuery request token).pairs = v.listingPairs request ++ tokenPair token := by
  cases token <;> rfl

/-- The requests of one fetch ask for its page, and a fetch that is answered sends one at least. -/
def Asks (lead : List Char) (fetch : Option String × Bool) (requests : List Sent) : Prop :=
  (∀ sent ∈ requests,
    sent.target.toList = lead ++ Url.formPairs (v.listingPairs request ++ tokenPair fetch.1) ∧
      sent.authorization = v.token.map ("Bearer " ++ ·)) ∧
    (fetch.2 = true → requests ≠ [])

theorem exists_lead (address : String) :
    ∃ lead, (lead.getLast? = some '?' ∨ lead.getLast? = some '&') ∧
      ∀ (q : Query) (token : Option String) (message : Message), q.url = address → q.pairs ≠ [] →
        q.Writes token message → message.target.toList = lead ++ Url.formPairs q.pairs ∧
          message.authorization = token.map ("Bearer " ++ ·) := by
  cases parsed : Url.parse? address with
  | none =>
      refine ⟨['?'], .inl rfl, ?_⟩
      rintro q token message rfl _ ⟨url, written⟩
      simp [Query.request?, parsed] at written
  | some u =>
      refine ⟨u.lead, u.getLast?_lead, ?_⟩
      rintro q token message rfl asked ⟨url, written⟩
      simp only [Query.request?, parsed, Option.bind_eq_bind, Option.bind_some] at written
      split at written
      · cases written
        exact ⟨u.target_addPairs asked, rfl⟩
      · cases written

theorem sends_of_fetched {token : Option String} {l after : Link} {outcome : Outcome Page}
    (fetched : v.fetchPage request token l = (outcome, after)) :
    ∃ requests, Sends (v.pageQuery request token) v.token requests l after ∧
      ∀ page, outcome = .ok page →
        ∃ r : Response, r.reply ∈ l.replies.take requests.length ∧ page.WrittenBy r := by
  have sends := call_sends v.policy (v.pageQuery request token) v.token l Page.decode?
  rw [fetchPage] at fetched
  rw [fetched] at sends
  obtain ⟨requests, sends, means⟩ := sends
  refine ⟨requests, sends, ?_⟩
  intro page answered
  obtain ⟨r, taken, reads⟩ := means page answered
  exact ⟨r, taken, Page.writtenBy_of_means reads⟩

theorem asks_append {asked : List (Option String × Bool)} {l last : Link}
    (fetches : Pager.Fetches (v.fetchPage request) asked l last) :
    ∃ lead, (lead.getLast? = some '?' ∨ lead.getLast? = some '&') ∧
      ∃ groups, last.sent = l.sent ++ groups.flatten ∧
        List.Forall₂ (v.Asks request lead) asked groups := by
  obtain ⟨lead, mark, begins⟩ := exists_lead (v.pageQuery request none).url
  have own {token : Option String} {requests : List Sent} {l after : Link}
      (sends : Sends (v.pageQuery request token) v.token requests l after) :
      ∀ sent ∈ requests, sent.target.toList =
          lead ++ Url.formPairs (v.listingPairs request ++ tokenPair token) ∧
        sent.authorization = v.token.map ("Bearer " ++ ·) := by
    intro sent member
    have message := begins (v.pageQuery request token) v.token sent.toMessage rfl
      (by simp [pageQuery]) (sends.own sent member)
    rw [pairs_pageQuery] at message
    exact message
  refine ⟨lead, mark, ?_⟩
  induction fetches with
  | nil l => exact ⟨[], (List.append_nil _).symm, .nil⟩
  | failed failed _ ih =>
      obtain ⟨groups, sent, asks⟩ := ih
      obtain ⟨requests, sends, _⟩ := v.sends_of_fetched request failed
      refine ⟨requests :: groups, ?_, .cons ⟨own sends, nofun⟩ asks⟩
      rw [sent, sends.sent, List.flatten_cons, List.append_assoc]
  | answered answered _ ih =>
      obtain ⟨groups, sent, asks⟩ := ih
      obtain ⟨requests, sends, writes⟩ := v.sends_of_fetched request answered
      have some_sent : requests ≠ [] := by
        rintro rfl
        obtain ⟨_, taken, _⟩ := writes _ rfl
        cases taken
      refine ⟨requests :: groups, ?_, .cons ⟨own sends, fun _ => some_sent⟩ asks⟩
      rw [sent, sends.sent, List.flatten_cons, List.append_assoc]

/-- The pages of a chain are what some of the replies that are left write, in their order. -/
theorem written_of_serves {token : Option String} {l : Link} {chain : Chain}
    (serves : Pager.Serves (v.fetchPage request) token l chain) :
    ∃ rs : List Response, List.Sublist (rs.map Response.reply) l.replies ∧
      List.Forall₂ (fun entry r => entry.2.WrittenBy r) chain rs := by
  induction serves with
  | fails failed _ ih =>
      obtain ⟨rs, given, written⟩ := ih
      obtain ⟨requests, sends, _⟩ := v.sends_of_fetched request failed
      rw [sends.replies] at given
      cases written with
      | cons first later => exact ⟨_ :: _, given.trans (List.drop_sublist _ _), .cons first later⟩
  | last answered _ =>
      obtain ⟨_, _, writes⟩ := v.sends_of_fetched request answered
      obtain ⟨r, taken, written⟩ := writes _ rfl
      exact ⟨[r], List.singleton_sublist.mpr (List.mem_of_mem_take taken), .cons written .nil⟩
  | more answered _ _ ih =>
      obtain ⟨rs, given, later⟩ := ih
      obtain ⟨requests, sends, writes⟩ := v.sends_of_fetched request answered
      obtain ⟨r, taken, written⟩ := writes _ rfl
      refine ⟨r :: rs, ?_, .cons written later⟩
      rw [sends.replies] at given
      rw [← List.take_append_drop requests.length (Link.replies _)]
      exact (List.singleton_sublist.mpr taken).append given

theorem length_le_of_serves {token : Option String} {l : Link} {chain : Chain}
    (serves : Pager.Serves (v.fetchPage request) token l chain) : chain.length ≤ l.replies.length := by
  obtain ⟨rs, given, written⟩ := v.written_of_serves request serves
  rw [written.length_eq, ← List.length_map Response.reply]
  exact given.length_le

/-- Successive calls on a listing that is served as a chain of pages, each after some failures.  The
calls that do not fail hand out the assets of all pages in order and then nothing, with no further
request.  The pages are what some of the replies write, in their order.  The fetches ask for them in
order, each again until it is answered: for the first one without a token, for each later one with the
token that the page before it was written with.  A call that fails has passed the empty pages in front of
the page that it could not get, and changed nothing else. -/
theorem listing_read (l : Link) (chain : Chain)
    (serves : Pager.Serves (v.fetchPage request) none l chain) (n : Nat) :
    let run := Steps.run (fun place (_ : Unit) => v.nextAsset request place.1 place.2) (Pager.start, l)
      (List.replicate n ())
    let pager := run.2.1
    let link := run.2.2
    Pager.failed run.1 ≤ chain.failures ∧
      Pager.handed run.1 =
        (chain.assets.map some ++ List.replicate n none).take (n - Pager.failed run.1) ∧
      (∃ rs : List Response, List.Sublist (rs.map Response.reply) l.replies ∧
        List.Forall₂ (fun entry r => entry.2.WrittenBy r) chain rs) ∧
      (∃ lead, (lead.getLast? = some '?' ∨ lead.getLast? = some '&') ∧
        ∃ asked groups, asked <+: chain.fetches none ∧ link.sent = l.sent ++ groups.flatten ∧
          List.Forall₂ (v.Asks request lead) asked groups ∧
          (.ok none ∈ run.1 → asked = chain.fetches none)) ∧
      (.ok none ∈ run.1 → v.nextAsset request pager link = (.ok none, pager, link)) ∧
      ∀ e last final, v.nextAsset request pager link = (.error e, last, final) →
        ∃ pages mid, Pager.Passes (v.fetchPage request) pager link pages last mid ∧
          v.fetchPage request last.token mid = (.error e, final) ∧
          (∀ page ∈ pages, page.assets = []) ∧ last = ⟨[], last.token, false⟩ ∧
          pager = ⟨[], pager.token, false⟩ := by
  intro run pager link
  obtain ⟨rest, asked, reads⟩ := Pager.calls_read (fun l : Link => l.replies.length)
    (fun _ _ _ => v.length_le_of_serves request) serves n
  change Pager.Reads _ l chain run.1 (pager, link) rest asked at reads
  refine ⟨?failures, ?handed, v.written_of_serves request serves, ?requests, ?idle, ?failing⟩
  case failures =>
    have whole := reads.failures
    omega
  case handed =>
    have count : run.1.length = n := by
      rw [Steps.length_replies, List.length_replicate]
    have handed := reads.handed_eq
    rw [count] at handed
    exact handed
  case requests =>
    obtain ⟨lead, mark, groups, sent, asks⟩ := v.asks_append request reads.fetches
    refine ⟨lead, mark, asked, groups, ⟨_, reads.split.symm⟩, sent, asks, ?_⟩
    intro ended
    obtain ⟨_, exhausted⟩ := reads.ended ended
    cases reads.stands with
    | ended _ => simpa [Chain.fetches] using reads.split.symm
    | within going _ =>
        rw [exhausted] at going
        cases going
  case idle =>
    intro ended
    obtain ⟨buffer, exhausted⟩ := reads.ended ended
    exact Pager.next_of_exhausted _ _ _ _ buffer exhausted
  case failing =>
    intro e last final error
    obtain ⟨pages, mid, passes, failed⟩ := Pager.passes_of_next_error _ error
    obtain ⟨buffer, going⟩ := Pager.drained_of_next_error _ error
    have before : pager = ⟨[], pager.token, false⟩ := by rw [← buffer, ← going]
    refine ⟨pages, mid, passes, failed, passes.assets_eq_nil, ?_, before⟩
    rw [passes.pager_eq, before]

section stumbling

def single : Service := ⟨"http://h", .once, none, 500⟩

def bare : Request := ⟨"a", [], .resource⟩

def emptyText : String := "\x7b\"nextPageToken\":\"t\"\x7d"

def lastText : String := "\x7b\"assets\":[\x7b\"name\":\"a\"\x7d]\x7d"

def stumbling : List Response :=
  [⟨200, Utf8.encode emptyText⟩, ⟨400, []⟩, ⟨200, Utf8.encode lastText⟩]

def stumblingLink : Link :=
  ⟨some ⟨false, "h", 80⟩, stumbling.map Response.reply, [], .unlimited, false, []⟩

theorem parse?_address :
    Url.parse? "http://h/v1/a/assets" =
      some ⟨⟨false, "h", 80⟩, ['v', '1', '/', 'a', '/', 'a', 's', 's', 'e', 't', 's'], none, none⟩ := by
  have scheme : Url.scheme? (Url.significant "http://h/v1/a/assets") =
      some (false, "h/v1/a/assets".toList) := by decide +kernel
  have encoded : Url.encodeWith Url.passesPath ['v', '1', '/', 'a', '/', 'a', 's', 's', 'e', 't', 's'] =
      ['v', '1', '/', 'a', '/', 'a', 's', 's', 'e', 't', 's'] := by
    apply Url.encodeWith_of_passes
    apply List.all_eq_true.mp
    rw [Url.passesPath_eq]
    decide +kernel
  have resolved : ['/'].intercalate (Url.resolveDots []
      ((Host.parts '/' ("/v1/a/assets".toList.map fun c => if Url.isSlash c then '/' else c)).drop 1)) =
      ['v', '1', '/', 'a', '/', 'a', 's', 's', 'e', 't', 's'] := by decide +kernel
  have host : "h/v1/a/assets".toList.takeWhile (!Url.endsHost ·) = ['h'] := by decide +kernel
  have path : "h/v1/a/assets".toList.dropWhile (!Url.endsHost ·) = "/v1/a/assets".toList := by
    decide +kernel
  have parsed := Url.parse?_of_parts scheme host Url.origin?_h path (by decide +kernel) (by decide +kernel)
  rw [parsed, resolved, encoded]

theorem writes_single (token : Option String) (known : token = none ∨ token = some "t") :
    ∃ url request, (single.pageQuery bare token).request? none = some (url, request) ∧
      url.origin = ⟨false, "h", 80⟩ := by
  have address : (single.pageQuery bare token).url = "http://h/v1/a/assets" := by
    have base : trimSlashesEnd "http://h" = "http://h" := by decide +kernel
    have parent : trimSlashesStart "a" = "a" := by decide +kernel
    simp only [pageQuery, single, bare, base, parent]
    rfl
  have parsed := parse?_address
  rw [← address] at parsed
  have short : (Url.addPairs (single.pageQuery bare token).pairs
      ⟨⟨false, "h", 80⟩, ['v', '1', '/', 'a', '/', 'a', 's', 's', 'e', 't', 's'], none, none⟩).write.length ≤
        Url.limit := by
    rcases known with rfl | rfl <;> decide +kernel
  exact ⟨_, _, Query.writes_of_parsed parsed short, rfl⟩

theorem fetch_single (token : Option String) (known : token = none ∨ token = some "t") (l : Link)
    (r : Response) (rs : List Response) (listening : l.listening = some ⟨false, "h", 80⟩)
    (calm : l.fired = false) (replies : l.replies = (r :: rs).map Response.reply)
    (final : ∀ x ∈ r :: rs, Status.isFinal x.status = true) :
    ∃ after, single.fetchPage bare token l = (r.outcome Page.decode?, after) ∧
      after.listening = some ⟨false, "h", 80⟩ ∧ after.fired = false ∧
      after.replies = rs.map Response.reply := by
  obtain ⟨url, request, written, origin⟩ := writes_single token known
  have reaches : Reaches (single.pageQuery bare token) single.token request l :=
    ⟨⟨url, written, listening.trans (congrArg some origin.symm)⟩, calm⟩
  have decisive : IsDecisive .once (r :: rs) 1 := ⟨⟨Nat.le_refl 1, .inr rfl⟩, fun _ bound => bound.1⟩
  have called := call_of_isDecisive Page.decode? reaches replies final decisive
  refine ⟨_, called, listening, calm, ?_⟩
  change l.replies.drop 1 = _
  rw [replies]
  rfl

theorem outcome_page {text : String} {node : Written} {page : Page}
    (read : Utf8.lossyText (Utf8.encode text) = text) (written : Written.ofText? text = some node)
    (decoded : Page.decode? node = some page) :
    (Response.mk 200 (Utf8.encode text)).outcome Page.decode? = .ok page := by
  have whole : (Response.mk 200 (Utf8.encode text)).text = text := read
  rw [outcome_of_success Page.decode? _ rfl, whole, written, Option.bind_some, decoded]

theorem outcome_refusal :
    (Response.mk 400 []).outcome Page.decode? =
      .error (.because .requestFailed (.stated "400 Bad Request: ")) := by
  have failure : Status.failure 400 (Response.mk 400 []).text =
      .because .requestFailed (.stated "400 Bad Request: ") := by decide +kernel
  rw [outcome_of_refusal Page.decode? _ rfl, failure]

theorem serves_stumbling :
    Pager.Serves (single.fetchPage bare) none stumblingLink
        [(0, ⟨[], some "t"⟩), (1, ⟨[⟨"a", "", [], none, none, none⟩], none⟩)] ∧
      ∃ refused, single.nextAsset bare Pager.start stumblingLink =
        (.error (.because .requestFailed (.stated "400 Bad Request: ")), ⟨[], some "t", false⟩,
          refused) := by
  have final : ∀ r ∈ stumbling, Status.isFinal r.status = true := by decide
  have empty : Written.ofText? emptyText = some (.record [(some "nextPageToken", .text (some "t"))]) := by
    cbv
  have full : Written.ofText? lastText =
      some (.record [(some "assets", .list [.record [(some "name", .text (some "a"))]])]) := by cbv
  have first : (Response.mk 200 (Utf8.encode emptyText)).outcome Page.decode? = .ok ⟨[], some "t"⟩ :=
    outcome_page (by decide +kernel) empty rfl
  have last : (Response.mk 200 (Utf8.encode lastText)).outcome Page.decode? =
      .ok ⟨[⟨"a", "", [], none, none, none⟩], none⟩ := outcome_page (by decide +kernel) full rfl
  obtain ⟨passed, one, listening, calm, replies⟩ :=
    fetch_single none (.inl rfl) stumblingLink _ _ rfl rfl rfl final
  obtain ⟨refused, two, listening, calm, replies⟩ :=
    fetch_single (some "t") (.inr rfl) passed _ _ listening calm replies
      fun r member => final r (List.mem_cons_of_mem _ member)
  obtain ⟨done, three, -⟩ :=
    fetch_single (some "t") (.inr rfl) refused _ _ listening calm replies
      fun r member => final r (List.mem_cons_of_mem _ (List.mem_cons_of_mem _ member))
  rw [first] at one
  rw [outcome_refusal] at two
  rw [last] at three
  have following : Page.following ⟨[], some "t"⟩ = some "t" := by decide +kernel
  refine ⟨.more one following (.fails two (.last three rfl)), refused, ?_⟩
  have taken : Pager.start.take ⟨[], some "t"⟩ = ⟨[], some "t", false⟩ :=
    Pager.take_more _ _ _ following
  have passes := Pager.next_of_fetched (single.fetchPage bare) 2 Pager.start stumblingLink rfl rfl _ _ one
  rw [taken] at passes
  have fails := Pager.next_of_failed (single.fetchPage bare) 2 ⟨[], some "t", false⟩ passed rfl rfl _ _ two
  exact passes.trans fails

/-- A call that fails at its second page has left the first one behind. -/
theorem failing_call_moves :
    ∃ chain, Pager.Serves (single.fetchPage bare) none stumblingLink chain ∧
      ∃ e last final, single.nextAsset bare Pager.start stumblingLink = (.error e, last, final) ∧
        last ≠ Pager.start := by
  obtain ⟨serves, refused, failed⟩ := serves_stumbling
  refine ⟨_, serves, _, _, _, failed, ?_⟩
  intro same
  cases congrArg Pager.token same

/-- One of four calls fails at most; the others hand out the asset, and then nothing.  The second page is
asked for by the token of the first one, twice. -/
theorem listing_read_stumbling :
    let run := Steps.run (fun place (_ : Unit) => single.nextAsset bare place.1 place.2)
      (Pager.start, stumblingLink) (List.replicate 4 ())
    Pager.failed run.1 ≤ 1 ∧
      Pager.handed run.1 =
        ([some ⟨"a", "", [], none, none, none⟩, none, none, none, none] : List (Option Asset)).take
          (4 - Pager.failed run.1) ∧
      ∃ lead groups, run.2.2.sent = groups.flatten ∧
        List.Forall₂ (single.Asks bare lead) [(none, true), (some "t", false), (some "t", true)]
          groups := by
  intro run
  obtain ⟨failures, handed, -, ⟨lead, -, asked, groups, -, sent, asks, whole⟩, -⟩ :=
    listing_read single bare stumblingLink _ serves_stumbling.1 4
  change Pager.failed run.1 ≤ 1 at failures
  change Pager.handed run.1 =
    [some ⟨"a", "", [], none, none, none⟩, none, none, none, none].take (4 - Pager.failed run.1) at handed
  have nothing : none ∈ Pager.handed run.1 := by
    obtain none_failed | one_failed := Nat.le_one_iff_eq_zero_or_eq_one.mp failures
    · simp [handed, none_failed]
    · simp [handed, one_failed]
  obtain ⟨reply, member, ended⟩ := List.mem_filterMap.mp nothing
  cases reply with
  | error e => cases ended
  | ok o =>
      obtain rfl := Option.some.inj ended
      rw [whole member] at asks
      exact ⟨failures, handed, lead, groups, sent, asks⟩

end stumbling
end Service
end CloudCensus
