import CloudCensus.Asset.Codec
import CloudCensus.Http.Client

/-!
The asset service and the resource manager over HTTP.

A listing comes in pages.  The pager hands assets out one by one and fetches the next page only when
it has none left; a fetch that fails changes nothing, so the page is asked for again.
-/

namespace CloudCensus

open WireTree

structure Page where
  assets : List Asset
  next : Option String

namespace Page

def keys : List String := ["assets", "nextPageToken"]

def decode? {N : Type} [PayloadTree N] (node : N) : Option Page := do
  let fields ← fields? keys node
  let assets ← defaulted fields "assets" (listOf? Asset.decode?) []
  let next ← optional fields "nextPageToken" text?
  return ⟨assets, next⟩

end Page

structure Pager where
  buffer : List Asset
  token : Option String
  exhausted : Bool

namespace Pager

def start : Pager := ⟨[], none, false⟩

/-- Takes a page in; without a token for another one it is the last. -/
def take (p : Pager) (page : Page) : Pager :=
  match page.next with
  | some t =>
    if t.isEmpty then { p with buffer := p.buffer ++ page.assets, exhausted := true }
    else { p with buffer := p.buffer ++ page.assets, token := some t }
  | none => { p with buffer := p.buffer ++ page.assets, exhausted := true }

/-- The next asset, or `none` at the end.  At most `fuel` pages are fetched on the way; `fetch` is given
the token of the page it is to fetch. -/
def next {σ : Type} (fetch : Option String → σ → Outcome Page × σ) : Nat → Pager → σ →
    Outcome (Option Asset) × Pager × σ
  | fuel, p, s =>
    match p.buffer with
    | a :: rest => (.ok (some a), { p with buffer := rest }, s)
    | [] =>
      if p.exhausted then (.ok none, p, s)
      else
        match fetch p.token s, fuel with
        | (.error e, s), _ => (.error e, p, s)
        | (.ok page, s), 0 => (.ok none, p.take page, s)
        | (.ok page, s), fuel + 1 => next fetch fuel (p.take page) s

end Pager

structure Service where
  base : String
  policy : RetryPolicy
  token : Option String
  pageSize : Nat

namespace Service

def standardPageSize : Nat := 500

def trimSlashesStart (s : String) : String := String.ofList (s.toList.dropWhile (· = '/'))

def trimSlashesEnd (s : String) : String :=
  String.ofList (s.toList.reverse.dropWhile (· = '/')).reverse

def pageQuery (v : Service) (request : Request) (token : Option String) : Http.Query where
  method := Method.listAssets
  url := trimSlashesEnd v.base ++ "/v1/" ++ trimSlashesStart request.parent ++ "/assets"
  pairs := request.kinds.map (("assetTypes", ·)) ++
    [("contentType", request.facet.label), ("pageSize", toString (max 1 v.pageSize))] ++
    (token.map (("pageToken", ·))).toList

def fetchPage (v : Service) (request : Request) (token : Option String) (l : Http.Link) :
    Outcome Page × Http.Link :=
  Http.call v.policy (v.pageQuery request token) v.token Page.decode? l

/-- The next asset of a listing.  The pages that can be fetched are bounded by the replies left. -/
def nextAsset (v : Service) (request : Request) (p : Pager) (l : Http.Link) :
    Outcome (Option Asset) × Pager × Http.Link :=
  p.next (v.fetchPage request) l.replies.length l

def readToEnd (v : Service) (request : Request) : Nat → Pager → Http.Link →
    List (Outcome (Option Asset)) × Http.Link
  | 0, _, l => ([], l)
  | fuel + 1, p, l =>
    match v.nextAsset request p l with
    | (.ok (some a), p, l) =>
      let (rest, l) := readToEnd v request fuel p l
      (.ok (some a) :: rest, l)
    | (r, _, l) => ([r], l)

/-- The most assets that the replies of a link can hold: every asset takes a byte at least. -/
def mostAssets (l : Http.Link) : Nat :=
  total (l.replies.map fun r => match r with | .response _ b => b.bytes.length | _ => 0)

def readAll (v : Service) (request : Request) (l : Http.Link) : List (Outcome (Option Asset)) × Http.Link :=
  v.readToEnd request (mostAssets l + 1) Pager.start l

/-- Reads up to `n` answers of a listing, going on after failures but not after its end. -/
def readSome (v : Service) (request : Request) : Nat → Pager → Http.Link →
    List (Outcome (Option Asset)) × Http.Link
  | 0, _, l => ([], l)
  | n + 1, p, l =>
    match v.nextAsset request p l with
    | (.ok none, _, l) => ([.ok none], l)
    | (r, p, l) =>
      let (rest, l) := readSome v request n p l
      (r :: rest, l)

def displayNameKeys : List String := ["displayName"]

def decodeDisplayName? (node : Written) : Option String := do
  let fields ← fields? displayNameKeys node
  defaulted fields "displayName" text? ""

def methodOf : Level → String
  | .project => Method.getProject
  | .organization => Method.getOrganization

def displayName (v : Service) (level : Level) (name : String) (l : Http.Link) : Outcome String × Http.Link :=
  let query : Http.Query :=
    ⟨methodOf level, trimSlashesEnd v.base ++ "/v3/" ++ trimSlashesStart name, []⟩
  Http.call v.policy query v.token decodeDisplayName? l

end Service
end CloudCensus
