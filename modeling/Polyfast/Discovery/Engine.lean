import Mathlib.Tactic.IntervalCases
import Polyfast.AuthClients.BaseClient
import Polyfast.Discovery.Models
import Polyfast.Domain.StartupGuard
import Polyfast.Lib.Loop
import Polyfast.Lib.Paging
import Polyfast.MarketData.Registry

/-!
# The discovery engine

A scan reads the listing of the Gamma API page by page, makes an event of every item that it can read, and keeps the
events that are crypto, five minutes long, titled "up or down" and running or about to start.

* `scan_listing`: what a scan finds in a listing that stands still meanwhile;
* `scan_replies`: what a scan asks for, and what comes of it, whatever is answered.
-/

namespace Polyfast

/-! ### Tags -/

/-- A tag of an event; a dictionary is given by its `slug`, "" where it has none. -/
inductive Tag
  | dict (slug : String)
  | text (s : String)
  | other
  deriving DecidableEq

/-- What is looked for in a tag. -/
def Tag.slug : Tag → Option String
  | .dict slug => some slug.toLower
  | .text s => some s.toLower
  | .other => none

/-- `_extract_category_from_tags`. -/
def extractCategoryFromTags (tags : List Tag) : String :=
  if tags.isEmpty then "unknown"
  else
    let tagSlugs := tags.filterMap Tag.slug
    if "crypto" ∈ tagSlugs ∨ "crypto-prices" ∈ tagSlugs then "crypto" else "unknown"

/-- `_extract_duration_from_tags`: the first tag that is a duration. -/
def extractDurationFromTags (tags : List Tag) : String :=
  if tags.isEmpty then "unknown"
  else ((tags.filterMap Tag.slug).find? (fun slug => slug ∈ ["5m", "15m", "1h", "4h"])).getD "unknown"

/-- An event of the API with its tags. -/
structure RawEvent extends ApiEvent where
  tags : List Tag := []
  /-- Its market has `"question": null`, which `m.get("question", title)` passes on. -/
  nullQuestion : Bool := false

/-- An item of the listing; `none` is one that `from_api_event` fails on. -/
abbrev RawItem := Option RawEvent

/-- A discovered event with the category and the duration that its tags name. -/
structure ScannedEvent extends DiscoveredEvent where
  category : String
  duration : String
  /-- The question is `None`. -/
  nullQuestion : Bool := false

/-- `DiscoveredEvent.from_api_event`, tags and all. -/
def ScannedEvent.fromApiEvent (raw : RawItem) (now : Time) : Option ScannedEvent :=
  raw.bind fun event => (DiscoveredEvent.fromApiEvent event.toApiEvent now).map fun discovered =>
    { toDiscoveredEvent := discovered
      category := extractCategoryFromTags event.tags
      duration := extractDurationFromTags event.tags
      nullQuestion := event.nullQuestion }

/-! ### The engine -/

/-- What `response.json()` gives: a list, a dictionary with `data`, or neither. -/
inductive EventsPayload
  | list (items : List RawItem)
  | data (items : List RawItem)
  | other

def EventsPayload.items : EventsPayload → List RawItem
  | .list items | .data items => items
  | .other => []

/-- What `_fetch_events` raises. -/
inductive FetchError
  | client (error : ClientError)
  | exception (text : String)
  deriving DecidableEq

abbrev Params := List (String × String)

/-- When the item of a number is parsed, and when it is matched. -/
structure ScanClock where
  parsed : ℕ → Time
  matched : ℕ → Time

structure DiscoveryResult where
  events : List ScannedEvent := []
  totalScanned : ℕ := 0
  totalMatched : ℕ := 0
  parseFailures : ℕ := 0
  success : Bool := true
  errorMessage : String := ""
  healthIncidents : List HealthIncident := []

structure DiscoveryEngine where
  client : BaseClient := { sourceName := "public_market" }
  /-- `response.json()`; it may raise. -/
  json : Response → Except String EventsPayload

namespace DiscoveryEngine

def targetTagSlug : String := "5M"

def targetCategory : String := "crypto"

def targetDuration : String := "5m"

def titlePattern : String := "up or down"

def pageSize : ℕ := 100

def maxPages : ℕ := 5

def lookaheadSeconds : ℤ := 1800

/-- The request for a page. -/
def eventsCall (page : ℕ) : HttpCall Params where
  method := "GET"
  path := "/events"
  params := some [("tag_slug", targetTagSlug), ("closed", "false"), ("limit", toString pageSize),
    ("offset", toString (page * pageSize))]

/-- `_is_current_or_upcoming`; the number in the slug is the start. -/
def isCurrentOrUpcoming (slug : String) (now : Time) : Bool :=
  match slugStart slug with
  | none => true
  | some start =>
    let eventEnd : ℤ := start + slotSeconds
    decide ((start : ℤ) ≤ ⌊now⌋ + lookaheadSeconds ∧ ⌊now⌋ ≤ eventEnd)

/-- `_matches_criteria`. No letter outside ASCII has a letter of the pattern as its lower case. -/
def matchesCriteria (event : ScannedEvent) (now : Time) : Except String Bool :=
  if event.category ≠ targetCategory then .ok false
  else if event.duration ≠ targetDuration then .ok false
  else if event.nullQuestion then .error "'NoneType' object has no attribute 'lower'"
  else if !Lib.occursIn titlePattern event.question.toLower then .ok false
  else if !isCurrentOrUpcoming event.slug now then .ok false
  else .ok true

variable (e : DiscoveryEngine) (wire : ℕ → ℕ → Outcome) (clock : ScanClock)

/-- One page, where `outcomes` are what the attempts at the request give. -/
def fetchPage (outcomes : ℕ → Outcome) (page : ℕ) : Lib.Reading (Action Params) FetchError RawItem :=
  let sent := e.client.request (eventsCall page) outcomes
  { log := sent.actions
    result :=
      match sent.result with
      | .error error => .error (.client error)
      | .ok response =>
        match e.json response with
        | .error text => .error (.exception text)
        | .ok payload => .ok payload.items }

/-- `_fetch_events`, where `wire page` are the outcomes for a page. -/
def fetchEvents : Lib.Reading (Action Params) FetchError RawItem :=
  Lib.readPages (fun page => e.fetchPage (wire page) page) pageSize maxPages 0 []

/-- What the loop of `scan` collects. -/
structure Sorted where
  matched : List ScannedEvent := []
  parseFailures : ℕ := 0

/-- One item of the loop of `scan`, with its number. -/
def sortItem (s : Sorted) (item : RawItem × ℕ) : Sorted × Option String :=
  match ScannedEvent.fromApiEvent item.1 (clock.parsed item.2) with
  | none => ({ s with parseFailures := s.parseFailures + 1 }, none)
  | some event =>
    match matchesCriteria event (clock.matched item.2) with
    | .error text => (s, some text)
    | .ok true => ({ s with matched := s.matched ++ [event] }, none)
    | .ok false => (s, none)

/-- The incident and the message of a scan that failed. -/
def failedScan : FetchError → DiscoveryResult
  | .client error =>
    { success := false
      errorMessage := error.message
      healthIncidents := [{ severity := .warning, category := "discovery"
                            message := s!"Discovery scan failed: {error.message}"
                            suggestedAction := "Check network connectivity and Polymarket API availability." }] }
  | .exception text =>
    { success := false
      errorMessage := s!"Unexpected error: {text}"
      healthIncidents := [{ severity := .warning, category := "discovery"
                            message := s!"Discovery scan unexpected error: {text}"
                            suggestedAction := "Check Polymarket API response format." }] }

/-- Only what `_fetch_events` raises is caught. -/
def scan : Except String DiscoveryResult :=
  match (e.fetchEvents wire).result with
  | .error error => .ok (failedScan error)
  | .ok rawEvents =>
    match Lib.forEach (sortItem clock) {} rawEvents.zipIdx with
    | (_, some text) => .error text
    | (sorted, none) =>
      .ok
        { events := sorted.matched
          totalScanned := rawEvents.length
          totalMatched := sorted.matched.length
          parseFailures := sorted.parseFailures
          success := true }

/-! ### What the loop collects -/

/-- A five-minute crypto event whose question is `None`: matching it raises. -/
def Breaks (event : ScannedEvent) : Prop :=
  event.category = targetCategory ∧ event.duration = targetDuration ∧ event.nullQuestion = true

/-- What is looked for. -/
structure Wanted (event : ScannedEvent) (now : Time) : Prop where
  category : event.category = targetCategory
  duration : event.duration = targetDuration
  question : event.nullQuestion = false
  title : Lib.occursIn titlePattern event.question.toLower = true
  /-- It has not ended, and starts within the lookahead. -/
  window : ∀ start, slugStart event.slug = some start →
    (start : ℤ) ≤ ⌊now⌋ + lookaheadSeconds ∧ ⌊now⌋ ≤ start + slotSeconds

variable {e wire clock}

theorem isCurrentOrUpcoming_iff {slug : String} {now : Time} : isCurrentOrUpcoming slug now = true ↔
    ∀ start, slugStart slug = some start →
      (start : ℤ) ≤ ⌊now⌋ + lookaheadSeconds ∧ ⌊now⌋ ≤ start + slotSeconds := by
  unfold isCurrentOrUpcoming
  cases slugStart slug with
  | none => simp
  | some start => simp

theorem matchesCriteria_error {event : ScannedEvent} {now : Time} {text : String} :
    matchesCriteria event now = .error text → Breaks event := by
  unfold matchesCriteria
  split_ifs with hcategory hduration hquestion
  all_goals intro h
  · cases h
  · cases h
  · exact ⟨not_not.mp hcategory, not_not.mp hduration, hquestion⟩
  all_goals cases h

theorem matchesCriteria_breaks {event : ScannedEvent} (h : Breaks event) (now : Time) :
    ∃ text, matchesCriteria event now = .error text := by
  obtain ⟨hcategory, hduration, hquestion⟩ := h
  unfold matchesCriteria
  rw [if_neg (not_not.mpr hcategory), if_neg (not_not.mpr hduration), if_pos hquestion]
  exact ⟨_, rfl⟩

theorem matchesCriteria_true {event : ScannedEvent} {now : Time} :
    matchesCriteria event now = .ok true ↔ Wanted event now := by
  unfold matchesCriteria
  constructor
  · split_ifs with hcategory hduration hquestion htitle hwindow
    all_goals intro h
    all_goals try cases h
    exact
      { category := not_not.mp hcategory
        duration := not_not.mp hduration
        question := Bool.eq_false_of_not_eq_true hquestion
        title := by simpa using htitle
        window := isCurrentOrUpcoming_iff.mp (by simpa using hwindow) }
  · intro h
    have hwindow := isCurrentOrUpcoming_iff.mpr h.window
    simp [h.category, h.duration, h.question, h.title, hwindow]

/-- What an item adds to the events of a scan. -/
def found (clock : ScanClock) (item : RawItem × ℕ) : Option ScannedEvent :=
  (ScannedEvent.fromApiEvent item.1 (clock.parsed item.2)).filter
    (fun event => (matchesCriteria event (clock.matched item.2)).toOption = some true)

/-- An item that is no event. -/
def unreadable (clock : ScanClock) (item : RawItem × ℕ) : Bool :=
  (ScannedEvent.fromApiEvent item.1 (clock.parsed item.2)).isNone

/-- An item that the loop does not get over. -/
def BreaksAt (clock : ScanClock) (item : RawItem × ℕ) : Prop :=
  ∃ event, ScannedEvent.fromApiEvent item.1 (clock.parsed item.2) = some event ∧ Breaks event

theorem sortItem_raises_iff {s : Sorted} {item : RawItem × ℕ} :
    (sortItem clock s item).2.isSome = true ↔ BreaksAt clock item := by
  unfold sortItem BreaksAt
  cases hevent : ScannedEvent.fromApiEvent item.1 (clock.parsed item.2) with
  | none => simp
  | some event =>
    dsimp only
    constructor
    · intro h
      cases hmatch : matchesCriteria event (clock.matched item.2) with
      | error text => exact ⟨event, rfl, matchesCriteria_error hmatch⟩
      | ok accepted =>
        rw [hmatch] at h
        cases accepted <;> cases h
    · rintro ⟨_, hsame, hbreaks⟩
      cases hsame
      obtain ⟨text, htext⟩ := matchesCriteria_breaks hbreaks (clock.matched item.2)
      rw [htext]
      rfl

theorem sortItem_adds {s : Sorted} {item : RawItem × ℕ} (h : ¬ BreaksAt clock item) :
    sortItem clock s item =
      (⟨s.matched ++ (found clock item).toList, s.parseFailures + (unreadable clock item).toNat⟩, none) := by
  unfold sortItem found unreadable
  cases hevent : ScannedEvent.fromApiEvent item.1 (clock.parsed item.2) with
  | none => simp
  | some event =>
    dsimp only
    cases hmatch : matchesCriteria event (clock.matched item.2) with
    | error text => exact absurd ⟨event, hevent, matchesCriteria_error hmatch⟩ h
    | ok accepted => cases accepted <;> simp [Option.filter, hmatch, Except.toOption]

/-- The loop over items that it gets over. -/
theorem forEach_sortItem (items : List (RawItem × ℕ)) : ∀ s : Sorted, (∀ item ∈ items, ¬ BreaksAt clock item) →
    Lib.forEach (sortItem clock) s items =
      (⟨s.matched ++ items.filterMap (found clock), s.parseFailures + items.countP (unreadable clock)⟩, none) := by
  induction items with
  | nil => intro s _; simp [Lib.forEach]
  | cons item items ih =>
    intro s h
    rw [List.forall_mem_cons] at h
    rw [Lib.forEach_cons, sortItem_adds h.1, if_neg (by simp), ih _ h.2, List.filterMap_cons, List.countP_cons]
    cases found clock item <;> cases unreadable clock item <;> simp [Nat.add_comm, Nat.add_assoc]

theorem forEach_sortItem_raises (items : List (RawItem × ℕ)) : ∀ s : Sorted, (∃ item ∈ items, BreaksAt clock item) →
    (Lib.forEach (sortItem clock) s items).2.isSome = true := by
  induction items with
  | nil => simp
  | cons item items ih =>
    intro s h
    rw [Lib.forEach_cons]
    by_cases hitem : BreaksAt clock item
    · have hraises : (sortItem clock s item).2.isSome = true := sortItem_raises_iff.mpr hitem
      rw [if_pos hraises, hraises]
    · rw [if_neg (fun hraises => hitem (sortItem_raises_iff.mp hraises))]
      rw [List.exists_mem_cons_iff] at h
      exact ih _ (h.resolve_left hitem)

/-- **A scan of what was fetched**: it raises iff it fetched an item that it does not get over. -/
theorem scan_fetched (clock : ScanClock) {rawEvents : List RawItem} (h : (e.fetchEvents wire).result = .ok rawEvents) :
    ((∃ text, e.scan wire clock = .error text) ↔ ∃ item ∈ rawEvents.zipIdx, BreaksAt clock item) ∧
      ∀ r, e.scan wire clock = .ok r → r.success = true ∧ r.totalScanned = rawEvents.length ∧
        r.totalMatched = r.events.length ∧ r.events = rawEvents.zipIdx.filterMap (found clock) ∧
        r.parseFailures = rawEvents.zipIdx.countP (unreadable clock) ∧ r.healthIncidents = [] := by
  have hscan : e.scan wire clock = match Lib.forEach (sortItem clock) {} rawEvents.zipIdx with
      | (_, some text) => .error text
      | (sorted, none) => .ok
          { events := sorted.matched, totalScanned := rawEvents.length, totalMatched := sorted.matched.length
            parseFailures := sorted.parseFailures, success := true } := by
    unfold scan
    rw [h]
  rw [hscan]
  by_cases hbreaks : ∃ item ∈ rawEvents.zipIdx, BreaksAt clock item
  · have hraises := forEach_sortItem_raises rawEvents.zipIdx {} hbreaks
    obtain ⟨text, htext⟩ := Option.isSome_iff_exists.mp hraises
    generalize Lib.forEach (sortItem clock) {} rawEvents.zipIdx = call at htext
    obtain ⟨sorted, _⟩ := call
    cases htext
    exact ⟨⟨fun _ => hbreaks, fun _ => ⟨text, rfl⟩⟩, fun r hr => by cases hr⟩
  · have hloop := forEach_sortItem rawEvents.zipIdx {} (fun item hitem hb => hbreaks ⟨item, hitem, hb⟩)
    rw [hloop]
    refine ⟨⟨?_, fun hb => absurd hb hbreaks⟩, ?_⟩
    · rintro ⟨text, htext⟩
      cases htext
    · intro r hr
      cases hr
      exact ⟨rfl, rfl, rfl, by simp, by simp, rfl⟩

theorem mem_found {event : ScannedEvent} {items : List RawItem} :
    event ∈ items.zipIdx.filterMap (found clock) ↔ ∃ i raw, items[i]? = some raw ∧
      ScannedEvent.fromApiEvent raw (clock.parsed i) = some event ∧ Wanted event (clock.matched i) := by
  rw [List.mem_filterMap]
  constructor
  · rintro ⟨⟨raw, i⟩, hitem, hfound⟩
    obtain ⟨hevent, hmatch⟩ := Option.filter_eq_some_iff.mp hfound
    refine ⟨i, raw, List.mk_mem_zipIdx_iff_getElem?.mp hitem, hevent, matchesCriteria_true.mp ?_⟩
    have hmatch := of_decide_eq_true hmatch
    dsimp only at hmatch
    cases hm : matchesCriteria event (clock.matched i) with
    | error text =>
      rw [hm] at hmatch
      cases hmatch
    | ok accepted =>
      rw [hm] at hmatch
      cases hmatch
      rfl
  · rintro ⟨i, raw, hitem, hevent, hwanted⟩
    refine ⟨(raw, i), List.mk_mem_zipIdx_iff_getElem?.mpr hitem, Option.filter_eq_some_iff.mpr ⟨hevent, ?_⟩⟩
    rw [matchesCriteria_true.mpr hwanted]
    rfl

theorem exists_breaksAt {items : List RawItem} :
    (∃ item ∈ items.zipIdx, BreaksAt clock item) ↔ ∃ i raw event, items[i]? = some raw ∧
      ScannedEvent.fromApiEvent raw (clock.parsed i) = some event ∧ Breaks event := by
  constructor
  · rintro ⟨⟨raw, i⟩, hitem, event, hevent, hbreaks⟩
    exact ⟨i, raw, event, List.mk_mem_zipIdx_iff_getElem?.mp hitem, hevent, hbreaks⟩
  · rintro ⟨i, raw, event, hitem, hevent, hbreaks⟩
    exact ⟨(raw, i), List.mk_mem_zipIdx_iff_getElem?.mpr hitem, event, hevent, hbreaks⟩

theorem getElem?_take_some {items : List RawItem} {n i : ℕ} {raw : RawItem} :
    (items.take n)[i]? = some raw ↔ i < n ∧ items[i]? = some raw := by
  rw [List.getElem?_take]
  split_ifs with hi
  · exact (and_iff_right hi).symm
  · simp [hi]

/-! ### A listing that stands still -/

/-- **A scan of a listing.** Where every page is answered with that page of the listing, the scan asks for the full
pages and the one behind them; it raises iff one of the first 500 items is a five-minute crypto event whose question is
`None`, and otherwise finds exactly the events that are looked for among these items, in their order. -/
theorem scan_listing (clock : ScanClock) {listing : List RawItem}
    (h : ∀ page < maxPages, (e.fetchPage (wire page) page).result = .ok (Lib.slice listing pageSize page)) :
    (e.fetchEvents wire).log = (List.range (min maxPages (listing.length / pageSize + 1))).flatMap
        (fun page => (e.fetchPage (wire page) page).log) ∧
      ((∃ text, e.scan wire clock = .error text) ↔ ∃ i raw event, i < 500 ∧ listing[i]? = some raw ∧
        ScannedEvent.fromApiEvent raw (clock.parsed i) = some event ∧ Breaks event) ∧
      ∀ r, e.scan wire clock = .ok r → r.success = true ∧ r.totalScanned = min 500 listing.length ∧
        r.totalMatched = r.events.length ∧
        r.events = (listing.take 500).zipIdx.filterMap (found clock) ∧
        r.parseFailures = (listing.take 500).zipIdx.countP (unreadable clock) ∧
        ∀ event, event ∈ r.events ↔ ∃ i raw, i < 500 ∧ listing[i]? = some raw ∧
          ScannedEvent.fromApiEvent raw (clock.parsed i) = some event ∧ Wanted event (clock.matched i) := by
  have hread : ∀ page ≤ 4, (e.fetchPage (wire page) page).result = .ok (Lib.slice listing pageSize page) :=
    fun page hpage => h page (Nat.lt_succ_of_le hpage)
  obtain ⟨hresult, hlog⟩ := Lib.readPages_slices (by decide) hread
  obtain ⟨hraises, hok⟩ := scan_fetched clock (show (e.fetchEvents wire).result = _ from hresult)
  refine ⟨hlog, ?_, ?_⟩
  · rw [hraises, exists_breaksAt]
    simp only [getElem?_take_some, and_assoc]
    exact Iff.rfl
  · intro r hr
    obtain ⟨hsuccess, hscanned, hmatched, hevents, hfailures, -⟩ := hok r hr
    refine ⟨hsuccess, ?_, hmatched, hevents, hfailures, fun event => ?_⟩
    · rw [hscanned, List.length_take]
      rfl
    · rw [hevents, mem_found]
      simp only [getElem?_take_some, and_assoc]
      exact Iff.rfl

/-- A listing with one event to find, after an item that is no event. -/
def shortListing : List RawItem :=
  [none,
    some
      { title := "Bitcoin Up or Down", slug := "btc-updown-5m-1700000100"
        market := some { conditionId := "first", clobTokenIds := ["up", "down"], outcomes := ["Up", "Down"] }
        tags := [.dict "Crypto", .text "5M"] }]

/-- The pages of that listing, each named by the answer. -/
def shortEngine : DiscoveryEngine where
  json response := .ok (.list (if response.content = "0" then shortListing else []))

/-- The server answers the first request for a page with an error. -/
def shortWire (page attempt : ℕ) : Outcome :=
  if attempt = 1 then .response { statusCode := 503 }
  else .response { statusCode := 200, content := toString page }

def shortClock : ScanClock := ⟨fun _ => 1700000000, fun _ => 1700000000⟩

theorem scan_listing_short : ∃ r, shortEngine.scan shortWire shortClock = .ok r ∧ r.totalScanned = 2 ∧
    ∃ event ∈ r.events, event.conditionId = "first" := by
  have hread : ∀ page < maxPages, (shortEngine.fetchPage (shortWire page) page).result =
      .ok (Lib.slice shortListing pageSize page) := by
    unfold maxPages
    intro page hpage
    interval_cases page <;> rfl
  obtain ⟨-, hraises, hok⟩ := scan_listing shortClock hread
  have hread : ∀ i raw event, shortListing[i]? = some raw →
      ScannedEvent.fromApiEvent raw (shortClock.parsed i) = some event → ¬ Breaks event := by
    intro i raw event hitem hevent hbreaks
    rcases i with _ | _ | i
    · cases hitem
      cases hevent
    · cases hitem
      cases hevent
      exact absurd hbreaks.2.2 Bool.false_ne_true
    · cases hitem
  cases hscan : shortEngine.scan shortWire shortClock with
  | error text =>
    obtain ⟨i, raw, event, -, hitem, hevent, hbreaks⟩ := hraises.mp ⟨text, hscan⟩
    exact absurd hbreaks (hread i raw event hitem hevent)
  | ok r =>
    obtain ⟨-, hscanned, -, -, -, hevents⟩ := hok r hscan
    refine ⟨r, rfl, hscanned, _, (hevents _).mpr ⟨1, _, by decide, rfl, rfl, ?_⟩, rfl⟩
    exact
      { category := by decide +kernel
        duration := by decide +kernel
        question := rfl
        title := by decide +kernel
        window := isCurrentOrUpcoming_iff.mp (by decide +kernel) }

/-! ### Whatever is answered -/

/-- **Whatever is answered.** A scan asks for the pages `0, ..., last`, five at most, with `retry_max` requests for a
page at most; all before the last one are full. If the last one cannot be read, the scan answers that it has failed,
with one incident and none of the events that it had read; otherwise it was short, or the fifth. -/
theorem scan_replies (e : DiscoveryEngine) (wire : ℕ → ℕ → Outcome) (clock : ScanClock) :
    ∃ last < maxPages,
      (e.fetchEvents wire).log = (List.range (last + 1)).flatMap
        (fun page => (e.client.request (eventsCall page) (wire page)).actions) ∧
      (e.fetchEvents wire).log.countP Action.isRequest ≤ (last + 1) * e.client.retryMax ∧
      (∀ page < last, ∃ items, (e.fetchPage (wire page) page).result = .ok items ∧ pageSize ≤ items.length) ∧
      (∀ error, (e.fetchPage (wire last) last).result = .error error → ∃ r, e.scan wire clock = .ok r ∧
        r.success = false ∧ r.events = [] ∧ r.totalScanned = 0 ∧ r.healthIncidents.length = 1) ∧
      ∀ tail, (e.fetchPage (wire last) last).result = .ok tail →
        (tail.length < pageSize ∨ last + 1 = maxPages) ∧
        ∀ r, e.scan wire clock = .ok r → r.success = true ∧ r.healthIncidents = [] ∧
          r.totalScanned =
            ((List.range last).map (fun page =>
              (Lib.pageItems (fun page => e.fetchPage (wire page) page) page).length)).sum + tail.length := by
  let read (page : ℕ) : Lib.Reading (Action Params) FetchError RawItem := e.fetchPage (wire page) page
  have heq := Lib.readPages_eq read (show 0 < pageSize by decide) 4 0 []
  have hle : Lib.lastAttempt (Lib.stops read pageSize) 4 0 ≤ 4 := by
    simpa using Lib.lastAttempt_le (Lib.stops read pageSize) 4 0
  have hfull : ∀ page < Lib.lastAttempt (Lib.stops read pageSize) 4 0, Lib.stops read pageSize page = false :=
    fun page hpage => Lib.final_of_lt_lastAttempt 4 0 (Nat.zero_le page) hpage
  have hlast := Lib.lastAttempt_final_or_eq (Lib.stops read pageSize) 4 0
  dsimp only at heq
  generalize Lib.lastAttempt (Lib.stops read pageSize) 4 0 = last at heq hle hfull hlast
  rw [Nat.sub_zero, Nat.sub_zero, ← List.range_eq_range', ← List.range_eq_range'] at heq
  have hfetch : e.fetchEvents wire = Lib.readPages read pageSize 5 0 [] := rfl
  rw [heq] at hfetch
  refine ⟨last, Nat.lt_succ_of_le hle, ?_, ?_, ?_, ?_, ?_⟩
  · rw [hfetch]
    rfl
  · have hsum : ((List.range (last + 1)).map (fun page => (read page).log.countP Action.isRequest)).sum ≤
        ((List.range (last + 1)).map (fun _ => e.client.retryMax)).sum :=
      List.sum_le_sum fun page _ => BaseClient.requests_le (eventsCall page) (wire page)
    have hconst : ((List.range (last + 1)).map (fun _ => e.client.retryMax)).sum = (last + 1) * e.client.retryMax := by
      simp
    rw [hfetch, List.countP_flatMap, ← hconst]
    exact hsum
  · intro page hpage
    have hpage := hfull page hpage
    unfold Lib.stops at hpage
    change ∃ items, (read page).result = .ok items ∧ pageSize ≤ items.length
    cases hr : (read page).result with
    | error error =>
      rw [hr] at hpage
      cases hpage
    | ok items =>
      rw [hr] at hpage
      exact ⟨items, rfl, not_lt.mp (of_decide_eq_false hpage)⟩
  · intro error herror
    have hresult : (e.fetchEvents wire).result = .error error := by
      rw [hfetch]
      change (read last).result.map _ = _
      rw [show (read last).result = .error error from herror]
      rfl
    refine ⟨failedScan error, ?_, ?_⟩
    · unfold scan
      rw [hresult]
    · cases error <;> exact ⟨rfl, rfl, rfl, rfl⟩
  · intro tail htail
    have htail : (read last).result = .ok tail := htail
    refine ⟨?_, fun r hr => ?_⟩
    · refine hlast.imp (fun hstop => ?_) (fun heq => by rw [heq]; rfl)
      unfold Lib.stops at hstop
      rw [htail] at hstop
      exact of_decide_eq_true hstop
    · have hresult : (e.fetchEvents wire).result =
          .ok ((List.range last).flatMap (Lib.pageItems read) ++ tail) := by
        rw [hfetch, htail]
        rfl
      obtain ⟨hsuccess, hscanned, -, -, -, hincidents⟩ := (scan_fetched clock hresult).2 r hr
      refine ⟨hsuccess, hincidents, ?_⟩
      rw [hscanned, List.length_append, List.length_flatMap]

end DiscoveryEngine

end Polyfast
