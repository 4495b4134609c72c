import CounterBoard.Proofs.BodyLabels
import CounterBoard.Proofs.RequestHead

/-!
What a request asks of the service, told by its method, the path that it aims at, its header and its
body. Every request asks exactly one thing.
-/

set_option autoImplicit false
set_option relaxedAutoImplicit false

namespace CounterBoard.Http

/-- What a request asks, or why it asks nothing. -/
inductive Ask
  | options
  | greeting | version | snapshot | status | chart
  | select (labels : SelectionRequest)
  | reload
  /-- It aims at nothing that is there. -/
  | elsewhere
  /-- What it aims at does not answer its method. -/
  | otherMethod
  | notJson
  | tooLong
  /-- The body carries no labels. -/
  | unread (refusal : Json.Refusal)
  deriving DecidableEq

def readings : List (String × Ask) :=
  [("/", .greeting), ("/version", .version), ("/database.json", .snapshot),
    ("/api/status", .status), ("/api/chart", .chart)]

namespace Request

/-- What the header and the body of a request make of a selection. -/
inductive Selects (request : Request) : Ask → Prop
  | notJson (hother : ∀ header, request.contentType = some header → ¬ SaysJson header) :
      Selects request .notJson
  | tooLong {header : String} (hheader : request.contentType = some header)
      (hjson : SaysJson header) (hlength : 2097152 < request.body.length) :
      Selects request .tooLong
  | select {header : String} {labels : SelectionRequest}
      (hheader : request.contentType = some header) (hjson : SaysJson header)
      (hlength : request.body.length ≤ 2097152)
      (hcarries : SelectionRequest.Carries (Text.decodeUtf8 request.body) labels) :
      Selects request (.select labels)
  | unread {header : String} {refusal : Json.Refusal}
      (hheader : request.contentType = some header) (hjson : SaysJson header)
      (hlength : request.body.length ≤ 2097152)
      (hnone : ∀ labels, ¬ SelectionRequest.Carries (Text.decodeUtf8 request.body) labels)
      (hrefused : Json.whole SelectionRequest.read (Text.decodeUtf8 request.body) =
        .error refusal) : Selects request (.unread refusal)

inductive Asks (request : Request) : Ask → Prop
  | options (hmethod : request.method = "OPTIONS") : Asks request .options
  | reading {path : String} {ask : Ask} (hreading : (path, ask) ∈ readings)
      (haims : AimsAt path request.target)
      (hmethod : request.method = "GET" ∨ request.method = "HEAD") : Asks request ask
  | selection {ask : Ask} (haims : AimsAt "/api/selection" request.target)
      (hmethod : request.method = "POST") (hselects : request.Selects ask) : Asks request ask
  | reload (haims : AimsAt "/api/reload" request.target) (hmethod : request.method = "POST") :
      Asks request .reload
  | cannotRead {path : String} {ask : Ask} (hreading : (path, ask) ∈ readings)
      (haims : AimsAt path request.target)
      (hmethod : request.method ∉ ["GET", "HEAD", "OPTIONS"]) : Asks request .otherMethod
  | cannotChange {path : String} (hpath : path ∈ ["/api/selection", "/api/reload"])
      (haims : AimsAt path request.target) (hmethod : request.method ∉ ["POST", "OPTIONS"]) :
      Asks request .otherMethod
  | elsewhere (hmethod : request.method ≠ "OPTIONS")
      (hnowhere : ∀ path ∈ ["/", "/version", "/database.json", "/api/status", "/api/chart",
        "/api/selection", "/api/reload"], ¬ AimsAt path request.target) : Asks request .elsewhere

def selectionAsk (request : Request) : Ask :=
  if request.contentType.any saysJson then
    if request.body.length ≤ longestBody then
      match Json.whole SelectionRequest.read (Text.decodeUtf8 request.body) with
      | .ok labels => .select labels
      | .error refusal => .unread refusal
    else .tooLong
  else .notJson

def routeAsk (request : Request) : Route → Ask
  | .root => .greeting
  | .version => .version
  | .snapshot => .snapshot
  | .status => .status
  | .chart => .chart
  | .selection => request.selectionAsk
  | .reload => .reload

def ask (request : Request) : Ask :=
  if request.method = "OPTIONS" then .options
  else match Route.ofTarget? request.target with
    | none => .elsewhere
    | some route => if route.admits request.method then request.routeAsk route else .otherMethod

variable {request : Request}

theorem any_saysJson_iff : request.contentType.any saysJson = true ↔
    ∃ header, request.contentType = some header ∧ SaysJson header := by
  cases request.contentType with
  | none => simp
  | some header => simp [saysJson_iff]

theorem selects_iff {a : Ask} : request.Selects a ↔ request.selectionAsk = a := by
  unfold selectionAsk longestBody
  constructor
  · rintro (hother | ⟨hheader, hjson, hlength⟩ | ⟨hheader, hjson, hlength, hcarries⟩ |
      ⟨hheader, hjson, hlength, -, hrefused⟩)
    · rw [if_neg]
      intro hany
      obtain ⟨header, hheader, hjson⟩ := any_saysJson_iff.mp hany
      exact hother header hheader hjson
    · rw [if_pos (any_saysJson_iff.mpr ⟨_, hheader, hjson⟩), if_neg (Nat.not_le.mpr hlength)]
    · rw [if_pos (any_saysJson_iff.mpr ⟨_, hheader, hjson⟩), if_pos hlength,
        SelectionRequest.whole_read_eq_ok_iff.mpr hcarries]
    · rw [if_pos (any_saysJson_iff.mpr ⟨_, hheader, hjson⟩), if_pos hlength, hrefused]
  · rintro rfl
    split
    · next hany =>
      obtain ⟨header, hheader, hjson⟩ := any_saysJson_iff.mp hany
      split
      · next hlength =>
        split
        · next labels hread =>
          exact .select hheader hjson hlength (SelectionRequest.whole_read_eq_ok_iff.mp hread)
        · next refusal hread =>
          refine .unread hheader hjson hlength ?_ hread
          intro labels hcarries
          cases hread.symm.trans (SelectionRequest.whole_read_eq_ok_iff.mpr hcarries)
      · next hlength => exact .tooLong hheader hjson (Nat.not_le.mp hlength)
    · next hany =>
      exact .notJson fun header hheader hjson =>
        hany (any_saysJson_iff.mpr ⟨header, hheader, hjson⟩)

theorem ask_of_route (route : Route) (hroute : AimsAt route.path request.target)
    (hmethod : request.method ≠ "OPTIONS") : request.ask =
      if route.admits request.method then request.routeAsk route else .otherMethod := by
  rw [ask, if_neg hmethod, Route.ofTarget?_eq_some_iff.mpr hroute]

theorem exists_route_of_reading {path : String} {a : Ask} (h : (path, a) ∈ readings) :
    ∃ route : Route, path = route.path ∧ route.changes = false ∧
      ∀ request, routeAsk request route = a := by
  simp only [readings, List.mem_cons, List.not_mem_nil, or_false, Prod.mk.injEq] at h
  obtain ⟨rfl, rfl⟩ | ⟨rfl, rfl⟩ | ⟨rfl, rfl⟩ | ⟨rfl, rfl⟩ | ⟨rfl, rfl⟩ := h
  · exact ⟨.root, rfl, rfl, fun _ => rfl⟩
  · exact ⟨.version, rfl, rfl, fun _ => rfl⟩
  · exact ⟨.snapshot, rfl, rfl, fun _ => rfl⟩
  · exact ⟨.status, rfl, rfl, fun _ => rfl⟩
  · exact ⟨.chart, rfl, rfl, fun _ => rfl⟩

theorem admits_of_not_changes {route : Route} (h : route.changes = false) {method : String} :
    route.admits method = true ↔ method = "GET" ∨ method = "HEAD" := by
  simp [Route.admits, h]

theorem admits_of_changes {route : Route} (h : route.changes = true) {method : String} :
    route.admits method = true ↔ method = "POST" := by
  simp [Route.admits, h]

theorem reading_of_not_changes (request : Request) {route : Route} (h : route.changes = false) :
    (route.path, request.routeAsk route) ∈ readings := by
  cases route with
  | root | version | snapshot | status | chart => simp [readings, Route.path, routeAsk]
  | selection | reload => cases h

theorem ask_eq_of_asks {a : Ask} (h : request.Asks a) : request.ask = a := by
  cases h with
  | options hmethod => exact if_pos hmethod
  | reading hreading haims hmethod =>
    obtain ⟨route, rfl, hchanges, hroute⟩ := exists_route_of_reading hreading
    rw [ask_of_route route haims (by rcases hmethod with h | h <;> simp [h]),
      if_pos ((admits_of_not_changes hchanges).mpr hmethod), hroute]
  | selection haims hmethod hselects =>
    rw [ask_of_route .selection haims (by simp [hmethod]),
      if_pos ((admits_of_changes rfl).mpr hmethod)]
    exact selects_iff.mp hselects
  | reload haims hmethod =>
    rw [ask_of_route .reload haims (by simp [hmethod]),
      if_pos ((admits_of_changes rfl).mpr hmethod)]
    rfl
  | cannotRead hreading haims hmethod =>
    obtain ⟨route, rfl, hchanges, -⟩ := exists_route_of_reading hreading
    simp only [List.mem_cons, List.not_mem_nil, or_false, not_or] at hmethod
    rw [ask_of_route route haims hmethod.2.2, if_neg]
    rw [admits_of_not_changes hchanges, not_or]
    exact ⟨hmethod.1, hmethod.2.1⟩
  | @cannotChange path hpath haims hmethod =>
    simp only [List.mem_cons, List.not_mem_nil, or_false, not_or] at hpath hmethod
    obtain ⟨route, rfl, hchanges⟩ : ∃ route : Route, path = route.path ∧ route.changes = true := by
      rcases hpath with rfl | rfl
      · exact ⟨.selection, rfl, rfl⟩
      · exact ⟨.reload, rfl, rfl⟩
    rw [ask_of_route route haims hmethod.2, if_neg]
    rw [admits_of_changes hchanges]
    exact hmethod.1
  | elsewhere hmethod hnowhere =>
    rw [ask, if_neg hmethod]
    cases hroute : Route.ofTarget? request.target with
    | none => rfl
    | some route =>
      refine absurd (Route.ofTarget?_eq_some_iff.mp hroute) (hnowhere _ ?_)
      cases route <;> decide

theorem asks_of_route {route : Route} (haims : AimsAt route.path request.target)
    (hoptions : request.method ≠ "OPTIONS") :
    request.Asks (if route.admits request.method then request.routeAsk route else .otherMethod) := by
  cases hchanges : route.changes with
  | false =>
    have hreading := reading_of_not_changes request hchanges
    split
    · next hadmits =>
      exact .reading hreading haims ((admits_of_not_changes hchanges).mp hadmits)
    · next hadmits =>
      rw [admits_of_not_changes hchanges, not_or] at hadmits
      exact .cannotRead hreading haims (by simp [hadmits, hoptions])
  | true =>
    split
    · next hadmits =>
      have hmethod := (admits_of_changes hchanges).mp hadmits
      cases route with
      | selection => exact .selection haims hmethod (selects_iff.mpr rfl)
      | reload => exact .reload haims hmethod
      | root | version | snapshot | status | chart => cases hchanges
    · next hadmits =>
      rw [admits_of_changes hchanges] at hadmits
      have hpath : route.path ∈ ["/api/selection", "/api/reload"] := by
        cases route with
        | selection | reload => decide
        | root | version | snapshot | status | chart => cases hchanges
      exact .cannotChange hpath haims (by simp [hadmits, hoptions])

theorem asks_ask (request : Request) : request.Asks request.ask := by
  unfold ask
  by_cases hoptions : request.method = "OPTIONS"
  · rw [if_pos hoptions]
    exact .options hoptions
  rw [if_neg hoptions]
  cases hroute : Route.ofTarget? request.target with
  | none =>
    refine .elsewhere hoptions fun path hpath haims => ?_
    obtain ⟨route, rfl⟩ : ∃ route : Route, path = route.path := by
      simp only [List.mem_cons, List.not_mem_nil, or_false] at hpath
      rcases hpath with rfl | rfl | rfl | rfl | rfl | rfl | rfl
      exacts [⟨.root, rfl⟩, ⟨.version, rfl⟩, ⟨.snapshot, rfl⟩, ⟨.status, rfl⟩, ⟨.chart, rfl⟩,
        ⟨.selection, rfl⟩, ⟨.reload, rfl⟩]
    cases hroute.symm.trans (Route.ofTarget?_eq_some_iff.mpr haims)
  | some route => exact asks_of_route (Route.ofTarget?_eq_some_iff.mp hroute) hoptions

theorem asks_iff {a : Ask} : request.Asks a ↔ request.ask = a := by
  constructor
  · exact ask_eq_of_asks
  · rintro rfl
    exact request.asks_ask

end Request

end CounterBoard.Http
