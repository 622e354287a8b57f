import ApiToolkit.Client.Settle
/-!
# Requests to routes

A route is a URL under construction: reading a property appends one segment, a call appends all its
arguments, and the properties named after some methods are functions that make the request.  However
the segments are spread over reads and calls, the request goes to the root with all of them joined in
order; and if any argument on the way is not what it should be, there is no request at all.

## What is inside

- `Access`, `World.walk`: what is done with a value, step by step; `World.walk_append`.
- `Access.segments`, `Access.Extends`: what a step appends to a route, and when it does.
- `World.walk_route`, `World.walk_route_error`: a whole chain that starts at a route.
- `Arguments.Means`: the options that the arguments of a request stand for.
- `World.walk_request`: the one request at the end of a chain.
-/

namespace ApiToolkit

/-! ## Names of route functions -/

/-- Whether a property of this name is the function of a route for a method. -/
def Method.Named (m : Method) (name : String) : Prop :=
  m.isRouteMethod = true ∧ name.toList.map Letter.asciiUpper = m.name.toList

theorem Method.ofName?_eq_some_iff {name : String} {m : Method} :
    ofName? name = some m ↔ name.toList.map Letter.asciiUpper = m.name.toList := by
  constructor
  · intro h
    have hfound := List.find?_some h
    exact (eq_of_beq hfound).symm
  · intro h
    rw [ofName?, h]
    cases m <;> decide

theorem Method.ofRouteName?_eq_some_iff {name : String} {m : Method} :
    ofRouteName? name = some m ↔ m.Named name := by
  rw [ofRouteName?, Option.filter_eq_some_iff, ofName?_eq_some_iff]
  exact and_comm

theorem Method.ofRouteName?_eq_none_iff {name : String} :
    ofRouteName? name = none ↔ ∀ m : Method, ¬ m.Named name := by
  rw [Option.eq_none_iff_forall_ne_some]
  exact forall_congr' fun m => not_congr ofRouteName?_eq_some_iff

theorem Method.hasBody_eq_true_iff {m : Method} :
    m.hasBody = true ↔ m ∈ [.post, .put, .patch, .delete] := by
  cases m <;> decide

theorem Method.hasBody_eq_false_iff {m : Method} (h : m.isRouteMethod = true) :
    m.hasBody = false ↔ m = .get := by
  revert h
  cases m <;> decide

namespace Client

/-! ## Walking along values -/

/-- What is done with a value. -/
inductive Access where
  /-- Reading a property. -/
  | read (name : String)
  /-- Calling it, and waiting for the result. -/
  | call (args : List Value)

namespace World

/-- Accesses one after the other, each to what the one before gave.  An error ends the walk. -/
def walk [Url.DomainToAscii] (network : Http.Network) (steps : Nat) (world : World)
    (value : Value) : List Access → Option Result × World
  | [] => (some (.ok value), world)
  | .read name :: rest =>
    let (value, world) := world.getValue value name
    walk network steps world value rest
  | .call args :: rest =>
    match world.callAndWait network steps value args with
    | (some (.ok value), world) => walk network steps world value rest
    | failed => failed

variable [Url.DomainToAscii] (network : Http.Network) (steps : Nat) (world : World)

theorem walk_append (value : Value) (first second : List Access) :
    world.walk network steps value (first ++ second) =
      match world.walk network steps value first with
      | (some (.ok value), world) => world.walk network steps value second
      | failed => failed := by
  induction first generalizing world value with
  | nil => rfl
  | cons access rest ih =>
    cases access with
    | read name => exact ih ..
    | call args =>
      rw [List.cons_append, walk, walk]
      -- Without a value there is nothing for the second part to start from.
      rcases world.callAndWait network steps value args with ⟨_ | _ | value, after⟩
      · rfl
      · rfl
      · exact ih ..

theorem walk_call (value : Value) (args : List Value) :
    world.walk network steps value [.call args] = world.callAndWait network steps value args := by
  rw [walk]
  rcases world.callAndWait network steps value args with ⟨_ | _ | value, after⟩ <;> rfl

end World

/-! ## Segments -/

/-- Strings and numbers are segments of a path. -/
inductive IsSegment : Value → Prop where
  | string (text : String) : IsSegment (.data (.str text))
  | number (number : Json.Number) : IsSegment (.data (.num number))

namespace Access

/-- The segments that an access appends to a route: the name, or all arguments. -/
def segments : Access → List String
  | .read name => [name]
  | .call args => args.filterMap Arguments.segment?

/-- Whether the access, made to a route, does not read the function of a method. -/
def KeepsRoute : Access → Prop
  | .read name => ∀ m : Method, ¬ m.Named name
  | .call _ => True

/-- Whether all arguments of the access are segments. -/
def IsJoinable : Access → Prop
  | .read _ => True
  | .call args => ∀ value ∈ args, IsSegment value

end Access

namespace Arguments

theorem isSome_segment?_iff {value : Value} : (segment? value).isSome = true ↔ IsSegment value := by
  constructor
  · intro h
    unfold segment? at h
    split at h
    next text => exact .string text
    next number => exact .number number
    next => cases h
  · rintro (text | number) <;> rfl

/-- Arguments that are segments are all taken, wherever they stand. -/
theorem segments_of_forall {args : List Value} (h : ∀ value ∈ args, IsSegment value) (index : Nat) :
    segments index args = .ok (args.filterMap segment?) := by
  -- The position is only there for the error, so the induction is for any.
  induction args generalizing index with
  | nil => rfl
  | cons value rest ih =>
    obtain ⟨hvalue, hrest⟩ := List.forall_mem_cons.mp h
    obtain ⟨text, htext⟩ := Option.isSome_iff_exists.mp (isSome_segment?_iff.mpr hvalue)
    rw [segments, List.filterMap_cons, htext]
    simp only [ih hrest]
    rfl

theorem exists_segments_eq_error {args : List Value} (h : ¬ ∀ value ∈ args, IsSegment value)
    (index : Nat) : ∃ e, segments index args = .error e := by
  induction args generalizing index with
  | nil => exact absurd (List.forall_mem_nil _) h
  | cons value rest ih =>
    rw [segments]
    cases htext : segment? value with
    | none => exact ⟨_, rfl⟩
    | some text =>
      have hvalue : IsSegment value := isSome_segment?_iff.mp (htext ▸ rfl)
      have hrest : ¬ ∀ other ∈ rest, IsSegment other := fun hrest =>
        h (List.forall_mem_cons.mpr ⟨hvalue, hrest⟩)
      obtain ⟨e, he⟩ := ih hrest (index + 1)
      simp only [he]
      exact ⟨e, rfl⟩

end Arguments

/-! ## Chains of accesses to a route -/

namespace World

theorem extendRoute_nil (url : String) : extendRoute url [] = url := by
  simp [extendRoute, Path.join]

/-- It does not matter in how many steps segments are appended. -/
theorem extendRoute_append (url : String) (first second : List String) :
    extendRoute url (first ++ second) = extendRoute (extendRoute url first) second := by
  simp [extendRoute, Path.join]

section Chain

variable (network : Http.Network) (steps : Nat) (world : World) (url : String)
  (transport : Transport) (defaults : RequestOptions)

theorem getValue_route {name : String} (h : ∀ m : Method, ¬ m.Named name) :
    world.getValue (.object (.route url transport defaults)) name =
      (.object (.route (extendRoute url [name]) transport defaults), world) := by
  rw [getValue, get, Method.ofRouteName?_eq_none_iff.mpr h]
  rfl

theorem getValue_route_method {name : String} {method : Method} (h : method.Named name) :
    world.getValue (.object (.route url transport defaults)) name =
      (.function (.mk world.functions (.request url transport defaults method)),
        { world with functions := world.functions + 1 }) := by
  rw [getValue, get, Method.ofRouteName?_eq_some_iff.mpr h]
  rfl

theorem callAndWait_route [Url.DomainToAscii] (args : List Value) :
    world.callAndWait network steps (.object (.route url transport defaults)) args =
      (some ((Arguments.segments 0 args).map fun segments =>
        .object (.route (extendRoute url segments) transport defaults)), world) := by
  rw [callAndWait, start, callValue, call]
  simp only [settle]

theorem callAndWait_request [Url.DomainToAscii] (id : Nat) (method : Method) (args : List Value) :
    world.callAndWait network steps
        (.function (.mk id (.request url transport defaults method))) args =
      let done := world.carryOutIfOk network transport (routeRequest url defaults method args)
      (some done.1, done.2) := by
  rw [callAndWait, start, callValue, callFunction]
  simp only [settle]

/-- Reading the function of a method and calling it is a request for the route. -/
theorem walk_method [Url.DomainToAscii] {name : String} {method : Method} (h : method.Named name)
    (args : List Value) :
    world.walk network steps (.object (.route url transport defaults)) [.read name, .call args] =
      let made := { world with functions := world.functions + 1 }
      let done := made.carryOutIfOk network transport (routeRequest url defaults method args)
      (some done.1, done.2) := by
  rw [walk, getValue_route_method _ _ _ _ h]
  show walk network steps _ _ [.call args] = _
  rw [walk_call, callAndWait_request]

variable {chain : List Access}

/-- As long as all arguments are segments, a chain ends at the route with all of them appended. -/
theorem walk_route [Url.DomainToAscii] (hkeeps : ∀ access ∈ chain, access.KeepsRoute)
    (hjoinable : ∀ access ∈ chain, access.IsJoinable) :
    world.walk network steps (.object (.route url transport defaults)) chain =
      (some (.ok (.object
        (.route (extendRoute url (chain.flatMap Access.segments)) transport defaults))), world) := by
  -- Each access ends at a longer route, so the induction is for any URL; the state stays as it is.
  induction chain generalizing url with
  | nil =>
    rw [List.flatMap_nil, extendRoute_nil]
    rfl
  | cons access rest ih =>
    obtain ⟨hkeep, hkeepsRest⟩ := List.forall_mem_cons.mp hkeeps
    obtain ⟨hjoin, hjoinableRest⟩ := List.forall_mem_cons.mp hjoinable
    rw [List.flatMap_cons, extendRoute_append]
    cases access with
    | read name =>
      rw [walk, getValue_route _ _ _ _ hkeep]
      exact ih _ hkeepsRest hjoinableRest
    | call args =>
      rw [walk, callAndWait_route, Arguments.segments_of_forall hjoin]
      exact ih _ hkeepsRest hjoinableRest

/-- An argument that is no segment ends the chain, and nothing has happened. -/
theorem walk_route_error [Url.DomainToAscii] (hkeeps : ∀ access ∈ chain, access.KeepsRoute)
    (hbad : ¬ ∀ access ∈ chain, access.IsJoinable) :
    ∃ e, world.walk network steps (.object (.route url transport defaults)) chain =
      (some (.error e), world) := by
  induction chain generalizing url with
  | nil => exact absurd (List.forall_mem_nil _) hbad
  | cons access rest ih =>
    obtain ⟨hkeep, hkeepsRest⟩ := List.forall_mem_cons.mp hkeeps
    have hbadRest (hjoin : access.IsJoinable) : ¬ ∀ other ∈ rest, other.IsJoinable :=
      fun hjoinableRest => hbad (List.forall_mem_cons.mpr ⟨hjoin, hjoinableRest⟩)
    cases access with
    | read name =>
      rw [walk, getValue_route _ _ _ _ hkeep]
      exact ih _ hkeepsRest (hbadRest trivial)
    | call args =>
      rw [walk, callAndWait_route]
      by_cases hargs : ∀ value ∈ args, IsSegment value
      · rw [Arguments.segments_of_forall hargs]
        exact ih _ hkeepsRest (hbadRest hargs)
      · obtain ⟨e, he⟩ := Arguments.exists_segments_eq_error hargs 0
        rw [he]
        exact ⟨e, rfl⟩

end Chain

end World

/-! ## Arguments of requests -/

namespace Arguments

/-- The options that an argument stands for. -/
inductive GivesOptions : Option Value → RequestOptions → Prop where
  | absent : GivesOptions none .empty
  | undefined : GivesOptions (some .undefined) .empty
  | null : GivesOptions (some (.data .null)) .empty
  | data {json : Json} {options : RequestOptions} (h : RequestOptions.ofJson? json = some options) :
    GivesOptions (some (.data json)) options

/-- What options become with the data of a request. -/
inductive AddsData (method : Method) (options : RequestOptions) :
    Option Value → RequestOptions → Prop where
  | absent : AddsData method options none options
  | undefined : AddsData method options (some .undefined) options
  | null : AddsData method options (some (.data .null)) options
  | body {json : Json} (hmethod : method ∈ [.post, .put, .patch, .delete]) (hjson : json ≠ .null) :
    AddsData method options (some (.data json)) { options with body := some json }
  | query {entries : Entries Json} (hmethod : method = .get) :
    AddsData method options (some (.data (.obj entries)))
      { options with query := options.query.overlay entries }

/-- The options that the arguments of a request stand for: those of the second one, without a base
address, and the data of the first one. -/
def Means (method : Method) (args : List Value) (o : RequestOptions) : Prop :=
  ∃ options, GivesOptions args[1]? options ∧
    AddsData method { options with baseUrl := none } args[0]? o

theorem options_eq_ok_iff {args : List Value} {index : Nat} {o : RequestOptions} :
    options args index = .ok o ↔ GivesOptions args[index]? o := by
  unfold options
  constructor
  · intro h
    split at h
    next hargs => cases h; rw [hargs]; exact .absent
    next hargs => cases h; rw [hargs]; exact .undefined
    next hargs => cases h; rw [hargs]; exact .null
    next json hargs =>
      rw [hargs]
      split at h
      next hjson => cases h; exact .data hjson
      next => cases h
    next => cases h
  · intro h
    generalize args[index]? = value at h
    cases h with
    | absent => rfl
    | undefined => rfl
    | null => rfl
    | @data json options hjson =>
      -- Null is told apart before the data is read, but it could not be read either.
      cases json with
      -- Null is taken for no options before it could be read as some.
      | null => cases hjson
      | _ => simp only [hjson]

section Request

variable {method : Method} (hroute : method.isRouteMethod = true)

include hroute

theorem addData_eq_ok_iff {options o : RequestOptions} {data : Option Value} :
    addData method options data = .ok o ↔ AddsData method options data o := by
  constructor
  · intro h
    unfold addData at h
    split at h
    next => cases h; exact .absent
    next => cases h; exact .undefined
    next => cases h; exact .null
    next json hjson =>
      split at h
      next hmethod => cases h; exact .body (Method.hasBody_eq_true_iff.mp hmethod) hjson
      next hmethod =>
        split at h
        next query =>
          cases h
          exact .query ((Method.hasBody_eq_false_iff hroute).mp (Bool.not_eq_true _ ▸ hmethod))
        next => cases h
    next => cases h
  · intro h
    cases h with
    | absent => rfl
    | undefined => rfl
    | null => rfl
    | @body json hmethod hjson =>
      cases json with
      -- Null is no body, even where there may be one.
      | null => exact absurd rfl hjson
      | _ => simp only [addData, if_pos (Method.hasBody_eq_true_iff.mpr hmethod)]
    | query hmethod => simp [addData, (Method.hasBody_eq_false_iff hroute).mpr hmethod]

/-- A request has the method of its function, whatever its options say. -/
theorem routeOptions_eq_ok_iff {args : List Value} {o : RequestOptions} :
    routeOptions method args = .ok o ↔
      ∃ meant, Means method args meant ∧ o = { meant with method := some method } := by
  unfold routeOptions Means
  simp only [← options_eq_ok_iff, ← addData_eq_ok_iff hroute]
  cases options args 1 with
  | error e => simp [bind, Except.bind]
  | ok given =>
    cases hdata : addData method { given with baseUrl := none } args[0]? with
    | error e => simp [bind, Except.bind, hdata]
    | ok added =>
      simp [bind, Except.bind, hdata, pure, Except.pure]
      exact eq_comm

end Request

end Arguments

/-! ## Requests at the end of chains -/

namespace World

section Request

variable {method : Method} (hroute : method.isRouteMethod = true) {args : List Value} (url : String)
  (defaults : RequestOptions)

include hroute

theorem routeRequest_of_means {o : RequestOptions} (h : Arguments.Means method args o) :
    routeRequest url defaults method args =
      .ok (url, defaults.layer { o with method := some method }) := by
  have hoptions : Arguments.routeOptions method args = .ok { o with method := some method } :=
    (Arguments.routeOptions_eq_ok_iff hroute).mpr ⟨o, h, rfl⟩
  rw [routeRequest, hoptions]
  rfl

theorem exists_routeRequest_eq_error (h : ¬ ∃ o, Arguments.Means method args o) :
    ∃ e, routeRequest url defaults method args = .error e := by
  rw [routeRequest]
  cases hoptions : Arguments.routeOptions method args with
  | error e => exact ⟨e, rfl⟩
  | ok o =>
    obtain ⟨meant, hmeant, -⟩ := (Arguments.routeOptions_eq_ok_iff hroute).mp hoptions
    exact absurd ⟨meant, hmeant⟩ h

end Request

/-- A chain that starts at the root and ends with the call of a function for a method makes one
request, for the root with all segments joined to it.  If there is an argument in the chain that is
no segment, or if the arguments of the call stand for no options, the chain fails; then there was no
request, and no more than a function was made. -/
theorem walk_request [Url.DomainToAscii] {chain : List Access} {name : String} {method : Method}
    (hkeeps : ∀ access ∈ chain, access.KeepsRoute) (hname : method.Named name)
    {transport : Transport} {defaults : RequestOptions} {root : Dynamic}
    (hroot : Extension.route transport defaults = .handler root)
    (network : Http.Network) (steps : Nat) (world : World) (args : List Value) :
    let target := extendRoute (defaults.baseUrl.getD "/") (chain.flatMap Access.segments)
    let after := world.walk network steps (.object root) (chain ++ [.read name, .call args])
    let made := { world with functions := world.functions + 1 }
    (∀ o, (∀ access ∈ chain, access.IsJoinable) → Arguments.Means method args o →
      let options := defaults.layer { o with method := some method }
      after.1 = some (made.carryOut network transport target options).1 ∧
      after.2 = (made.carryOut network transport target options).2 ∧
      ((∀ own, transport ≠ .network own) →
        after.2 = { made with recorded := ⟨target, options⟩ :: world.recorded })) ∧
    ((∃ access ∈ chain, ¬ access.IsJoinable) ∨ (¬ ∃ o, Arguments.Means method args o) →
      (∃ e, after.1 = some (.error e)) ∧ (after.2 = world ∨ after.2 = made)) := by
  cases hroot
  intro target after made
  -- The walk is split where the function of the method is read.
  have hafter : after =
      match world.walk network steps
        (.object (.route (defaults.baseUrl.getD "/") transport defaults)) chain with
      | (some (.ok value), world) => world.walk network steps value [.read name, .call args]
      | failed => failed := walk_append ..
  have hjoined (hjoinable : ∀ access ∈ chain, access.IsJoinable) :
      after = world.walk network steps (.object (.route target transport defaults))
        [.read name, .call args] := by
    rw [hafter, walk_route _ _ _ _ _ _ hkeeps hjoinable]
  constructor
  · intro o hjoinable hmeans options
    have hdone : after = (some (made.carryOut network transport target options).1,
        (made.carryOut network transport target options).2) := by
      rw [hjoined hjoinable, walk_method _ _ _ _ _ _ hname,
        routeRequest_of_means hname.1 target defaults hmeans]
      rfl
    rw [hdone]
    refine ⟨rfl, rfl, fun hrecorder => ?_⟩
    cases transport with
    | network own => exact absurd rfl (hrecorder own)
    | recorder answer => rfl
    | failing reason => rfl
  · intro hbad
    by_cases hjoinable : ∀ access ∈ chain, access.IsJoinable
    · -- The chain gets to the request, whose arguments are at fault.
      have hmeans : ¬ ∃ o, Arguments.Means method args o := by
        refine hbad.resolve_left ?_
        rintro ⟨access, hmem, hnot⟩
        exact hnot (hjoinable access hmem)
      obtain ⟨e, he⟩ := exists_routeRequest_eq_error hname.1 target defaults hmeans
      have hdone : after = (some (.error e), made) := by
        rw [hjoined hjoinable, walk_method _ _ _ _ _ _ hname, he]
        rfl
      rw [hdone]
      exact ⟨⟨e, rfl⟩, .inr rfl⟩
    · obtain ⟨e, he⟩ := walk_route_error network steps world (defaults.baseUrl.getD "/") transport
        defaults hkeeps hjoinable
      have hdone : after = (some (.error e), world) := by rw [hafter, he]
      rw [hdone]
      exact ⟨⟨e, rfl⟩, .inl rfl⟩

/-- Two segments in one call behind one that is read. -/
def sampleChain : List Access :=
  [.read "users", .call [.data (.num (.integer 42)), .data (.str "posts")]]

/-- Options of a client. -/
def sampleDefaults : RequestOptions :=
  { RequestOptions.empty with baseUrl := some "http://host/", query := [("page", .str "1")] }

/-- Data, and options with an address and a method of their own. -/
def sampleArgs : List Value :=
  [.data (.obj [("sort", .str "name")]),
    .data (.obj [("baseURL", .str "http://other"), ("method", .str "POST"),
      ("query", .obj [("page", .str "2")])])]

theorem walk_request_sample :
    (∀ access ∈ sampleChain, access.KeepsRoute) ∧ Method.get.Named "Get" ∧
    (empty.walk Http.Network.unreachable 0
      (.object (.route "http://host/" (.recorder .undefined) sampleDefaults))
      (sampleChain ++ [.read "Get", .call sampleArgs])).2.recorded =
      [⟨"http://host/users/42/posts",
        ⟨some "http://host/", [], some .get, [("page", .str "2"), ("sort", .str "name")], none,
          []⟩⟩] ∧
    ∃ e, (empty.walk Http.Network.unreachable 0
      (.object (.route "http://host/" (.recorder .undefined) sampleDefaults))
      (sampleChain ++ [.read "Get", .call [.data (.bool true)]])).1 = some (.error e) := by
  have hkeeps : ∀ access ∈ sampleChain, access.KeepsRoute := by
    simp only [sampleChain, List.forall_mem_cons]
    have hname : Method.ofRouteName? "users" = none := by decide +kernel
    exact ⟨Method.ofRouteName?_eq_none_iff.mp hname, trivial, List.forall_mem_nil _⟩
  have hname : Method.get.Named "Get" := ⟨rfl, by decide +kernel⟩
  have hroot : Extension.route (.recorder .undefined) sampleDefaults =
      .handler (.route "http://host/" (.recorder .undefined) sampleDefaults) := rfl
  have hjoinable : ∀ access ∈ sampleChain, access.IsJoinable := by
    simp only [sampleChain, Access.IsJoinable, List.forall_mem_cons]
    exact ⟨trivial, ⟨.number _, .string _, List.forall_mem_nil _⟩, List.forall_mem_nil _⟩
  refine ⟨hkeeps, hname, ?_, ?_⟩
  · -- The address and the method of the options do not count.
    have hmeans : Arguments.Means .get sampleArgs
        ⟨none, [], some .post, [("page", .str "2"), ("sort", .str "name")], none, []⟩ :=
      ⟨_, .data rfl, .query rfl⟩
    obtain ⟨hrequest, -⟩ :=
      walk_request hkeeps hname hroot Http.Network.unreachable 0 empty sampleArgs
    obtain ⟨-, -, hrecorded⟩ := hrequest _ hjoinable hmeans
    rw [hrecorded (fun own => nofun)]
    rfl
  · have hnothing : ¬ ∃ o, Arguments.Means .get [.data (.bool true)] o := by
      rintro ⟨o, options, -, hdata⟩
      cases hdata with
      | body hmethod hjson => simp at hmethod
    obtain ⟨-, herror⟩ :=
      walk_request hkeeps hname hroot Http.Network.unreachable 0 empty [.data (.bool true)]
    exact (herror (.inr hnothing)).1

end World

end Client

end ApiToolkit
