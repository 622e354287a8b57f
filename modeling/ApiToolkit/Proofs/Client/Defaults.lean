import ApiToolkit.Proofs.Client.Properties
import ApiToolkit.Proofs.Client.Route
import ApiToolkit.Proofs.Http.Options
/-!
# The options of clients

The options of a client are read from an argument, layered, shown as a property, and put under the
options of each call.  Wherever they are written and read they stay the same, and it does not matter
which of those that pass a request on puts them under the options of the call.

## What is inside

- `Arguments.Given`, `Arguments.Given.writable`: options that arguments stand for, and layers of them.
- `options_round_trip`: writing and reading these, also by way of the property of a client.
- `Requester`, `Requester.callAndWait_value`: all that sends requests.
- `World.callExtended`: a call of a client that was extended with what sends requests.
- `layers_of_defaults`: the laws of layers, and where the options of a client may be applied.
-/

namespace ApiToolkit.Client

/-! ## Options that arguments stand for -/

/-- Options that an argument stands for, and layers of them. -/
inductive Arguments.Given : RequestOptions → Prop where
  | read {args : List Value} {index : Nat} {o : RequestOptions}
    (h : Arguments.options args index = .ok o) : Given o
  | layer {base top : RequestOptions} (hbase : Given base) (htop : Given top) :
    Given (base.layer top)

theorem writable_of_ofJson? {json : Json} {o : RequestOptions}
    (h : RequestOptions.ofJson? json = some o) : o.Writable := by
  cases json with
  | obj entries => exact (RequestOptions.toJson_of_ofJson? h).2
  | _ => cases h

theorem Arguments.Given.writable {o : RequestOptions} (h : Arguments.Given o) : o.Writable := by
  induction h with
  | @read args index o h =>
    have hgives := options_eq_ok_iff.mp h
    generalize args[index]? = argument at hgives
    cases hgives with
    | absent | undefined | null => exact ⟨nofun, List.forall_mem_nil _⟩
    | data hjson => exact writable_of_ofJson? hjson
  | layer hbase htop ihbase ihtop => exact ihbase.layer ihtop

/-- An argument that the options were written to stands for them. -/
theorem Arguments.options_toJson {o : RequestOptions} (h : o.Writable) {args : List Value}
    {index : Nat} (hargs : args[index]? = some (.data o.toJson)) :
    Arguments.options args index = .ok o := by
  rw [options_eq_ok_iff, hargs]
  exact .data (RequestOptions.ofJson?_toJson h)

/-! ## Reading and writing -/

namespace World

theorem defaults_newClient (world : World) (o : RequestOptions) :
    (world.newClient o).2.defaults (world.newClient o).1.client = o := by
  simp [newClient, defaults]

/-- A new client shows its options. -/
theorem getView_newClient (world : World) (o : RequestOptions) :
    (world.newClient o).2.getView (world.newClient o).1 defaultsField =
      (.data o.toJson, (world.newClient o).2) := by
  have hhidden : ((world.newClient o).2.methods (world.newClient o).1.client).has defaultsField =
      false := by
    simp [newClient, methods, Entries.has]
  rw [getView_defaults hhidden, defaults_newClient]

end World

/-- **Options survive their form as an object.**  Options that arguments stand for, however they are
layered, are read back as they were written.  An object that was read is written with the same
entries: the known keys come first, settings that are null and tables that are empty are left out, the
method is its name in capital letters, and the other entries stay as they are, in their order.  So a
client that is created with the property of another one has the same options. -/
theorem options_round_trip :
    (∀ o, Arguments.Given o → ∀ args index, args[index]? = some (.data o.toJson) →
      Arguments.options args index = .ok o) ∧
    (∀ args index entries o, args[index]? = some (.data (.obj entries)) →
      Arguments.options args index = .ok o →
        ∃ written : Entries Json, o.toJson = .obj written ∧
          written = RequestOptions.rewrittenPart entries ++ entries.filter RequestOptions.isOther ∧
          ∀ key, written.find? key =
            (entries.find? key).bind (RequestOptions.rewritten? key)) ∧
    (∀ (world : World) (view : View), Arguments.Given (world.defaults view.client) →
      (world.methods view.client).has World.defaultsField = false →
      ∀ args index, args[index]? = some (world.getView view World.defaultsField).1 →
        ∃ o, Arguments.options args index = .ok o ∧
          let (made, after) := world.newClient o
          after.defaults made.client = world.defaults view.client ∧
          (after.getView made World.defaultsField).1 =
            (world.getView view World.defaultsField).1) := by
  refine ⟨?_, ?_, ?_⟩
  · intro o ho args index hargs
    exact Arguments.options_toJson ho.writable hargs
  · intro args index entries o hargs h
    rw [Arguments.options_eq_ok_iff, hargs] at h
    cases h with
    | data hjson =>
      obtain ⟨hwritten, -⟩ := RequestOptions.toJson_of_ofJson? hjson
      exact ⟨_, hwritten, rfl, RequestOptions.find?_rewritten entries⟩
  · intro world view ho hhidden args index hargs
    rw [World.getView_defaults hhidden] at hargs ⊢
    have hshown := congrArg Prod.fst (World.getView_newClient world (world.defaults view.client))
    have hread := Arguments.options_toJson ho.writable hargs
    exact ⟨_, hread, World.defaults_newClient world _, hshown⟩

/-- Options with keys of all kinds, with settings that are left out, and with a method that is written
in another way. -/
def sampleEntries : Entries Json :=
  [("retry", .num (.integer 3)), ("method", .obj [("post", .null)]), ("body", .null),
    ("query", .obj []), ("headers", .obj [("X-Foo", .str "1")]), ("baseURL", .str "http://host")]

theorem options_round_trip_sampleEntries :
    ∃ o, Arguments.options [.data (.obj sampleEntries)] 0 = .ok o ∧
      o.toJson = .obj [("baseURL", .str "http://host"), ("headers", .obj [("X-Foo", .str "1")]),
        ("method", .str "POST"), ("retry", .num (.integer 3))] ∧
      Arguments.options [.data (o.layer o).toJson] 0 = .ok (o.layer o) ∧
      let (view, world) := World.empty.newClient o
      Arguments.options [(world.getView view World.defaultsField).1] 0 = .ok o := by
  obtain ⟨hback, hagain, hclient⟩ := options_round_trip
  let o : RequestOptions :=
    ⟨some "http://host", [("X-Foo", "1")], some .post, [], none, [("retry", .num (.integer 3))]⟩
  have hread : Arguments.options [.data (.obj sampleEntries)] 0 = .ok o := rfl
  have hgiven : Arguments.Given o := .read hread
  refine ⟨o, hread, ?_, hback _ (hgiven.layer hgiven) _ _ rfl, ?_⟩
  · obtain ⟨written, hjson, hwritten, -⟩ := hagain _ _ _ _ rfl hread
    rw [hjson, hwritten]
    rfl
  · obtain ⟨again, hok, hsame, -⟩ := hclient (World.empty.newClient o).2
      (World.empty.newClient o).1 hgiven rfl
      [((World.empty.newClient o).2.getView (World.empty.newClient o).1 World.defaultsField).1] 0 rfl
    have heq : again = o := (World.defaults_newClient _ again).symm.trans hsame
    rw [heq] at hok
    exact hok

/-! ## What sends requests -/

/-- What sends requests: an object that requests targets or templates, or a function of a route. -/
inductive Requester where
  /-- Requests a target. -/
  | target
  /-- Requests a path template. -/
  | template
  /-- The function of a method of a route. -/
  | route (id : Nat) (url : String) (method : Method)

namespace Requester

/-- The value that is called, with options that it puts under those of a call. -/
def value (requester : Requester) (transport : Transport) (own : RequestOptions) : Value :=
  match requester with
  | .target => .object (.fetcher transport own)
  | .template => .object (.pathCaller transport own)
  | .route id url method => .function (.mk id (.request url transport own method))

/-- The request that a call with these arguments stands for. -/
def request (requester : Requester) (own : RequestOptions) (args : List Value) :
    Except ApiError (String × RequestOptions) :=
  match requester with
  | .target => World.fetchRequest own args
  | .template => World.pathRequest own args
  | .route _ url method => World.routeRequest url own method args

/-- The arguments ask for a target with options, and the requester puts its own options under
these. -/
theorem exists_asked (requester : Requester) (args : List Value) :
    ∃ asked : Except ApiError (String × RequestOptions), ∀ own,
      requester.request own args = asked.map fun given => (given.1, own.layer given.2) := by
  cases requester with
  | target =>
    refine ⟨do
      let address ← Arguments.string args 0 "request target"
      let o ← Arguments.options args 1
      return (address, o), fun own => ?_⟩
    rw [request, World.fetchRequest]
    cases Arguments.string args 0 "request target" with
    | error e => rfl
    | ok address => cases Arguments.options args 1 <;> rfl
  | template =>
    refine ⟨do
      let template ← Arguments.string args 0 "OpenAPI path"
      let o ← Arguments.options args 1
      let taken := World.takePathParameters o
      return (String.ofList (Path.resolve template.toList taken.1), taken.2), fun own => ?_⟩
    rw [request, World.pathRequest]
    cases Arguments.string args 0 "OpenAPI path" with
    | error e => rfl
    | ok template => cases Arguments.options args 1 <;> rfl
  | route id url method =>
    refine ⟨(Arguments.routeOptions method args).map fun o => (url, o), fun own => ?_⟩
    rw [request, World.routeRequest]
    cases Arguments.routeOptions method args <;> rfl

section Calls

variable [Url.DomainToAscii] {under own : RequestOptions} (network : Http.Network) (steps : Nat)
  (world : World)
  (requester : Requester) (args : List Value)

theorem callAndWait_value (transport : Transport) :
    world.callAndWait network steps (requester.value transport own) args =
      let done := world.carryOutIfOk network transport (requester.request own args)
      (some done.1, done.2) := by
  cases requester with
  | target | template =>
    rw [value, World.callAndWait, World.start, World.callValue, World.call]
    simp only [World.settle, request]
  | route id url method =>
    exact World.callAndWait_request network steps world url transport own id method args

/-- The network may put the options of the requester under those of the call, above its own ones. -/
theorem carryOutIfOk_layer (hunder : under.Distinct) (hown : own.Distinct) :
    world.carryOutIfOk network (.network under) (requester.request own args) =
      world.carryOutIfOk network (.network (under.layer own)) (requester.request .empty args) := by
  obtain ⟨asked, hasked⟩ := requester.exists_asked args
  rw [hasked, hasked]
  cases asked with
  | error e => rfl
  | ok asked =>
    obtain ⟨address, o⟩ := asked
    -- No options at all may be put between those of the requester and those of the call.
    have hlayers : under.layer (own.layer o) =
        (under.layer own).layer (RequestOptions.empty.layer o) :=
      calc under.layer (own.layer o)
        _ = (under.layer own).layer o := (RequestOptions.layer_assoc hunder hown o).symm
        _ = ((under.layer own).layer .empty).layer o := by rw [RequestOptions.layer_empty]
        _ = (under.layer own).layer (RequestOptions.empty.layer o) :=
            RequestOptions.layer_assoc (hunder.layer own) RequestOptions.distinct_empty o
    simp only [Except.map, World.carryOutIfOk, World.carryOut, hlayers]

/-- Whoever applies the same options, the request is the one that the network makes with them. -/
theorem carryOutIfOk_defaults (hunder : under.Distinct) :
    world.carryOutIfOk network (.network .empty) (requester.request under args) =
        world.carryOutIfOk network (.network under) (requester.request .empty args) ∧
      world.carryOutIfOk network (.network under) (requester.request under args) =
        world.carryOutIfOk network (.network under) (requester.request .empty args) := by
  rw [carryOutIfOk_layer network world requester args RequestOptions.distinct_empty hunder,
    carryOutIfOk_layer network world requester args hunder hunder,
    RequestOptions.empty_layer hunder, RequestOptions.layer_self hunder]
  exact ⟨rfl, rfl⟩

/-- Result and requests of a network do not depend on anything else. -/
theorem carryOutIfOk_congr {other : World} (h : other.sent = world.sent) (under : RequestOptions)
    (request : Except ApiError (String × RequestOptions)) :
    (other.carryOutIfOk network (.network under) request).1 =
        (world.carryOutIfOk network (.network under) request).1 ∧
      (other.carryOutIfOk network (.network under) request).2.sent =
        (world.carryOutIfOk network (.network under) request).2.sent := by
  cases request with
  | error e => exact ⟨rfl, h⟩
  | ok asked =>
    obtain ⟨address, o⟩ := asked
    simp [World.carryOutIfOk, World.carryOut, h]

end Calls

end Requester

/-! ## Clients that send requests -/

/-- The result of calling the view that an extension makes, and the requests that were sent by
then. -/
def World.callExtended [Url.DomainToAscii] (network : Http.Network) (steps : Nat) (world : World)
    (view : View) (extension : Extension) (args : List Value) : Option Result × List Http.Sent :=
  let applied := world.apply view extension
  let done := applied.2.callAndWait network steps (.object applied.1.toDynamic) args
  (done.1, done.2.sent)

namespace Requester

section Clients

variable [Url.DomainToAscii] {under own : RequestOptions} {object : Dynamic}
  (network : Http.Network) (steps : Nat) (world : World) (requester : Requester)
  (hobject : requester.value (.network under) own = .object object) (args : List Value)

include hobject

/-- A call of a client goes to its handler. -/
theorem callAndWait_handler {client : Nat} (active : Option Dynamic)
    (hhandler : world.handler? client = some object) (hfree : client ∈ world.everyClient) :
    world.callAndWait network steps (.object (.client client active)) args =
      world.callAndWait network steps (requester.value (.network under) own) args := by
  rw [hobject, World.callAndWait, World.callAndWait, World.start, World.start, World.callValue,
    World.callValue, World.call.eq_2]
  simp only [hhandler, dif_pos hfree]
  -- The reply of the handler does not depend on which clients are free.
  cases requester with
  | target | template =>
    cases hobject
    rw [World.call, World.call]
  | route id url method => cases hobject

theorem callExtended_handler {view : View} (hview : view.client < world.clients.length) :
    world.callExtended network steps view (.handler object) args =
      let done := world.carryOutIfOk network (.network under) (requester.request own args)
      (some done.1, done.2.sent) := by
  let applied := (world.setHandler view.client object).2
  have hhandler : applied.handler? view.client = some object := by
    simp [applied, World.setHandler, World.modifyShared, World.handler?,
      List.getElem?_eq_getElem hview]
  have hfree : view.client ∈ applied.everyClient := by
    simpa [applied, World.setHandler, World.modifyShared, World.everyClient] using hview
  have hcall := callAndWait_handler network steps applied requester hobject args (some object)
    hhandler hfree
  rw [callAndWait_value] at hcall
  have hsame : applied.sent = world.sent := rfl
  obtain ⟨hresult, hsent⟩ :=
    carryOutIfOk_congr network world hsame under (requester.request own args)
  have hcalled : world.callExtended network steps view (.handler object) args =
      let done := applied.callAndWait network steps (.object (.client view.client (some object))) args
      (done.1, done.2.sent) := rfl
  rw [hcalled, hcall]
  simp only [hresult, hsent]

end Clients

end Requester

/-- **Layers are an idempotent monoid**, with the order of headers, query parameters and other
options.  Hence options may be put under those of a call by what sends the request, by the network or
by both: the results, the states afterwards and the requests are the same, for all that sends requests
and for the clients that are extended with it. -/
theorem layers_of_defaults [Url.DomainToAscii] (a b c : RequestOptions) (ha : a.Distinct)
    (hb : b.Distinct) :
    (a.layer b).layer c = a.layer (b.layer c) ∧
    RequestOptions.empty.layer a = a ∧ a.layer .empty = a ∧ a.layer a = a ∧
    (∀ network steps (world : World) (requester : Requester) args,
      let called (under own : RequestOptions) :=
        world.callAndWait network steps (requester.value (.network under) own) args
      called .empty a = called a .empty ∧ called a a = called a .empty) ∧
    ∀ extension ∈ [Extension.fetch, Extension.openApi],
      ∀ network steps (world : World) (view : View) args, view.client < world.clients.length →
        let called (under own : RequestOptions) :=
          world.callExtended network steps view (extension (.network under) own) args
        called .empty a = called a .empty ∧ called a a = called a .empty := by
  refine ⟨RequestOptions.layer_assoc ha hb c, RequestOptions.empty_layer ha,
    RequestOptions.layer_empty a, RequestOptions.layer_self ha, ?_, ?_⟩
  · intro network steps world requester args called
    obtain ⟨hrequester, hboth⟩ := requester.carryOutIfOk_defaults network world args ha
    simp only [called, Requester.callAndWait_value, hrequester, hboth, and_self]
  · intro extension hextension network steps world view args hview called
    have hrequester : ∃ requester : Requester, ∀ under own, ∃ object,
        requester.value (.network under) own = .object object ∧
          extension (.network under) own = .handler object := by
      rcases List.mem_pair.mp hextension with rfl | rfl
      · exact ⟨.target, fun under own => ⟨_, rfl, rfl⟩⟩
      · exact ⟨.template, fun under own => ⟨_, rfl, rfl⟩⟩
    obtain ⟨requester, hvalue⟩ := hrequester
    have hcalled (under own : RequestOptions) : called under own =
        let done := world.carryOutIfOk network (.network under) (requester.request own args)
        (some done.1, done.2.sent) := by
      obtain ⟨object, hobject, hextends⟩ := hvalue under own
      simp only [called, hextends]
      exact requester.callExtended_handler network steps world hobject args hview
    obtain ⟨hrequester, hboth⟩ := requester.carryOutIfOk_defaults network world args ha
    simp only [hcalled, hrequester, hboth, and_self]

/-- Objects for layers with headers in common. -/
def sampleLayers : Json × Json × Json :=
  (.obj [("headers", .obj [("X-Foo", .str "1"), ("X-Keep", .str "1")]), ("method", .str "GET")],
    .obj [("headers", .obj [("X-New", .str "2"), ("X-Foo", .str "2")])],
    .obj [("headers", .obj [("X-Foo", .str "3"), ("X-New", .str "3")]), ("method", .str "POST")])

theorem layers_of_sampleLayers :
    ∃ a b c, RequestOptions.ofJson? sampleLayers.1.collapse = some a ∧
      RequestOptions.ofJson? sampleLayers.2.1.collapse = some b ∧
      RequestOptions.ofJson? sampleLayers.2.2.collapse = some c ∧ a.Distinct ∧ b.Distinct ∧
      (a.layer b).layer c = a.layer (b.layer c) ∧
      ((a.layer b).layer c).headers = [("X-Foo", "3"), ("X-Keep", "1"), ("X-New", "3")] ∧
      ((a.layer b).layer c).method = some .post ∧
      let target : List Value := [.data (.str "/pets")]
      let (view, world) := World.empty.newClient a
      world.callExtended .unreachable 0 view (.fetch (.network .empty) a) target =
        world.callExtended .unreachable 0 view (.fetch (.network a) .empty) target := by
  let a : RequestOptions :=
    { RequestOptions.empty with headers := [("X-Foo", "1"), ("X-Keep", "1")], method := some .get }
  let b : RequestOptions := { RequestOptions.empty with headers := [("X-New", "2"), ("X-Foo", "2")] }
  let c : RequestOptions :=
    { RequestOptions.empty with headers := [("X-Foo", "3"), ("X-New", "3")], method := some .post }
  have hreadA : RequestOptions.ofJson? sampleLayers.1.collapse = some a := rfl
  have hreadB : RequestOptions.ofJson? sampleLayers.2.1.collapse = some b := rfl
  have ha := RequestOptions.distinct_of_ofJson? (Json.distinct_collapse _) hreadA
  have hb := RequestOptions.distinct_of_ofJson? (Json.distinct_collapse _) hreadB
  obtain ⟨hassoc, -, -, -, -, hclients⟩ := layers_of_defaults a b c ha hb
  obtain ⟨hcalled, -⟩ := hclients Extension.fetch (List.mem_cons_self ..) .unreachable 0
    (World.empty.newClient a).2 (World.empty.newClient a).1 [.data (.str "/pets")] Nat.one_pos
  exact ⟨a, b, c, hreadA, hreadB, rfl, ha, hb, hassoc, rfl, rfl, hcalled⟩

end ApiToolkit.Client
