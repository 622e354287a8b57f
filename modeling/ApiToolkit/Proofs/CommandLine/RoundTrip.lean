import ApiToolkit.CommandLine.Run
import ApiToolkit.Proofs.Schema.RoundTrip
/-!
# Printed JSON Schema is read back

Files are reached in some state of the world, so a run of the program is a function on states.

## What is inside

- `CommandLine.run_readSchema`, `CommandLine.run_readSchemas`, `CommandLine.run_infer`: what the
  steps of a run give.
- `CommandLine.wellFormed_of_readSchemas`: the schemas of files are well-formed.
- `CommandLine.jsonSchema_round_trip`: well-formed schemas are read back, and all schemas that are
  made here are well-formed, up to the one that is printed.
-/

namespace ApiToolkit.CommandLine

open Schema (ofJsonSchema toJsonSchema merge)

/-! ## Runs -/

section Runs

variable {σ : Type} (files : Files.Host (StateM σ)) (request : InferRequest)

/-- The schema of a file, if the file can be read and is JSON. -/
theorem run_readSchema (path : String) (before : σ) :
    (readSchema files request path).run before =
      match (files.readText path).run before with
      | (.error fault, after) => (.error (.unreadable path fault), after)
      | (.ok text, after) =>
        match Json.parse? text with
        | none => (.error (.malformed path), after)
        | some value =>
          (.ok (if request.fromSchema then ofJsonSchema (WrappedDocument.unwrap value)
            else Schema.infer request.strict value), after) := by
  rw [readSchema, StateT.run_bind]
  rcases (files.readText path).run before with ⟨result, after⟩
  cases result with
  | error fault => rfl
  | ok text =>
    change StateT.run (m := Id) (match Json.parse? text with
      | none => pure (Except.error (CommandError.malformed path))
      | some value => pure (Except.ok (if request.fromSchema then
          ofJsonSchema (WrappedDocument.unwrap value)
          else Schema.infer request.strict value))) after = _
    dsimp only
    cases Json.parse? text <;> rfl

/-- The files are read one after the other, up to the first one that fails. -/
theorem run_readSchemas (path : String) (rest : List String) (before : σ) :
    (readSchemas files request (path :: rest)).run before =
      match (readSchema files request path).run before with
      | (.error e, after) => (.error e, after)
      | (.ok schema, between) =>
        let (result, after) := (readSchemas files request rest).run between
        (result.map (schema :: ·), after) := by
  rw [readSchemas, StateT.run_bind]
  rcases (readSchema files request path).run before with ⟨result, between⟩
  cases result <;> rfl

/-- The merged schema is printed, unless a file failed. -/
theorem run_infer (before : σ) :
    (infer files request).run before =
      match (readSchemas files request request.files).run before with
      | (.error e, after) => (⟨"", [], .failed e⟩, after)
      | (.ok schemas, after) => (⟨schemaText request (merge schemas), [], .done⟩, after) := by
  rw [infer, StateT.run_bind]
  rcases (readSchemas files request request.files).run before with ⟨result, after⟩
  cases result <;> rfl

end Runs

/-! ## Schemas of files -/

/-- A JSON text has no repeated keys once it is read. -/
theorem distinct_of_parse? {text : String} {value : Json} (h : Json.parse? text = some value) :
    value.Distinct := by
  obtain ⟨raw, -, rfl⟩ := Option.map_eq_some_iff.mp h
  exact Json.distinct_collapse raw

section Files

variable {σ : Type} {files : Files.Host (StateM σ)} {request : InferRequest} {before after : σ}

theorem wellFormed_of_readSchema {path : String} {schema : Schema}
    (h : (readSchema files request path).run before = (.ok schema, after)) :
    schema.WellFormed := by
  rw [run_readSchema] at h
  split at h
  next => cases h
  next text _ _ =>
    split at h
    next => cases h
    next value hparse =>
      cases h
      split
      · exact Schema.wellFormed_ofJsonSchema _
      · exact Schema.wellFormed_infer _ (distinct_of_parse? hparse)

/-- Whatever the files hold, their schemas are well-formed. -/
theorem wellFormed_of_readSchemas {paths : List String} {schemas : List Schema}
    (h : (readSchemas files request paths).run before = (.ok schemas, after)) :
    ∀ schema ∈ schemas, schema.WellFormed := by
  induction paths generalizing before schemas with
  | nil =>
    cases h
    simp
  | cons path rest ih =>
    rw [run_readSchemas] at h
    split at h
    next => cases h
    next schema between hfirst =>
      cases hrest : (readSchemas files request rest).run between with
      | mk result last =>
        rw [hrest] at h
        cases result with
        | error e => cases h
        | ok others =>
          cases h
          intro s hs
          rcases List.mem_cons.mp hs with rfl | hs
          · exact wellFormed_of_readSchema hfirst
          · exact ih hrest s hs

/-- What is printed as JSON Schema is the merged schema of the files, and reads back as it. -/
theorem ofJsonSchema_of_run_infer {report : Report} (hjson : request.jsonSchema = true)
    (hrun : (infer files request).run before = (report, after)) (hdone : report.ending = .done) :
    ∃ schemas, (readSchemas files request request.files).run before = (.ok schemas, after) ∧
      report.output = (toJsonSchema (merge schemas)).pretty ++ "\n" ∧
      ofJsonSchema (toJsonSchema (merge schemas)) = merge schemas := by
  rw [run_infer] at hrun
  split at hrun
  next =>
    cases hrun
    cases hdone
  next schemas last hread =>
    cases hrun
    refine ⟨schemas, hread, ?_, ?_⟩
    · rw [schemaText, if_pos hjson]
    · exact Schema.ofJsonSchema_toJsonSchema
        (Schema.wellFormed_merge (wellFormed_of_readSchemas hread))

end Files

/-- **JSON Schema round trip**: well-formed schemas are read back as they were written, inferred,
read and merged schemas are well-formed, and so the document that is printed for some files reads
back as the schema that the files were merged into. -/
theorem jsonSchema_round_trip :
    (∀ schema : Schema, schema.WellFormed → ofJsonSchema (toJsonSchema schema) = schema) ∧
    (∀ (strict : Bool) (sample : Json), sample.Distinct →
      (Schema.infer strict sample).WellFormed) ∧
    (∀ document : Json, (ofJsonSchema document).WellFormed) ∧
    (∀ schemas : List Schema, (∀ s ∈ schemas, s.WellFormed) → (merge schemas).WellFormed) ∧
    (∀ {σ : Type} (files : Files.Host (StateM σ)) (request : InferRequest) (before after : σ)
      (report : Report), request.jsonSchema = true →
      (infer files request).run before = (report, after) → report.ending = .done →
      ∃ schemas, (readSchemas files request request.files).run before = (.ok schemas, after) ∧
        report.output = (toJsonSchema (merge schemas)).pretty ++ "\n" ∧
        ofJsonSchema (toJsonSchema (merge schemas)) = merge schemas) := by
  refine ⟨?_, ?_, ?_, ?_, ?_⟩
  · intro schema h
    exact Schema.ofJsonSchema_toJsonSchema h
  · intro strict sample h
    exact Schema.wellFormed_infer strict h
  · exact Schema.wellFormed_ofJsonSchema
  · intro schemas h
    exact Schema.wellFormed_merge h
  · intro σ files request before after report hjson hrun hdone
    exact ofJsonSchema_of_run_infer hjson hrun hdone

/-! ### A run -/

/-- A host where every path is one file with these bytes. -/
def singleFile (octets : List UInt8) : Files.Host (StateM Unit) where
  read _ := pure (.ok octets)
  isDirectory _ := pure false
  makeDirectory _ := pure (.error .notFound)
  write _ _ := pure (.error .notFound)
  move _ _ := pure (.error .notFound)

/-- The request for the JSON Schema of one file. -/
def singleRequest : InferRequest where
  files := ["a"]
  typeName := "Root"
  strict := true
  fromSchema := false
  jsonSchema := true

theorem run_readText_singleFile {octets : List UInt8} {text : String}
    (h : Utf8.decode? octets = some text) (path : String) :
    ((singleFile octets).readText path).run () = (.ok text, ()) := by
  have hread : (singleFile octets).read path = pure (.ok octets) := rfl
  simp only [Files.Host.readText, hread, pure_bind, h]
  rfl

/-- The file holds an empty array. -/
theorem run_readSchemas_singleFile :
    (readSchemas (singleFile [91, 93]) singleRequest singleRequest.files).run () =
      (.ok [.array (some .any)], ()) := by
  have htext := run_readText_singleFile (show Utf8.decode? [91, 93] = some "[]" by decide +kernel)
  have hparse : Json.parse? "[]" = some (.arr []) := by rfl
  simp only [singleRequest]
  rw [run_readSchemas, run_readSchema, htext]
  simp only [hparse]
  simp [Schema.infer, Schema.inferAll, merge, readSchemas, Except.map, StateT.run_pure]
  rfl

theorem run_infer_singleFile :
    (infer (singleFile [91, 93]) singleRequest).run () =
      (⟨(toJsonSchema (.array (some .any))).pretty ++ "\n", [], .done⟩, ()) := by
  rw [run_infer, run_readSchemas_singleFile]
  simp [merge, schemaText, singleRequest]

/-- An object with an optional union. -/
def optionalUnion : Schema :=
  .object [("a", .primitive .string), ("b", .union [.primitive .null, .array none])] ["a"] false

theorem wellFormed_optionalUnion : optionalUnion.WellFormed := by
  have hitems : Schema.WellFormed (.array none) := .node trivial nofun
  have hunion : Schema.WellFormed (.union [.primitive .null, .array none]) :=
    .node (Nat.le_refl 2) (List.forall_mem_cons.mpr
      ⟨Schema.wellFormed_primitive _, List.forall_mem_singleton.mpr hitems⟩)
  refine .node ⟨by simp [Entries.has, Entries.find?], by simp⟩ ?_
  exact List.forall_mem_cons.mpr
    ⟨Schema.wellFormed_primitive _, List.forall_mem_singleton.mpr hunion⟩

theorem distinct_pair : Json.Distinct (.obj [("a", .null), ("b", .bool true)]) := by
  have hnull : Json.Distinct .null := .node nofun nofun
  have hbool : Json.Distinct (.bool true) := .node nofun nofun
  refine .node (fun entries h => ?_)
    (List.forall_mem_cons.mpr ⟨hnull, List.forall_mem_singleton.mpr hbool⟩)
  cases h
  decide

/-- The round trip of an object with a union, of a sample, and of a run on one file. -/
theorem jsonSchema_round_trip_examples :
    ofJsonSchema (toJsonSchema optionalUnion) = optionalUnion ∧
    (Schema.infer true (.obj [("a", .null), ("b", .bool true)])).WellFormed ∧
    (merge [optionalUnion, .any]).WellFormed ∧
    ∃ schemas, (readSchemas (singleFile [91, 93]) singleRequest singleRequest.files).run () =
        (.ok schemas, ()) ∧
      (toJsonSchema (.array (some .any))).pretty ++ "\n" =
        (toJsonSchema (merge schemas)).pretty ++ "\n" ∧
      ofJsonSchema (toJsonSchema (merge schemas)) = merge schemas := by
  obtain ⟨written, inferred, -, merged, printed⟩ := jsonSchema_round_trip
  refine ⟨?_, ?_, ?_, ?_⟩
  · exact written optionalUnion wellFormed_optionalUnion
  · exact inferred true _ distinct_pair
  · refine merged [optionalUnion, .any] ?_
    simp [wellFormed_optionalUnion, Schema.wellFormed_any]
  · exact printed (singleFile [91, 93]) singleRequest () () _ rfl run_infer_singleFile rfl

end ApiToolkit.CommandLine
