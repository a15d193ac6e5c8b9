import FacetedSearch.CommandLine.Run
import FacetedSearch.Proofs.Json.Facets
import FacetedSearch.Proofs.Query.Rendering

/-! Two ways from a query to the query that its facets are written as.

One command writes the query at once. The other way prints the facets as JSON, in either layout,
and gives this to the command that reads facets from JSON.
-/

set_option autoImplicit false

namespace FacetedSearch.CommandLine

theorem normalized_of_valued {facet : Facet} (valued : Query.Valued facet) :
    facet.normalized = facet := by
  rw [Facet.normalized, Facet.withValue, valued.trimmed]

theorem map_normalized_parse (dialect : Dialect) (query : String) :
    (Query.parse dialect query).map Facet.normalized = Query.parse dialect query := by
  refine (List.map_congr_left fun facet member => ?_).trans (List.map_id _)
  exact normalized_of_valued (Query.valued_of_mem_parse member)

/-- The printed JSON of a query's facets is written as the query that they are printed as. How the
reader of the JSON prints facets itself does not matter. -/
theorem serialize_parse (settings : Settings) (output : OutputSettings) (query : String) :
    serialize { settings with output } (parse settings .json query).output =
      { output := (parse settings .query query).output } := by
  have newline : Json.Spaces ['\n'] := List.forall_mem_singleton.mpr rfl
  have read := Facet.ofJson_listToJson (Query.parse settings.query query) settings.output.pretty
    newline
  have printed : (parse settings .json query).output =
      (if settings.output.pretty then
        (Facet.listToJson (Query.parse settings.query query)).pretty
      else (Facet.listToJson (Query.parse settings.query query)).compact) ++
        String.ofList ['\n'] := rfl
  rw [serialize, printed, read]
  simp only [map_normalized_parse]
  rfl

theorem perform_parse_named (surroundings : Surroundings) (options : Options) (query : String)
    {name : String} {format : Format} (named : Format.ofName? name = some format) :
    Request.perform ⟨.parse query, { options with format := some name }⟩ surroundings =
      ((options.load surroundings.files).mapError Failure.settings).map fun settings =>
        parse settings format query := by
  have same : Options.load { options with format := some name } surroundings.files =
      options.load surroundings.files := rfl
  rw [Request.perform, same]
  cases options.load surroundings.files with
  | error cause => rfl
  | ok settings =>
    simp only [Except.mapError, Options.format?, named, bind, Except.bind, pure, Except.pure,
      Except.map]

theorem perform_serialize_input (surroundings : Surroundings) (options : Options) (text : String) :
    Request.perform ⟨.serialize none, options⟩ { surroundings with input := some text } =
      ((options.load surroundings.files).mapError Failure.settings).map fun settings =>
        serialize settings text := by
  rw [Request.perform]
  cases options.load surroundings.files <;> rfl

/-- Both ways lead to the same text: under all settings of the two commands that agree on the
dialect, and when the commands are given the same options. Only the notes on the reading of the
query are not taken again. -/
theorem pipe_of_parse_json (query : String) :
    (∀ (settings : Settings) (output : OutputSettings),
      serialize { settings with output } (parse settings .json query).output =
        { output := (parse settings .query query).output }) ∧
    ∀ (surroundings : Surroundings) (options : Options),
      (Request.perform ⟨.parse query, { options with format := some "json" }⟩ surroundings).bind
          (fun printed => Request.perform ⟨.serialize none, options⟩
            { surroundings with input := some printed.output }) =
        (Request.perform ⟨.parse query, { options with format := some "query" }⟩
          surroundings).map fun printed => { printed with notes := [] } := by
  refine ⟨fun settings output => serialize_parse settings output query, ?_⟩
  intro surroundings options
  have json : Format.ofName? "json" = some .json := by decide
  have plain : Format.ofName? "query" = some .query := by decide
  rw [perform_parse_named surroundings options query json,
    perform_parse_named surroundings options query plain]
  simp only [perform_serialize_input]
  -- Both runs load the same settings, or fail to load them in the same way.
  cases options.load surroundings.files with
  | error cause => rfl
  | ok settings => exact congrArg Except.ok (serialize_parse settings settings.output query)

end FacetedSearch.CommandLine
