import FacetedSearch.CommandLine.Run
import FacetedSearch.Proofs.Directory
import FacetedSearch.Proofs.Settings.Choices
import Mathlib.Data.List.Forall2

/-! Which layer a setting comes from.

Files and overrides are two sequences: no file meets an override before all files are read, and so
the settings do not depend on how the two are interleaved. Along each of them the entries hold what
the choices made so far make of the defaults. Of overrides with one key only the last is put, and
it is the only one that counts anyway.
-/

set_option autoImplicit false

namespace FacetedSearch.Settings

/-! ## What layers choose -/

/-- The name of an entry that does not lead to the tables of the settings: it is a path of names, or
none, and starts with another name, which differs in more than case. -/
structure Foreign (name : String) : Prop where
  names : ∀ step ∈ (placeNamed name).steps, ∃ inner, step = .name inner
  root : lowerName (placeNamed name).root ∉ tables

inductive EntriesChoose : List (String × Toml.Value) → List Choice → Prop where
  | nil : EntriesChoose [] []
  | table {table : String} {inner rest : List (String × Toml.Value)} {made later : List Choice}
      (known : table ∈ tables) (chooses : TableChooses table inner made)
      (others : EntriesChoose rest later) :
      EntriesChoose ((table, .table inner) :: rest) (made ++ later)
  | other {name : String} {value : Toml.Value} {rest : List (String × Toml.Value)}
      {later : List Choice} (foreign : Foreign name) (others : EntriesChoose rest later) :
      EntriesChoose ((name, value) :: rest) later

def FileChooses (text : String) (made : List Choice) : Prop :=
  ∃ entries, Toml.parse? text = some entries ∧ EntriesChoose entries made

inductive Contribution where
  | file (made : List Choice)
  | override (choice : Choice)

namespace Contribution

def ofFile : Contribution → List Choice
  | .file made => made
  | .override _ => []

def ofOverride : Contribution → List Choice
  | .file _ => []
  | .override choice => [choice]

end Contribution

/-- What a layer chooses: a file that is there, what its entries choose; an optional file that is
missing, nothing; an override, the setting of its key. -/
inductive Layer.Chooses (files : Files) : Layer → Contribution → Prop where
  | file {path text : String} {made : List Choice} (found : files.configuration? path = some text)
      (chooses : FileChooses text made) : Chooses files (.file path) (.file made)
  | optionalFile {path text : String} {made : List Choice}
      (found : files.configuration? path = some text) (chooses : FileChooses text made) :
      Chooses files (.optionalFile path) (.file made)
  | missing {path : String} (missing : files.configuration? path = none) :
      Chooses files (.optionalFile path) (.file [])
  | override {choice : Choice} {setting : Setting} (given : choice.GivenBy setting) :
      Chooses files (.override choice.key setting) (.override choice)

/-- What the last override of a setting chooses, or else the last file that sets it, or else the
default. -/
def precedent {α : Type} (select : Choice → Option α) (default : α)
    (contributions : List Contribution) : α :=
  ((last? select (contributions.flatMap Contribution.ofOverride)).or
    (last? select (contributions.flatMap Contribution.ofFile))).getD default

/-! ## Files -/

theorem placeNamed_table {table : String} (known : table ∈ tables) :
    placeNamed table = ⟨table, []⟩ := by
  simp only [tables, List.mem_cons, List.not_mem_nil, or_false] at known
  rcases known with rfl | rfl <;> decide

theorem Entries.Hold.overlay_table {entries : Entries} {inner : List (String × Toml.Value)}
    {settings : Settings} {table : String} {made : List Choice} (held : entries.Hold settings)
    (known : table ∈ tables) (chooses : TableChooses table inner made) :
    ∃ result, overlayEntry entries (table, .table (entriesOfToml inner)) = .ok result ∧
      result.Hold (made.foldl choose settings) := by
  obtain ⟨target, found, tells⟩ := held table known
  have lower := lowerName_of_mem_tables known
  refine ⟨_, ?_, held.put_table chooses.table_eq (chooses.tell_merge tells)⟩
  rw [overlayEntry_eq, placeNamed_table known, ← lower,
    ← Setting.putInto_table _ (lower.symm ▸ found), lower]
  rfl

theorem Entries.Hold.overlay_foreign {entries : Entries} {settings : Settings} {name : String}
    (held : entries.Hold settings) (foreign : Foreign name) (setting : Setting) :
    ∃ result, overlayEntry entries (name, setting) = .ok result ∧ result.Hold settings := by
  obtain ⟨placed, same⟩ := overlay_names foreign.names setting entries
  exact ⟨_, by rw [overlayEntry_eq, same], held.put_foreign foreign.root placed⟩

theorem EntriesChoose.hold_foldlM {incoming : List (String × Toml.Value)} {entries : Entries}
    {made : List Choice} {settings : Settings} (chooses : EntriesChoose incoming made)
    (held : entries.Hold settings) :
    ∃ result, (entriesOfToml incoming).foldlM overlayEntry entries = .ok result ∧
      result.Hold (made.foldl choose settings) := by
  induction chooses generalizing entries settings with
  | nil => exact ⟨entries, rfl, held⟩
  | table known inner others ih =>
    obtain ⟨next, put, holds⟩ := held.overlay_table known inner
    obtain ⟨result, onward, final⟩ := ih holds
    refine ⟨result, ?_, by rwa [List.foldl_append]⟩
    rw [entriesOfToml, Setting.ofToml, List.foldlM_cons, put]
    exact onward
  | other foreign others ih =>
    obtain ⟨next, put, holds⟩ := held.overlay_foreign foreign _
    obtain ⟨result, onward, final⟩ := ih holds
    exact ⟨result, by rw [entriesOfToml, List.foldlM_cons, put]; exact onward, final⟩

theorem FileChooses.hold_overlayFile {text : String} {entries : Entries} {made : List Choice}
    {settings : Settings} (chooses : FileChooses text made) (held : entries.Hold settings) :
    ∃ result, overlayFile entries text = .ok result ∧
      result.Hold (made.foldl choose settings) := by
  obtain ⟨incoming, parsed, choices⟩ := chooses
  rw [overlayFile, parsed]
  exact choices.hold_foldlM held

/-! ### Files that hold settings and nothing else -/

def textOf? : Toml.Value → Option String
  | .text text => some text
  | _ => none

def choiceIn? (table name : String) (value : Toml.Value) : Option Choice :=
  match table, name, value with
  | "query", "remainder", .text category => some (.remainder category)
  | "query", "unquotable", .array elements => (elements.mapM textOf?).map .unquotable
  | "output", "format", .text named =>
    ([("json", .json), ("tag", .tag), ("query", .query)].lookup (lowerName named)).map .format
  | "output", "pretty", .boolean chosen => some (.pretty chosen)
  | _, _, _ => none

def choicesIn? : List (String × Toml.Value) → Option (List Choice)
  | [] => some []
  | (table, .table inner) :: rest =>
    if table ∈ tables then do
      let made ← inner.mapM fun entry => choiceIn? table entry.1 entry.2
      return made ++ (← choicesIn? rest)
    else none
  | _ :: _ => none

theorem eq_map_text {elements : List Toml.Value} {texts : List String}
    (read : elements.mapM textOf? = some texts) : elements = texts.map .text := by
  induction elements generalizing texts with
  | nil =>
    obtain rfl := Option.some.inj read
    rfl
  | cons element rest ih =>
    simp only [List.mapM_cons, Option.bind_eq_bind, Option.bind_eq_some_iff] at read
    obtain ⟨text, first, others, later, same⟩ := read
    obtain rfl := Option.some.inj same
    rw [List.map_cons, ← ih later]
    cases element <;> simp [textOf?] at first
    rw [first]

theorem choiceIn?_sound {table name : String} {value : Toml.Value} {choice : Choice}
    (read : choiceIn? table name value = some choice) :
    choice.table = table ∧ choice.name = name ∧ choice.InFile value := by
  unfold choiceIn? at read
  split at read
  next category => obtain rfl := Option.some.inj read; exact ⟨rfl, rfl, .remainder category⟩
  next elements =>
    obtain ⟨categories, texts, rfl⟩ := Option.map_eq_some_iff.mp read
    rw [eq_map_text texts]
    exact ⟨rfl, rfl, .unquotable categories⟩
  next named =>
    obtain ⟨format, found, rfl⟩ := Option.map_eq_some_iff.mp read
    obtain ⟨before, behind, split, -⟩ := List.lookup_eq_some_iff.mp found
    exact ⟨rfl, rfl, .format (by rw [split]; simp)⟩
  next chosen => obtain rfl := Option.some.inj read; exact ⟨rfl, rfl, .pretty chosen⟩
  next => contradiction

theorem tableChooses_of_choiceIn? {table : String} {entries : List (String × Toml.Value)}
    {made : List Choice}
    (read : (entries.mapM fun entry => choiceIn? table entry.1 entry.2) = some made) :
    TableChooses table entries made := by
  induction entries generalizing made with
  | nil =>
    obtain rfl := Option.some.inj read
    exact .nil
  | cons entry rest ih =>
    simp only [List.mapM_cons, Option.bind_eq_bind, Option.bind_eq_some_iff] at read
    obtain ⟨choice, first, later, others, same⟩ := read
    obtain rfl := Option.some.inj same
    obtain ⟨name, value⟩ := entry
    obtain ⟨here, rfl, written⟩ := choiceIn?_sound first
    exact .choice here written (ih others)

theorem entriesChoose_of_choicesIn? {entries : List (String × Toml.Value)} {made : List Choice}
    (read : choicesIn? entries = some made) : EntriesChoose entries made := by
  induction entries using choicesIn?.induct generalizing made with
  | case1 =>
    obtain rfl := Option.some.inj read
    exact .nil
  | case2 table inner rest known ih =>
    simp only [choicesIn?, if_pos known, Option.bind_eq_bind, Option.bind_eq_some_iff] at read
    obtain ⟨here, first, later, others, same⟩ := read
    obtain rfl := Option.some.inj same
    exact .table known (tableChooses_of_choiceIn? first) (ih others)
  | case3 table inner rest unknown => simp [choicesIn?, unknown] at read
  | case4 entry rest other =>
    rw [choicesIn?] at read
    · contradiction
    · exact other

theorem FileChooses.of_choicesIn? {text : String} {made : List Choice}
    (read : (Toml.parse? text).bind choicesIn? = some made) : FileChooses text made := by
  obtain ⟨entries, parsed, choices⟩ := Option.bind_eq_some_iff.mp read
  exact ⟨entries, parsed, entriesChoose_of_choicesIn? choices⟩

section
variable {files : Files} {layers : List Layer} {contributions : List Contribution}

theorem hold_overlayFiles (chosen : List.Forall₂ (Layer.Chooses files) layers contributions)
    {entries : Entries} {settings : Settings} (held : entries.Hold settings) :
    ∃ result, overlayFiles files layers entries = .ok result ∧
      result.Hold ((contributions.flatMap Contribution.ofFile).foldl choose settings) := by
  induction chosen generalizing entries settings with
  | nil => exact ⟨entries, rfl, held⟩
  | cons here others ih =>
    rw [List.flatMap_cons, List.foldl_append]
    cases here with
    | file found chooses | optionalFile found chooses =>
      obtain ⟨next, put, holds⟩ := chooses.hold_overlayFile held
      obtain ⟨result, onward, final⟩ := ih holds
      refine ⟨result, ?_, final⟩
      simp only [overlayFiles, found, put]
      exact onward
    | missing missing =>
      rw [overlayFiles, missing]
      exact ih held
    | override given => exact ih held

/-! ## Overrides -/

def Makes (entry : KeyPath × Setting) (choice : Choice) : Prop :=
  entry.1 = choice.path ∧ choice.GivenBy entry.2

theorem overrides_of_chooses (chosen : List.Forall₂ (Layer.Chooses files) layers contributions) :
    ∃ found, overrides layers = .ok found ∧
      List.Forall₂ Makes found (contributions.flatMap Contribution.ofOverride) := by
  induction chosen with
  | nil => exact ⟨[], rfl, .nil⟩
  | cons here others ih =>
    obtain ⟨found, same, makes⟩ := ih
    cases here with
    | file | optionalFile | missing => exact ⟨found, same, makes⟩
    | @override choice setting given =>
      have first : Makes (choice.path, setting) choice := ⟨rfl, given⟩
      refine ⟨(choice.path, setting) :: found, ?_, .cons first makes⟩
      rw [overrides, choice.read?_key, same]
      rfl

end

theorem Choice.name_eq_of_path_eq {first second : Choice} (same : first.path = second.path) :
    first.name = second.name := by
  simpa [Choice.path] using (congrArg KeyPath.steps same)

theorem exists_made {found : List (KeyPath × Setting)} {made : List Choice}
    (makes : List.Forall₂ Makes found made) {entry : KeyPath × Setting} (member : entry ∈ found) :
    ∃ choice ∈ made, Makes entry choice := by
  induction makes with
  | nil => simp at member
  | @cons first choice rest later here others ih =>
    rcases List.mem_cons.mp member with rfl | inRest
    · exact ⟨choice, List.mem_cons_self, here⟩
    · obtain ⟨other, inLater, makes⟩ := ih inRest
      exact ⟨other, List.mem_cons_of_mem _ inLater, makes⟩

/-- An override that a later one takes the place of does not count. -/
theorem latest_makes {found : List (KeyPath × Setting)} {made : List Choice}
    (makes : List.Forall₂ Makes found made) :
    ∃ kept, List.Forall₂ Makes (latest found) kept ∧
      ∀ settings, kept.foldl choose settings = made.foldl choose settings := by
  induction makes with
  | nil => exact ⟨[], .nil, fun _ => rfl⟩
  | @cons entry choice rest later here others ih =>
    obtain ⟨kept, keptMakes, same⟩ := ih
    by_cases again : rest.any (·.1 == entry.1) = true
    · refine ⟨kept, by rwa [latest, if_pos again], fun settings => ?_⟩
      -- The later override of the path chooses for the same setting, and hides this choice.
      obtain ⟨other, member, path⟩ := List.any_eq_true.mp again
      obtain ⟨next, inLater, makes⟩ := exists_made others member
      have paths : next.path = choice.path := by
        rw [← makes.1, ← here.1]
        exact beq_iff_eq.mp path
      rw [same, List.foldl_cons,
        foldl_choose_again ⟨next, inLater, Choice.name_eq_of_path_eq paths⟩]
    · refine ⟨choice :: kept, ?_, fun settings => ?_⟩
      · rw [latest, if_neg again]
        exact .cons here keptMakes
      · rw [List.foldl_cons, same, List.foldl_cons]

theorem hold_foldlM_overlay {found : List (KeyPath × Setting)} {made : List Choice}
    (makes : List.Forall₂ Makes found made) {entries : Entries} {settings : Settings}
    (held : entries.Hold settings) :
    ∃ result, found.foldlM (fun entries (path, setting) => overlay entries path setting) entries =
      .ok result ∧ result.Hold (made.foldl choose settings) := by
  induction makes generalizing entries settings with
  | nil => exact ⟨entries, rfl, held⟩
  | @cons entry choice rest later here others ih =>
    obtain ⟨next, put, holds⟩ := held.overlay_path here.2
    obtain ⟨result, onward, final⟩ := ih holds
    refine ⟨result, ?_, final⟩
    rw [← here.1] at put
    simp only [List.foldlM_cons, put]
    exact onward

/-! ## Loading -/

theorem load_eq_of_chooses {files : Files} {layers : List Layer}
    {contributions : List Contribution}
    (chosen : List.Forall₂ (Layer.Chooses files) layers contributions) :
    load files layers = .ok
      { query :=
          { remainder := precedent Choice.remainder? "text" contributions
            unquotable := precedent Choice.unquotable? [] contributions }
        output :=
          { format := precedent Choice.format? .json contributions
            pretty := precedent Choice.pretty? true contributions } } := by
  obtain ⟨found, read, makes⟩ := overrides_of_chooses chosen
  obtain ⟨entries, files_read, held⟩ := hold_overlayFiles chosen hold_defaultEntries
  obtain ⟨kept, keptMakes, same⟩ := latest_makes makes
  obtain ⟨result, put, final⟩ := hold_foldlM_overlay keptMakes held
  -- The files come before the overrides, whatever their order among the layers.
  have settings : ofEntries result = .ok
      ((contributions.flatMap Contribution.ofFile ++
        contributions.flatMap Contribution.ofOverride).foldl choose {}) := by
    rw [final.ofEntries_eq, same, List.foldl_append]
  rw [foldl_choose] at settings
  simp only [last?_append] at settings
  simp only [load, read, files_read]
  change (do ofEntries (← (latest found).foldlM (fun entries (path, setting) =>
    overlay entries path setting) entries)) = _
  rw [put]
  exact settings

def Layer.isOverride : Layer → Bool
  | .override _ _ => true
  | .file _ | .optionalFile _ => false

theorem overrides_filter (layers : List Layer) :
    overrides (layers.filter Layer.isOverride) = overrides layers := by
  induction layers with
  | nil => rfl
  | cons layer rest ih =>
    cases layer with
    | override key setting =>
      rw [List.filter_cons_of_pos (by rfl), overrides, overrides, ih]
    | file path | optionalFile path =>
      rw [List.filter_cons_of_neg (by simp [Layer.isOverride]), ih]
      rfl

theorem overlayFiles_filter (files : Files) (layers : List Layer) (entries : Entries) :
    overlayFiles files (layers.filter (!·.isOverride)) entries =
      overlayFiles files layers entries := by
  induction layers generalizing entries with
  | nil => rfl
  | cons layer rest ih =>
    cases layer with
    | override key setting =>
      rw [List.filter_cons_of_neg (by simp [Layer.isOverride]), ih]
      rfl
    | file path | optionalFile path =>
      rw [List.filter_cons_of_pos (by rfl), overlayFiles, overlayFiles]
      simp only [ih]

theorem load_interleaved (files : Files) {first second : List Layer}
    (sameFiles : first.filter (!·.isOverride) = second.filter (!·.isOverride))
    (sameOverrides : first.filter Layer.isOverride = second.filter Layer.isOverride) :
    load files first = load files second := by
  rw [load, load, ← overrides_filter first, ← overrides_filter second, sameOverrides,
    ← overlayFiles_filter files first, ← overlayFiles_filter files second, sameFiles]

/-! ## The command line -/

section
variable {files : Files} {options : CommandLine.Options} {here : List Choice}
  {named : Option (List Choice)}

def contributionsOf (options : CommandLine.Options) (here : List Choice)
    (named : Option (List Choice)) : List Contribution :=
  .file here :: (named.toList.map .file ++
    options.remainder.toList.map fun remainder => .override (.remainder remainder))

/-- What the file that the options name chooses for a setting, or else the local file. -/
def ofFiles {α : Type} (select : Choice → Option α) (here : List Choice)
    (named : Option (List Choice)) : Option α :=
  (named.bind (last? select)).or (last? select here)

theorem layers_choose
    (local_chooses : Layer.Chooses files (.optionalFile CommandLine.localConfiguration) (.file here))
    (named_chooses : Option.Rel (fun path made => Layer.Chooses files (.file path) (.file made))
      options.config named) :
    List.Forall₂ (Layer.Chooses files) options.layers (contributionsOf options here named) := by
  have flag : List.Forall₂ (Layer.Chooses files)
      (options.remainder.toList.map fun remainder => .override "query.remainder" (.text remainder))
      (options.remainder.toList.map fun remainder => .override (.remainder remainder)) := by
    cases options.remainder with
    | none => exact .nil
    | some category =>
      have override : Layer.Chooses files (.override "query.remainder" (.text category))
          (.override (.remainder category)) := .override (.remainder category)
      exact .cons override .nil
  refine .cons local_chooses ?_
  generalize options.config = config at named_chooses ⊢
  cases named_chooses with
  | none => exact flag
  | some chooses => exact .cons chooses flag

theorem precedent_contributionsOf {α : Type} (select : Choice → Option α) (default : α) :
    precedent select default (contributionsOf options here named) =
      ((options.remainder.bind fun remainder => select (.remainder remainder)).or
        (ofFiles select here named)).getD default := by
  have flags : (contributionsOf options here named).flatMap Contribution.ofOverride =
      options.remainder.toList.map .remainder := by
    unfold contributionsOf
    cases options.remainder <;> cases named <;> rfl
  have made : (contributionsOf options here named).flatMap Contribution.ofFile =
      here ++ named.getD [] := by
    unfold contributionsOf
    cases options.remainder <;> cases named <;> simp [Contribution.ofFile]
  rw [precedent, flags, made, last?_append]
  congr 2
  · cases options.remainder <;> simp [last?]
  · cases named <;> simp [last?, ofFiles]

end

/-- Every setting comes from the layer that has precedence. Layers that give settings of the right
types lead to settings; each is what its last override says, or else the last file that sets it, or
else the default. Moving a file past an override never changes what is loaded, nor whether anything
is. So with a command line the remainder category is the one of the option, or else of the file that
an option names, or else of the local file, and the unquotable categories are those of the last file
that sets them, with those of the options behind them. -/
theorem load_by_precedence (files : Files) :
    (∀ layers contributions, List.Forall₂ (Layer.Chooses files) layers contributions →
      load files layers = .ok
        { query :=
            { remainder := precedent Choice.remainder? "text" contributions
              unquotable := precedent Choice.unquotable? [] contributions }
          output :=
            { format := precedent Choice.format? .json contributions
              pretty := precedent Choice.pretty? true contributions } }) ∧
    (∀ front back file key setting, Layer.isOverride file = false →
      load files (front ++ .override key setting :: file :: back) =
        load files (front ++ file :: .override key setting :: back)) ∧
    ∀ (options : CommandLine.Options) (here : List Choice) (named : Option (List Choice)),
      Layer.Chooses files (.optionalFile CommandLine.localConfiguration) (.file here) →
      Option.Rel (fun path made => Layer.Chooses files (.file path) (.file made))
        options.config named →
      options.load files = .ok
        { query :=
            { remainder := (options.remainder.or (ofFiles Choice.remainder? here named)).getD "text"
              unquotable :=
                (ofFiles Choice.unquotable? here named).getD [] ++ options.unquotable }
          output :=
            { format := (ofFiles Choice.format? here named).getD .json
              pretty := (ofFiles Choice.pretty? here named).getD true } } := by
  refine ⟨fun _ _ => load_eq_of_chooses, fun front back file key setting isFile => ?_,
    fun options here named local_chooses named_chooses => ?_⟩
  · have override : (Layer.override key setting).isOverride = true := rfl
    apply load_interleaved <;> simp [isFile, override]
  · rw [CommandLine.Options.load, load_eq_of_chooses (layers_choose local_chooses named_chooses)]
    simp only [precedent_contributionsOf]
    cases options.remainder <;> rfl

/-- A file turns `pretty` off, a second one turns it on again, and an override turns it off. -/
theorem load_by_precedence_two_files :
    let files := Directory.toFiles ⟨[
      ("facetq.toml", "[query]\nremainder = \"keyword\"\n[output]\npretty = false"),
      ("more.toml", "output.pretty = true\nquery.unquotable = [\"id\"]")], none⟩
    load files [.override "output.format" (.text "tag"), .override "output.pretty" (.boolean false),
      .optionalFile "facetq.toml", .override "query.remainder" (.text "words"),
      .file "more.toml"] = .ok ⟨⟨"words", ["id"]⟩, ⟨.tag, false⟩⟩ ∧
    CommandLine.Options.load { config := some "more.toml", unquotable := ["a", "b"] } files =
      .ok ⟨⟨"keyword", ["id", "a", "b"]⟩, ⟨.json, true⟩⟩ ∧
    CommandLine.Options.load {} files = .ok ⟨⟨"keyword", []⟩, ⟨.json, false⟩⟩ := by
  intro files
  have first : FileChooses "[query]\nremainder = \"keyword\"\n[output]\npretty = false"
      [.remainder "keyword", .pretty false] := .of_choicesIn? (by decide +kernel)
  have second : FileChooses "output.pretty = true\nquery.unquotable = [\"id\"]"
      [.pretty true, .unquotable ["id"]] := .of_choicesIn? (by decide +kernel)
  have here : Layer.Chooses files (.optionalFile "facetq.toml")
      (.file [.remainder "keyword", .pretty false]) :=
    .optionalFile (Directory.configuration?_of_names _ ⟨by decide, by decide, by decide⟩
      ⟨by decide, by decide, by decide⟩) first
  have more : Layer.Chooses files (.file "more.toml") (.file [.pretty true, .unquotable ["id"]]) :=
    .file (Directory.configuration?_of_names _ ⟨by decide, by decide, by decide⟩
      ⟨by decide, by decide, by decide⟩) second
  have tag : Layer.Chooses files (.override "output.format" (.text "tag"))
      (.override (.format .tag)) := .override (.format (by decide))
  have pretty : Layer.Chooses files (.override "output.pretty" (.boolean false))
      (.override (.pretty false)) := .override (.pretty false)
  have words : Layer.Chooses files (.override "query.remainder" (.text "words"))
      (.override (.remainder "words")) := .override (.remainder "words")
  obtain ⟨byLayers, -, byOptions⟩ := load_by_precedence files
  exact ⟨byLayers _ _ (.cons tag (.cons pretty (.cons here (.cons words (.cons more .nil))))),
    byOptions { config := some "more.toml", unquotable := ["a", "b"] } _ _ here (.some more),
    byOptions {} _ _ here .none⟩

end FacetedSearch.Settings
