import FacetedSearch.Proofs.Settings.Entries

/-! Choices: what is chosen for one of the settings.

Entries hold settings when the choices of these are found in them. Putting a choice into entries
changes the settings that they hold in this choice only, be it put there at the end of its path or
with other entries of its table. So entries hold, after any number of choices, what the choices
make of the settings one by one: of all choices for a setting, the last one.
-/

set_option autoImplicit false

namespace FacetedSearch.Settings

def tables : List String := ["query", "output"]

theorem lowerName_of_mem_tables {table : String} (known : table ∈ tables) :
    lowerName table = table := by
  simp only [tables, List.mem_cons, List.not_mem_nil, or_false] at known
  rcases known with rfl | rfl <;> decide

inductive Choice where
  | remainder (category : String)
  | unquotable (categories : List String)
  | format (format : Format)
  | pretty (pretty : Bool)
  deriving DecidableEq, Repr

namespace Choice

def table : Choice → String
  | .remainder _ | .unquotable _ => "query"
  | .format _ | .pretty _ => "output"

def name : Choice → String
  | .remainder _ => "remainder"
  | .unquotable _ => "unquotable"
  | .format _ => "format"
  | .pretty _ => "pretty"

def key : Choice → String
  | .remainder _ => "query.remainder"
  | .unquotable _ => "query.unquotable"
  | .format _ => "output.format"
  | .pretty _ => "output.pretty"

def path (choice : Choice) : KeyPath := ⟨choice.table, [.name choice.name]⟩

def remainder? : Choice → Option String
  | .remainder category => some category
  | _ => none

def unquotable? : Choice → Option (List String)
  | .unquotable categories => some categories
  | _ => none

def format? : Choice → Option Format
  | .format chosen => some chosen
  | _ => none

def pretty? : Choice → Option Bool
  | .pretty chosen => some chosen
  | _ => none

/-- The value that makes the choice, in a notation for texts, lists and truth values. The name of a
format may be written in any case. -/
inductive WrittenAs {α : Type} (text : String → α) (list : List α → α) (boolean : Bool → α) :
    Choice → α → Prop where
  | remainder (category : String) :
      WrittenAs text list boolean (.remainder category) (text category)
  | unquotable (categories : List String) :
      WrittenAs text list boolean (.unquotable categories) (list (categories.map text))
  | format {name : String} {format : Format}
      (named : (lowerName name, format) ∈ [("json", .json), ("tag", .tag), ("query", .query)]) :
      WrittenAs text list boolean (.format format) (text name)
  | pretty (pretty : Bool) : WrittenAs text list boolean (.pretty pretty) (boolean pretty)

def GivenBy : Choice → Setting → Prop := WrittenAs .text .list .boolean

def InFile : Choice → Toml.Value → Prop := WrittenAs .text .array .boolean

theorem InFile.givenBy {choice : Choice} {value : Toml.Value} (inFile : choice.InFile value) :
    choice.GivenBy (.ofToml value) := by
  cases inFile with
  | remainder category => exact .remainder category
  | unquotable categories =>
    have texts : settingsOfToml (categories.map .text) = categories.map .text := by
      induction categories with
      | nil => rfl
      | cons category rest ih => rw [List.map_cons, List.map_cons, settingsOfToml, ih]; rfl
    rw [Setting.ofToml, texts]
    exact .unquotable categories
  | format named => exact .format named
  | pretty pretty => exact .pretty pretty

theorem GivenBy.not_table {choice : Choice} {setting : Setting} (given : choice.GivenBy setting)
    (inner : Entries) : setting ≠ .table inner := by
  cases given <;> exact Setting.noConfusion

theorem GivenBy.toText_eq {category : String} {setting : Setting}
    (given : GivenBy (.remainder category) setting) : setting.toText = .ok category := by
  cases given with
  | remainder => rfl

theorem GivenBy.toTexts_eq {categories : List String} {setting : Setting}
    (given : GivenBy (.unquotable categories) setting) : setting.toTexts = .ok categories := by
  cases given with
  | unquotable =>
    rw [Setting.toTexts, List.mapM_map]
    exact (List.mapM_pure (m := Except Failure) (f := id)).trans (congrArg Except.ok (List.map_id _))

theorem GivenBy.toFormat_eq {format : Format} {setting : Setting}
    (given : GivenBy (.format format) setting) : setting.toFormat = .ok format := by
  cases given with
  | @format name _ named =>
    simp only [List.mem_cons, Prod.mk.injEq, List.not_mem_nil, or_false] at named
    rcases named with ⟨lower, rfl⟩ | ⟨lower, rfl⟩ | ⟨lower, rfl⟩ <;>
      rw [Setting.toFormat, formatNamed, lower] <;> rfl

theorem GivenBy.toBool_eq {pretty : Bool} {setting : Setting}
    (given : GivenBy (.pretty pretty) setting) : setting.toBool = .ok pretty := by
  cases given with
  | pretty => rfl

@[simp] theorem read?_key (choice : Choice) : KeyPath.read? choice.key = some choice.path := by
  cases choice with
  | remainder =>
    exact (by decide : KeyPath.read? "query.remainder" = some ⟨"query", [.name "remainder"]⟩)
  | unquotable =>
    exact (by decide : KeyPath.read? "query.unquotable" = some ⟨"query", [.name "unquotable"]⟩)
  | format => exact (by decide : KeyPath.read? "output.format" = some ⟨"output", [.name "format"]⟩)
  | pretty => exact (by decide : KeyPath.read? "output.pretty" = some ⟨"output", [.name "pretty"]⟩)

theorem table_mem (choice : Choice) : choice.table ∈ tables := by
  cases choice <;> simp [table, tables]

@[simp] theorem lowerName_table (choice : Choice) : lowerName choice.table = choice.table :=
  lowerName_of_mem_tables choice.table_mem

@[simp] theorem lowerName_name (choice : Choice) : lowerName choice.name = choice.name := by
  cases choice with
  | remainder => exact (by decide : lowerName "remainder" = "remainder")
  | unquotable => exact (by decide : lowerName "unquotable" = "unquotable")
  | format => exact (by decide : lowerName "format" = "format")
  | pretty => exact (by decide : lowerName "pretty" = "pretty")

end Choice

/-! ## What choices make of settings -/

def choose (settings : Settings) : Choice → Settings
  | .remainder category => { settings with query := { settings.query with remainder := category } }
  | .unquotable categories =>
    { settings with query := { settings.query with unquotable := categories } }
  | .format format => { settings with output := { settings.output with format := format } }
  | .pretty pretty => { settings with output := { settings.output with pretty := pretty } }

def choices (settings : Settings) : List Choice :=
  [.remainder settings.query.remainder, .unquotable settings.query.unquotable,
    .format settings.output.format, .pretty settings.output.pretty]

theorem mem_choices_choose {settings : Settings} {choice other : Choice}
    (member : other ∈ choices (choose settings choice)) :
    other = choice ∨ (other ∈ choices settings ∧ other.name ≠ choice.name) := by
  simp only [choices, List.mem_cons, List.not_mem_nil, or_false] at member
  cases choice <;> rcases member with rfl | rfl | rfl | rfl <;>
    simp [choose, choices, Choice.name]

theorem choose_again {first second : Choice} (same : first.name = second.name)
    (settings : Settings) : choose (choose settings first) second = choose settings second := by
  cases first <;> cases second <;> first | rfl | simp [Choice.name] at same

theorem choose_comm {first second : Choice} (different : first.name ≠ second.name)
    (settings : Settings) :
    choose (choose settings first) second = choose (choose settings second) first := by
  cases first <;> cases second <;> first | rfl | simp [Choice.name] at different

theorem foldl_choose_again {choice : Choice} {later : List Choice}
    (again : ∃ other ∈ later, other.name = choice.name) (settings : Settings) :
    later.foldl choose (choose settings choice) = later.foldl choose settings := by
  induction later generalizing settings with
  | nil => simp at again
  | cons next rest ih =>
    by_cases same : choice.name = next.name
    · rw [List.foldl_cons, choose_again same, List.foldl_cons]
    · obtain ⟨other, member, equal⟩ := again
      have inRest : other ∈ rest := (List.mem_cons.mp member).resolve_left fun here =>
        same (here ▸ equal.symm)
      rw [List.foldl_cons, choose_comm same, ih ⟨other, inRest, equal⟩, List.foldl_cons]

def last? {α : Type} (select : Choice → Option α) (choices : List Choice) : Option α :=
  choices.reverse.findSome? select

theorem last?_append {α : Type} (select : Choice → Option α) (earlier later : List Choice) :
    last? select (earlier ++ later) = (last? select later).or (last? select earlier) := by
  rw [last?, List.reverse_append, List.findSome?_append, last?, last?]

/-- A part of the settings that one kind of choice changes is what the last one makes of it. -/
theorem foldl_choose_part {α : Type} (select : Choice → Option α) (part : Settings → α)
    (step : ∀ settings choice, part (choose settings choice) =
      (select choice).getD (part settings)) (choices : List Choice) (settings : Settings) :
    part (choices.foldl choose settings) = (last? select choices).getD (part settings) := by
  induction choices generalizing settings with
  | nil => rfl
  | cons choice rest ih =>
    rw [List.foldl_cons, ih, step, ← List.singleton_append, last?_append, Option.getD_or]
    cases found : select choice <;> simp [last?, found]

theorem foldl_choose (choices : List Choice) (settings : Settings) :
    choices.foldl choose settings =
      { query :=
          { remainder := (last? Choice.remainder? choices).getD settings.query.remainder
            unquotable := (last? Choice.unquotable? choices).getD settings.query.unquotable }
        output :=
          { format := (last? Choice.format? choices).getD settings.output.format
            pretty := (last? Choice.pretty? choices).getD settings.output.pretty } } := by
  rw [← foldl_choose_part Choice.remainder? fun settings => settings.query.remainder,
    ← foldl_choose_part Choice.unquotable? fun settings => settings.query.unquotable,
    ← foldl_choose_part Choice.format? fun settings => settings.output.format,
    ← foldl_choose_part Choice.pretty? fun settings => settings.output.pretty]
  all_goals intro settings choice; cases choice <;> rfl

/-! ## Entries that hold settings -/

/-- The entries of a table say all that the settings choose there. -/
def Entries.Tell (entries : Entries) (table : String) (settings : Settings) : Prop :=
  ∀ choice ∈ choices settings, choice.table = table →
    ∃ setting, entries.get? choice.name = some setting ∧ choice.GivenBy setting

def Entries.Hold (entries : Entries) (settings : Settings) : Prop :=
  ∀ table ∈ tables, ∃ inner : Entries, entries.get? table = some (.table inner) ∧
    inner.Tell table settings

theorem hold_defaultEntries : Entries.Hold defaultEntries {} := by
  intro table known
  simp only [tables, List.mem_cons, List.not_mem_nil, or_false] at known
  rcases known with rfl | rfl
  · refine ⟨_, rfl, fun choice member here => ?_⟩
    simp only [choices, List.mem_cons, List.not_mem_nil, or_false] at member
    rcases member with rfl | rfl | rfl | rfl
    · exact ⟨_, rfl, .remainder "text"⟩
    · exact ⟨_, rfl, .unquotable []⟩
    · simp [Choice.table] at here
    · simp [Choice.table] at here
  · refine ⟨_, rfl, fun choice member here => ?_⟩
    simp only [choices, List.mem_cons, List.not_mem_nil, or_false] at member
    rcases member with rfl | rfl | rfl | rfl
    · simp [Choice.table] at here
    · simp [Choice.table] at here
    · exact ⟨_, rfl, .format (by decide)⟩
    · exact ⟨_, rfl, .pretty true⟩

theorem Entries.Hold.ofEntries_eq {entries : Entries} {settings : Settings}
    (held : entries.Hold settings) : ofEntries entries = .ok settings := by
  obtain ⟨query, queryFound, queryTells⟩ := held "query" (by simp [tables])
  obtain ⟨output, outputFound, outputTells⟩ := held "output" (by simp [tables])
  -- The entries that are held tell each setting by the value that chooses it.
  obtain ⟨remainder, remainderFound, remainderGiven⟩ :=
    queryTells (.remainder settings.query.remainder) (by simp [choices]) rfl
  obtain ⟨unquotable, unquotableFound, unquotableGiven⟩ :=
    queryTells (.unquotable settings.query.unquotable) (by simp [choices]) rfl
  obtain ⟨format, formatFound, formatGiven⟩ :=
    outputTells (.format settings.output.format) (by simp [choices]) rfl
  obtain ⟨pretty, prettyFound, prettyGiven⟩ :=
    outputTells (.pretty settings.output.pretty) (by simp [choices]) rfl
  have queryRead : (Setting.table query).toDialect = .ok settings.query := by
    simp only [Choice.name] at remainderFound unquotableFound
    simp [Setting.toDialect, Setting.members, remainderFound, unquotableFound,
      remainderGiven.toText_eq, unquotableGiven.toTexts_eq, required, bind, Except.bind,
      pure, Except.pure, Functor.map, Except.map]
  have outputRead : (Setting.table output).toOutput = .ok settings.output := by
    simp only [Choice.name] at formatFound prettyFound
    simp [Setting.toOutput, Setting.members, formatFound, prettyFound, formatGiven.toFormat_eq,
      prettyGiven.toBool_eq, required, bind, Except.bind,
      pure, Except.pure, Functor.map, Except.map]
  simp [ofEntries, required, queryFound, outputFound, queryRead, outputRead, bind, Except.bind,
    pure, Except.pure]

namespace Entries.Tell

variable {entries : Entries} {table : String} {settings : Settings}

theorem put (told : entries.Tell table settings) {choice : Choice} {setting : Setting}
    (given : choice.GivenBy setting) :
    (setting.putInto choice.name entries).Tell table (choose settings choice) := by
  rw [Setting.putInto_of_not_table given.not_table, Choice.lowerName_name]
  intro other member here
  rcases mem_choices_choose member with rfl | ⟨old, different⟩
  · exact ⟨setting, get?_put_same _ _ _, given⟩
  · rw [get?_put_other _ _ different]
    exact told other old here

theorem put_foreign (told : entries.Tell table settings) {name : String}
    (foreign : ∀ choice : Choice, choice.table = table → lowerName name ≠ choice.name)
    (setting : Setting) : (setting.putInto name entries).Tell table settings := by
  obtain ⟨placed, same⟩ := setting.exists_putInto name entries
  rw [same]
  intro choice member here
  rw [get?_put_other _ _ (foreign choice here).symm]
  exact told choice member here

theorem choose_apart (told : entries.Tell table settings) {choice : Choice}
    (apart : choice.table ≠ table) : entries.Tell table (choose settings choice) := by
  intro other member here
  rcases mem_choices_choose member with rfl | ⟨old, -⟩
  · exact absurd here apart
  · exact told other old here

theorem foldl_apart (told : entries.Tell table settings) {made : List Choice}
    (apart : ∀ choice ∈ made, choice.table ≠ table) :
    entries.Tell table (made.foldl choose settings) := by
  induction made generalizing settings with
  | nil => exact told
  | cons choice rest ih =>
    obtain ⟨first, others⟩ := List.forall_mem_cons.mp apart
    exact ih (told.choose_apart first) others

end Entries.Tell

/-- What the entries of one table of a file choose. Other names, which differ from those of the
settings in more than case, choose nothing. -/
inductive TableChooses (table : String) : List (String × Toml.Value) → List Choice → Prop where
  | nil : TableChooses table [] []
  | choice {choice : Choice} {value : Toml.Value} {rest : List (String × Toml.Value)}
      {later : List Choice} (here : choice.table = table) (written : choice.InFile value)
      (others : TableChooses table rest later) :
      TableChooses table ((choice.name, value) :: rest) (choice :: later)
  | other {name : String} {value : Toml.Value} {rest : List (String × Toml.Value)}
      {later : List Choice}
      (foreign : ∀ choice : Choice, choice.table = table → lowerName name ≠ choice.name)
      (others : TableChooses table rest later) :
      TableChooses table ((name, value) :: rest) later

theorem TableChooses.table_eq {table : String} {incoming : List (String × Toml.Value)}
    {made : List Choice} (chooses : TableChooses table incoming made) :
    ∀ choice ∈ made, choice.table = table := by
  induction chooses with
  | nil => simp
  | choice here written others ih => exact List.forall_mem_cons.mpr ⟨here, ih⟩
  | other foreign others ih => exact ih

theorem TableChooses.tell_merge {table : String} {incoming : List (String × Toml.Value)}
    {entries : Entries} {made : List Choice} {settings : Settings}
    (chooses : TableChooses table incoming made) (told : entries.Tell table settings) :
    (entries.merge (entriesOfToml incoming)).Tell table (made.foldl choose settings) := by
  induction chooses generalizing entries settings with
  | nil => exact told
  | choice here written others ih => exact ih (told.put written.givenBy)
  | other foreign others ih => exact ih (told.put_foreign foreign _)

theorem Entries.Hold.put_table {entries inner : Entries} {settings : Settings} {table : String}
    (held : entries.Hold settings) {made : List Choice} (here : ∀ choice ∈ made, choice.table = table)
    (told : inner.Tell table (made.foldl choose settings)) :
    (entries.put table (.table inner)).Hold (made.foldl choose settings) := by
  intro other known
  by_cases same : other = table
  · rw [same]
    exact ⟨inner, get?_put_same _ _ _, told⟩
  · obtain ⟨kept, found, tells⟩ := held other known
    rw [get?_put_other _ _ same]
    refine ⟨kept, found, tells.foldl_apart fun choice member => ?_⟩
    rw [here choice member]
    exact Ne.symm same

theorem Entries.Hold.put_foreign {entries : Entries} {settings : Settings} {name : String}
    (held : entries.Hold settings) (foreign : name ∉ tables) (setting : Setting) :
    (entries.put name setting).Hold settings := by
  intro table known
  have apart : table ≠ name := fun same => foreign (same ▸ known)
  rw [get?_put_other _ _ apart]
  exact held table known

theorem Entries.Hold.overlay_path {entries : Entries} {settings : Settings} {choice : Choice}
    {setting : Setting} (held : entries.Hold settings) (given : choice.GivenBy setting) :
    ∃ result, overlay entries choice.path setting = .ok result ∧
      result.Hold (choose settings choice) := by
  obtain ⟨inner, found, tells⟩ := held choice.table choice.table_mem
  have only : ∀ other ∈ [choice], other.table = choice.table := by simp
  refine ⟨_, ?_, held.put_table only (tells.put given)⟩
  have along : setting.putAlong [.name choice.table, .name choice.name] (.table entries) =
      some (.table (entries.put choice.table (.table (setting.putInto choice.name inner)))) := by
    rw [Setting.putAlong.eq_3 _ _ _ _ (by simp), Choice.lowerName_table, Setting.entries, found]
    rfl
  rw [overlay, KeyPath.put?, Choice.path, along]
  rfl

end FacetedSearch.Settings
