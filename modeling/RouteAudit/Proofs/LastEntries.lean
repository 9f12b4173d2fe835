import Mathlib.Data.List.Forall2
import Mathlib.Data.List.Induction
import Mathlib.Data.List.Sort
import Mathlib.Data.String.Basic
import RouteAudit.Options

/-!
# The last entry of an option counts

A mapping gives entries under the proper names of options: its own, and those of its blocks in the
place of the blocks. Entries under names that no option has are refused, all these names together.
Otherwise every option has the value of its last entry, or the one that holds where none is given.
-/

namespace RouteAudit

namespace Options

/-! ## The entries that a mapping gives -/

/-- What a spelling of a name stands for. -/
inductive StandsFor : String → String → Prop where
  /-- A spelling that is listed stands for the name that it is listed with. -/
  | listed {spelling name : String} (h : (spelling, name) ∈ aliases) : StandsFor spelling name
  /-- Any other spelling stands for itself. -/
  | itself {name : String} (h : ∀ other, (name, other) ∉ aliases) : StandsFor name name

/-- An entry counts as one under the name that its own name stands for. -/
structure CountsAs (entry given : String × Json) : Prop where
  name : StandsFor entry.1 given.1
  value : given.2 = entry.2

/-- An entry is a block: an object under the name that blocks have. -/
def IsBlock (entry : String × Json) : Prop :=
  ∃ inner, entry = (blockName, .object inner)

/-- The entries that a mapping gives, in order. -/
inductive Gives : Named Json → Named Json → Prop where
  | nothing : Gives [] []
  /-- A block gives its entries in its own place. A block among these is an entry like others. -/
  | block {inner given rest others : Named Json} (hinner : List.Forall₂ CountsAs inner given)
      (hrest : Gives rest others) : Gives ((blockName, .object inner) :: rest) (given ++ others)
  /-- Any other entry gives itself. -/
  | single {entry given : String × Json} {rest others : Named Json} (hentry : ¬IsBlock entry)
      (hgiven : CountsAs entry given) (hrest : Gives rest others) :
      Gives (entry :: rest) (given :: others)

/-- Every spelling is listed once, so looking it up finds the name that it is listed with. -/
theorem lookup_aliases_of_mem : ∀ listed ∈ aliases, aliases.lookup listed.1 = some listed.2 := by
  decide

/-- A spelling is found with a name exactly if it is listed with it. -/
theorem lookup_aliases_eq_some_iff {spelling name : String} :
    aliases.lookup spelling = some name ↔ (spelling, name) ∈ aliases := by
  constructor
  · intro hlookup
    obtain ⟨before, behind, hsplit, -⟩ := List.lookup_eq_some_iff.mp hlookup
    simp [hsplit]
  · intro hmem
    exact lookup_aliases_of_mem _ hmem

/-- A spelling is resolved to what it stands for. -/
theorem resolve_eq_iff {spelling name : String} :
    resolve spelling = name ↔ StandsFor spelling name := by
  constructor
  · rintro rfl
    unfold resolve
    cases hlookup : aliases.lookup spelling with
    | none =>
      refine .itself fun other hmem => ?_
      rw [lookup_aliases_eq_some_iff.mpr hmem] at hlookup
      cases hlookup
    | some name => exact .listed (lookup_aliases_eq_some_iff.mp hlookup)
  · intro hstands
    cases hstands with
    | listed hmem => rw [resolve, lookup_aliases_eq_some_iff.mpr hmem, Option.getD_some]
    | itself hnone =>
      have hlookup : aliases.lookup spelling = none :=
        Option.eq_none_iff_forall_ne_some.mpr fun other hother =>
          hnone other (lookup_aliases_eq_some_iff.mp hother)
      rw [resolve, hlookup, Option.getD_none]

/-- An entry counts as the one with its name resolved. -/
theorem countsAs_iff {entry given : String × Json} :
    CountsAs entry given ↔ given = (resolve entry.1, entry.2) := by
  constructor
  · rintro ⟨hname, hvalue⟩
    rw [resolve_eq_iff.mpr hname, ← hvalue]
  · rintro rfl
    exact ⟨resolve_eq_iff.mp rfl, rfl⟩

/-- Entries count one by one as those with their names resolved. -/
theorem forall₂_countsAs_iff {inner given : Named Json} :
    List.Forall₂ CountsAs inner given ↔
      given = inner.map fun (name, value) => (resolve name, value) := by
  induction inner generalizing given with
  | nil => simp
  | cons entry rest ih => simp [List.forall₂_cons_left_iff, countsAs_iff, ih]

/-- A block in front gives its entries. -/
theorem entries_block (inner rest : Named Json) :
    entries ((blockName, .object inner) :: rest) =
      (inner.map fun (name, value) => (resolve name, value)) ++ entries rest := by
  simp [entries]

/-- An entry in front that is no block gives itself. -/
theorem entries_single {entry : String × Json} (h : ¬IsBlock entry) (rest : Named Json) :
    entries (entry :: rest) = (resolve entry.1, entry.2) :: entries rest := by
  obtain ⟨name, value⟩ := entry
  cases value with
  | object inner =>
    have hname : name ≠ blockName := by
      rintro rfl
      exact h ⟨inner, rfl⟩
    simp [entries, hname]
  | _ => rfl

/-- The entries that a mapping gives are those that are read. -/
theorem gives_iff {fields given : Named Json} : Gives fields given ↔ given = entries fields := by
  constructor
  · intro hgives
    induction hgives with
    | nothing => rfl
    | block hinner hrest ih => rw [entries_block, ← forall₂_countsAs_iff.mp hinner, ← ih]
    | single hentry hgiven hrest ih => rw [entries_single hentry, ← countsAs_iff.mp hgiven, ← ih]
  · rintro rfl
    induction fields with
    | nil => exact .nothing
    | cons entry rest ih =>
      by_cases hblock : IsBlock entry
      · obtain ⟨inner, rfl⟩ := hblock
        rw [entries_block]
        exact .block (forall₂_countsAs_iff.mpr rfl) ih
      · rw [entries_single hblock]
        exact .single hblock (countsAs_iff.mpr rfl) ih

end Options

/-! ## Names that no option has -/

/-- Without its repetitions a list has every name once. -/
theorem nodup_eraseDups (names : List String) : names.eraseDups.Nodup := by
  match names with
  | [] => simp
  | name :: rest =>
    rw [List.eraseDups_cons, List.nodup_cons]
    have hother : name ∉ (rest.filter fun other => !other == name).eraseDups := by simp
    exact ⟨hother, nodup_eraseDups _⟩
termination_by names.length
decreasing_by
  have hfilter := List.length_filter_le (fun other => !other == name) rest
  simp only [List.length_cons]
  omega

/-- An option is found by its name only. -/
theorem OptionName.ofText?_eq_some_iff {name : String} {option : OptionName} :
    ofText? name = some option ↔ option.text = name := by
  constructor
  · intro hfound
    simpa using List.find?_some hfound
  · rintro rfl
    exact ofText?_text option

/-- No two options have the same name. -/
theorem OptionName.text_injective : Function.Injective text := by
  intro option other htext
  have hsome : some option = some other := by
    rw [← ofText?_text option, htext, ofText?_text]
  exact Option.some.inj hsome

namespace Options

/-- A name that no option has. -/
def IsUnknown (name : String) : Prop :=
  ∀ option : OptionName, option.text ≠ name

/-- No option is found by a name exactly if none has it. -/
theorem ofText?_eq_none_iff {name : String} :
    OptionName.ofText? name = none ↔ IsUnknown name := by
  rw [Option.eq_none_iff_forall_ne_some]
  exact forall_congr' fun option => not_congr OptionName.ofText?_eq_some_iff

instance (name : String) : Decidable (IsUnknown name) :=
  decidable_of_iff (OptionName.ofText? name = none) ofText?_eq_none_iff

variable {given : Named Json}

/-- The unknown names are those of the entries that no option has. -/
theorem mem_unknownNames {name : String} :
    name ∈ unknownNames given ↔ IsUnknown name ∧ ∃ entry ∈ given, entry.1 = name := by
  simp only [unknownNames, List.mem_mergeSort, List.mem_eraseDups, List.mem_filter, List.mem_map,
    Option.isNone_iff_eq_none, ofText?_eq_none_iff]
  exact and_comm

/-- The unknown names are listed in the order of their characters, each once. -/
theorem pairwise_unknownNames (given : Named Json) :
    (unknownNames given).Pairwise (· < ·) := by
  have hsorted : (unknownNames given).SortedLE := List.sortedLE_mergeSort
  have hnodup : (unknownNames given).Nodup :=
    (List.mergeSort_perm _ _).nodup_iff.mpr (nodup_eraseDups _)
  exact (hsorted.sortedLT_of_nodup hnodup).pairwise

/-- No name is unknown exactly if every entry is one of an option. -/
theorem unknownNames_eq_nil_iff :
    unknownNames given = [] ↔ ∀ entry ∈ given, ¬IsUnknown entry.1 := by
  simp only [List.eq_nil_iff_forall_not_mem, mem_unknownNames]
  constructor
  · intro hnone entry hentry hunknown
    exact hnone entry.1 ⟨hunknown, entry, hentry, rfl⟩
  · rintro hknown name ⟨hunknown, entry, hentry, rfl⟩
    exact hknown entry hentry hunknown

/-! ## Options that are set one after another -/

/-- Options that are set one after another have the value that they were given last. -/
theorem value_foldl_set (options : Options) (given : List (OptionName × Json))
    (name : OptionName) :
    (given.foldl (fun options (name, value) => options.set name value) options).value name =
      (given.reverse.lookup name).getD (options.value name) := by
  induction given using List.reverseRecOn with
  | nil => rfl
  | append_singleton given entry ih =>
    obtain ⟨other, value⟩ := entry
    rw [List.foldl_append, List.foldl_cons, List.foldl_nil, List.reverse_append,
      List.reverse_singleton, List.singleton_append, List.lookup_cons]
    by_cases hname : name = other
    · simp [Options.set, hname]
    · have hother : (name == other) = false := by simpa using hname
      simpa [Options.set, hname, hother] using ih

/-- An entry by its option, if it is one of an option. -/
def byOption? (entry : String × Json) : Option (OptionName × Json) :=
  (OptionName.ofText? entry.1).map fun option => (option, entry.2)

/-- An option has the entry that is under its name. -/
theorem lookup_filterMap_byOption? (given : Named Json) (option : OptionName) :
    (given.filterMap byOption?).lookup option = given.lookup option.text := by
  induction given with
  | nil => rfl
  | cons entry rest ih =>
    obtain ⟨name, value⟩ := entry
    rw [List.filterMap_cons, List.lookup_cons]
    cases hfound : OptionName.ofText? name with
    | none =>
      have hother : (option.text == name) = false := by
        simpa using ofText?_eq_none_iff.mp hfound option
      simpa [byOption?, hfound, hother] using ih
    | some other =>
      obtain rfl := OptionName.ofText?_eq_some_iff.mp hfound
      by_cases hoption : option = other
      · simp [byOption?, hoption]
      · have hother : (option.text == other.text) = false := by
          simpa using OptionName.text_injective.ne hoption
        have hne : (option == other) = false := by simpa using hoption
        simpa [byOption?, hother, List.lookup_cons, hne] using ih

/-- Setting all entries sets those of options. -/
theorem setAll_eq_foldl (options : Options) (given : Named Json) :
    options.setAll given = (given.filterMap byOption?).foldl
      (fun options (name, value) => options.set name value) options := by
  rw [List.foldl_filterMap, setAll]
  congr 1
  funext options entry
  obtain ⟨name, value⟩ := entry
  cases hfound : OptionName.ofText? name <;> simp [byOption?, hfound]

/-- An option has the value of the last entry under its name. -/
theorem value_setAll (options : Options) (given : Named Json) (option : OptionName) :
    (options.setAll given).value option =
      (given.reverse.lookup option.text).getD (options.value option) := by
  rw [setAll_eq_foldl, value_foldl_set, ← List.filterMap_reverse, lookup_filterMap_byOption?]

/-! ## Options of a mapping -/

variable {fields : Named Json}

/-- A mapping with an entry under a name that no option has is refused for all such names. -/
theorem ofFields_of_unknown (h : ∃ entry ∈ entries fields, IsUnknown entry.1) :
    ofFields fields = .error ⟨unknownNames (entries fields)⟩ := by
  obtain ⟨entry, hentry, hunknown⟩ := h
  have hnames : unknownNames (entries fields) ≠ [] := fun hnil =>
    unknownNames_eq_nil_iff.mp hnil entry hentry hunknown
  obtain ⟨name, others, hcons⟩ := List.exists_cons_of_ne_nil hnames
  simp only [ofFields, hcons]

/-- A mapping whose entries are all of options sets these, over the values that hold where none are
given. -/
theorem ofFields_of_known (h : ∀ entry ∈ entries fields, ¬IsUnknown entry.1) :
    ofFields fields = .ok (default.setAll (entries fields)) := by
  simp only [ofFields, unknownNames_eq_nil_iff.mpr h]

/-- What a mapping comes to that gives certain entries. -/
structure LastCounts (fields given : Named Json) : Prop where
  /-- If no option has the name of some entry, the mapping is refused. The refusal lists all such
  names, each once, in the order of their characters. -/
  refused : (∃ entry ∈ given, IsUnknown entry.1) →
    ∃ unknown : UnknownOptions, ofFields fields = .error unknown ∧
      (∀ name, name ∈ unknown.names ↔ IsUnknown name ∧ ∃ entry ∈ given, entry.1 = name) ∧
      unknown.names.Pairwise (· < ·) ∧
      unknown.message = "Unknown configuration option(s): " ++ ", ".intercalate unknown.names
  /-- Otherwise every option has the value that is found under its name from the back, or else the
  one that holds where none is given. -/
  taken : (∀ entry ∈ given, ¬IsUnknown entry.1) →
    ∃ options, ofFields fields = .ok options ∧ ∀ option,
      options.value option = (given.reverse.lookup option.text).getD (default.value option)
  /-- A mapping that gives the same entries comes to the same. -/
  alike : ∀ {others : Named Json}, Gives others given → ofFields others = ofFields fields

/-- **The last entry of an option counts.** Every mapping gives entries, and only in one way: blocks
are replaced by what is in them, once, and all names by what they stand for. An entry under a name
that no option has is refused, whatever the others say. Otherwise the last entry under the name of
an option decides, however it was spelled and wherever it stood. -/
theorem last_entries_count (fields : Named Json) :
    ∃ given, (∀ others, Gives fields others ↔ others = given) ∧ LastCounts fields given := by
  refine ⟨entries fields, fun _ => gives_iff, ?_⟩
  constructor
  case refused =>
    intro hunknown
    exact ⟨_, ofFields_of_unknown hunknown, fun _ => mem_unknownNames, pairwise_unknownNames _, rfl⟩
  case taken =>
    intro hknown
    exact ⟨_, ofFields_of_known hknown, value_setAll _ _⟩
  case alike =>
    intro others hothers
    simp only [ofFields, ← gives_iff.mp hothers]

/-- The level under its three spellings, the second time in a block. -/
def respelled : Named Json :=
  [("level", .int 0),
    ("pathNormalization", .object [("normalization_level", .int 1), ("maxRouterDepth", .int 3)]),
    ("normalizationLevel", .int 2), ("max_router_depth", .int 4)]

/-- A block in a block, among other names that no option has. One of them is given twice. -/
def blockInBlock : Named Json :=
  [("severity", .string "warn"), ("zeta", .null),
    ("pathNormalization", .object [("pathNormalization", .object [("level", .int 2)]),
      ("zeta", .null)]),
    ("alpha", .null)]

/-- The last level counts and the last depth. A block in a block is refused, with the other names
that no option has. -/
theorem last_entries_count_respelled :
    (∃ options, ofFields respelled = .ok options ∧ options.value .level = .int 2 ∧
      options.value .maxDepth = .int 4 ∧ options.value .severity = .string "error") ∧
    ofFields blockInBlock = .error ⟨["alpha", "pathNormalization", "zeta"]⟩ := by
  constructor
  · obtain ⟨given, hgives, hcounts⟩ := last_entries_count respelled
    obtain rfl := (hgives _).mp (gives_iff.mpr rfl)
    obtain ⟨options, htaken, hvalues⟩ := hcounts.taken (by decide)
    exact ⟨options, htaken, hvalues .level, hvalues .maxDepth, hvalues .severity⟩
  · obtain ⟨given, hgives, hcounts⟩ := last_entries_count blockInBlock
    obtain rfl := (hgives _).mp (gives_iff.mpr rfl)
    obtain ⟨unknown, hrefused, hnames, hsorted, -⟩ := hcounts.refused (by decide)
    -- Sorting does not evaluate, but there is only one sorted list of these names.
    have hlist : unknown.names = ["alpha", "pathNormalization", "zeta"] := by
      refine hsorted.eq_of_mem_iff (by decide) fun name => (hnames name).trans ⟨?_, ?_⟩
      · rintro ⟨hunknown, entry, hentry, rfl⟩
        revert hunknown
        revert entry
        decide
      · revert name
        decide
    rw [hrefused, ← hlist]

end Options

end RouteAudit
