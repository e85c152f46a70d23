/-
What arguments can ask for. Every file with a name, every query or none, and all settings but both flags
at once can be spelled out so that they are read back (`read_spelled`). Nothing else is ever read, however
the arguments are spelled (`exists_read_iff`).
-/
import WhereFilter.CommandLine.Arguments
import WhereFilter.Proofs.Text.Run

namespace WhereFilter.Arguments

open WhereFilter.Text

/-- The file has a name, and not both flags are set. -/
structure Admitted (a : Arguments) : Prop where
  file_ne_empty : a.file ≠ ""
  not_both : ¬ (a.settings.countOnly = true ∧ a.settings.explain = true)

variable {given given' : Given} {fallbacks : Fallbacks} {a : Arguments}

/-! ## Spelling -/

/-- An option with its value attached. -/
def option (name value : String) : String := "--" ++ name ++ "=" ++ value

/-- A flag, if it is set. -/
def flag (name : String) (isSet : Bool) : List String := if isSet then [name] else []

/-- The arguments one by one: options, flags, and the file where no option can stand. -/
def spelled (a : Arguments) : List String :=
  (a.query?.toList.map (option "query")) ++ option "output" a.settings.mode.name ::
    (flag "--count" a.settings.countOnly ++ (flag "--explain" a.settings.explain ++ ["--", a.file]))

/-- The value of an option is what stands behind the first equals sign, whatever that is. -/
theorem shape_option (name value : String) (h : '=' ∉ name.toList) :
    Shape.of (option name value).toList = .long name.toList (some value.toList) := by
  have hrun : ∀ c ∈ name.toList, (c != '=') = true := by
    intro c hc
    rw [bne_iff_ne]
    rintro rfl
    exact h hc
  have htext : (option name value).toList = '-' :: '-' :: (name.toList ++ '=' :: value.toList) := by simp [option]
  have hbehind : ∀ c ∈ ('=' :: value.toList).head?, (c != '=') = false := by simp
  have hname := takeWhile_run_append hrun hbehind
  have hvalue := dropWhile_run_append hrun hbehind
  rw [htext]
  generalize htail : name.toList ++ '=' :: value.toList = tail at hname hvalue
  cases tail with
  | nil => simp at htail
  | cons c tail => simp only [Shape.of, attached?, hname, hvalue]

theorem read_query (h : given.query? = none) (query : String) :
    State.read ⟨given, .nothing, false, false⟩ (option "query" query) =
      .ok ⟨{ given with query? := some query }, .nothing, false, false⟩ := by
  simp only [State.read, shape_option "query" query (by decide), Bool.false_eq_true, if_false]
  simp [State.readLong, State.readOption, State.settle, Given.take, h, bind, Except.bind, pure, Except.pure]

theorem ofName?_name (mode : OutputMode) : OutputMode.ofName? mode.name = some mode := by
  cases mode <;> decide

theorem read_output (h : given.mode? = none) (mode : OutputMode) :
    State.read ⟨given, .nothing, false, false⟩ (option "output" mode.name) =
      .ok ⟨{ given with mode? := some mode }, .nothing, false, false⟩ := by
  simp only [State.read, shape_option "output" mode.name (by decide), Bool.false_eq_true, if_false]
  simp [State.readLong, State.readOption, State.settle, Given.take, h, ofName?_name, bind, Except.bind, pure,
    Except.pure]

theorem read_count (h : given.count = false) :
    State.read ⟨given, .nothing, false, false⟩ "--count" =
      .ok ⟨{ given with count := true }, .nothing, false, false⟩ := by
  have hshape : Shape.of "--count".toList = .long "count".toList none := by decide
  simp only [State.read, hshape, Bool.false_eq_true, if_false]
  simp [State.readLong, State.readFlag, State.settle, State.raiseCount, h, bind, Except.bind, pure, Except.pure]

theorem read_explain (h : given.explain = false) :
    State.read ⟨given, .nothing, false, false⟩ "--explain" =
      .ok ⟨{ given with explain := true }, .nothing, false, false⟩ := by
  have hshape : Shape.of "--explain".toList = .long "explain".toList none := by decide
  simp only [State.read, hshape, Bool.false_eq_true, if_false]
  simp [State.readLong, State.readFlag, State.settle, State.raiseExplain, h, bind, Except.bind, pure, Except.pure]

/-- Behind two dashes a text is the file, whatever it looks like. -/
theorem foldlM_file (file : String) :
    ["--", file].foldlM State.read ⟨given, .nothing, false, false⟩ =
      .ok ⟨given, .full .file file, true, true⟩ := by
  have hclosing : State.read ⟨given, .nothing, false, false⟩ "--" = .ok ⟨given, .nothing, true, false⟩ := rfl
  have hfile : State.read ⟨given, .nothing, true, false⟩ file = .ok ⟨given, .full .file file, true, true⟩ := rfl
  simp only [List.foldlM_cons, List.foldlM_nil, hclosing, hfile, bind, Except.bind, pure, Except.pure]

/-- A flag that is not set leaves no argument. -/
theorem foldlM_flag {name : String} (isSet : Bool) (rest : List String)
    (h : State.read ⟨given, .nothing, false, false⟩ name = .ok ⟨given', .nothing, false, false⟩) :
    (flag name isSet ++ rest).foldlM State.read ⟨given, .nothing, false, false⟩ =
      rest.foldlM State.read ⟨if isSet then given' else given, .nothing, false, false⟩ := by
  cases isSet with
  | false => rfl
  | true => simp [flag, h, bind, Except.bind]

/-- What follows the query is read whether there is one or not. -/
theorem foldlM_settings (query? : Option String) (mode : OutputMode) (count explain : Bool) (file : String) :
    (option "output" mode.name :: (flag "--count" count ++ (flag "--explain" explain ++ ["--", file]))).foldlM
        State.read ⟨⟨none, query?, none, false, false⟩, .nothing, false, false⟩ =
      .ok ⟨⟨none, query?, some mode, count, explain⟩, .full .file file, true, true⟩ := by
  rw [List.foldlM_cons, read_output rfl]
  simp only [bind, Except.bind]
  rw [foldlM_flag count _ (read_count rfl)]
  cases count <;> rw [foldlM_flag explain _ (read_explain rfl), foldlM_file] <;> cases explain <;> rfl

theorem foldlM_spelled (a : Arguments) : a.spelled.foldlM State.read State.start =
    .ok ⟨⟨none, a.query?, some a.settings.mode, a.settings.countOnly, a.settings.explain⟩, .full .file a.file,
      true, true⟩ := by
  obtain ⟨file, query?, mode, count, explain⟩ := a
  cases query? with
  | none => exact foldlM_settings none mode count explain file
  | some query =>
    have hquery : State.read State.start (option "query" query) =
        .ok ⟨⟨none, some query, none, false, false⟩, .nothing, false, false⟩ := read_query rfl query
    simp only [spelled, Option.toList_some, List.map_cons, List.map_nil, List.singleton_append, List.foldlM_cons,
      hquery, bind, Except.bind]
    exact foldlM_settings (some query) mode count explain file

/-- Arguments that are spelled out are read back, and nothing stands in for them. -/
theorem read_spelled (h : Admitted a) (fallbacks : Fallbacks) : Arguments.read fallbacks a.spelled = .ok a := by
  have hfile : a.file.isEmpty = false := by simpa using h.file_ne_empty
  have hflags : (a.settings.countOnly && a.settings.explain) = false := by simpa using h.not_both
  simp [Arguments.read, foldlM_spelled, State.settle, Given.take, hfile, Given.orElse, finish, hflags, bind,
    Except.bind, pure, Except.pure]

/-! ## What is never read -/

/-- Steps succeed in a row only if each of them does. -/
theorem exists_of_bind {ε α β : Type} {x : Except ε α} {f : α → Except ε β} {b : β} (h : (x >>= f) = .ok b) :
    ∃ a, x = .ok a ∧ f a = .ok b := by
  cases x with
  | error e => cases h
  | ok a => exact ⟨a, rfl, h⟩

/-- The file, if it is given, has a name. -/
def Named (given : Given) : Prop := given.file? ≠ some ""

/-- A value that is taken in is not empty if it is the name of the file. -/
theorem Named.take {slot : Slot} {value : String} (hnamed : Named given) (h : given.take slot value = .ok given') :
    Named given' := by
  unfold Given.take at h
  cases slot with
  | file =>
    simp only at h
    split_ifs at h with htaken hempty
    cases h
    rintro hfile
    simp [Option.some.inj hfile] at hempty
  | query =>
    simp only at h
    split_ifs at h
    cases h
    exact hnamed
  | mode =>
    simp only at h
    split_ifs at h
    split at h <;> cases h
    exact hnamed

/-- A flag that is set leaves the file as it is. -/
theorem Named.raise {raised : Given} {isSet : Bool} (hnamed : Named given)
    (h : (if isSet then .error .conflict else .ok raised : Except Refusal Given) = .ok given')
    (hfile : raised.file? = given.file?) : Named given' := by
  split_ifs at h
  cases h
  rwa [Named, hfile]

section Steps

variable {s s' : State} (hnamed : Named s.given)

include hnamed

theorem named_of_settle (h : s.settle = .ok s') : Named s'.given := by
  unfold State.settle at h
  split at h
  · cases h
    exact hnamed
  · cases h
  · obtain ⟨given, htake, h⟩ := exists_of_bind h
    cases h
    exact hnamed.take htake

theorem named_of_readFile {value : String} (h : s.readFile value = .ok s') : Named s'.given := by
  unfold State.readFile at h
  split_ifs at h
  obtain ⟨settled, hsettle, h⟩ := exists_of_bind h
  have hsettled := named_of_settle hnamed hsettle
  cases h
  exact hsettled

theorem named_of_readOption {slot : Slot} {value? : Option (List Char)} (h : s.readOption slot value? = .ok s') :
    Named s'.given := by
  obtain ⟨settled, hsettle, h⟩ := exists_of_bind h
  have hsettled := named_of_settle hnamed hsettle
  cases value? with
  | none =>
    cases h
    exact hsettled
  | some value =>
    obtain ⟨given, htake, h⟩ := exists_of_bind h
    cases h
    exact hsettled.take htake

theorem named_of_readFlag {value? : Option (List Char)} {raise : Given → Except Refusal Given}
    (h : s.readFlag value? raise = .ok s')
    (hraise : ∀ {given given'}, Named given → raise given = .ok given' → Named given') : Named s'.given := by
  unfold State.readFlag at h
  split_ifs at h
  obtain ⟨settled, hsettle, h⟩ := exists_of_bind h
  obtain ⟨given, hgiven, h⟩ := exists_of_bind h
  cases h
  exact hraise (named_of_settle hnamed hsettle) hgiven

theorem named_of_readLong {name : List Char} {value? : Option (List Char)} (h : s.readLong name value? = .ok s') :
    Named s'.given := by
  unfold State.readLong at h
  split at h
  · exact named_of_readOption hnamed h
  · exact named_of_readOption hnamed h
  · exact named_of_readFlag hnamed h fun hnamed h => hnamed.raise h rfl
  · exact named_of_readFlag hnamed h fun hnamed h => hnamed.raise h rfl
  · exact named_of_readFlag hnamed h fun _ h => by cases h
  · exact named_of_readFlag hnamed h fun _ h => by cases h
  · cases h

theorem named_of_readShort {letter : Char} {rest : List Char} (h : s.readShort letter rest = .ok s') :
    Named s'.given := by
  unfold State.readShort at h
  split at h
  · exact named_of_readOption hnamed h
  · exact named_of_readOption hnamed h
  · exact named_of_readFlag hnamed h fun _ h => by cases h
  · exact named_of_readFlag hnamed h fun _ h => by cases h
  · cases h

/-- No argument takes in an empty name of the file. -/
theorem named_of_read {arg : String} (h : s.read arg = .ok s') : Named s'.given := by
  unfold State.read at h
  split_ifs at h
  · exact named_of_readFile hnamed h
  · split at h
    · cases h
      exact hnamed
    · exact named_of_readLong hnamed h
    · exact named_of_readShort hnamed h
    · split at h
      · cases h
        exact hnamed
      · exact named_of_readFile hnamed h

/-- Nor do many of them. -/
theorem named_of_foldlM {args : List String} (h : args.foldlM State.read s = .ok s') : Named s'.given := by
  induction args generalizing s with
  | nil =>
    cases h
    exact hnamed
  | cons arg args ih =>
    rw [List.foldlM_cons] at h
    obtain ⟨next, hnext, h⟩ := exists_of_bind h
    exact ih (named_of_read hnamed hnext) h

end Steps

theorem Named.orElse {slot : Slot} {absent : Bool} {value? : Option String} (hnamed : Named given)
    (h : given.orElse slot absent value? = .ok given') : Named given' := by
  unfold Given.orElse at h
  split at h
  · exact hnamed.take h
  · cases h
    exact hnamed

theorem admitted_of_finish (hnamed : Named given) (h : finish given = .ok a) : Admitted a := by
  unfold finish at h
  split_ifs at h with hflags
  split at h
  · cases h
  · rename_i file hfile
    cases h
    refine ⟨?_, by simpa using hflags⟩
    rintro rfl
    exact hnamed hfile

/-- What arguments can ask for, whatever stands in for those that are not given. -/
theorem exists_read_iff : (∃ args, Arguments.read fallbacks args = .ok a) ↔ Admitted a := by
  refine ⟨?_, fun h => ⟨a.spelled, read_spelled h fallbacks⟩⟩
  rintro ⟨args, h⟩
  obtain ⟨last, hargs, h⟩ := exists_of_bind h
  obtain ⟨settled, hsettle, h⟩ := exists_of_bind h
  obtain ⟨withFile, hfile, h⟩ := exists_of_bind h
  obtain ⟨withMode, hmode, h⟩ := exists_of_bind h
  have hlast : Named last.given := named_of_foldlM (s := State.start) nofun hargs
  have hsettled := named_of_settle hlast hsettle
  exact admitted_of_finish ((hsettled.orElse hfile).orElse hmode) h

end WhereFilter.Arguments
