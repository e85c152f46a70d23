/-
Runs of one query. Such a run is all or nothing: if the file holds records and the query can be read, the
output is what the query reports on them; if not, there is no output, and one failure is told. A file without
records is told of whatever the query is (`outcome_of_query`). What is written is spelled out, the report on a
failure line by line (`LoadReport`, `QueryReport`).
-/
import WhereFilter.CommandLine.Program
import WhereFilter.Proofs.CommandLine.Arguments
import WhereFilter.Proofs.Source.Loading

namespace WhereFilter

open Source

namespace Session

variable {s : Session} {query : String}

/-! ## Answers -/

/-- What a query that can be read leaves as output: its conditions, a number, or the records it finds. -/
inductive QueryOutput (s : Session) (q : Query) : String → Prop
  | conditions (hexplain : s.settings.explain = true) : QueryOutput s q (q.toJson.prettyText ++ "\n")
  | number (hexplain : s.settings.explain = false) (hcount : s.settings.countOnly = true) :
      QueryOutput s q (toString (q.filter s.records).length ++ "\n")
  | records (hexplain : s.settings.explain = false) (hcount : s.settings.countOnly = false) :
      QueryOutput s q (s.settings.mode.render (q.filter s.records))

theorem queryOutput_report (s : Session) (q : Query) : QueryOutput s q (s.report q).text := by
  unfold report
  cases hexplain : s.settings.explain with
  | true => exact .conditions hexplain
  | false =>
    cases hcount : s.settings.countOnly with
    | true => exact .number hexplain hcount
    | false => exact .records hexplain hcount

theorem execute_of_parse {q : Query} (h : Query.parse query = .ok q) : s.execute query = .ok (s.report q) := by
  rw [execute, h]
  rfl

theorem execute_of_not_parse {fault : Malformed} (h : Query.parse query = .error fault) :
    s.execute query = .error fault := by
  rw [execute, h]
  rfl

end Session

namespace Program

variable {a : Arguments} {file query : String} {content : Except ReadFailure ByteArray} {input : List UInt8}
variable {err : String} {o : Outcome}

/-! ## Failures -/

/-- What is told when no records are loaded. -/
inductive LoadReport (file : String) : Source.Error → String → Prop
  | refused (reason : String) (code : Nat) :
      LoadReport file (.unreadable (.refused reason code)) ("Error: failed to load records from " ++ file ++
        "\n\nCaused by:" ++
        "\n    0: failed to read record file: " ++ reason ++ " (os error " ++ toString code ++ ")" ++
        "\n    1: " ++ reason ++ " (os error " ++ toString code ++ ")\n")
  | notText :
      LoadReport file (.unreadable .notText) ("Error: failed to load records from " ++ file ++
        "\n\nCaused by:" ++
        "\n    0: failed to read record file: stream did not contain valid UTF-8" ++
        "\n    1: stream did not contain valid UTF-8\n")
  | noArray :
      LoadReport file .missingArray ("Error: failed to load records from " ++ file ++
        "\n\nCaused by:" ++
        "\n    no JSON array found after script assignment\n")
  | notRecords (error : Json.ReadError) :
      LoadReport file (.invalid error) ("Error: failed to load records from " ++ file ++
        "\n\nCaused by:" ++
        "\n    0: invalid record data: " ++ error.message ++
        "\n    1: " ++ error.message ++ "\n")

/-- What is told when a query cannot be read. -/
inductive QueryReport : Malformed → String → Prop
  | empty (fragment : String) :
      QueryReport ⟨.empty, fragment⟩ ("Error: malformed query: query is empty: '" ++ fragment ++ "'\n")
  | missingWhere (fragment : String) :
      QueryReport ⟨.missingWhere, fragment⟩
        ("Error: malformed query: query must start with WHERE: '" ++ fragment ++ "'\n")
  | invalidCondition (fragment : String) :
      QueryReport ⟨.invalidCondition, fragment⟩ ("Error: malformed query: invalid condition: '" ++ fragment ++ "'\n")

theorem failed_empty (message : String) (causes : List String) :
    failed .empty message causes = ⟨1, "", failureText message causes⟩ := by
  simp [failed, Transcript.empty]

/-! ## Texts of failures -/

-- The two sides of these equations are joined from pieces that are cut at different places. Both are cut into
-- the smaller pieces, which the simplifier must not join again.

theorem causeLines_single (cause : String) : causeLines [cause] = "\n\nCaused by:" ++ "\n    " ++ cause := rfl

theorem causeLines_pair (first second : String) :
    causeLines [first, second] = "\n\nCaused by:" ++ "\n    0: " ++ first ++ "\n    1: " ++ second := by
  have hlines : causeLines [first, second] =
      "\n\nCaused by:" ++ ("" ++ ("\n    " ++ "0" ++ ": " ++ first) ++ ("\n    " ++ "1" ++ ": " ++ second)) := rfl
  have hzero : "\n    0: " = "\n    " ++ "0" ++ ": " := rfl
  have hone : "\n    1: " = "\n    " ++ "1" ++ ": " := rfl
  rw [hlines, hzero, hone]
  simp only [String.append_assoc, String.empty_append, -String.reduceAppend]

theorem failureText_single (file cause : String) :
    failureText ("failed to load records from " ++ file) [cause] =
      "Error: failed to load records from " ++ file ++ "\n\nCaused by:" ++ "\n    " ++ cause ++ "\n" := by
  have herror : "Error: failed to load records from " = "Error: " ++ "failed to load records from " := rfl
  simp only [failureText, causeLines_single, herror, String.append_assoc, -String.reduceAppend]

theorem failureText_pair (file first second : String) :
    failureText ("failed to load records from " ++ file) [first, second] =
      "Error: failed to load records from " ++ file ++ "\n\nCaused by:" ++ "\n    0: " ++ first ++
        "\n    1: " ++ second ++ "\n" := by
  have herror : "Error: failed to load records from " = "Error: " ++ "failed to load records from " := rfl
  simp only [failureText, causeLines_pair, herror, String.append_assoc, -String.reduceAppend]

theorem message_refused (reason : String) (code : Nat) :
    (ReadFailure.refused reason code).message = reason ++ (" (os error " ++ (toString code ++ ")")) := by
  simp [ReadFailure.message, toString, String.append_assoc]

theorem failureText_refused (file reason : String) (code : Nat) :
    failureText ("failed to load records from " ++ file) (Source.Error.unreadable (.refused reason code)).chain =
      "Error: failed to load records from " ++ file ++ "\n\nCaused by:" ++
        "\n    0: failed to read record file: " ++ reason ++ " (os error " ++ toString code ++ ")" ++
        "\n    1: " ++ reason ++ " (os error " ++ toString code ++ ")\n" := by
  have hchain (failure : ReadFailure) : (Source.Error.unreadable failure).chain =
      ["failed to read record file: " ++ failure.message, failure.message] := rfl
  have hzero : "\n    0: failed to read record file: " = "\n    0: " ++ "failed to read record file: " := rfl
  have hlast : ")\n" = ")" ++ "\n" := rfl
  simp only [hchain, failureText_pair, message_refused, hzero, hlast, String.append_assoc, -String.reduceAppend]

theorem failureText_notText (file : String) :
    failureText ("failed to load records from " ++ file) (Source.Error.unreadable .notText).chain =
      "Error: failed to load records from " ++ file ++ "\n\nCaused by:" ++
        "\n    0: failed to read record file: stream did not contain valid UTF-8" ++
        "\n    1: stream did not contain valid UTF-8\n" := by
  have hchain : (Source.Error.unreadable .notText).chain =
      ["failed to read record file: stream did not contain valid UTF-8", "stream did not contain valid UTF-8"] := rfl
  have hzero : "\n    0: failed to read record file: stream did not contain valid UTF-8" =
    "\n    0: " ++ "failed to read record file: stream did not contain valid UTF-8" := rfl
  have hone : "\n    1: stream did not contain valid UTF-8\n" =
    "\n    1: " ++ ("stream did not contain valid UTF-8" ++ "\n") := rfl
  simp only [hchain, failureText_pair, hzero, hone, String.append_assoc, -String.reduceAppend]

theorem failureText_missingArray (file : String) :
    failureText ("failed to load records from " ++ file) Source.Error.missingArray.chain =
      "Error: failed to load records from " ++ file ++ "\n\nCaused by:" ++
        "\n    no JSON array found after script assignment\n" := by
  have hchain : Source.Error.missingArray.chain = ["no JSON array found after script assignment"] := rfl
  have hline : "\n    no JSON array found after script assignment\n" =
    "\n    " ++ ("no JSON array found after script assignment" ++ "\n") := rfl
  simp only [hchain, failureText_single, hline, String.append_assoc, -String.reduceAppend]

theorem failureText_invalid (file : String) (error : Json.ReadError) :
    failureText ("failed to load records from " ++ file) (Source.Error.invalid error).chain =
      "Error: failed to load records from " ++ file ++ "\n\nCaused by:" ++
        "\n    0: invalid record data: " ++ error.message ++ "\n    1: " ++ error.message ++ "\n" := by
  have hchain : (Source.Error.invalid error).chain =
    ["invalid record data: " ++ error.message, error.message] := rfl
  have hzero : "\n    0: invalid record data: " = "\n    0: " ++ "invalid record data: " := rfl
  simp only [hchain, failureText_pair, hzero, String.append_assoc, -String.reduceAppend]

theorem failureText_malformed (reason : Malformed.Reason) (fragment : String) :
    failureText (Malformed.message ⟨reason, fragment⟩) [] =
      "Error: malformed query: " ++ reason.text ++ ": '" ++ fragment ++ "'\n" := by
  have hreport : failureText (Malformed.message ⟨reason, fragment⟩) [] =
    "Error: " ++ ("malformed query: " ++ reason.text ++ ": '" ++ fragment ++ "'") ++ "" ++ "\n" := rfl
  have herror : "Error: malformed query: " = "Error: " ++ "malformed query: " := rfl
  have hlast : "'\n" = "'" ++ "\n" := rfl
  rw [hreport]
  simp only [herror, hlast, String.append_assoc, String.empty_append, -String.reduceAppend]

/-- The report is the failure of loading, told with its causes and under the name of the file. -/
theorem loadReport_iff {e : Source.Error} :
    LoadReport file e err ↔ failureText ("failed to load records from " ++ file) e.chain = err := by
  constructor
  · rintro (⟨reason, code⟩ | _ | _ | ⟨error⟩)
    · exact failureText_refused file reason code
    · exact failureText_notText file
    · exact failureText_missingArray file
    · exact failureText_invalid file error
  · rintro rfl
    cases e with
    | unreadable failure =>
      cases failure with
      | notText =>
        rw [failureText_notText]
        exact .notText
      | refused reason code =>
        rw [failureText_refused]
        exact .refused reason code
    | missingArray =>
      rw [failureText_missingArray]
      exact .noArray
    | invalid error =>
      rw [failureText_invalid]
      exact .notRecords error

theorem queryReport_iff {fault : Malformed} : QueryReport fault err ↔ failureText fault.message [] = err := by
  have hempty : "Error: malformed query: query is empty: '" =
    "Error: malformed query: " ++ Malformed.Reason.empty.text ++ ": '" := rfl
  have hwhere : "Error: malformed query: query must start with WHERE: '" =
    "Error: malformed query: " ++ Malformed.Reason.missingWhere.text ++ ": '" := rfl
  have hcondition : "Error: malformed query: invalid condition: '" =
    "Error: malformed query: " ++ Malformed.Reason.invalidCondition.text ++ ": '" := rfl
  constructor
  · rintro (⟨fragment⟩ | ⟨fragment⟩ | ⟨fragment⟩)
    · rw [failureText_malformed, hempty]
    · rw [failureText_malformed, hwhere]
    · rw [failureText_malformed, hcondition]
  · rintro rfl
    obtain ⟨reason, fragment⟩ := fault
    rw [failureText_malformed]
    cases reason with
    | empty => rw [← hempty]; exact .empty fragment
    | missingWhere => rw [← hwhere]; exact .missingWhere fragment
    | invalidCondition => rw [← hcondition]; exact .invalidCondition fragment

/-! ## Ends -/

/-- What a run of one query comes to: an answer, or one of two failures without any output. -/
inductive EndsIn (a : Arguments) (query : String) (content : Except ReadFailure ByteArray) : Outcome → Prop
  | answered {records : List Record} {q : Query} {report : Report} (hrecords : HoldsRecords content records)
      (hquery : Query.parse query = .ok q) (hreport : Session.execute ⟨records, a.settings⟩ query = .ok report)
      (hout : Session.QueryOutput ⟨records, a.settings⟩ q report.text) : EndsIn a query content ⟨0, report.text, ""⟩
  | malformed {records : List Record} {fault : Malformed} {err : String} (hrecords : HoldsRecords content records)
      (hquery : Query.parse query = .error fault) (herr : QueryReport fault err) :
      EndsIn a query content ⟨1, "", err⟩
  | notLoaded {e : Source.Error} {err : String} (hnone : HoldsNone content e) (herr : LoadReport a.file e err) :
      EndsIn a query content ⟨1, "", err⟩

/-- A run of a query comes to one thing only. -/
theorem run_eq_iff (h : a.query? = some query) : run a content input = o ↔ EndsIn a query content o := by
  constructor
  · rintro rfl
    cases hload : load content with
    | error e =>
      simp only [run, hload, Program.notLoaded, failed_empty]
      exact .notLoaded (load_eq_error_iff.1 hload) (loadReport_iff.2 rfl)
    | ok records =>
      have hrecords := load_eq_ok_iff.1 hload
      simp only [run, hload, runSession, h, runQuery]
      cases hquery : Query.parse query with
      | error fault =>
        simp only [Session.execute_of_not_parse hquery, failed_empty]
        exact .malformed hrecords hquery (queryReport_iff.2 rfl)
      | ok q =>
        have hreport := Session.execute_of_parse (s := ⟨records, a.settings⟩) hquery
        simp only [hreport]
        exact .answered hrecords hquery hreport (Session.queryOutput_report _ q)
  · rintro (⟨hrecords, -, hreport, -⟩ | ⟨hrecords, hquery, herr⟩ | ⟨hnone, herr⟩)
    · simp only [run, load_eq_ok_iff.2 hrecords, runSession, h, runQuery, hreport]
    · obtain rfl := queryReport_iff.1 herr
      simp only [run, load_eq_ok_iff.2 hrecords, runSession, h, runQuery, Session.execute_of_not_parse hquery,
        failed_empty]
    · obtain rfl := loadReport_iff.1 herr
      simp only [run, load_eq_error_iff.2 hnone, Program.notLoaded, failed_empty]

theorem exit_eq_zero_iff (h : EndsIn a query content o) :
    o.exit = 0 ↔ ∃ (text : String) (records : List Record) (q : Query),
      content = .ok text.toUTF8 ∧ Source.parse text = .ok records ∧ Query.parse query = .ok q := by
  rcases h with ⟨⟨text, hfile, hparse⟩, hquery, -, -⟩ | ⟨-, hquery, -⟩ | ⟨hnone, -⟩
  · exact iff_of_true rfl ⟨text, _, _, hfile, hparse, hquery⟩
  · refine iff_of_false Nat.one_ne_zero ?_
    rintro ⟨-, -, q, -, -, hq⟩
    rw [hquery] at hq
    cases hq
  · refine iff_of_false Nat.one_ne_zero ?_
    rintro ⟨text, records, -, hfile, hparse, -⟩
    have hload := load_eq_error_iff.2 hnone
    rw [load_eq_ok_iff.2 ⟨text, hfile, hparse⟩] at hload
    cases hload

/-- Every query can be asked of every file that has a name, under all settings but both flags at once, and nothing
else can. However the arguments are written, the run comes to what `EndsIn` says of the file and the query. Its exit
is zero exactly if the bytes of the file are a text that writes records, which are the objects of one array, and the
query can be read. -/
theorem outcome_of_query (fallbacks : Fallbacks) (contents : String → Except ReadFailure ByteArray)
    (input : List UInt8) :
    (∀ a : Arguments, a.Admitted → Arguments.read fallbacks a.spelled = .ok a) ∧
    (∀ args a, Arguments.read fallbacks args = .ok a → a.Admitted) ∧
    (∀ text records, Source.parse text = .ok records ↔
      ∃ body, unwrap text = .ok body ∧ Json.read body = .ok (.array (records.map Record.toJson))) ∧
    ∀ args a query, Arguments.read fallbacks args = .ok a → a.query? = some query →
      (∀ o, outcome fallbacks args contents input = o ↔ EndsIn a query (contents a.file) o) ∧
      ((outcome fallbacks args contents input).exit = 0 ↔ ∃ (text : String) (records : List Record) (q : Query),
        contents a.file = .ok text.toUTF8 ∧ Source.parse text = .ok records ∧ Query.parse query = .ok q) := by
  refine ⟨fun a ha => Arguments.read_spelled ha fallbacks, fun args a ha => Arguments.exists_read_iff.1 ⟨args, ha⟩,
    fun text records => parse_eq_ok_iff_read, fun args a query ha hquery => ?_⟩
  have hrun : outcome fallbacks args contents input = run a (contents a.file) input := by
    simp only [outcome, ha]
  have hends (o : Outcome) : outcome fallbacks args contents input = o ↔ EndsIn a query (contents a.file) o := by
    rw [hrun]
    exact run_eq_iff hquery
  exact ⟨hends, exit_eq_zero_iff ((hends _).1 rfl)⟩

/-- A folder with two files, of which one holds records. -/
def twoFiles (file : String) : Except ReadFailure ByteArray :=
  if file = "data.js" then .ok "let data = [\x7b\"n\":2\x7d,\x7b\"n\":1\x7d];".toUTF8
  else if file = "list.json" then .ok "[1]".toUTF8
  else .error .notFound

/-- A query and a file that look like options, a query that is answered, one that cannot be read, and the same one
over a file that is not there and over one without records. -/
theorem outcome_of_query_of_twoFiles :
    Arguments.read ⟨none, none⟩ ["--query=--count", "--output=csv", "--explain", "--", "-q"] =
      .ok ⟨"-q", some "--count", ⟨.csv, false, true⟩⟩ ∧
    (∃ (text : String) (records : List Record) (q : Query), twoFiles "data.js" = .ok text.toUTF8 ∧
      Source.parse text = .ok records ∧ Query.parse "WHERE n > 1" = .ok q) ∧
    outcome ⟨none, none⟩ ["data.js", "--query=WHERE n > 1", "--count"] twoFiles [] = ⟨0, "1\n", ""⟩ ∧
    outcome ⟨none, none⟩ ["-qn >", "data.js"] twoFiles [] =
      ⟨1, "", "Error: malformed query: query must start with WHERE: 'n >'\n"⟩ ∧
    outcome ⟨none, none⟩ ["gone.json", "-q", "n >"] twoFiles [] =
      ⟨1, "", "Error: failed to load records from gone.json\n\nCaused by:" ++
        "\n    0: failed to read record file: No such file or directory (os error 2)" ++
        "\n    1: No such file or directory (os error 2)\n"⟩ ∧
    outcome ⟨none, none⟩ ["list.json", "-q", "n >"] twoFiles [] =
      ⟨1, "", "Error: failed to load records from list.json\n\nCaused by:" ++
        "\n    0: invalid record data: invalid type: integer `1`, expected a map at line 1 column 2" ++
        "\n    1: invalid type: integer `1`, expected a map at line 1 column 2\n"⟩ := by
  obtain ⟨hspelled, -, -, hends⟩ := outcome_of_query ⟨none, none⟩ twoFiles []
  have hanswered :
      outcome ⟨none, none⟩ ["data.js", "--query=WHERE n > 1", "--count"] twoFiles [] = ⟨0, "1\n", ""⟩ := by
    decide +kernel
  have hmissing : Query.parse "n >" = .error ⟨.missingWhere, "n >"⟩ := rfl
  have hfile : twoFiles "gone.json" = .error (.refused "No such file or directory" 2) := rfl
  obtain ⟨-, hexit⟩ := hends ["data.js", "--query=WHERE n > 1", "--count"]
    ⟨"data.js", some "WHERE n > 1", ⟨.json, true, false⟩⟩ "WHERE n > 1" (by decide +kernel) rfl
  obtain ⟨hmalformed, -⟩ := hends ["-qn >", "data.js"] ⟨"data.js", some "n >", ⟨.json, false, false⟩⟩ "n >"
    (by decide +kernel) rfl
  obtain ⟨hgone, -⟩ := hends ["gone.json", "-q", "n >"] ⟨"gone.json", some "n >", ⟨.json, false, false⟩⟩ "n >"
    (by decide +kernel) rfl
  obtain ⟨text, records, q, htext, hparse, hq⟩ := hexit.1 (by rw [hanswered])
  refine ⟨?_, ⟨text, records, q, htext, hparse, hq⟩, hanswered, ?_, ?_, ?_⟩
  · exact hspelled ⟨"-q", some "--count", ⟨.csv, false, true⟩⟩ ⟨by decide, by decide⟩
  · exact (hmalformed _).2 (.malformed ⟨text, htext, hparse⟩ hmissing (.missingWhere _))
  · rw [(hgone _).2 (.notLoaded (.unread hfile) (.refused _ _))]
    decide +kernel
  · decide +kernel

end Program

end WhereFilter
