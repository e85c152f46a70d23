/-
Written records can be loaded again. The documents of any of the records of a source, with commas
between them and brackets around them, are a source of the same records (`parse_documents`). Only the
doubles may differ: they come back as what the reader makes of their digits.
-/
import WhereFilter.Output
import WhereFilter.Proofs.Json.RoundTrip
import WhereFilter.Proofs.Source.Wrapper

namespace WhereFilter

open Json

namespace Source

variable {text : String} {records : List Record}

/-! ## Records of a source -/

/-- What follows when the records of a source are known: they are the objects of its body. -/
theorem exists_objects_of_parse (h : parse text = .ok records) : ∃ (width : Nat) (body rest : List Char)
    (objects : List (List (String × Json))),
    listOf (membersOf width) width maxNesting body = .ok (objects, rest) ∧ records = objects.map Record.mk := by
  obtain ⟨body, -, hread⟩ := parse_eq_ok_iff.1 h
  obtain ⟨objects, hobjects, hrecords⟩ := readList_eq_ok_iff.1 hread
  obtain ⟨rest, hl, -⟩ := readAll_eq_ok_iff.1 hobjects
  exact ⟨_, _, rest, objects, hl, hrecords⟩

theorem fitsIn_of_membersOf {width nesting : Nat} {text rest : List Char} {members : List (String × Json)}
    (h : membersOf width nesting text = .ok (members, rest)) : (object members).FitsIn nesting := by
  obtain ⟨depth, body, rfl, -, h⟩ := tableOf_eq_ok_iff.1 h
  exact forall_of_objectBody (fun _ _ _ => fitsIn_of_value) h

theorem fitsIn_of_listOf {width nesting : Nat} {text rest : List Char} {objects : List (List (String × Json))}
    (h : listOf (membersOf width) width (nesting + 1) text = .ok (objects, rest)) :
    ∀ members ∈ objects, (object members).FitsIn nesting := by
  obtain ⟨depth, body, hdepth, -, h⟩ := listOf_eq_ok_iff.1 h
  cases hdepth
  exact forall_of_arrayBody (fun _ _ _ => fitsIn_of_membersOf) h

/-- The records of a source fit into the nesting that an array around them leaves. -/
theorem fitsIn_of_parse (h : parse text = .ok records) : ∀ r ∈ records, r.toJson.FitsIn (maxNesting - 1) := by
  obtain ⟨width, body, rest, objects, hl, rfl⟩ := exists_objects_of_parse h
  intro r hr
  obtain ⟨members, hmem, rfl⟩ := List.mem_map.1 hr
  exact fitsIn_of_listOf hl members hmem

/-! ## Sources without a wrapper -/

/-- A text that starts with a bracket is parsed as it is read. -/
theorem parse_of_listOf {body : List Char} {objects : List (List (String × Json))}
    (h : listOf (membersOf (('[' :: body).length + 1)) (('[' :: body).length + 1) maxNesting ('[' :: body) =
      .ok (objects, [])) : parse (String.ofList ('[' :: body)) = .ok (objects.map Record.mk) := by
  have hread : Record.readList (String.ofList ('[' :: body)) = .ok (objects.map Record.mk) := by
    simp only [Record.readList, readAll, readFront, String.toList_ofList, h, bind, Except.bind]
    rfl
  simp only [parse, unwrap_opening, bind, Except.bind, hread]

/-! ## Joined documents -/

/-- The documents of the records, each the indented text of an object. -/
def documents (records : List Record) : List (List Char) := records.map fun r => r.toJson.pretty 0

/-- Documents as the items of an array. -/
def joined (documents : List (List Char)) : List Char := '[' :: ([','].intercalate documents ++ [']'])

/-- The record with every number in it replaced by what the text of the number is read as. -/
def reread (r : Record) : Record := ⟨mapMembers Number.reread r.members⟩

/-- Joined documents of records that fit are read as these records. -/
theorem listOf_joined {width nesting : Nat} (hfit : ∀ r ∈ records, r.toJson.FitsIn nesting)
    (hw : (joined (documents records)).length < width) :
    listOf (membersOf width) width (nesting + 1) (joined (documents records)) =
      .ok (records.map fun r => mapMembers Number.reread r.members, []) := by
  have hbody : arrayBody (membersOf width nesting) width ([','].intercalate (documents records) ++ [']']) =
      .ok (records.map fun r => mapMembers Number.reread r.members, []) := by
    by_cases h0 : records = []
    · subst h0
      simp [documents, arrayBody, skipGap, isGap]
    · obtain ⟨hlen, hmem⟩ := size_intercalate (fun r : Record => (startsValue_pretty 0 r.toJson).length_pos) [',']
        records
      have hsize : (joined (documents records)).length =
          ([','].intercalate (records.map fun r => r.toJson.pretty 0)).length + 2 := by
        simp [joined, documents]
      have hnone : AllGap [] := by simp [AllGap]
      exact arrayBody_texts hnone hnone hnone (by omega) h0 (fun r _ => startsValue_pretty 0 r.toJson)
        fun r hr rest _ => membersOf_pretty (hfit r hr) (lt_of_le_of_lt (hmem r hr) (by omega))
  unfold listOf joined
  simp only [skipGap_cons (show isGap '[' = false by decide), hbody]

theorem parse_joined (hfit : ∀ r ∈ records, r.toJson.FitsIn (maxNesting - 1)) :
    parse (String.ofList (joined (documents records))) = .ok (records.map reread) := by
  have hlist : listOf (membersOf ((joined (documents records)).length + 1)) ((joined (documents records)).length + 1)
      maxNesting (joined (documents records)) = _ := listOf_joined hfit (Nat.lt_succ_self _)
  rw [show records.map reread = (records.map fun r => mapMembers Number.reread r.members).map Record.mk by
    rw [List.map_map]; rfl]
  exact parse_of_listOf hlist

/-- The text in JSON of any of the records of a source, in their order, is a document for each, with a
line break behind it. Every document is read as its record, and the documents with commas between them
and brackets around them are a source of these records. Only numbers with a point or an exponent may
come back as others: as what their digits are read as. -/
theorem parse_documents {ms : List Record} (h : parse text = .ok records) (hms : ms.Sublist records) :
    (OutputMode.json.render ms).toList = (documents ms).flatMap (· ++ ['\n']) ∧
      (∀ r ∈ ms, Json.read r.toJson.prettyText = .ok (r.toJson.mapNumbers Number.reread)) ∧
      parse (String.ofList (joined (documents ms))) = .ok (ms.map reread) ∧
      (∀ i hi, (Number.integer i hi).reread = .integer i hi) ∧
      ∀ d hd, ∃ d' hd', (Number.float d hd).reread = .float d' hd' ∧
        Json.read (String.ofList (d.textIn .json)) = .ok (.number (.float d' hd')) := by
  have hfit : ∀ r ∈ ms, r.toJson.FitsIn (maxNesting - 1) := fun r hr => fitsIn_of_parse h r (hms.subset hr)
  refine ⟨?_, fun r hr => read_prettyText ((hfit r hr).mono (Nat.sub_le ..)), parse_joined hfit,
    fun i hi => reread_integer hi, fun d hd => ?_⟩
  · rw [OutputMode.render, String.toList_ofList, documents, List.flatMap_map]
    rfl
  · obtain ⟨d', hd', hreread⟩ := reread_float hd
    exact ⟨d', hd', hreread, hreread ▸ read_text (.float d hd)⟩

/-- A source with a repeated name, empty containers, and a double that is not read back from its digits. -/
def nestedText : String := "[\x7b\"n\":1,\"k\":[\x7b\x7d,[]],\"n\":\"\\n\"\x7d,\x7b\x7d,\x7b\"e\":30e22\x7d]"

/-- All records of the source but the second one, and what they are read as again. -/
theorem parse_documents_of_nested : ∃ records ms : List Record, parse nestedText = .ok records ∧ ms.Sublist records ∧
    (OutputMode.json.render ms).toList = (documents ms).flatMap (· ++ ['\n']) ∧
    parse (String.ofList (joined (documents ms))) = .ok (ms.map reread) ∧
    [ms, ms.map reread].map (·.map (·.toJson.compactText)) =
      [["\x7b\"n\":\"\\n\",\"k\":[\x7b\x7d,[]]\x7d", "\x7b\"e\":3e+23\x7d"],
        ["\x7b\"n\":\"\\n\",\"k\":[\x7b\x7d,[]]\x7d", "\x7b\"e\":2.9999999999999997e+23\x7d"]] := by
  have htexts : (parse nestedText).toOption.map (fun records =>
      [records.eraseIdx 1, (records.eraseIdx 1).map reread].map (·.map (·.toJson.compactText))) =
      some [["\x7b\"n\":\"\\n\",\"k\":[\x7b\x7d,[]]\x7d", "\x7b\"e\":3e+23\x7d"],
        ["\x7b\"n\":\"\\n\",\"k\":[\x7b\x7d,[]]\x7d", "\x7b\"e\":2.9999999999999997e+23\x7d"]] := by
    decide +kernel
  cases h : parse nestedText with
  | error failure => rw [h] at htexts; cases htexts
  | ok records =>
    rw [h] at htexts
    have hms := List.eraseIdx_sublist records 1
    obtain ⟨hrender, -, hparse, -⟩ := parse_documents h hms
    exact ⟨records, records.eraseIdx 1, rfl, hms, hrender, hparse, Option.some.inj htexts⟩

end Source

end WhereFilter
