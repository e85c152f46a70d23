/-
Records as comma separated rows lose nothing: whoever reads the text finds one table, which has a
column for every name, in the order in which the names first appear, and a row for every record
(`tabulates_render`).
-/
import WhereFilter.Output
import WhereFilter.Proofs.Csv.Grammar
import Mathlib.Data.List.Forall2
import Mathlib.Data.List.Nodup

namespace WhereFilter.Csv

/-! ## Columns -/

/-- The names are those of the records, each once, in the order in which they first appear. -/
structure Columns (records : List Record) (names : List String) : Prop where
  nodup : names.Nodup
  mem_iff : ∀ name, name ∈ names ↔ ∃ r ∈ records, name ∈ r.names
  in_order : names.Pairwise fun a b =>
    (records.flatMap Record.names).idxOf a < (records.flatMap Record.names).idxOf b

/-- Leaving other elements out does not change which of two elements is found first. -/
theorem idxOf_lt_of_filter {p : String → Bool} {a b : String} (ha : p a = true) (hb : p b = true) :
    ∀ {names : List String}, (names.filter p).idxOf a < (names.filter p).idxOf b → names.idxOf a < names.idxOf b
  | [], h => by simp at h
  | name :: names, h => by
    cases hp : p name with
    | false =>
      have hne {x : String} (hx : p x = true) : (name == x) = false := by
        rw [beq_eq_false_iff_ne]
        rintro rfl
        rw [hp] at hx; cases hx
      rw [List.filter_cons_of_neg (by simp [hp])] at h
      have ih := idxOf_lt_of_filter ha hb h
      simpa [List.idxOf_cons, hne ha, hne hb] using ih
    | true =>
      rw [List.filter_cons_of_pos hp] at h
      simp only [List.idxOf_cons] at h ⊢
      cases hxa : name == a <;> cases hxb : name == b <;> simp only [hxa, hxb, cond_true, cond_false] at h ⊢
      · exact Nat.succ_lt_succ (idxOf_lt_of_filter ha hb (Nat.lt_of_succ_lt_succ h))
      · omega
      · omega
      · omega

/-- Erasing repetitions leaves the first of equal elements. -/
theorem pairwise_eraseDups : ∀ names : List String, names.eraseDups.Pairwise fun a b => names.idxOf a < names.idxOf b
  | [] => by simp
  | name :: names => by
    rw [List.eraseDups_cons, List.pairwise_cons]
    have hkept : ∀ x ∈ (names.filter fun x => !x == name).eraseDups, (!x == name) = true := fun x hx =>
      (List.mem_filter.1 (List.mem_eraseDups.1 hx)).2
    have hidx {x : String} (hx : (!x == name) = true) : (name :: names).idxOf x = names.idxOf x + 1 := by
      rw [List.idxOf_cons_ne]
      rintro rfl
      simp at hx
    constructor
    · intro x hx
      rw [hidx (hkept x hx), List.idxOf_cons_self]
      exact Nat.succ_pos _
    · refine (pairwise_eraseDups (names.filter fun x => !x == name)).imp_of_mem fun {a b} ha hb h => ?_
      rw [hidx (hkept a ha), hidx (hkept b hb)]
      exact Nat.succ_lt_succ (idxOf_lt_of_filter (p := fun x => !x == name) (hkept a ha) (hkept b hb) h)
termination_by names => names.length
decreasing_by exact Nat.lt_succ_of_le (List.length_filter_le _ _)

theorem columns_header (records : List Record) : Columns records (header records) := by
  have hpairwise := pairwise_eraseDups (records.flatMap Record.names)
  refine ⟨hpairwise.imp fun {a b} h heq => ?_, fun name => ?_, hpairwise⟩
  · rw [heq] at h; exact absurd h (Nat.lt_irrefl _)
  · rw [header, List.mem_eraseDups, List.mem_flatMap]

/-! ## Cells -/

/-- What stands in a cell for a value. -/
inductive CellOf : Option Json → List Char → Prop
  | missing : CellOf none []
  | null : CellOf (some .null) []
  | string (s : String) : CellOf (some (.string s)) s.toList
  | other {json : Json} : json ≠ .null → (∀ s, json ≠ .string s) → CellOf (some json) json.compact

theorem cellOf_cell (value : Option Json) : CellOf value (cell value) := by
  unfold cell
  split
  · exact .missing
  · exact .null
  · exact .string _
  · rename_i hnull hstring
    exact .other (fun h => hnull (by rw [h])) fun s h => hstring s (by rw [h])

/-! ## Tables -/

/-- Whoever reads the text finds one table: the header, and behind it a row for every record that has
a cell for every name. -/
structure Tabulates (records : List Record) (text : List Char) (names : List String)
    (rows : List (List (List Char))) : Prop where
  columns : Columns records names
  height : rows.length = records.length
  width : ∀ row ∈ names.map String.toList :: rows, row.length = names.length
  cells : List.Forall₂ (fun r row => List.Forall₂ (fun name cell => CellOf (r.get? name) cell) names row) records rows
  reading : ∀ skipsEmpty table, TableOf skipsEmpty text table ↔ table = names.map String.toList :: rows

theorem header_ne_nil {records : List Record} (h : ∃ r ∈ records, r.names ≠ []) : header records ≠ [] := by
  obtain ⟨r, hr, hnames⟩ := h
  obtain ⟨name, hname⟩ := List.exists_mem_of_ne_nil _ hnames
  exact List.ne_nil_of_mem (((columns_header records).mem_iff name).2 ⟨r, hr, hname⟩)

theorem length_of_mem_table {records : List Record} : ∀ row ∈ table records, row.length = (header records).length := by
  intro row hrow
  rcases List.mem_cons.1 hrow with rfl | hrow
  · rw [List.length_map]
  · obtain ⟨r, -, rfl⟩ := List.mem_map.1 hrow
    rw [row, List.length_map]

/-- Records of which at least one has a field are written as a text that reads as their table. -/
theorem tabulates_render {records : List Record} (h : ∃ r ∈ records, r.names ≠ []) :
    ∃ names rows, Tabulates records (OutputMode.csv.render records).toList names rows := by
  have htext : (OutputMode.csv.render records).toList = lines (table records) := by
    obtain ⟨r, hr, -⟩ := h
    simp [OutputMode.render, text, List.ne_nil_of_mem hr]
  -- as there is a name, every row has a cell
  have hcells : ∀ row ∈ table records, row ≠ [] := by
    intro row hrow
    rw [← List.length_pos_iff, length_of_mem_table row hrow, List.length_pos_iff]
    exact header_ne_nil h
  refine ⟨header records, records.map (row (header records)), columns_header records, List.length_map _,
    length_of_mem_table, ?_, fun skipsEmpty read => ?_⟩
  · refine List.forall₂_map_right_iff.2 (List.forall₂_same.2 fun r _ => ?_)
    exact List.forall₂_map_right_iff.2 (List.forall₂_same.2 fun name _ => cellOf_cell _)
  · rw [htext]
    exact tableOf_lines_iff hcells

/-- Records with different names, the first of which has a comma, quotes and a line break to keep. -/
def raggedRecords : List Record :=
  [⟨[("name", .string "Bo, \"B\""), ("", .bool true)]⟩, ⟨[("at\n", .null), ("name", .array [.string "x"])]⟩, ⟨[]⟩]

theorem tabulates_raggedRecords :
    OutputMode.csv.render raggedRecords = "name,,\"at\n\"\n\"Bo, \"\"B\"\"\",true,\n\"[\"\"x\"\"]\",,\n,,\n" ∧
      (∃ r ∈ raggedRecords, r.names ≠ []) ∧
      ∃ names rows, Tabulates raggedRecords (OutputMode.csv.render raggedRecords).toList names rows :=
  have h : ∃ r ∈ raggedRecords, r.names ≠ [] := ⟨_, List.mem_cons_self .., by decide⟩
  ⟨by decide +kernel, h, tabulates_render h⟩

end WhereFilter.Csv
