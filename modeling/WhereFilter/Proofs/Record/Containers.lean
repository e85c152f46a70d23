/-
Records in different containers. A query asks a thing for nothing but the fields that it names, so things
that have the same values there satisfy the same queries, whatever they are made of (`holdsOf_congr`).
Any container in which a value that is put in counts from then on has the fields of the record that is
read from the same object (`exists_readTables`); so a text is an array of objects for every container or
for none, and a query selects the same positions from all that are read from it
(`selection_of_containers`).
-/
import WhereFilter.Proofs.Json.Tables
import WhereFilter.Proofs.Query.Selection

namespace WhereFilter

open WhereFilter.Json

/-! ## The fields that are asked for -/

namespace Query

variable {α β : Type} [Fields α] [Fields β] {q : Query}

theorem holdsOf_congr {x : α} {y : β} (h : ∀ c ∈ q.conditions, field? x c.field = field? y c.field) :
    q.holdsOf x = q.holdsOf y := by
  rw [Bool.eq_iff_iff, holdsOf_iff, holdsOf_iff]
  apply forall₂_congr
  intro c hc
  rw [h c hc]

theorem positions_congr {xs : List α} {ys : List β} (h : List.Forall₂ (fun x y => q.holdsOf x = q.holdsOf y) xs ys) :
    q.positions xs = q.positions ys := by
  induction h with
  | nil => rfl
  | cons hxy _ ih => rw [positions_cons, positions_cons, hxy, ih]

end Query

/-- Both things have the same values in all fields. -/
def SameFields {α β : Type} [Fields α] [Fields β] (x : α) (y : β) : Prop := ∀ name, field? x name = field? y name

theorem positions_of_sameFields {α β : Type} [Fields α] [Fields β] {xs : List α} {ys : List β}
    (h : List.Forall₂ SameFields xs ys) (q : Query) : q.positions ys = q.positions xs := by
  apply Eq.symm
  apply Query.positions_congr
  exact h.imp fun _ _ hxy => Query.holdsOf_congr fun c _ => hxy c.field

/-! ## Containers -/

/-- What makes a container of values by name: an empty one has no fields, and a value that is put in is the one of its
name from then on, while no other name is touched. -/
structure KeepsFields {τ : Type} [Fields τ] (empty : τ) (put : String → Json → τ → τ) : Prop where
  empty : ∀ name, field? empty name = none
  put : ∀ name value table other,
    field? (put name value table) other = if name = other then some (.ofJson value) else field? table other

theorem field?_insertMember (name : String) (value : Json) (members : List (String × Json)) (other : String) :
    field? (⟨insertMember name value members⟩ : Record) other =
      if name = other then some (.ofJson value) else field? (⟨members⟩ : Record) other := by
  show (member? other (insertMember name value members)).map FieldValue.ofJson = _
  rw [member?_insertMember]
  split <;> rfl

theorem keepsFields_hashMap [Hashable String] :
    KeepsFields (∅ : Std.HashMap String Json) (fun name value table => table.insert name value) where
  empty name := by
    show ((∅ : Std.HashMap String Json)[name]?).map FieldValue.ofJson = none
    rw [Std.HashMap.getElem?_empty]
    rfl
  put name value table other := by
    show ((table.insert name value)[other]?).map FieldValue.ofJson = _
    rw [Std.HashMap.getElem?_insert]
    by_cases h : name = other
    · rw [if_pos (beq_iff_eq.2 h), if_pos h]; rfl
    · rw [if_neg (mt beq_iff_eq.1 h), if_neg h]; rfl

theorem keepsFields_treeMap :
    KeepsFields (∅ : Std.TreeMap String Json) (fun name value table => table.insert name value) where
  empty name := by
    show ((∅ : Std.TreeMap String Json)[name]?).map FieldValue.ofJson = none
    rw [Std.TreeMap.getElem?_emptyc]
    rfl
  put name value table other := by
    show ((table.insert name value)[other]?).map FieldValue.ofJson = _
    rw [Std.TreeMap.getElem?_insert]
    by_cases h : name = other
    · rw [if_pos (Std.LawfulEqOrd.compare_eq_iff_eq.2 h), if_pos h]; rfl
    · rw [if_neg (mt Std.LawfulEqOrd.compare_eq_iff_eq.1 h), if_neg h]; rfl

/-! ## Reading -/

section Reading

variable {τ : Type} {empty : τ} {put : String → Json → τ → τ} {text : String}

/-- Where records can be read, so can the tables of a container, with the same fields. -/
theorem exists_readTables [Fields τ] (h : KeepsFields empty put) {records : List Record}
    (hread : Record.readList text = .ok records) :
    ∃ tables, Record.readTables empty put text = .ok tables ∧ List.Forall₂ SameFields records tables := by
  obtain ⟨objects, hobjects, rfl⟩ := readList_eq_ok_iff.1 hread
  have hitem : ∀ width nesting, Follows (fun _ => True) (fun members table => SameFields (⟨members⟩ : Record) table)
      (membersOf width nesting) (tableOf empty put width nesting) := by
    apply follows_tableOf
    · intro name
      exact (h.empty name).symm
    · intro name value members table hsame other
      rw [field?_insertMember, h.put, hsame other]
  obtain ⟨tables, htables, hall⟩ := follows_readAll hitem hobjects fun _ _ => trivial
  exact ⟨tables, htables, List.forall₂_map_left_iff.2 hall⟩

/-- Where the tables of a container can be read, so can records. -/
theorem exists_readList_of_readTables {tables : List τ} (hread : Record.readTables empty put text = .ok tables) :
    ∃ records, Record.readList text = .ok records := by
  have hitem : ∀ width nesting, Follows (fun _ => True) (fun (_ : τ) (_ : List (String × Json)) => True)
      (tableOf empty put width nesting) (membersOf width nesting) :=
    follows_tableOf trivial fun _ _ _ _ _ => trivial
  obtain ⟨objects, hobjects, -⟩ := follows_readAll hitem hread fun _ _ => trivial
  exact ⟨objects.map .mk, readList_eq_ok_iff.2 ⟨objects, hobjects, rfl⟩⟩

theorem eq_map_of_forall₂ {α β : Type} {f : α → β} {xs : List α} {ys : List β}
    (h : List.Forall₂ (fun x y => y = f x) xs ys) : ys = xs.map f := by
  induction h with
  | nil => rfl
  | cons hxy _ ih => rw [List.map_cons, hxy, ih]

/-- Where records can be read, so can values, and these are the same objects. -/
theorem readList_toJson {records : List Record} (hread : Record.readList text = .ok records) :
    Json.readList text = .ok (records.map Record.toJson) := by
  obtain ⟨objects, hobjects, rfl⟩ := readList_eq_ok_iff.1 hread
  have hitem : ∀ width nesting, Follows (fun _ => True) (fun members v => v = object members)
      (membersOf width nesting) (value width nesting) :=
    fun width nesting text members rest h _ => ⟨object members, value_eq_object_iff.2 h, rfl⟩
  obtain ⟨values, hvalues, hall⟩ := follows_readAll hitem hobjects fun _ _ => trivial
  rw [List.map_map, ← show values = objects.map (Record.toJson ∘ Record.mk) from eq_map_of_forall₂ hall]
  exact hvalues

/-- Where values can be read that are all objects, so can records. -/
theorem exists_readList_of_values {values : List Json} (hread : Json.readList text = .ok values)
    (hobjects : ∀ v ∈ values, ∃ members, v = object members) : ∃ records, Record.readList text = .ok records := by
  have hitem : ∀ width nesting, Follows (fun v => ∃ members, v = object members) (fun v members => v = object members)
      (value width nesting) (membersOf width nesting) := by
    rintro width nesting text v rest h ⟨members, rfl⟩
    exact ⟨members, value_eq_object_iff.1 h, rfl⟩
  obtain ⟨objects, hread', -⟩ := follows_readAll hitem hread hobjects
  exact ⟨objects.map .mk, readList_eq_ok_iff.2 ⟨objects, hread', rfl⟩⟩

end Reading

/-! ## All containers -/

theorem sameFields_toJson (r : Record) : SameFields r r.toJson := fun _ => rfl

/-- The text is an array of objects for every container: it is read as the records, as the same objects among other
values, and as tables of either kind; and each query selects the same positions from all of them. -/
structure ReadAlike (text : String) (records : List Record) : Prop where
  objects : Record.readList text = .ok records
  values : ∃ values, Json.readList text = .ok values ∧ ∀ q : Query, q.positions values = q.positions records
  hashMaps : ∀ [Hashable String], ∃ tables, Record.readHashMaps text = .ok tables ∧
    ∀ q : Query, q.positions tables = q.positions records
  treeMaps : ∃ tables, Record.readTreeMaps text = .ok tables ∧ ∀ q : Query, q.positions tables = q.positions records

/-- The text is no array of objects for any container: nothing can be read from it but values of which not all are
objects. -/
structure ReadByNone (text : String) : Prop where
  objects : ∀ records, Record.readList text ≠ .ok records
  values : ∀ values, Json.readList text = .ok values → ∃ v ∈ values, ∀ members, v ≠ object members
  hashMaps : ∀ [Hashable String], ∀ tables, Record.readHashMaps text ≠ .ok tables
  treeMaps : ∀ tables, Record.readTreeMaps text ≠ .ok tables

theorem readAlike_of_readList {text : String} {records : List Record} (h : Record.readList text = .ok records) :
    ReadAlike text records where
  objects := h
  values := by
    refine ⟨records.map Record.toJson, readList_toJson h, positions_of_sameFields ?_⟩
    exact List.forall₂_map_right_iff.2 (List.forall₂_same.2 fun r _ => sameFields_toJson r)
  hashMaps := by
    intro hasher
    obtain ⟨tables, htables, hall⟩ := exists_readTables keepsFields_hashMap h
    exact ⟨tables, htables, positions_of_sameFields hall⟩
  treeMaps := by
    obtain ⟨tables, htables, hall⟩ := exists_readTables keepsFields_treeMap h
    exact ⟨tables, htables, positions_of_sameFields hall⟩

theorem readByNone_of_readList {text : String} (h : ∀ records, Record.readList text ≠ .ok records) :
    ReadByNone text where
  objects := h
  values := by
    intro values hvalues
    by_contra hall
    push Not at hall
    obtain ⟨records, hrecords⟩ := exists_readList_of_values hvalues hall
    exact h records hrecords
  hashMaps := by
    intro hasher tables htables
    obtain ⟨records, hrecords⟩ := exists_readList_of_readTables htables
    exact h records hrecords
  treeMaps := by
    intro tables htables
    obtain ⟨records, hrecords⟩ := exists_readList_of_readTables htables
    exact h records hrecords

/-- Things of whatever containers that agree in the fields a query names satisfy it both or not at all. So a text that
is an array of objects for one container is one for all of them, and every query selects the same positions
whichever container the text is read into. -/
theorem selection_of_containers :
    (∀ {α β : Type} [Fields α] [Fields β] (q : Query) (x : α) (y : β),
      (∀ c ∈ q.conditions, field? x c.field = field? y c.field) → q.holdsOf x = q.holdsOf y) ∧
    ∀ text, (∃ records, ReadAlike text records) ∨ ReadByNone text := by
  refine ⟨fun q x y h => Query.holdsOf_congr h, fun text => ?_⟩
  by_cases h : ∃ records, Record.readList text = .ok records
  · obtain ⟨records, hrecords⟩ := h
    exact .inl ⟨records, readAlike_of_readList hrecords⟩
  · exact .inr (readByNone_of_readList fun records hrecords => h ⟨records, hrecords⟩)

/-- Another member makes no difference, a name that is repeated has its last value, and a name in another case is
another name. -/
theorem selection_of_containers_of_repeated_name :
    Query.holdsOf ⟨[⟨"a", .eq, .text "x"⟩]⟩ (⟨[("b", .null), ("a", .string "X")]⟩ : Record) =
      Query.holdsOf ⟨[⟨"a", .eq, .text "x"⟩]⟩ (object [("a", .string "X")]) ∧
    ∃ tables,
      Record.readTreeMaps "[\x7b\"a\": 1, \"b\": \x7b\"a\": []\x7d, \"a\": \"X\"\x7d, \x7b\"A\": \"X\"\x7d]" =
        .ok tables ∧
      Query.positions ⟨[⟨"a", .eq, .text "x"⟩]⟩ tables = [0] := by
  have hread : Record.readList "[\x7b\"a\": 1, \"b\": \x7b\"a\": []\x7d, \"a\": \"X\"\x7d, \x7b\"A\": \"X\"\x7d]" =
      .ok [⟨[("a", .string "X"), ("b", object [("a", .array [])])]⟩, ⟨[("A", .string "X")]⟩] := rfl
  constructor
  · apply selection_of_containers.1
    rintro c hc
    cases List.mem_singleton.1 hc
    rfl
  · rcases selection_of_containers.2 _ with ⟨records, halike⟩ | hnone
    · cases hread.symm.trans halike.objects
      obtain ⟨tables, htables, hplaces⟩ := halike.treeMaps
      refine ⟨tables, htables, (hplaces _).trans ?_⟩
      decide +kernel
    · exact absurd hread (hnone.objects _)

end WhereFilter
