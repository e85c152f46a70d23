/-
Loading records from a file. The records of a text are the objects of the array that is read from it once
it is unwrapped (`parse_eq_ok_iff_read`). They are loaded exactly from the bytes of such a text
(`load_eq_ok_iff`), and there are four reasons why none are loaded (`load_eq_error_iff`).
-/
import WhereFilter.Proofs.Record.Containers
import WhereFilter.Proofs.Source.Wrapper
import WhereFilter.Proofs.Text.Utf8

namespace WhereFilter.Source

open WhereFilter.Json WhereFilter.Text

variable {content : Except ReadFailure ByteArray} {bytes : ByteArray} {text : String} {records : List Record}
variable {e : Error}

/-! ## Texts -/

theorem toJson_injective : Function.Injective Record.toJson := by
  rintro ⟨members⟩ ⟨others⟩ h
  cases h
  rfl

/-- An array is read as records exactly if all of its items are objects. -/
theorem readList_eq_ok_iff_read :
    Record.readList text = .ok records ↔ Json.read text = .ok (.array (records.map Record.toJson)) := by
  rw [read_eq_array_iff]
  refine ⟨readList_toJson, fun h => ?_⟩
  obtain ⟨others, hothers⟩ := exists_readList_of_values h fun v hv => by
    obtain ⟨r, -, rfl⟩ := List.mem_map.1 hv
    exact ⟨r.members, rfl⟩
  have hsame := readList_toJson hothers
  rw [h, Except.ok.injEq] at hsame
  rwa [toJson_injective.list_map hsame]

theorem parse_eq_ok_iff_read :
    parse text = .ok records ↔
      ∃ body, unwrap text = .ok body ∧ Json.read body = .ok (.array (records.map Record.toJson)) := by
  simp only [parse_eq_ok_iff, readList_eq_ok_iff_read]

/-! ## Bytes -/

theorem decode_eq_ok_iff : decode bytes = .ok text ↔ bytes = text.toUTF8 := by
  have hiff : String.fromUTF8? bytes = some text ↔ bytes.data.toList = text.toUTF8.data.toList := by
    rw [toUTF8_eq]
    exact fromUTF8?_eq_some_iff
  have hok : decode bytes = .ok text ↔ String.fromUTF8? bytes = some text := by
    unfold decode
    cases String.fromUTF8? bytes <;> simp
  rw [hok, hiff, Array.toList_inj, ByteArray.ext_iff]

theorem decode_eq_error_iff {failure : ReadFailure} :
    decode bytes = .error failure ↔ failure = .notText ∧ ∀ text : String, bytes ≠ text.toUTF8 := by
  cases h : decode bytes with
  | ok text =>
    rw [decode_eq_ok_iff] at h
    simp [h]
  | error found =>
    have hfound : found = .notText := by
      unfold decode at h
      split at h <;> cases h
      rfl
    have hnone : ∀ text : String, bytes ≠ text.toUTF8 := by
      intro text htext
      rw [decode_eq_ok_iff.2 htext] at h
      cases h
    rw [Except.error.injEq, hfound]
    exact ⟨fun h => ⟨h.symm, hnone⟩, fun h => h.1.symm⟩

/-! ## Loading -/

/-- The bytes are those of a text, and the text writes the records. -/
def HoldsRecords (content : Except ReadFailure ByteArray) (records : List Record) : Prop :=
  ∃ text : String, content = .ok text.toUTF8 ∧ parse text = .ok records

/-- Why no records are loaded. Each reason rules out those before it. -/
inductive HoldsNone (content : Except ReadFailure ByteArray) : Error → Prop
  | unread {failure : ReadFailure} (hfile : content = .error failure) : HoldsNone content (.unreadable failure)
  | notText {bytes : ByteArray} (hfile : content = .ok bytes) (hbytes : ∀ text : String, bytes ≠ text.toUTF8) :
      HoldsNone content (.unreadable .notText)
  | noArray {text : String} (hfile : content = .ok text.toUTF8) (hdeclares : Declares text.toList)
      (harray : ¬ HoldsArray text.toList) : HoldsNone content .missingArray
  | notRecords {text body : String} {error : ReadError} (hfile : content = .ok text.toUTF8)
      (hbody : unwrap text = .ok body) (hread : Record.readList body = .error error) :
      HoldsNone content (.invalid error)

theorem load_of_text (text : String) : load (.ok text.toUTF8) = parse text := by
  have hdecode : decode text.toUTF8 = .ok text := decode_eq_ok_iff.2 rfl
  simp only [load, Except.bind, hdecode]

theorem load_eq_ok_iff : load content = .ok records ↔ HoldsRecords content records := by
  constructor
  · intro h
    cases content with
    | error failure => cases h
    | ok bytes =>
      cases hd : decode bytes with
      | error failure =>
        simp only [load, Except.bind, hd] at h
        cases h
      | ok text =>
        obtain rfl := decode_eq_ok_iff.1 hd
        rw [load_of_text] at h
        exact ⟨text, rfl, h⟩
  · rintro ⟨text, rfl, h⟩
    rwa [load_of_text]

theorem load_eq_error_iff : load content = .error e ↔ HoldsNone content e := by
  constructor
  · intro h
    cases content with
    | error failure =>
      cases h
      exact .unread rfl
    | ok bytes =>
      cases hd : decode bytes with
      | error failure =>
        simp only [load, Except.bind, hd] at h
        cases h
        obtain ⟨rfl, hbytes⟩ := decode_eq_error_iff.1 hd
        exact .notText rfl hbytes
      | ok text =>
        obtain rfl := decode_eq_ok_iff.1 hd
        rw [load_of_text, parse_eq_error_iff, unwrap_eq_error_iff, unwrap?_eq_none_iff] at h
        obtain ⟨rfl, hdeclares, harray⟩ | ⟨body, error, hbody, hread, rfl⟩ := h
        · exact .noArray rfl hdeclares harray
        · exact .notRecords rfl hbody hread
  · rintro (hfile | ⟨hfile, hbytes⟩ | ⟨hfile, hdeclares, harray⟩ | ⟨hfile, hbody, hread⟩)
    · rw [hfile]
      rfl
    · simp only [load, hfile, Except.bind, decode_eq_error_iff.2 ⟨rfl, hbytes⟩]
    · rw [hfile, load_of_text, parse_eq_error_iff, unwrap_eq_error_iff, unwrap?_eq_none_iff]
      exact .inl ⟨rfl, hdeclares, harray⟩
    · rw [hfile, load_of_text, parse_eq_error_iff]
      exact .inr ⟨_, _, hbody, hread, rfl⟩

end WhereFilter.Source
