/-
The grammar of JSON texts, with no limit on their depth or on the size of their numbers. The reader keeps
to it: a text that is read is one of the grammar (`textForm_of_read`).
-/
import WhereFilter.Proofs.Json.Containers
import WhereFilter.Proofs.Json.Number

namespace WhereFilter.Json

open WhereFilter.Text

/-! ## The grammar -/

/-- A digit in base sixteen, in either case. -/
def IsHexDigit (c : Char) : Prop := c.isDigit = true ∨ 'a' ≤ c ∧ c ≤ 'f' ∨ 'A' ≤ c ∧ c ≤ 'F'

/-- A character of a string: itself, or an escape with one letter or with a code of 16 bits. -/
inductive CharForm : List Char → Prop
  | plain {c : Char} : c ≠ '"' → c ≠ '\\' → 0x20 ≤ c.toNat → CharForm [c]
  | letter {c : Char} : c ∈ ['"', '\\', '/', 'b', 'f', 'n', 'r', 't'] → CharForm ['\\', c]
  | code {digits : List Char} : digits.length = 4 → (∀ d ∈ digits, IsHexDigit d) → CharForm ('\\' :: 'u' :: digits)

/-- A string from behind its opening quote up to its closing one. -/
inductive StringForm : List Char → Prop
  | close : StringForm ['"']
  | char {form text : List Char} : CharForm form → StringForm text → StringForm (form ++ text)

mutual

/-- A value without gaps around it. -/
inductive ValueForm : List Char → Prop
  | null : ValueForm ['n', 'u', 'l', 'l']
  | yes : ValueForm ['t', 'r', 'u', 'e']
  | no : ValueForm ['f', 'a', 'l', 's', 'e']
  | number (negative : Bool) (t : Numeral) : ValueForm (minus negative ++ t.text)
  | string {text : List Char} : StringForm text → ValueForm ('"' :: text)
  | emptyArray {gap : List Char} : AllGap gap → ValueForm ('[' :: (gap ++ [']']))
  | array {items : List Char} : ItemsForm items → ValueForm ('[' :: (items ++ [']']))
  | emptyObject {gap : List Char} : AllGap gap → ValueForm ('\x7b' :: (gap ++ ['\x7d']))
  | object {members : List Char} : MembersForm members → ValueForm ('\x7b' :: (members ++ ['\x7d']))

/-- A value with gaps around it. -/
inductive TextForm : List Char → Prop
  | around {before value after : List Char} : AllGap before → ValueForm value → AllGap after →
      TextForm (before ++ (value ++ after))

/-- The items of an array, at least one. -/
inductive ItemsForm : List Char → Prop
  | last {item : List Char} : TextForm item → ItemsForm item
  | more {item items : List Char} : TextForm item → ItemsForm items → ItemsForm (item ++ ',' :: items)

/-- A name and its value. -/
inductive MemberForm : List Char → Prop
  | named {before name between value : List Char} : AllGap before → StringForm name → AllGap between →
      TextForm value → MemberForm (before ++ '"' :: (name ++ (between ++ ':' :: value)))

/-- The members of an object, at least one. -/
inductive MembersForm : List Char → Prop
  | last {member : List Char} : MemberForm member → MembersForm member
  | more {member members : List Char} : MemberForm member → MembersForm members →
      MembersForm (member ++ ',' :: members)

end

/-- A value starts with a letter of `null`, `true` or `false`, a quote, a sign, a bracket or a digit. -/
theorem exists_head_of_valueForm {form : List Char} (h : ValueForm form) :
    ∃ c rest, form = c :: rest ∧ (c ∈ ['n', 't', 'f', '"', '-', '[', '\x7b'] ∨ c.isDigit = true) := by
  cases h with
  | number negative t =>
    cases negative with
    | true => exact ⟨'-', t.text, rfl, .inl (by simp)⟩
    | false =>
      obtain ⟨c, whole, hw⟩ := List.exists_cons_of_ne_nil t.whole_ne_nil
      have hc : c.isDigit = true := t.isDigit_whole c (hw ▸ List.mem_cons_self ..)
      refine ⟨c, whole ++ (fractionText t.fraction ++ exponentText t.exponent?), ?_, .inr hc⟩
      show t.text = _
      rw [Numeral.text, hw, List.cons_append]
  | _ => exact ⟨_, _, rfl, .inl (by simp)⟩

/-! ## Gaps -/

theorem exists_gap (text : List Char) : ∃ gap, AllGap gap ∧ text = gap ++ skipGap text :=
  ⟨text.takeWhile isGap, mem_takeWhile, List.takeWhile_append_dropWhile.symm⟩

theorem AllGap.append {a b : List Char} (ha : AllGap a) (hb : AllGap b) : AllGap (a ++ b) := fun c hc =>
  (List.mem_append.1 hc).elim (ha c) (hb c)

theorem TextForm.gap_append {gap text : List Char} (hg : AllGap gap) (h : TextForm text) : TextForm (gap ++ text) := by
  cases h with
  | around hb hv ha =>
    rw [← List.append_assoc]
    exact .around (hg.append hb) hv ha

theorem ItemsForm.gap_append {gap items : List Char} (hg : AllGap gap) (h : ItemsForm items) :
    ItemsForm (gap ++ items) := by
  cases h with
  | last hitem => exact .last (hitem.gap_append hg)
  | more hitem hitems =>
    rw [← List.append_assoc]
    exact .more (hitem.gap_append hg) hitems

theorem MemberForm.gap_append {gap member : List Char} (hg : AllGap gap) (h : MemberForm member) :
    MemberForm (gap ++ member) := by
  cases h with
  | named hb hn hbetween hv =>
    rw [← List.append_assoc]
    exact .named (hg.append hb) hn hbetween hv

theorem MembersForm.gap_append {gap members : List Char} (hg : AllGap gap) (h : MembersForm members) :
    MembersForm (gap ++ members) := by
  cases h with
  | last hmember => exact .last (hmember.gap_append hg)
  | more hmember hmembers =>
    rw [← List.append_assoc]
    exact .more (hmember.gap_append hg) hmembers

/-! ## Strings -/

section Strings

variable {text rest : List Char} {c : Char} {n : Nat}

theorem isHexDigit_of_digit? (h : digit? 16 c = some n) : IsHexDigit c := by
  unfold digit? at h
  by_cases hd : c.isDigit = true
  · exact .inl hd
  by_cases hl : 'a' ≤ c ∧ c ≤ 'f'
  · exact .inr (.inl hl)
  by_cases hu : 'A' ≤ c ∧ c ≤ 'F'
  · exact .inr (.inr hu)
  simp [hd, hl, hu] at h

theorem utf8Size_of_isHexDigit (h : IsHexDigit c) : c.utf8Size = 1 := by
  have hle : c.toNat ≤ 127 := by
    rcases h with h | ⟨-, h⟩ | ⟨-, h⟩
    · simp only [Char.isDigit, ge_iff_le, Bool.and_eq_true, decide_eq_true_eq] at h
      have := UInt32.le_iff_toNat_le.1 h.2
      exact this.trans (by decide)
    · exact (UInt32.le_iff_toNat_le.1 h).trans (by decide)
    · exact (UInt32.le_iff_toNat_le.1 h).trans (by decide)
  exact Char.utf8Size_eq_one_iff.2 (UInt32.le_iff_toNat_le.2 hle)

theorem isHexDigit_of_digitsValue? {digits : List Char} (h : digitsValue? 16 digits = some n) :
    ∀ d ∈ digits, IsHexDigit d := by
  unfold digitsValue? at h
  obtain ⟨values, hv, -⟩ := Option.map_eq_some_iff.1 h
  clear h
  induction digits generalizing values with
  | nil => exact List.forall_mem_nil _
  | cons d digits ih =>
    rw [List.mapM_cons] at hv
    obtain ⟨x, hx, hv⟩ := Option.bind_eq_some_iff.1 hv
    obtain ⟨xs, hxs, -⟩ := Option.bind_eq_some_iff.1 hv
    exact List.forall_mem_cons.2 ⟨isHexDigit_of_digit? hx, ih xs hxs⟩

theorem byteCount_of_isHexDigit {digits : List Char} (h : ∀ d ∈ digits, IsHexDigit d) :
    byteCount digits = digits.length := by
  have hfold : ∀ n, digits.foldl (fun n c => n + c.utf8Size) n = n + digits.length := by
    induction digits with
    | nil => exact fun n => rfl
    | cons d digits ih =>
      obtain ⟨hd, h⟩ := List.forall_mem_cons.1 h
      intro n
      rw [List.foldl_cons, ih h, utf8Size_of_isHexDigit hd, List.length_cons]
      omega
  rw [byteCount, hfold, Nat.zero_add]

/-- A code is four digits in base sixteen. -/
theorem exists_digits_of_fourHex (h : fourHex text = .ok n) :
    ∃ digits, digits.length = 4 ∧ (∀ d ∈ digits, IsHexDigit d) ∧ text = digits ++ text.drop 4 := by
  unfold fourHex at h
  split_ifs at h with hbytes
  cases hv : digitsValue? 16 (text.take 4) with
  | none => rw [hv] at h; cases h
  | some m =>
    have hhex := isHexDigit_of_digitsValue? hv
    rw [byteCount_of_isHexDigit hhex] at hbytes
    refine ⟨text.take 4, ?_, hhex, (List.take_append_drop 4 text).symm⟩
    have := List.length_take_le 4 text
    omega

theorem exists_digits_of_trailingSurrogate (h : trailingSurrogate text = .ok n) :
    ∃ digits, digits.length = 4 ∧ (∀ d ∈ digits, IsHexDigit d) ∧ text = '\\' :: 'u' :: (digits ++ text.drop 6) := by
  unfold trailingSurrogate at h
  split at h
  · cases h
  · rename_i c rest
    split_ifs at h with hc
    split at h
    · cases h
    · rename_i d rest
      split_ifs at h with hd
      cases hn : fourHex rest with
      | error fault => rw [hn] at h; cases h
      | ok m =>
        obtain ⟨digits, hlen, hhex, hrest⟩ := exists_digits_of_fourHex hn
        rw [not_not] at hc hd
        refine ⟨digits, hlen, hhex, ?_⟩
        rw [hc, hd]
        exact congrArg (fun tail => '\\' :: 'u' :: tail) hrest

/-- A code is one escape, or two where it is a leading surrogate. -/
theorem exists_code_of_codeEscape {taken : Nat} (h : codeEscape text = .ok (c, taken)) :
    ∃ code, code.length + 1 = taken ∧ text = code ++ text.drop code.length ∧
      ∀ tail, StringForm tail → StringForm ('\\' :: 'u' :: (code ++ tail)) := by
  unfold codeEscape at h
  cases hn : fourHex text with
  | error fault => rw [hn] at h; cases h
  | ok m =>
    rw [hn] at h
    simp only [bind, Except.bind] at h
    obtain ⟨digits, hlen, hhex, htext⟩ := exists_digits_of_fourHex hn
    split_ifs at h with htrailing hleading
    · cases hs : trailingSurrogate (text.drop 4) with
      | error fault => rw [hs] at h; cases h
      | ok l =>
        rw [hs] at h
        obtain ⟨-, rfl⟩ := Prod.mk.inj (Except.ok.inj h)
        obtain ⟨digits', hlen', hhex', hrest⟩ := exists_digits_of_trailingSurrogate hs
        have hlength : (digits ++ '\\' :: 'u' :: digits').length = 10 := by simp [hlen, hlen']
        refine ⟨digits ++ '\\' :: 'u' :: digits', by rw [hlength], ?_, fun tail ht => ?_⟩
        · rw [List.drop_drop] at hrest
          rw [hlength, List.append_assoc]
          exact htext.trans (congrArg (digits ++ ·) hrest)
        · rw [List.append_assoc]
          exact .char (.code hlen hhex) (.char (.code hlen' hhex') ht)
    · cases h
      exact ⟨digits, by rw [hlen], by rw [hlen]; exact htext, fun tail ht => .char (.code hlen hhex) ht⟩

theorem mem_of_letterEscape? {x : Char} (h : letterEscape? c = some x) :
    c ∈ ['"', '\\', '/', 'b', 'f', 'n', 'r', 't'] := by
  unfold letterEscape? at h
  split at h
  case h_9 => cases h
  all_goals simp

/-- What an escape takes makes a string longer at its front. -/
theorem exists_code_of_escape {taken : Nat} (h : escape text = .ok (c, taken)) :
    ∃ code, code.length = taken ∧ text = code ++ text.drop taken ∧
      ∀ tail, StringForm tail → StringForm ('\\' :: (code ++ tail)) := by
  unfold escape at h
  split at h
  · cases h
  · rename_i d rest
    split_ifs at h with hd
    · obtain ⟨code, rfl, hrest, hform⟩ := exists_code_of_codeEscape h
      refine ⟨'u' :: code, rfl, ?_, hform⟩
      rw [hd]
      exact congrArg ('u' :: ·) hrest
    · split at h
      · rename_i x hletter
        cases h
        exact ⟨[d], rfl, rfl, fun tail ht => .char (.letter (mem_of_letterEscape? hletter)) ht⟩
      · cases h

theorem exists_stringForm {before chars : List Char} (h : stringFrom 0 text before = .ok (chars, rest)) :
    ∃ form, StringForm form ∧ text = form ++ rest := by
  induction hn : text.length using Nat.strongRecOn generalizing text before with
  | ind n ih =>
    cases text with
    | nil => cases h
    | cons c text =>
      rw [List.length_cons] at hn
      rw [stringFrom] at h
      split_ifs at h with hquote hbackslash hcontrol
      · cases h
        exact ⟨['"'], .close, by rw [hquote]; rfl⟩
      · split at h
        · cases h
        · rename_i x taken hescape
          obtain ⟨code, rfl, htext, hform⟩ := exists_code_of_escape hescape
          rw [htext, stringFrom_skip] at h
          obtain ⟨form, hf, hbehind⟩ := ih _ (by rw [List.length_drop]; omega) h rfl
          refine ⟨'\\' :: (code ++ form), hform form hf, ?_⟩
          rw [hbackslash, List.cons_append, List.append_assoc, ← hbehind, ← htext]
      · obtain ⟨form, hf, hbehind⟩ := ih _ (by omega) h rfl
        exact ⟨[c] ++ form, .char (.plain hquote hbackslash (Nat.le_of_not_lt hcontrol)) hf, by rw [hbehind]; rfl⟩

/-- A string that is read is one of the grammar. -/
theorem exists_stringForm_of_stringBody {s : String} (h : stringBody text = .ok (s, rest)) :
    ∃ form, StringForm form ∧ text = form ++ rest := by
  unfold stringBody at h
  cases hs : stringFrom 0 text [] with
  | error fault => rw [hs] at h; cases h
  | ok parsed =>
    rw [hs] at h
    cases h
    exact exists_stringForm hs

end Strings

/-! ## Values without parts -/

section Scalars

variable {text rest : List Char}

theorem eq_append_of_word {letters : List Char} (h : word letters text = .ok rest) : text = letters ++ rest := by
  induction letters generalizing text with
  | nil => cases h; rfl
  | cons letter letters ih =>
    cases text with
    | nil => cases h
    | cons c text =>
      rw [word] at h
      split_ifs at h with hc
      rw [hc, ih h, List.cons_append]

theorem exists_valueForm_of_word {first : Char} {letters : List Char} {j found : Json}
    (hform : ValueForm (first :: letters))
    (h : (do return (found, ← word letters text) : Except Fault (Parsed Json)) = .ok (j, rest)) :
    ∃ form, ValueForm form ∧ first :: text = form ++ rest := by
  cases hw : word letters text with
  | error fault => rw [hw] at h; cases h
  | ok behind =>
    rw [hw] at h
    cases h
    exact ⟨_, hform, by rw [eq_append_of_word hw]; rfl⟩

theorem exists_valueForm_of_number {negative : Bool} {j : Json}
    (h : (do let (n, rest) ← unsignedNumber negative text; return (Json.number n, rest) : Except Fault (Parsed Json)) =
      .ok (j, rest)) : ∃ form, ValueForm form ∧ minus negative ++ text = form ++ rest := by
  cases hn : unsignedNumber negative text with
  | error fault => rw [hn] at h; cases h
  | ok parsed =>
    rw [hn] at h
    cases h
    obtain ⟨t, rfl⟩ := exists_numeral hn
    exact ⟨_, .number negative t, (List.append_assoc ..).symm⟩

theorem exists_valueForm_of_scalar {j : Json} (h : scalar text = .ok (j, rest)) :
    ∃ form, ValueForm form ∧ text = form ++ rest := by
  unfold scalar at h
  split at h
  · exact exists_valueForm_of_word .null h
  · exact exists_valueForm_of_word .yes h
  · exact exists_valueForm_of_word .no h
  · rename_i text
    cases hs : stringBody text with
    | error fault => rw [hs] at h; cases h
    | ok parsed =>
      rw [hs] at h
      cases h
      obtain ⟨form, hf, rfl⟩ := exists_stringForm_of_stringBody hs
      exact ⟨_, .string hf, rfl⟩
  · exact exists_valueForm_of_number h
  · split_ifs at h
    exact exists_valueForm_of_number h
  · cases h

end Scalars

/-! ## Containers -/

theorem skipGap_of_colon {text rest : List Char} (h : colon text = .ok rest) : skipGap text = ':' :: rest := by
  unfold colon at h
  split at h
  · cases h
  · rename_i hskip
    cases h
    exact hskip
  · cases h

/-- What the reader takes off a text is a value, perhaps with a gap before it. -/
def TakesValues {α : Type} (read : Reader α) : Prop :=
  ∀ text x rest, read text = .ok (x, rest) →
    ∃ gap form, AllGap gap ∧ ValueForm form ∧ text = gap ++ (form ++ rest)

section Containers

variable {α τ : Type} {read : Reader α} (hread : TakesValues read) {text rest : List Char}

include hread

theorem exists_itemsForm : ∀ {width : Nat} {text : List Char} {before xs : List α},
    itemsFrom read width text before = .ok (xs, rest) → ∃ items, ItemsForm items ∧ text = items ++ ']' :: rest
  | 0, _, _, _, h => by cases h
  | width + 1, text, before, xs, h => by
    obtain ⟨x, behind, hx, hbehind⟩ := itemsFrom_eq_ok_iff.1 h
    obtain ⟨gap, form, hg, hf, htext⟩ := hread _ _ _ hx
    obtain ⟨after, ha, hafter⟩ := exists_gap behind
    have hitem : TextForm (gap ++ (form ++ after)) := .around hg hf ha
    rcases hbehind with ⟨hclosed, -⟩ | ⟨next, c, tail, hcomma, hnext, -, hothers⟩
    · refine ⟨_, .last hitem, ?_⟩
      rw [htext, hafter, hclosed]
      simp only [List.append_assoc]
    · obtain ⟨items, hitems, htail⟩ := exists_itemsForm hothers
      obtain ⟨gap', hg', hgap'⟩ := exists_gap next
      refine ⟨_, .more hitem (hitems.gap_append hg'), ?_⟩
      rw [htext, hafter, hcomma, hgap', hnext, htail]
      simp only [List.append_assoc, List.cons_append]

theorem exists_valueForm_of_arrayBody {width : Nat} {xs : List α} (h : arrayBody read width text = .ok (xs, rest)) :
    ∃ form, ValueForm form ∧ '[' :: text = form ++ rest := by
  obtain ⟨gap, hg, htext⟩ := exists_gap text
  rcases arrayBody_eq_ok_iff.1 h with ⟨hclosed, -⟩ | ⟨c, tail, hopen, -, h⟩
  · refine ⟨_, .emptyArray hg, ?_⟩
    rw [htext, hclosed]
    simp only [List.cons_append, List.append_assoc, List.nil_append]
  · obtain ⟨items, hitems, htail⟩ := exists_itemsForm hread h
    refine ⟨_, .array (hitems.gap_append hg), ?_⟩
    rw [htext, hopen, htail]
    simp only [List.cons_append, List.append_assoc, List.nil_append]

theorem exists_membersForm {put : String → α → τ → τ} : ∀ {width : Nat} {text : List Char} {before table : τ},
    tableFrom put read width text before = .ok (table, rest) →
      ∃ members, MembersForm members ∧ '"' :: text = members ++ '\x7d' :: rest
  | 0, _, _, _, h => by cases h
  | width + 1, text, before, table, h => by
    obtain ⟨name, behindName, behindColon, x, behind, hname, hcolon, hx, hbehind⟩ := tableFrom_eq_ok_iff.1 h
    obtain ⟨nameForm, hn, htext⟩ := exists_stringForm_of_stringBody hname
    obtain ⟨between, hb, hbetween⟩ := exists_gap behindName
    obtain ⟨gap, form, hg, hf, hvalue⟩ := hread _ _ _ hx
    obtain ⟨after, ha, hafter⟩ := exists_gap behind
    have hmember : MemberForm ([] ++ '"' :: (nameForm ++ (between ++ ':' :: (gap ++ (form ++ after))))) :=
      .named allGap_nil hn hb (.around hg hf ha)
    rcases hbehind with ⟨hclosed, -⟩ | ⟨next, body, hcomma, hquote, hothers⟩
    · refine ⟨_, .last hmember, ?_⟩
      rw [htext, hbetween, skipGap_of_colon hcolon, hvalue, hafter, hclosed]
      simp only [List.append_assoc, List.cons_append, List.nil_append]
    · obtain ⟨members, hmembers, htail⟩ := exists_membersForm hothers
      obtain ⟨gap', hg', hgap'⟩ := exists_gap next
      refine ⟨_, .more hmember (hmembers.gap_append hg'), ?_⟩
      rw [htext, hbetween, skipGap_of_colon hcolon, hvalue, hafter, hcomma, hgap', hquote, htail]
      simp only [List.append_assoc, List.cons_append, List.nil_append]

theorem exists_valueForm_of_tableBody {empty : τ} {put : String → α → τ → τ} {width : Nat} {table : τ}
    (h : tableBody empty put read width text = .ok (table, rest)) :
    ∃ form, ValueForm form ∧ '\x7b' :: text = form ++ rest := by
  obtain ⟨gap, hg, htext⟩ := exists_gap text
  rcases tableBody_eq_ok_iff.1 h with ⟨hclosed, -⟩ | ⟨body, hquote, h⟩
  · refine ⟨_, .emptyObject hg, ?_⟩
    rw [htext, hclosed]
    simp only [List.cons_append, List.append_assoc, List.nil_append]
  · obtain ⟨members, hmembers, hbody⟩ := exists_membersForm hread h
    refine ⟨_, .object (hmembers.gap_append hg), ?_⟩
    rw [htext, hquote, hbody]
    simp only [List.cons_append, List.append_assoc, List.nil_append]

end Containers

/-! ## Values -/

/-- However deep values may stand in one another, what is read is one of the grammar. -/
theorem takesValues_value (width nesting : Nat) : TakesValues (value width nesting) := by
  induction nesting with
  | zero =>
    intro text j rest h
    obtain ⟨gap, hg, htext⟩ := exists_gap text
    unfold value at h
    split at h
    · cases h
    · cases h
    · obtain ⟨form, hf, hbody⟩ := exists_valueForm_of_scalar h
      exact ⟨gap, form, hg, hf, by rw [← hbody, ← htext]⟩
  | succ nesting ih =>
    intro text j rest h
    obtain ⟨gap, hg, htext⟩ := exists_gap text
    unfold value at h
    split at h
    · rename_i body hopen
      cases ha : arrayBody (value width nesting) width body with
      | error fault => simp only [ha] at h; cases h
      | ok parsed =>
        simp only [ha] at h
        cases h
        obtain ⟨form, hf, hbody⟩ := exists_valueForm_of_arrayBody ih ha
        exact ⟨gap, form, hg, hf, by rw [← hbody, ← hopen, ← htext]⟩
    · rename_i body hopen
      cases ho : objectBody (value width nesting) width body with
      | error fault => simp only [ho] at h; cases h
      | ok parsed =>
        simp only [ho] at h
        cases h
        obtain ⟨form, hf, hbody⟩ := exists_valueForm_of_tableBody ih ho
        exact ⟨gap, form, hg, hf, by rw [← hbody, ← hopen, ← htext]⟩
    · obtain ⟨form, hf, hbody⟩ := exists_valueForm_of_scalar h
      exact ⟨gap, form, hg, hf, by rw [← hbody, ← htext]⟩

/-- A text that is read is one of the grammar. -/
theorem textForm_of_read {text : String} {j : Json} (h : read text = .ok j) : TextForm text.toList := by
  obtain ⟨rest, h, hend⟩ := readAll_eq_ok_iff.1 h
  obtain ⟨gap, form, hg, hf, htext⟩ := takesValues_value _ _ _ _ _ h
  have hrest : AllGap rest := by
    obtain ⟨after, ha, hrest⟩ := exists_gap rest
    rw [hend, List.append_nil] at hrest
    exact hrest ▸ ha
  rw [htext]
  exact .around hg hf hrest

end WhereFilter.Json
