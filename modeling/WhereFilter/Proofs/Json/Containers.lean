/-
Reading arrays and objects part by part. Texts that are read as items, with commas and gaps between
them, are read as the array of these items (`arrayBody_texts`); likewise for members with names that
differ (`objectBody_texts`). In reverse, what a container is read as holds only what its parts were read
as (`forall_of_arrayBody`, `forall_of_objectBody`), and the names of an object differ.
-/
import WhereFilter.Proofs.Json.Numeral
import WhereFilter.Proofs.Json.Steps
import WhereFilter.Proofs.Json.Strings

namespace WhereFilter.Json

open WhereFilter.Text

/-! ## Gaps -/

/-- The text consists of characters that may stand between tokens. -/
def AllGap (text : List Char) : Prop := ∀ c ∈ text, isGap c = true

theorem allGap_nil : AllGap [] := List.forall_mem_nil _

theorem skipGap_append {gap text : List Char} (hg : AllGap gap) (ht : ∀ c ∈ text.head?, isGap c = false) :
    skipGap (gap ++ text) = text := dropWhile_run_append hg ht

theorem skipGap_of_head {text : List Char} (ht : ∀ c ∈ text.head?, isGap c = false) : skipGap text = text :=
  dropWhile_of_head ht

theorem skipGap_cons {c : Char} (hc : isGap c = false) (text : List Char) : skipGap (c :: text) = c :: text :=
  skipGap_of_head (by simpa using hc)

theorem endsNumber_cons {c : Char} (hc : isGap c = true ∨ c = ',' ∨ c = ']' ∨ c = '\x7d') (text : List Char) :
    EndsNumber (c :: text) := by
  intro x hx
  obtain rfl : c = x := by simpa using hx
  rcases hc with hc | rfl | rfl | rfl
  · simp only [isGap, Bool.or_eq_true, beq_iff_eq] at hc
    rcases hc with ((rfl | rfl) | rfl) | rfl <;> decide
  · decide
  · decide
  · decide

theorem endsNumber_gap {gap : List Char} (hg : AllGap gap) {c : Char} (hc : c = ',' ∨ c = ']' ∨ c = '\x7d')
    (text : List Char) : EndsNumber (gap ++ c :: text) := by
  cases gap with
  | nil => exact endsNumber_cons (.inr hc) text
  | cons b gap => exact endsNumber_cons (.inl (hg b (List.mem_cons_self ..))) _

/-- The text starts with the first character of a value. -/
def StartsValue (text : List Char) : Prop := ∃ c rest, text = c :: rest ∧ isGap c = false ∧ c ≠ ']'

namespace StartsValue

variable {text : List Char}

theorem append (h : StartsValue text) (rest : List Char) : StartsValue (text ++ rest) := by
  obtain ⟨c, text, rfl, hc⟩ := h
  exact ⟨c, text ++ rest, rfl, hc⟩

theorem head (h : StartsValue text) : ∀ c ∈ text.head?, isGap c = false := by
  obtain ⟨c, text, rfl, hc, -⟩ := h
  simpa using hc

theorem length_pos (h : StartsValue text) : 0 < text.length := by
  obtain ⟨c, text, rfl, -⟩ := h
  exact Nat.succ_pos _

end StartsValue

/-! ## Arrays -/

section Arrays

variable {α β : Type} {item : Reader α} {text : β → List Char} {f : β → α} {gap closing rest : List Char}

theorem startsValue_texts (gap : List Char) {x : β} (xs : List β) (hx : StartsValue (text x)) :
    StartsValue ((',' :: gap).intercalate ((x :: xs).map text)) := by
  cases xs with
  | nil => simpa using hx
  | cons y ys =>
    rw [List.map_cons, List.map_cons, List.intercalate_cons_cons, List.append_assoc]
    exact hx.append _

/-- Behind an item with a comma the reader goes on at the next item. -/
theorem itemsFrom_next (hgap : AllGap gap) {behind from' : List Char} (hbehind : StartsValue behind) {x : α}
    (hitem : item from' = .ok (x, ',' :: (gap ++ behind))) (width : Nat) (before : List α) :
    itemsFrom item (width + 1) from' before = itemsFrom item width behind (x :: before) := by
  have hskip : skipGap (gap ++ behind) = behind := skipGap_append hgap hbehind.head
  obtain ⟨c, tail, rfl, -, hc⟩ := hbehind
  simp only [itemsFrom, hitem, bind, Except.bind, skipGap_cons (show isGap ',' = false by decide), hskip]
  split
  · rename_i h; cases h
  · rename_i h; cases h; exact absurd rfl hc
  · rfl

/-- Two items or more are the first one, a comma and the others. -/
theorem texts_cons_cons (gap behind : List Char) (x y : β) (ys : List β) :
    (',' :: gap).intercalate ((x :: y :: ys).map text) ++ behind =
      text x ++ ',' :: (gap ++ ((',' :: gap).intercalate ((y :: ys).map text) ++ behind)) := by
  simp [List.intercalate_cons_cons]

theorem itemsFrom_texts (hgap : AllGap gap) (hclosing : AllGap closing) : ∀ (x : β) (xs : List β) (width : Nat)
    (before : List α), xs.length < width → (∀ y ∈ x :: xs, StartsValue (text y)) →
    (∀ y ∈ x :: xs, ∀ rest, EndsNumber rest → item (text y ++ rest) = .ok (f y, rest)) →
    itemsFrom item width ((',' :: gap).intercalate ((x :: xs).map text) ++ (closing ++ ']' :: rest)) before =
      .ok (before.reverse ++ (x :: xs).map f, rest)
  | x, [], 0, before, hw, _, _ => by simp at hw
  | x, [], width + 1, before, _, _, hread => by
    have hitem := hread x (List.mem_cons_self ..) _ (endsNumber_gap hclosing (.inr (.inl rfl)) rest)
    have hskip : skipGap (closing ++ ']' :: rest) = ']' :: rest := skipGap_append hclosing (by simp [isGap])
    simp [itemsFrom, hitem, hskip, bind, Except.bind, pure, Except.pure]
  | x, y :: ys, 0, before, hw, _, _ => by simp at hw
  | x, y :: ys, width + 1, before, hw, hstart, hread => by
    have ih := itemsFrom_texts hgap hclosing y ys width (f x :: before) (by simpa using hw)
      (fun z hz => hstart z (List.mem_cons_of_mem _ hz)) (fun z hz => hread z (List.mem_cons_of_mem _ hz))
    have hbehind := (startsValue_texts gap ys (hstart y (by simp))).append (closing ++ ']' :: rest)
    rw [texts_cons_cons,
      itemsFrom_next hgap hbehind (hread x (List.mem_cons_self ..) _ (endsNumber_cons (.inr (.inl rfl)) _)), ih]
    simp

/-- The text is refused for one and the same cause, whatever ends it. -/
def Refuses (item : Reader α) (cause : Cause) (text : List Char) : Prop :=
  ∀ rest, EndsNumber rest → ∃ left, item (text ++ rest) = .error ⟨cause, left⟩

/-- Items that are read one after another, up to one that is refused. -/
theorem itemsFrom_refused (hgap : AllGap gap) (hclosing : AllGap closing) {cause : Cause} : ∀ (x : β) (xs : List β)
    (width : Nat) (before : List α), xs.length < width → (∀ y ∈ x :: xs, StartsValue (text y)) →
    (∀ y ∈ x :: xs, ¬ Refuses item cause (text y) → ∀ rest, EndsNumber rest → item (text y ++ rest) = .ok (f y, rest)) →
    (∃ y ∈ x :: xs, Refuses item cause (text y)) →
    ∃ left, itemsFrom item width ((',' :: gap).intercalate ((x :: xs).map text) ++ (closing ++ ']' :: rest)) before =
      .error ⟨cause, left⟩
  | x, xs, 0, before, hw, _, _, _ => by simp at hw
  | x, [], width + 1, before, _, _, _, hrefused => by
    obtain ⟨y, hy, hrefused⟩ := hrefused
    rw [List.mem_singleton.1 hy] at hrefused
    obtain ⟨left, hitem⟩ := hrefused _ (endsNumber_gap hclosing (.inr (.inl rfl)) rest)
    exact ⟨left, by simp [itemsFrom, hitem, bind, Except.bind]⟩
  | x, y :: ys, width + 1, before, hw, hstart, hread, hrefused => by
    rw [texts_cons_cons]
    by_cases hx : Refuses item cause (text x)
    · generalize gap ++ ((',' :: gap).intercalate ((y :: ys).map text) ++ (closing ++ ']' :: rest)) = behind
      obtain ⟨left, hitem⟩ := hx (',' :: behind) (endsNumber_cons (.inr (.inl rfl)) _)
      exact ⟨left, by simp only [itemsFrom, hitem, bind, Except.bind]⟩
    · have hbehind := (startsValue_texts gap ys (hstart y (by simp))).append (closing ++ ']' :: rest)
      rw [itemsFrom_next hgap hbehind (hread x (List.mem_cons_self ..) hx _ (endsNumber_cons (.inr (.inl rfl)) _))]
      refine itemsFrom_refused hgap hclosing y ys width (f x :: before) (by simpa using hw)
        (fun z hz => hstart z (List.mem_cons_of_mem _ hz)) (fun z hz => hread z (List.mem_cons_of_mem _ hz)) ?_
      obtain ⟨z, hz, hrefused⟩ := hrefused
      rcases List.mem_cons.1 hz with rfl | hz
      · exact absurd hrefused hx
      · exact ⟨z, hz, hrefused⟩

/-- Behind its bracket an array with items goes on with the first of them. -/
theorem arrayBody_of_startsValue {opening items : List Char} (hopening : AllGap opening) (h : StartsValue items)
    (width : Nat) :
    arrayBody item width (opening ++ items) = itemsFrom item width items [] := by
  rw [arrayBody, skipGap_append hopening h.head]
  obtain ⟨c, tail, rfl, -, hc⟩ := h
  split
  · rename_i h; cases h
  · rename_i h; cases h; exact absurd rfl hc
  · rfl

theorem arrayBody_texts (hgap : AllGap gap) (hclosing : AllGap closing)
    {opening : List Char} (hopening : AllGap opening)
    {xs : List β} {width : Nat} (hw : xs.length < width) (h0 : xs ≠ []) (hstart : ∀ y ∈ xs, StartsValue (text y))
    (hread : ∀ y ∈ xs, ∀ rest, EndsNumber rest → item (text y ++ rest) = .ok (f y, rest)) :
    arrayBody item width (opening ++ ((',' :: gap).intercalate (xs.map text) ++ (closing ++ ']' :: rest))) =
      .ok (xs.map f, rest) := by
  obtain ⟨x, xs, rfl⟩ := List.exists_cons_of_ne_nil h0
  rw [arrayBody_of_startsValue hopening ((startsValue_texts gap xs (hstart x (by simp))).append _)]
  exact itemsFrom_texts hgap hclosing x xs width [] (by simp at hw; omega) hstart hread

/-- An array in which an item is refused, and others for no other cause, is refused for that cause. -/
theorem arrayBody_refused (hgap : AllGap gap) (hclosing : AllGap closing)
    {opening : List Char} (hopening : AllGap opening)
    {cause : Cause} {xs : List β} {width : Nat} (hw : xs.length < width) (hstart : ∀ y ∈ xs, StartsValue (text y))
    (hread : ∀ y ∈ xs, ¬ Refuses item cause (text y) → ∀ rest, EndsNumber rest →
      item (text y ++ rest) = .ok (f y, rest))
    (hrefused : ∃ y ∈ xs, Refuses item cause (text y)) :
    ∃ left, arrayBody item width (opening ++ ((',' :: gap).intercalate (xs.map text) ++ (closing ++ ']' :: rest))) =
      .error ⟨cause, left⟩ := by
  cases xs with
  | nil => simp at hrefused
  | cons x xs =>
    rw [arrayBody_of_startsValue hopening ((startsValue_texts gap xs (hstart x (by simp))).append _)]
    exact itemsFrom_refused hgap hclosing x xs width [] (by simp at hw; omega) hstart hread hrefused

end Arrays

/-! ## Objects -/

theorem names_insertMember {α : Type} (name : String) (x : α) (members : List (String × α)) :
    (insertMember name x members).map Prod.fst =
      if name ∈ members.map Prod.fst then members.map Prod.fst else members.map Prod.fst ++ [name] := by
  induction members with
  | nil => simp [insertMember]
  | cons member rest ih =>
    obtain ⟨other, old⟩ := member
    unfold insertMember
    by_cases h : other = name
    · simp [h]
    · rw [if_neg h, List.map_cons, ih]
      by_cases hmem : name ∈ rest.map Prod.fst
      · simp [hmem]
      · simp [hmem, Ne.symm h]

/-- No name occurs twice, as a name that is there keeps its place. -/
theorem nodup_names_insertMember {α : Type} (name : String) (x : α) {members : List (String × α)}
    (h : (members.map Prod.fst).Nodup) : ((insertMember name x members).map Prod.fst).Nodup := by
  rw [names_insertMember]
  split_ifs with hmem
  · exact h
  · exact List.nodup_append.2 ⟨h, by simp, fun a ha b hb hab => hmem ((hab.trans (List.mem_singleton.1 hb)) ▸ ha)⟩

/-- A new name is added at the end. -/
theorem insertMember_of_not_mem {α : Type} {name : String} (x : α) {members : List (String × α)}
    (h : name ∉ members.map Prod.fst) : insertMember name x members = members ++ [(name, x)] := by
  induction members with
  | nil => rfl
  | cons member rest ih =>
    obtain ⟨other, old⟩ := member
    rw [List.map_cons, List.mem_cons, not_or] at h
    rw [insertMember, if_neg (Ne.symm h.1), ih h.2, List.cons_append]

theorem mem_insertMember {α : Type} {name : String} {x : α} {members : List (String × α)} :
    ∀ member ∈ insertMember name x members, member = (name, x) ∨ member ∈ members := by
  induction members with
  | nil => simp [insertMember]
  | cons first rest ih =>
    obtain ⟨other, old⟩ := first
    intro member hm
    unfold insertMember at hm
    split_ifs at hm with h
    · rcases List.mem_cons.1 hm with rfl | hm
      · exact .inl rfl
      · exact .inr (List.mem_cons_of_mem _ hm)
    · rcases List.mem_cons.1 hm with rfl | hm
      · exact .inr (List.mem_cons_self ..)
      · exact (ih member hm).imp id (List.mem_cons_of_mem _)

section Objects

variable {α β : Type} {value : Reader α} {text : β → List Char} {name : β → String} {f : β → α}
  {gap closing rest : List Char}

/-- The text of a member behind the opening quote of its name. -/
def memberBody (name : String) (value : List Char) : List Char :=
  name.toList.flatMap escapedChar ++ '"' :: ':' :: ' ' :: value

/-- The text of a member. -/
def memberText (name : String) (value : List Char) : List Char := '"' :: memberBody name value

theorem memberText_eq (name : String) (value : List Char) :
    memberText name value = stringText name ++ ':' :: ' ' :: value := by
  simp [memberText, memberBody, stringText]

theorem startsValue_memberText (name : String) (value : List Char) : StartsValue (memberText name value) :=
  ⟨'"', _, rfl, by decide, by decide⟩

theorem membersFrom_last {name : String} {text rest rest' : List Char} {width : Nat} {x : α}
    {before : List (String × α)}
    (h : value (' ' :: text) = .ok (x, rest')) (hname : name ∉ before.map Prod.fst)
    (hrest : skipGap rest' = '\x7d' :: rest) :
    membersFrom value (width + 1) (memberBody name text) before = .ok (before ++ [(name, x)], rest) := by
  simp only [membersFrom, tableFrom, memberBody, stringBody_escaped, bind, Except.bind, colon,
    skipGap_cons (show isGap ':' = false by decide), h, insertMember_of_not_mem x hname, hrest]
  rfl

theorem membersFrom_next {name : String} {text rest rest' body : List Char} {width : Nat} {x : α}
    {before : List (String × α)} (h : value (' ' :: text) = .ok (x, rest')) (hname : name ∉ before.map Prod.fst)
    (hrest : skipGap rest' = ',' :: rest) (hbody : skipGap rest = '"' :: body) :
    membersFrom value (width + 1) (memberBody name text) before =
      membersFrom value width body (before ++ [(name, x)]) := by
  simp only [membersFrom, tableFrom, memberBody, stringBody_escaped, bind, Except.bind, colon,
    skipGap_cons (show isGap ':' = false by decide), h, insertMember_of_not_mem x hname, hrest, hbody]

theorem not_mem_of_nodup {β : Type} {before : List β} {x : β} {xs : List β} (h : (before ++ x :: xs).Nodup) :
    x ∉ before :=
  fun hx => (List.nodup_append.1 h).2.2 x hx x (List.mem_cons_self ..) rfl

theorem exists_memberTexts (name : β → String) (text : β → List Char) (gap behind : List Char) (y : β) (ys : List β) :
    ∃ body, (',' :: gap).intercalate ((y :: ys).map fun y => memberText (name y) (text y)) ++ behind = '"' :: body := by
  cases ys with
  | nil => exact ⟨_, by simp [memberText]; rfl⟩
  | cons z zs =>
    rw [List.map_cons, List.map_cons, List.intercalate_cons_cons, memberText]
    exact ⟨_, rfl⟩

theorem membersFrom_texts (hgap : AllGap gap) (hclosing : AllGap closing) : ∀ (x : β) (xs : List β) (width : Nat)
    (before : List (String × α)) (body : List Char), xs.length < width →
    (before.map Prod.fst ++ (x :: xs).map name).Nodup →
    (∀ y ∈ x :: xs, ∀ rest, EndsNumber rest → value (' ' :: (text y ++ rest)) = .ok (f y, rest)) →
    (',' :: gap).intercalate ((x :: xs).map fun y => memberText (name y) (text y)) ++ (closing ++ '\x7d' :: rest) =
      '"' :: body →
    membersFrom value width body before = .ok (before ++ (x :: xs).map fun y => (name y, f y), rest)
  | x, xs, 0, before, body, hw, _, _, _ => by simp at hw
  | x, [], width + 1, before, body, _, hnames, hread, hbody => by
    have hvalue := hread x (List.mem_cons_self ..) _ (endsNumber_gap hclosing (.inr (.inr rfl)) rest)
    have hskip : skipGap (closing ++ '\x7d' :: rest) = '\x7d' :: rest := skipGap_append hclosing (by simp [isGap])
    obtain rfl : memberBody (name x) (text x ++ (closing ++ '\x7d' :: rest)) = body := by
      simpa [memberText, memberBody] using hbody
    exact membersFrom_last hvalue (not_mem_of_nodup hnames) hskip
  | x, y :: ys, width + 1, before, body, hw, hnames, hread, hbody => by
    obtain ⟨body', hbody'⟩ := exists_memberTexts name text gap (closing ++ '\x7d' :: rest) y ys
    have hvalue := hread x (List.mem_cons_self ..) _ (endsNumber_cons (.inr (.inl rfl)) (gap ++ '"' :: body'))
    obtain rfl : memberBody (name x) (text x ++ ',' :: (gap ++ '"' :: body')) = body := by
      have hfirst : '"' :: memberBody (name x) (text x ++ ',' :: (gap ++ '"' :: body')) = '"' :: body := by
        rw [← hbody', ← hbody]
        simp [List.intercalate_cons_cons, memberText, memberBody]
      exact (List.cons.inj hfirst).2
    have hskip : skipGap (gap ++ '"' :: body') = '"' :: body' := skipGap_append hgap (by simp [isGap])
    rw [membersFrom_next hvalue (not_mem_of_nodup hnames) (skipGap_cons (by decide) _) hskip]
    have ih := membersFrom_texts hgap hclosing y ys width (before ++ [(name x, f x)]) body' (by simpa using hw)
      (by simpa using hnames) (fun z hz => hread z (List.mem_cons_of_mem _ hz)) hbody'
    rw [ih]
    simp

theorem objectBody_texts (hgap : AllGap gap) (hclosing : AllGap closing)
    {opening : List Char} (hopening : AllGap opening)
    {xs : List β} {width : Nat} (hw : xs.length < width) (h0 : xs ≠ []) (hnames : (xs.map name).Nodup)
    (hread : ∀ y ∈ xs, ∀ rest, EndsNumber rest → value (' ' :: (text y ++ rest)) = .ok (f y, rest)) :
    objectBody value width
        (opening ++ ((',' :: gap).intercalate (xs.map fun y => memberText (name y) (text y)) ++
          (closing ++ '\x7d' :: rest))) =
      .ok (xs.map fun y => (name y, f y), rest) := by
  obtain ⟨x, xs, rfl⟩ := List.exists_cons_of_ne_nil h0
  obtain ⟨body, hbody⟩ := exists_memberTexts name text gap (closing ++ '\x7d' :: rest) x xs
  have hmembers := membersFrom_texts hgap hclosing x xs width [] body (by simp at hw; omega) (by simpa using hnames)
    hread hbody
  have hskip : skipGap (opening ++ '"' :: body) = '"' :: body := skipGap_append hopening (by simp [isGap])
  rw [hbody, objectBody, tableBody, hskip]
  exact hmembers

end Objects

/-! ## What containers hold -/

section Parts

variable {α : Type} {read : Reader α} {P : α → Prop} (hread : ∀ text x rest, read text = .ok (x, rest) → P x)

include hread

theorem forall_of_itemsFrom : ∀ {width : Nat} {text rest : List Char} {before xs : List α}, (∀ x ∈ before, P x) →
    itemsFrom read width text before = .ok (xs, rest) → ∀ x ∈ xs, P x
  | 0, _, _, _, _, _, h => by cases h
  | width + 1, text, rest, before, xs, hbefore, h => by
    obtain ⟨x, behind, hx, h⟩ := itemsFrom_eq_ok_iff.1 h
    have hall : ∀ y ∈ x :: before, P y := List.forall_mem_cons.2 ⟨hread _ _ _ hx, hbefore⟩
    rcases h with ⟨-, rfl⟩ | ⟨next, c, tail, -, -, -, h⟩
    · exact fun y hy => hall y (List.mem_reverse.1 hy)
    · exact forall_of_itemsFrom hall h

theorem forall_of_arrayBody {width : Nat} {text rest : List Char} {xs : List α}
    (h : arrayBody read width text = .ok (xs, rest)) : ∀ x ∈ xs, P x := by
  rcases arrayBody_eq_ok_iff.1 h with ⟨-, rfl⟩ | ⟨c, tail, -, -, h⟩
  · simp
  · exact forall_of_itemsFrom hread (by simp) h

theorem forall_of_membersFrom : ∀ {width : Nat} {text rest : List Char} {before members : List (String × α)},
    (before.map Prod.fst).Nodup → (∀ m ∈ before, P m.2) → membersFrom read width text before = .ok (members, rest) →
    (members.map Prod.fst).Nodup ∧ ∀ m ∈ members, P m.2
  | 0, _, _, _, _, _, _, h => by cases h
  | width + 1, text, rest, before, members, hnames, hbefore, h => by
    unfold membersFrom at h
    obtain ⟨name, behindName, behindColon, x, behind, -, -, hx, h⟩ := tableFrom_eq_ok_iff.1 h
    have hnames' := nodup_names_insertMember name x hnames
    have hall : ∀ m ∈ insertMember name x before, P m.2 := fun m hm => by
      rcases mem_insertMember m hm with rfl | hm
      exacts [hread _ _ _ hx, hbefore m hm]
    rcases h with ⟨-, rfl⟩ | ⟨next, body, -, -, h⟩
    · exact ⟨hnames', hall⟩
    · exact forall_of_membersFrom hnames' hall h

theorem forall_of_objectBody {width : Nat} {text rest : List Char} {members : List (String × α)}
    (h : objectBody read width text = .ok (members, rest)) :
    (members.map Prod.fst).Nodup ∧ ∀ m ∈ members, P m.2 := by
  unfold objectBody at h
  rcases tableBody_eq_ok_iff.1 h with ⟨-, rfl⟩ | ⟨body, -, h⟩
  · simp
  · exact forall_of_membersFrom hread (by simp) (by simp) h

end Parts

end WhereFilter.Json
