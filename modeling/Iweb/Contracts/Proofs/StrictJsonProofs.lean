import Iweb.Contracts.Proofs.JsonLeafProofs

/-!
# The strict reader against the grammar

The reader accepts exactly the texts of the grammar and gives the value that the text says. The depth of the reader
bounds the nesting of values, which the length of the text bounds.
-/

namespace Iweb.StrictJson

open Readers

variable {ν : Type} {N : JsNumbers ν}

/-! ## Ends and blanks -/

theorem numberSymbol_of_whitespace {u : UInt16} (h : isWhitespace u = true) : numberSymbol u = false := by
  unfold isWhitespace at h
  simp only [Bool.or_eq_true, beq_iff_eq] at h
  rcases h with ((rfl | rfl) | rfl) | rfl <;> rfl

theorem whitespace_of_numberSymbol {u : UInt16} (h : numberSymbol u = true) : isWhitespace u = false := by
  cases hu : isWhitespace u with
  | false => rfl
  | true =>
    rw [numberSymbol_of_whitespace hu] at h
    cases h

/-- A number ends at blanks and what follows them. -/
theorem EndsNumber.blank {blank rest : JsString} (hblank : IsBlank blank) (hrest : EndsNumber rest) :
    EndsNumber (blank ++ rest) := by
  cases blank with
  | nil => exact hrest
  | cons u blank => exact NotNext.cons (numberSymbol_of_whitespace (hblank u List.mem_cons_self))

theorem skipWhitespace_append {blank rest : JsString} (hblank : IsBlank blank) (hrest : NotNext isWhitespace rest) :
    skipWhitespace (blank ++ rest) = rest := (span_append hblank hrest).2

/-- A text is blanks and what is left when they are skipped. -/
theorem exists_blank (text : JsString) : ∃ blank, IsBlank blank ∧ text = blank ++ skipWhitespace text :=
  ⟨text.takeWhile isWhitespace, fun _ hu => List.mem_takeWhile_imp hu, List.takeWhile_append_dropWhile.symm⟩

theorem IsNumberToken.head {token : JsString} (h : IsNumberToken token) :
    ∃ c more, token = c :: more ∧ (c = 0x2d ∨ isDigit c = true) := by
  obtain ⟨sign, integer, fraction, exponent, hsign, hinteger, -, -, rfl⟩ := h
  rcases hsign with rfl | rfl
  · rcases hinteger with rfl | ⟨hdigits, -⟩
    · exact ⟨0x30, _, rfl, .inr rfl⟩
    · obtain ⟨u, hhead, hdigit⟩ := hdigits.head (fraction ++ exponent)
      obtain ⟨more, hmore⟩ := List.head?_eq_some_iff.mp hhead
      exact ⟨u, more, hmore, .inr hdigit⟩
  · exact ⟨0x2d, _, rfl, .inl rfl⟩

/-- The first symbol of a value. -/
theorem Says.head {text : JsString} {value : JsValue ν} (h : Says N text value) :
    ∃ c more, text = c :: more ∧ isWhitespace c = false ∧ c ≠ 0x5d ∧ c.toNat < 0x80 := by
  cases h with
  | null => exact ⟨0x6e, _, rfl, rfl, by decide⟩
  | bool value =>
    cases value with
    | true => exact ⟨0x74, _, rfl, rfl, by decide⟩
    | false => exact ⟨0x66, _, rfl, rfl, by decide⟩
  | number htoken hfinite =>
    obtain ⟨c, more, htext, hc⟩ := htoken.head
    refine ⟨c, more, htext, ?_⟩
    rcases hc with rfl | hdigit
    · exact ⟨rfl, by decide⟩
    · refine ⟨whitespace_of_numberSymbol ?_, ?_, ?_⟩
      · unfold numberSymbol
        rw [hdigit]
        rfl
      · rintro rfl
        cases hdigit
      · unfold isDigit at hdigit
        simp only [Bool.and_eq_true, decide_eq_true_eq] at hdigit
        omega
  | string hstring =>
    obtain ⟨body, -, rfl⟩ := hstring
    exact ⟨0x22, _, rfl, rfl, by decide⟩
  | emptyArray hblank => exact ⟨0x5b, _, rfl, rfl, by decide⟩
  | array hitems => exact ⟨0x5b, _, rfl, rfl, by decide⟩
  | emptyObject hblank => exact ⟨0x7b, _, rfl, rfl, by decide⟩
  | object hmembers hnames => exact ⟨0x7b, _, rfl, rfl, by decide⟩

theorem Says.ne_nil {text : JsString} {value : JsValue ν} (h : Says N text value) : text ≠ [] := by
  obtain ⟨c, more, rfl, -⟩ := h.head
  exact List.cons_ne_nil c more

theorem Says.notBlank {text : JsString} {value : JsValue ν} (h : Says N text value) : NotNext isWhitespace text := by
  obtain ⟨c, more, rfl, hc, -⟩ := h.head
  exact NotNext.cons hc

theorem SaysMember.head {text : JsString} {member : JsString × JsValue ν} (h : SaysMember N text member) :
    ∃ more, text = 0x22 :: more := by
  cases h with
  | mk hname hblank hblank' hvalue =>
    obtain ⟨body, -, rfl⟩ := hname
    exact ⟨_, rfl⟩

theorem SaysItems.head {text : JsString} {items : List (JsValue ν)} (h : SaysItems N text items) :
    ∃ before c more, IsBlank before ∧ text = before ++ c :: more ∧ isWhitespace c = false ∧ c ≠ 0x5d := by
  cases h with
  | last hbefore hvalue hafter =>
    obtain ⟨c, more, rfl, hc⟩ := hvalue.head
    exact ⟨_, c, _, hbefore, rfl, hc.1, hc.2.1⟩
  | more hbefore hvalue hafter hrest =>
    obtain ⟨c, more, rfl, hc⟩ := hvalue.head
    exact ⟨_, c, _, hbefore, rfl, hc.1, hc.2.1⟩

theorem SaysMembers.head {text : JsString} {members : List (JsString × JsValue ν)} (h : SaysMembers N text members) :
    ∃ before more, IsBlank before ∧ text = before ++ 0x22 :: more := by
  cases h with
  | last hbefore hmember hafter =>
    obtain ⟨more, rfl⟩ := hmember.head
    exact ⟨_, _, hbefore, rfl⟩
  | more hbefore hmember hafter hrest =>
    obtain ⟨more, rfl⟩ := hmember.head
    exact ⟨_, _, hbefore, rfl⟩

theorem SaysMember.notBlank {text : JsString} {member : JsString × JsValue ν} (h : SaysMember N text member) :
    NotNext isWhitespace text := by
  obtain ⟨more, rfl⟩ := h.head
  exact NotNext.cons rfl

theorem SaysMember.ne_nil {text : JsString} {member : JsString × JsValue ν} (h : SaysMember N text member) :
    text ≠ [] := by
  obtain ⟨more, rfl⟩ := h.head
  exact List.cons_ne_nil 0x22 more

/-! ## Every text of the grammar is read -/

theorem parseLiteral_append (word : JsString) (value : JsValue ν) (rest : JsString) :
    parseLiteral word value (word ++ rest) = .ok (value, rest) := by
  unfold parseLiteral
  rw [List.take_left, List.drop_left]
  exact if_pos rfl

theorem parseArray_empty (value : JsonReader (JsValue ν)) {blank : JsString} (hblank : IsBlank blank)
    (rest : JsString) : parseArray value (0x5b :: (blank ++ 0x5d :: rest)) = .ok (.array [], rest) := by
  unfold parseArray
  rw [List.tail_cons, skipWhitespace_append hblank (NotNext.cons rfl)]
  exact if_pos rfl

theorem parseObject_empty (value : JsonReader (JsValue ν)) {blank : JsString} (hblank : IsBlank blank)
    (rest : JsString) : parseObject value (0x7b :: (blank ++ 0x7d :: rest)) = .ok (.object [], rest) := by
  unfold parseObject
  rw [List.tail_cons, skipWhitespace_append hblank (NotNext.cons rfl)]
  exact if_pos rfl

/-- A member that is read; no member before it has its name. -/
theorem parseMember_append {value : JsonReader (JsValue ν)} {result : List (JsString × JsValue ν)}
    {name key blank blank' text rest : JsString} {member : JsValue ν} (hname : IsString name key)
    (hblank : IsBlank blank) (hblank' : IsBlank blank') (htext : NotNext isWhitespace (text ++ rest))
    (hfresh : ∀ m ∈ result, m.1 ≠ key) (hvalue : value (text ++ rest) = .ok (member, rest)) :
    parseMember value result ((name ++ (blank ++ 0x3a :: (blank' ++ text))) ++ rest) = .ok ((key, member), rest) := by
  have hquote : (name ++ (blank ++ 0x3a :: (blank' ++ text)) ++ rest).head? = some 0x22 := by
    obtain ⟨body, -, rfl⟩ := hname
    rfl
  have hnone : (result.any fun m => m.1 == key) = false := by
    rw [List.any_eq_false]
    intro m hm
    rw [beq_iff_eq]
    exact hfresh m hm
  unfold parseMember
  rw [if_neg (not_not.mpr hquote), List.append_assoc, parseString_append hname]
  dsimp only
  rw [List.append_assoc, List.cons_append, skipWhitespace_append hblank (NotNext.cons rfl)]
  dsimp only
  rw [if_neg (not_not.mpr rfl), List.append_assoc, skipWhitespace_append hblank' htext, hvalue]
  dsimp only
  rw [hnone]
  rfl

/-- An array whose items are read. -/
theorem parseArray_items {value : JsonReader (JsValue ν)} {text rest : JsString} {items : List (JsValue ν)}
    (h : SaysItems N text items)
    (hloop : ∀ {unexpected : String} {fuel : Nat}, text.length < fuel →
      listLoop isWhitespace 0x2c 0x5d unexpected outOfFuel (fun _ => value) fuel [] (text ++ rest) = .ok (items, rest)) :
    parseArray value (0x5b :: (text ++ rest)) = .ok (.array items, rest) := by
  have hfuel : text.length < (0x5b :: (text ++ rest)).length + 1 := by
    rw [List.length_cons, List.length_append]
    omega
  have hopen : (skipWhitespace (text ++ rest)).head? ≠ some 0x5d := by
    obtain ⟨before, c, more, hbefore, rfl, hc, hclose⟩ := h.head
    rw [List.append_assoc, List.cons_append, skipWhitespace_append hbefore (NotNext.cons hc)]
    exact fun hhead => hclose (Option.some.inj hhead)
  unfold parseArray
  dsimp only
  rw [List.tail_cons, if_neg hopen, skipWhitespace, listLoop_dropWhile, hloop hfuel]

/-- An object whose members are read. -/
theorem parseObject_members {value : JsonReader (JsValue ν)} {text rest : JsString}
    {members : List (JsString × JsValue ν)} (h : SaysMembers N text members)
    (hloop : ∀ {unexpected : String} {fuel : Nat}, text.length < fuel →
      listLoop isWhitespace 0x2c 0x7d unexpected outOfFuel (parseMember value) fuel [] (text ++ rest) =
        .ok (members, rest)) :
    parseObject value (0x7b :: (text ++ rest)) = .ok (.object members, rest) := by
  have hfuel : text.length < (0x7b :: (text ++ rest)).length + 1 := by
    rw [List.length_cons, List.length_append]
    omega
  have hopen : (skipWhitespace (text ++ rest)).head? ≠ some 0x7d := by
    obtain ⟨before, more, hbefore, rfl⟩ := h.head
    rw [List.append_assoc, List.cons_append, skipWhitespace_append hbefore (NotNext.cons rfl)]
    rintro ⟨⟩
  unfold parseObject
  dsimp only
  rw [List.tail_cons, if_neg hopen, skipWhitespace, listLoop_dropWhile, hloop hfuel]

mutual

theorem parseValue_append {text : JsString} {value : JsValue ν} (h : Says N text value) {depth : Nat}
    {rest : JsString} (hdepth : text.length < depth) (hrest : EndsNumber rest) :
    parseValue N depth (text ++ rest) = .ok (value, rest) := by
  obtain ⟨depth, rfl⟩ : ∃ d, depth = d + 1 := ⟨depth - 1, by omega⟩
  cases h with
  | null => exact parseLiteral_append nullWord .null rest
  | bool value =>
    cases value with
    | true => exact parseLiteral_append trueWord (.bool true) rest
    | false => exact parseLiteral_append falseWord (.bool false) rest
  | number htoken hfinite =>
    obtain ⟨c, more, rfl, hc⟩ := htoken.head
    have hnumber : (c = 0x2d || isDigit c) = true := by
      rcases hc with rfl | hc
      · rfl
      · rw [hc, Bool.or_true]
    have hother : ∀ u, isDigit u = false → u ≠ 0x2d → c ≠ u := by
      rintro u hdigit hminus rfl
      rcases hc with rfl | hc
      · exact hminus rfl
      · rw [hc] at hdigit
        cases hdigit
    rw [List.cons_append, parseValue, if_neg (hother _ rfl (by decide)), if_neg (hother _ rfl (by decide)),
      if_neg (hother _ rfl (by decide)), if_neg (hother _ rfl (by decide)), if_neg (hother _ rfl (by decide)),
      if_neg (hother _ rfl (by decide)), if_pos hnumber]
    exact parseNumber_append htoken hfinite hrest
  | string hstring =>
    have hread := parseString_append hstring rest
    obtain ⟨body, -, rfl⟩ := hstring
    rw [List.cons_append] at hread ⊢
    rw [parseValue, if_neg (by decide), if_neg (by decide), if_pos rfl, hread]
    rfl
  | emptyArray hblank =>
    rw [List.cons_append, List.append_assoc]
    exact parseArray_empty (parseValue N depth) hblank rest
  | array hitems =>
    refine parseArray_items hitems fun hfuel => ?_
    exact parseItems_append hitems (Nat.le_of_lt_succ (Nat.lt_of_succ_lt_succ hdepth |>.trans (Nat.lt_succ_self _))) hfuel
  | emptyObject hblank =>
    rw [List.cons_append, List.append_assoc]
    exact parseObject_empty (parseValue N depth) hblank rest
  | object hmembers hnames =>
    refine parseObject_members hmembers fun hfuel => ?_
    exact parseMembers_append hmembers (Nat.le_of_lt_succ (Nat.lt_of_succ_lt_succ hdepth |>.trans (Nat.lt_succ_self _)))
      hfuel hnames

theorem parseItems_append {text : JsString} {items : List (JsValue ν)} (h : SaysItems N text items) {depth fuel : Nat}
    {unexpected : String} {done : List (JsValue ν)} {rest : JsString} (hdepth : text.length ≤ depth)
    (hfuel : text.length < fuel) :
    listLoop isWhitespace 0x2c 0x5d unexpected outOfFuel (fun _ => parseValue N depth) fuel done (text ++ rest) =
      .ok (done ++ items, rest) := by
  obtain ⟨fuel, rfl⟩ : ∃ f, fuel = f + 1 := ⟨fuel - 1, by omega⟩
  cases h with
  | last hbefore hvalue hafter =>
    simp only [List.length_append, List.length_cons] at hdepth
    rw [List.append_assoc, List.append_assoc, List.append_assoc, List.singleton_append]
    exact listLoop_last hbefore hafter hvalue.notBlank hvalue.ne_nil rfl (by decide)
      (parseValue_append hvalue (by omega) (EndsNumber.blank hafter (NotNext.cons rfl)))
  | more hbefore hvalue hafter hrest =>
    simp only [List.length_append, List.length_cons] at hdepth hfuel
    rw [List.append_assoc, List.append_assoc, List.append_assoc, List.cons_append]
    rw [listLoop_more hbefore hafter hvalue.notBlank hvalue.ne_nil rfl
      (parseValue_append hvalue (by omega) (EndsNumber.blank hafter (NotNext.cons rfl))),
      parseItems_append hrest (by omega) (by omega), List.append_assoc]
    rfl

theorem parseMembers_append {text : JsString} {members : List (JsString × JsValue ν)} (h : SaysMembers N text members)
    {depth fuel : Nat} {unexpected : String} {done : List (JsString × JsValue ν)} {rest : JsString}
    (hdepth : text.length ≤ depth) (hfuel : text.length < fuel) (hnames : ((done ++ members).map Prod.fst).Nodup) :
    listLoop isWhitespace 0x2c 0x7d unexpected outOfFuel (parseMember (parseValue N depth)) fuel done (text ++ rest) =
      .ok (done ++ members, rest) := by
  obtain ⟨fuel, rfl⟩ : ∃ f, fuel = f + 1 := ⟨fuel - 1, by omega⟩
  cases h with
  | last hbefore hmember hafter =>
    simp only [List.length_append, List.length_cons] at hdepth
    rw [List.append_assoc, List.append_assoc, List.append_assoc, List.singleton_append]
    exact listLoop_last hbefore hafter hmember.notBlank hmember.ne_nil rfl (by decide)
      (parseMember_of_grammar hmember (by omega) (EndsNumber.blank hafter (NotNext.cons rfl)) hnames)
  | more hbefore hmember hafter hrest =>
    simp only [List.length_append, List.length_cons] at hdepth hfuel
    rw [List.append_cons] at hnames
    have hfirst := (List.nodup_append.mp (List.map_append ▸ hnames)).1
    rw [List.append_assoc, List.append_assoc, List.append_assoc, List.cons_append]
    rw [listLoop_more hbefore hafter hmember.notBlank hmember.ne_nil rfl
      (parseMember_of_grammar hmember (by omega) (EndsNumber.blank hafter (NotNext.cons rfl)) hfirst),
      parseMembers_append hrest (by omega) (by omega) hnames, List.append_assoc]
    rfl

theorem parseMember_of_grammar {text : JsString} {member : JsString × JsValue ν} (h : SaysMember N text member) {depth : Nat}
    {done : List (JsString × JsValue ν)} {rest : JsString} (hdepth : text.length < depth) (hrest : EndsNumber rest)
    (hnames : ((done ++ [member]).map Prod.fst).Nodup) :
    parseMember (parseValue N depth) done (text ++ rest) = .ok (member, rest) := by
  cases h with
  | mk hname hblank hblank' hvalue =>
    simp only [List.length_append, List.length_cons] at hdepth
    refine parseMember_append hname hblank hblank' (hvalue.notBlank.append hvalue.ne_nil) (fun m hm => ?_)
      (parseValue_append hvalue (by omega) hrest)
    rw [List.map_append, List.nodup_append] at hnames
    exact hnames.2.2 m.1 (List.mem_map_of_mem hm) _ List.mem_cons_self

end

/-! ## Only texts of the grammar are read -/

/-- A reader of values reads what the grammar says. -/
def ReadsSaid (N : JsNumbers ν) (reader : JsonReader (JsValue ν)) : Prop :=
  ∀ text value rest, reader text = .ok (value, rest) → ∃ front, Says N front value ∧ text = front ++ rest

theorem parseLiteral_eq_ok {word text rest : JsString} {value value' : JsValue ν}
    (h : parseLiteral word value text = .ok (value', rest)) : value' = value ∧ text = word ++ rest := by
  unfold parseLiteral at h
  by_cases hword : text.take word.length = word
  · rw [if_pos hword] at h
    cases h
    refine ⟨rfl, ?_⟩
    calc text = text.take word.length ++ text.drop word.length := (List.take_append_drop _ _).symm
      _ = word ++ text.drop word.length := by rw [hword]
  · rw [if_neg hword] at h
    cases h

theorem parseMember_eq_ok {reader : JsonReader (JsValue ν)} (hreader : ReadsSaid N reader)
    {done : List (JsString × JsValue ν)} {text rest : JsString} {member : JsString × JsValue ν}
    (h : parseMember reader done text = .ok (member, rest)) :
    ∃ front, SaysMember N front member ∧ text = front ++ rest ∧ ∀ m ∈ done, m.1 ≠ member.1 := by
  unfold parseMember at h
  by_cases hquote : text.head? = some 0x22
  · rw [if_neg (not_not.mpr hquote)] at h
    cases hname : parseString text with
    | error e =>
      rw [hname] at h
      cases h
    | ok next =>
      obtain ⟨key, left⟩ := next
      rw [hname] at h
      dsimp only at h
      obtain ⟨name, hisName, rfl⟩ := parseString_eq_ok hquote hname
      obtain ⟨blank, hblank, hleft⟩ := exists_blank left
      cases hcolon : skipWhitespace left with
      | nil =>
        rw [hcolon] at h
        cases h
      | cons c more =>
        rw [hcolon] at h hleft
        dsimp only at h
        by_cases hc : c = 0x3a
        · rw [if_neg (not_not.mpr hc)] at h
          obtain ⟨blank', hblank', hmore⟩ := exists_blank more
          cases hvalue : reader (skipWhitespace more) with
          | error e =>
            rw [hvalue] at h
            cases h
          | ok next' =>
            obtain ⟨value, left'⟩ := next'
            rw [hvalue] at h
            dsimp only at h
            obtain ⟨valueText, hgrammar, hskip⟩ := hreader _ _ _ hvalue
            cases hany : done.any fun m => m.1 == key with
            | true =>
              rw [hany] at h
              cases h
            | false =>
              rw [hany] at h
              cases h
              refine ⟨_, .mk hisName hblank hblank' hgrammar, ?_, fun m hm heq => ?_⟩
              · rw [hleft, hc, hmore, hskip]
                simp only [List.append_assoc, List.cons_append]
              · exact List.any_eq_false.mp hany m hm (beq_iff_eq.mpr heq)
        · rw [if_pos hc] at h
          cases h
  · rw [if_pos hquote] at h
    cases h

theorem parseItems_eq_ok {reader : JsonReader (JsValue ν)} (hreader : ReadsSaid N reader) {fuel : Nat}
    {unexpected : String} {done all : List (JsValue ν)} {text rest : JsString}
    (h : listLoop isWhitespace 0x2c 0x5d unexpected outOfFuel (fun _ => reader) fuel done text = .ok (all, rest)) :
    ∃ front items, SaysItems N front items ∧ text = front ++ rest ∧ all = done ++ items := by
  induction fuel generalizing done text with
  | zero => cases h
  | succ fuel ih =>
    obtain ⟨fuel', value, left, hfuel, hitem, hend⟩ := listLoop_eq_ok h
    cases hfuel
    obtain ⟨before, hbefore, htext⟩ := exists_blank text
    obtain ⟨valueText, hgrammar, hskip⟩ := hreader _ _ _ hitem
    obtain ⟨after, hafter, hleft⟩ := exists_blank left
    rw [skipWhitespace, hskip] at htext
    rcases hend with ⟨hclose, rfl⟩ | ⟨more, hcomma, hrest⟩
    · rw [skipWhitespace, hclose] at hleft
      refine ⟨_, [value], .last hbefore hgrammar hafter, ?_, rfl⟩
      rw [htext, hleft]
      simp only [List.append_assoc, List.singleton_append]
    · rw [skipWhitespace, hcomma] at hleft
      obtain ⟨front, items, hitems, rfl, rfl⟩ := ih hrest
      refine ⟨_, value :: items, .more hbefore hgrammar hafter hitems, ?_, List.append_assoc ..⟩
      rw [htext, hleft]
      simp only [List.append_assoc, List.cons_append]

theorem parseMembers_eq_ok {reader : JsonReader (JsValue ν)} (hreader : ReadsSaid N reader) {fuel : Nat}
    {unexpected : String} {done all : List (JsString × JsValue ν)} {text rest : JsString}
    (hdone : (done.map Prod.fst).Nodup)
    (h : listLoop isWhitespace 0x2c 0x7d unexpected outOfFuel (parseMember reader) fuel done text = .ok (all, rest)) :
    ∃ front members, SaysMembers N front members ∧ text = front ++ rest ∧ all = done ++ members ∧
      (all.map Prod.fst).Nodup := by
  induction fuel generalizing done text with
  | zero => cases h
  | succ fuel ih =>
    obtain ⟨fuel', member, left, hfuel, hitem, hend⟩ := listLoop_eq_ok h
    cases hfuel
    obtain ⟨before, hbefore, htext⟩ := exists_blank text
    obtain ⟨memberText, hgrammar, hskip, hfresh⟩ := parseMember_eq_ok hreader hitem
    obtain ⟨after, hafter, hleft⟩ := exists_blank left
    rw [skipWhitespace, hskip] at htext
    have hnames : ((done ++ [member]).map Prod.fst).Nodup := by
      rw [List.map_append, List.nodup_append]
      refine ⟨hdone, List.nodup_singleton _, fun name hname name' hname' => ?_⟩
      obtain ⟨m, hm, rfl⟩ := List.mem_map.mp hname
      rw [List.mem_singleton.mp hname']
      exact hfresh m hm
    rcases hend with ⟨hclose, rfl⟩ | ⟨more, hcomma, hrest⟩
    · rw [skipWhitespace, hclose] at hleft
      refine ⟨_, [member], .last hbefore hgrammar hafter, ?_, rfl, hnames⟩
      rw [htext, hleft]
      simp only [List.append_assoc, List.singleton_append]
    · rw [skipWhitespace, hcomma] at hleft
      obtain ⟨front, members, hmembers, rfl, rfl, hall⟩ := ih hnames hrest
      refine ⟨_, member :: members, .more hbefore hgrammar hafter hmembers, ?_, List.append_assoc .., hall⟩
      rw [htext, hleft]
      simp only [List.append_assoc, List.cons_append]

theorem parseArray_eq_ok {reader : JsonReader (JsValue ν)} (hreader : ReadsSaid N reader) {text rest : JsString}
    {value : JsValue ν} (h : parseArray reader (0x5b :: text) = .ok (value, rest)) :
    ∃ front, Says N front value ∧ 0x5b :: text = front ++ rest := by
  unfold parseArray at h
  dsimp only at h
  rw [List.tail_cons] at h
  by_cases hclose : (skipWhitespace text).head? = some 0x5d
  · rw [if_pos hclose] at h
    cases h
    obtain ⟨blank, hblank, htext⟩ := exists_blank text
    obtain ⟨more, hmore⟩ := List.head?_eq_some_iff.mp hclose
    refine ⟨_, .emptyArray hblank, ?_⟩
    rw [hmore] at htext ⊢
    rw [htext, List.tail_cons, List.cons_append, List.append_assoc]
    rfl
  · rw [if_neg hclose, skipWhitespace, listLoop_dropWhile] at h
    cases hloop : listLoop isWhitespace 0x2c 0x5d "expected ',' or ']' in array" outOfFuel (fun _ => reader)
        ((0x5b :: text).length + 1) [] text with
    | error e =>
      rw [hloop] at h
      cases h
    | ok next =>
      obtain ⟨items, left⟩ := next
      rw [hloop] at h
      cases h
      obtain ⟨front, items', hitems, rfl, rfl⟩ := parseItems_eq_ok hreader hloop
      exact ⟨_, .array hitems, rfl⟩

theorem parseObject_eq_ok {reader : JsonReader (JsValue ν)} (hreader : ReadsSaid N reader) {text rest : JsString}
    {value : JsValue ν} (h : parseObject reader (0x7b :: text) = .ok (value, rest)) :
    ∃ front, Says N front value ∧ 0x7b :: text = front ++ rest := by
  unfold parseObject at h
  dsimp only at h
  rw [List.tail_cons] at h
  by_cases hclose : (skipWhitespace text).head? = some 0x7d
  · rw [if_pos hclose] at h
    cases h
    obtain ⟨blank, hblank, htext⟩ := exists_blank text
    obtain ⟨more, hmore⟩ := List.head?_eq_some_iff.mp hclose
    refine ⟨_, .emptyObject hblank, ?_⟩
    rw [hmore] at htext ⊢
    rw [htext, List.tail_cons, List.cons_append, List.append_assoc]
    rfl
  · rw [if_neg hclose, skipWhitespace, listLoop_dropWhile] at h
    cases hloop : listLoop isWhitespace 0x2c 0x7d "expected ',' or '\x7d' in object" outOfFuel (parseMember reader)
        ((0x7b :: text).length + 1) [] text with
    | error e =>
      rw [hloop] at h
      cases h
    | ok next =>
      obtain ⟨members, left⟩ := next
      rw [hloop] at h
      cases h
      have hempty : (([] : List (JsString × JsValue ν)).map Prod.fst).Nodup := List.nodup_nil
      obtain ⟨front, members', hmembers, rfl, rfl, hnames⟩ := parseMembers_eq_ok hreader hempty hloop
      exact ⟨_, .object hmembers hnames, rfl⟩

/-- What the reader accepts, the grammar says. -/
theorem parseValue_reads (depth : Nat) : ReadsSaid N (parseValue N depth) := by
  induction depth with
  | zero =>
    intro text value rest h
    cases h
  | succ depth ih =>
    intro text value rest h
    cases text with
    | nil => cases h
    | cons c text =>
      rw [parseValue] at h
      by_cases hobject : c = 0x7b
      · rw [if_pos hobject] at h
        subst hobject
        exact parseObject_eq_ok ih h
      · rw [if_neg hobject] at h
        by_cases harray : c = 0x5b
        · rw [if_pos harray] at h
          subst harray
          exact parseArray_eq_ok ih h
        · rw [if_neg harray] at h
          by_cases hstring : c = 0x22
          · rw [if_pos hstring] at h
            cases hread : parseString (c :: text) with
            | error e =>
              rw [hread] at h
              cases h
            | ok read =>
              obtain ⟨string, left⟩ := read
              rw [hread] at h
              cases h
              obtain ⟨front, hfront, htext⟩ := parseString_eq_ok (by rw [hstring]; rfl) hread
              exact ⟨front, .string hfront, htext⟩
          · rw [if_neg hstring] at h
            by_cases htrue : c = 0x74
            · rw [if_pos htrue] at h
              obtain ⟨rfl, htext⟩ := parseLiteral_eq_ok h
              exact ⟨_, .bool true, htext⟩
            · rw [if_neg htrue] at h
              by_cases hfalse : c = 0x66
              · rw [if_pos hfalse] at h
                obtain ⟨rfl, htext⟩ := parseLiteral_eq_ok h
                exact ⟨_, .bool false, htext⟩
              · rw [if_neg hfalse] at h
                by_cases hnull : c = 0x6e
                · rw [if_pos hnull] at h
                  obtain ⟨rfl, htext⟩ := parseLiteral_eq_ok h
                  exact ⟨_, .null, htext⟩
                · rw [if_neg hnull] at h
                  cases hnumber : (c = 0x2d || isDigit c : Bool) with
                  | false =>
                    rw [hnumber] at h
                    cases h
                  | true =>
                    rw [if_pos hnumber] at h
                    exact parseNumber_eq_ok h

/-! ## Whole texts -/

/-- No text of the grammar starts with a byte-order mark. -/
theorem SaysText.notMark {text : JsString} {value : JsValue ν} (h : SaysText N text value) :
    text.head? ≠ some 0xfeff := by
  obtain ⟨before, inner, after, hbefore, hgrammar, hafter, rfl⟩ := h
  cases before with
  | nil =>
    obtain ⟨c, more, rfl, -, -, hascii⟩ := hgrammar.head
    rintro ⟨⟩
    exact absurd hascii (by decide)
  | cons u before =>
    have hu := hbefore u List.mem_cons_self
    rintro ⟨⟩
    cases hu

theorem parseStrictJson_of_grammar {text : JsString} {value : JsValue ν} (h : SaysText N text value) :
    parseStrictJson N text = .ok value := by
  have hmark := h.notMark
  obtain ⟨before, inner, after, hbefore, hgrammar, hafter, rfl⟩ := h
  have hends : EndsNumber after := by
    have hblank := EndsNumber.blank hafter NotNext.nil
    rw [List.append_nil] at hblank
    exact hblank
  have hdepth : inner.length < (before ++ (inner ++ after)).length + 1 := by
    simp only [List.length_append]
    omega
  have hafterBlank : skipWhitespace after = [] := by
    have hskip := skipWhitespace_append hafter NotNext.nil
    rw [List.append_nil] at hskip
    exact hskip
  unfold parseStrictJson
  rw [if_neg hmark, skipWhitespace_append hbefore (hgrammar.notBlank.append hgrammar.ne_nil),
    parseValue_append hgrammar hdepth hends]
  dsimp only
  rw [hafterBlank]
  exact if_neg (not_not.mpr rfl)

theorem grammar_of_parseStrictJson {text : JsString} {value : JsValue ν} (h : parseStrictJson N text = .ok value) :
    SaysText N text value := by
  unfold parseStrictJson at h
  by_cases hmark : text.head? = some 0xfeff
  · rw [if_pos hmark] at h
    cases h
  · rw [if_neg hmark] at h
    cases hvalue : parseValue N (text.length + 1) (skipWhitespace text) with
    | error e =>
      rw [hvalue] at h
      cases h
    | ok next =>
      obtain ⟨value', rest⟩ := next
      rw [hvalue] at h
      dsimp only at h
      by_cases htrailing : skipWhitespace rest ≠ []
      · rw [if_pos htrailing] at h
        cases h
      · rw [if_neg htrailing] at h
        cases h
        obtain ⟨before, hbefore, htext⟩ := exists_blank text
        obtain ⟨after, hafter, hrest⟩ := exists_blank rest
        obtain ⟨inner, hgrammar, hskip⟩ := parseValue_reads _ _ _ _ hvalue
        rw [not_not.mp htrailing, List.append_nil] at hrest
        exact ⟨before, inner, after, hbefore, hgrammar, hafter, by rw [htext, hskip, hrest]⟩

end Iweb.StrictJson
