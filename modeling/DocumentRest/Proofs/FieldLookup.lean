import DocumentRest.Proofs.BodyPrinting
import DocumentRest.Proofs.Json.ReadableTexts

namespace DocumentRest.Body

open Json

/-- A text that is parsed as `v` by itself. As a member's value, it is one level deeper. -/
def Accepts (t : List Char) (v : Value) : Prop :=
  JsonText 126 t ∧ ofText true (.ofList t) = .ok (structured v)

/-- A text of an object with the members `ms`, in this order, and any space around its tokens. -/
def HoldsMembers (text : String) (ms : List (String × Value)) : Prop :=
  IsDocument (ObjectText StringText Accepts · ms) text.toList

theorem Accepts.reads {t : List Char} {v : Value} (h : Accepts t v) : Reads (Value.read 126) t v := by
  obtain ⟨ht, haccept⟩ := h
  obtain ⟨_, hv, hparse⟩ := exists_of_ofText haccept
  cases hv
  obtain ⟨r, hread, _⟩ := exists_of_readText hparse
  obtain ⟨o, _, ho⟩ := isSettled_of_jsonText ht
  have hwhole := ho maxDepth (by decide)
  rw [String.toList_ofList] at hread
  have hsome := (hwhole.eq_of_eq_ok endsNumeral_nil (by rwa [List.append_nil])).1
  have hreads := ho 126 (Nat.le_refl _)
  rw [hsome] at hreads
  exact hreads

theorem HoldsMembers.parse {text : String} {ms : List (String × Value)} (h : HoldsMembers text ms) :
    Value.parse text = .ok (.object (lastMembers ms)) := by
  obtain ⟨w, t, w', hw, hw', htext, s, rfl, hs⟩ := h
  have hmembers := hs.imp fun u m hu => by
    cases hu with
    | mk named space space' accepts => exact MemberText.mk named space space' accepts.reads
  exact (reads_object ⟨s, rfl, hmembers⟩).readText_eq (ignoresSpace_read _) hw hw' htext

theorem field_raw {text : String} {v : Value} (h : Value.parse text = .ok v) (key : String) :
    (raw text).field key = (structured v).field key := by
  show (Value.parse text).map _ = _
  rw [h]
  rfl

theorem field_raw_error {text : String} {e : Error} (h : Value.parse text = .error e) (key : String) :
    (raw text).field key = .error e := by
  show (Value.parse text).map _ = _
  rw [h]
  rfl

theorem field_of_not_object {text : String} (h : IsDocument (ReadableText maxDepth) text.toList)
    (hobject : ¬ IsDocument IsObject text.toList) : ∃ b, ofText true text = .ok b ∧ ∀ key,
      b.field key = .ok none ∧ (raw text).field key = .ok none := by
  obtain ⟨v, hparse⟩ := exists_parse_iff.mpr h
  refine ⟨structured v, ofText_of_parse hparse, fun key => ?_⟩
  have hfield : (structured v).field key = .ok none := by
    cases v with
    | scalar a => rfl
    | array vs => rfl
    | object ms => exact absurd (isDocument_of_parse_object hparse) hobject
  exact ⟨hfield, (field_raw hparse key).trans hfield⟩

theorem field_of_not_readable {text : String}
    (h : ¬ IsDocument (ReadableText maxDepth) text.toList) : ∃ e, ofText true text = .error e ∧
      ∀ key, (raw text).field key = .error e := by
  cases hparse : Value.parse text with
  | ok v => exact absurd (exists_parse_iff.mp ⟨v, hparse⟩) h
  | error e =>
    refine ⟨e, ?_, field_raw_error hparse⟩
    rw [ofText, if_pos rfl, hparse]
    rfl

/-- The field of an object text is its last member of the name, also if the text is parsed late. The
order of distinct names makes no difference. Other values have no fields. What is no JSON fails both
ways, and so does JSON that is nested too deep, has a number out of range or a string that spells no
text. -/
theorem field_is_last_member :
    (∀ text ms, HoldsMembers text ms → ∃ b, ofText true text = .ok b ∧ ∀ key,
      b.field key = .ok (ms.reverse.lookup key) ∧
        (raw text).field key = .ok (ms.reverse.lookup key)) ∧
    (∀ text text' ms ms', HoldsMembers text ms → HoldsMembers text' ms' → ms.Perm ms' →
      (ms.map (·.1)).Nodup → ofText true text' = ofText true text) ∧
    (∀ text : String, IsDocument (ReadableText maxDepth) text.toList →
      ¬ IsDocument IsObject text.toList → ∃ b, ofText true text = .ok b ∧ ∀ key,
        b.field key = .ok none ∧ (raw text).field key = .ok none) ∧
    (∀ text : String, ¬ IsDocument (ReadableText maxDepth) text.toList →
      ∃ e, ofText true text = .error e ∧ ∀ key, (raw text).field key = .error e) ∧
    ∀ text : String, ¬ IsDocument IsJson text.toList →
      ∃ e, ofText true text = .error e ∧ ∀ key, (raw text).field key = .error e := by
  refine ⟨fun text ms h => ?_, fun text text' ms ms' h h' hperm hnodup => ?_,
    fun _ => field_of_not_object, fun _ => field_of_not_readable, fun text h => ?_⟩
  · have hparse := h.parse
    refine ⟨structured (.object (lastMembers ms)), ofText_of_parse hparse, fun key => ?_⟩
    have hfield : (structured (.object (lastMembers ms))).field key =
        .ok (ms.reverse.lookup key) := congrArg Except.ok (lookup_lastMembers ms key)
    exact ⟨hfield, (field_raw hparse key).trans hfield⟩
  · rw [ofText_of_parse h.parse, ofText_of_parse h'.parse, lastMembers_eq_of_perm hperm hnodup]
  · apply field_of_not_readable
    exact fun hreadable => h (hreadable.imp fun t ht => ⟨_, ht.jsonText⟩)

theorem outOfRange_huge : UnsignedText "1e9999999999".toList ∧ OutOfRange "1e9999999999".toList := by
  have hwhole : WholeText (['1'] ++ []) :=
    .inr ⟨⟨by decide, List.all_eq_true.mp (by decide)⟩, by decide⟩
  have hdigits : IsDigits "9999999999".toList := ⟨by decide, List.all_eq_true.mp (by decide)⟩
  have htail : [].tail = ([] ++ [] : List Char) := rfl
  have hmagnitude : Magnitude "1e9999999999".toList _ _ _ :=
    .mk hwhole ⟨by decide, nofun⟩ .none htail ⟨by decide, nofun⟩ (.digits (.inl rfl) .none hdigits)
  have hoverflows : Overflows 1 0 (signedValue false "9999999999".toList) :=
    (overflows_of_lt (by decide) 1 0).mpr ⟨Nat.one_ne_zero, rfl⟩
  exact ⟨.mk hwhole .none (.digits (.inl rfl) (.inl rfl) hdigits), _, _, _, hmagnitude, hoverflows⟩

theorem listText_singleton {α : Type} {P : List Char → α → Prop} {t : List Char} {a : α}
    (h : P t a) : ListText P t [a] := by
  have hitem := ListText.cons isSpaceText_nil h (.nil isSpaceText_nil)
  rwa [List.nil_append, List.append_nil] at hitem

theorem readable_fraction : ReadableText 1 "[2.5e3]".toList := by
  have hwhole : WholeText ['2'] := .inr ⟨⟨by decide, List.all_eq_true.mp (by decide)⟩, by decide⟩
  have hfraction : FractionText ".5".toList := .digits ⟨by decide, List.all_eq_true.mp (by decide)⟩
  have hthree : IsDigits ['3'] := ⟨by decide, List.all_eq_true.mp (by decide)⟩
  have hrange : ¬ OutOfRange (['2'] ++ (".5".toList ++ "e3".toList)) :=
    not_outOfRange_of_le hwhole hfraction (.digits (.inl rfl) .none hthree) (by decide +kernel)
  have hnumeral : UnsignedText "2.5e3".toList :=
    .mk hwhole hfraction (.digits (.inl rfl) (.inl rfl) hthree)
  refine .array ⟨"2.5e3".toList, rfl, listText_singleton rfl⟩ fun u hu => ?_
  rw [List.mem_singleton.mp hu]
  exact .scalar (.number hnumeral hrange)

theorem field_is_last_member_escaped :
    let text := " \x7b \"a\":1,\"b\":\"x\" , \"\\u0061\":\"x\"\x7d\n"
    (∃ b, ofText true text = .ok b ∧ b.field "a" = .ok (some (.string "x")) ∧
      (raw text).field "a" = .ok (some (.string "x"))) ∧
    ofText true "\x7b\"b\":\"x\",\"a\":1\x7d" = ofText true "\x7b\"a\":1,\"b\":\"x\"\x7d" ∧
    (raw "[2.5e3]").field "a" = .ok none ∧
    (∃ e, ofText true "1e9999999999" = .error e ∧ (raw "1e9999999999").field "a" = .error e) ∧
    ∃ e, ofText true "[true,]" = .error e ∧ (raw "[true,]").field "a" = .error e := by
  intro text
  have haccept {t : List Char} {v : Value} (hread : Value.read 126 t = .ok (v, []))
      (hspace : skipSpace t = t) (hparse : Value.parse (.ofList t) = .ok v) : Accepts t v :=
    ⟨jsonText_of_read hread hspace, ofText_of_parse hparse⟩
  have hone : Accepts "1".toList (.integer 1) := haccept (by cbv) (by decide) (by cbv)
  have hx : Accepts "\"x\"".toList (.string "x") := haccept (by cbv) (by decide) (by cbv)
  have hmember {n t : List Char} {k : String} {v : Value} (hk : StringText n k) (ht : Accepts t v) :
      MemberText StringText Accepts (n ++ ':' :: t) (k, v) :=
    .mk hk isSpaceText_nil isSpaceText_nil ht
  have ha := hmember (stringText_plain "a" (by simp)) hone
  have hb := hmember (stringText_plain "b" (by simp)) hx
  have hescaped : StringText "\"\\u0061\"".toList "a" := by
    have hhex : FourHex "0061".toList 'a'.toNat :=
      .mk (i := 0) (j := 0) (k := 6) (l := 1) ⟨by decide, .inl rfl⟩ ⟨by decide, .inl rfl⟩
        ⟨by decide, .inl rfl⟩ ⟨by decide, .inl rfl⟩
    exact ⟨_, rfl, .cons (.unit (.escape hhex)) .nil⟩
  have hblank : IsSpaceText [' '] := by decide
  have htext : HoldsMembers text [("a", .integer 1), ("b", .string "x"), ("a", .string "x")] :=
    ⟨[' '], _, ['\n'], hblank, by decide, by decide, _, rfl,
      .cons hblank ha (.cons isSpaceText_nil isSpaceText_nil hb
        (.cons hblank hblank (hmember hescaped hx) (.nil isSpaceText_nil)))⟩
  have hbefore : HoldsMembers "\x7b\"a\":1,\"b\":\"x\"\x7d" [("a", .integer 1), ("b", .string "x")] :=
    ⟨[], _, [], isSpaceText_nil, isSpaceText_nil, by decide, _, rfl, .cons isSpaceText_nil ha
      (.cons isSpaceText_nil isSpaceText_nil hb (.nil isSpaceText_nil))⟩
  have hbehind : HoldsMembers "\x7b\"b\":\"x\",\"a\":1\x7d" [("b", .string "x"), ("a", .integer 1)] :=
    ⟨[], _, [], isSpaceText_nil, isSpaceText_nil, by decide, _, rfl, .cons isSpaceText_nil hb
      (.cons isSpaceText_nil isSpaceText_nil ha (.nil isSpaceText_nil))⟩
  have harray : ¬ IsDocument IsObject "[2.5e3]".toList := by
    intro h
    obtain ⟨r, hbrace⟩ := h.exists_brace
    cases hbrace
  have hcut : ¬ IsDocument IsJson "[true,]".toList := by
    intro h
    obtain ⟨r, hskip, _⟩ := h.skips
    cases hskip
  have hreadable : IsDocument (ReadableText maxDepth) "[2.5e3]".toList :=
    ⟨[], "[2.5e3]".toList, [], isSpaceText_nil, isSpaceText_nil, by simp,
      readable_fraction.mono (by decide)⟩
  have hhuge : ¬ IsDocument (ReadableText maxDepth) "1e9999999999".toList :=
    not_readable_of_outOfRange outOfRange_huge.1 outOfRange_huge.2
  obtain ⟨hlast, horder, hother, hrefused, hnone⟩ := field_is_last_member
  obtain ⟨b, hb, hfield⟩ := hlast text _ htext
  obtain ⟨_, _, harrayField⟩ := hother "[2.5e3]" hreadable harray
  obtain ⟨e, he, hraw⟩ := hrefused "1e9999999999" hhuge
  obtain ⟨e', he', hraw'⟩ := hnone "[true,]" hcut
  exact ⟨⟨b, hb, hfield "a"⟩, horder _ _ _ _ hbefore hbehind (.swap _ _ _) (by decide),
    (harrayField "a").2, ⟨e, he, hraw "a"⟩, e', he', hraw' "a"⟩

def IsUnparsedJson (text : String) : Prop :=
  IsDocument IsJson text.toList ∧ ¬ IsDocument IsObject text.toList ∧
    (∀ b, ofText true text ≠ .ok b) ∧ ∀ key, (raw text).field key ≠ .ok none

theorem isUnparsedJson_of_not_readable {text : String} (hjson : IsJson text.toList)
    (hobject : ∀ r, skipSpace text.toList ≠ '\x7b' :: r)
    (h : ¬ IsDocument (ReadableText maxDepth) text.toList) : IsUnparsedJson text := by
  obtain ⟨e, he, hraw⟩ := field_of_not_readable h
  refine ⟨⟨[], _, [], isSpaceText_nil, isSpaceText_nil, by simp, hjson⟩, fun h => ?_, fun b hb => ?_,
    fun key hkey => ?_⟩
  · obtain ⟨r, hbrace⟩ := h.exists_brace
    exact hobject r hbrace
  · rw [he] at hb
    cases hb
  · rw [hraw key] at hkey
    cases hkey

def nestedArray : (depth : Nat) → List Char
  | 0 => ['[', ']']
  | depth + 1 => '[' :: (nestedArray depth ++ [']'])

theorem startsItem_nestedArray (depth : Nat) : StartsItem (nestedArray depth) := by
  cases depth <;> exact ⟨'[', _, rfl, by decide, by decide⟩

theorem jsonText_nestedArray (depth : Nat) : JsonText (depth + 1) (nestedArray depth) := by
  induction depth with
  | zero => exact .array ⟨[], rfl, .nil isSpaceText_nil⟩ nofun
  | succ depth ih =>
    refine .array ⟨_, rfl, listText_singleton rfl⟩ fun u hu => ?_
    rw [List.mem_singleton.mp hu]
    exact ih

theorem nestedArray_tooDeep (depth : Nat) :
    ComesTo (Value.read depth) (nestedArray depth) none := by
  induction depth with
  | zero => exact fun r _ => ⟨_, rfl⟩
  | succ depth ih =>
    exact comesTo_valueWith_array (listText_singleton ⟨startsItem_nestedArray depth, ih⟩)

/-- Not all JSON is parsed: a number may be beyond all floats, an escape half of a character only, and
the nesting too deep. -/
theorem field_of_unparsed_json :
    IsUnparsedJson "1e9999999999" ∧ IsUnparsedJson "\"\\ud800\"" ∧
      IsUnparsedJson (.ofList (nestedArray 127)) := by
  obtain ⟨hnumeral, hrange⟩ := outOfRange_huge
  have hnumber : IsUnparsedJson "1e9999999999" :=
    isUnparsedJson_of_not_readable ⟨0, .scalar (.number (.unsigned hnumeral))⟩ nofun
      (not_readable_of_outOfRange hnumeral hrange)
  have hhalf : IsUnparsedJson "\"\\ud800\"" := by
    have hhex : FourHex "d800".toList 0xD800 :=
      .mk (i := 13) (j := 8) (k := 0) (l := 0) ⟨by decide, .inl rfl⟩ ⟨by decide, .inl rfl⟩
        ⟨by decide, .inl rfl⟩ ⟨by decide, .inl rfl⟩
    refine isUnparsedJson_of_not_readable
      ⟨0, .scalar (.string ⟨"\\ud800".toList, _, rfl, .cons (UnitText.escape hhex) .nil⟩)⟩ nofun ?_
    exact not_readable_of_comesTo fun r _ => ⟨_, rfl⟩
  have hdeep : IsUnparsedJson (.ofList (nestedArray 127)) := by
    have htext := String.toList_ofList (l := nestedArray 127)
    refine isUnparsedJson_of_not_readable ⟨128, ?_⟩ ?_ (not_readable_of_comesTo ?_)
    · rw [htext]
      exact jsonText_nestedArray 127
    · rw [htext]
      nofun
    · rw [htext]
      exact nestedArray_tooDeep 127
  exact ⟨hnumber, hhalf, hdeep⟩

end DocumentRest.Body
