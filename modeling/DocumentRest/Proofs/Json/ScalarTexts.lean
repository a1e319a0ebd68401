import DocumentRest.Proofs.Json.NumeralTexts
import DocumentRest.Proofs.Json.StringTexts

namespace DocumentRest.Json

/-- The scalar that a text spells. A numeral of a float may stand for any float. -/
inductive Spells : List Char → Scalar → Prop
  | null : Spells "null".toList .null
  | bool (b : Bool) : Spells (if b then "true" else "false").toList (.bool b)
  | integer {n : Int} (fits : IsInteger64 n) : Spells (Number.integer n).text (.number (.integer n))
  | float {t : List Char} {x : Float} (h : NumeralText t) : Spells t (.number (.float x))
  | string {t : List Char} {text : String} (h : StringText t text) : Spells t (.string text)

/-- A string token comes to the text that it spells, if it spells one. -/
theorem comes_stringRest {s : List Char} {ns : List Nat} (h : Pieces UnitText s ns) :
    ∃ o : Option String, (∀ text, o = some text ↔ Pieces CharText s text.toList) ∧
      ∀ r, Comes (stringRest (s ++ '"' :: r)) o r := by
  by_cases hspells : ∃ text : String, Pieces CharText s text.toList
  · obtain ⟨text, htext⟩ := hspells
    refine ⟨some text, fun text' => ⟨?_, fun h' => ?_⟩, fun r => stringRest_of_pieces htext r⟩
    · rintro ⟨⟩
      exact htext
    · have hread := stringRest_of_pieces htext []
      rw [stringRest_of_pieces h' []] at hread
      cases hread
      rfl
  · refine ⟨none, fun text => iff_of_false nofun fun htext => hspells ⟨text, htext⟩, fun r => ?_⟩
    cases hread : stringRest (s ++ '"' :: r) with
    | error e => exact ⟨e, rfl⟩
    | ok p =>
      obtain ⟨t, heq, ht⟩ := exists_of_stringRest hread
      obtain ⟨ns', hns'⟩ := ht.units
      obtain ⟨rfl, _⟩ := h.eq_of_append_quote hns' heq
      exact absurd ⟨p.1, ht⟩ hspells

theorem StringText.comes {name : List Char} {text : String} (h : StringText name text) :
    ∃ name', name = '"' :: name' ∧ ∀ r, Comes (stringRest (name' ++ r)) (some text) r := by
  obtain ⟨s, rfl, hs⟩ := h
  refine ⟨s ++ ['"'], rfl, fun r => ?_⟩
  rw [List.append_assoc]
  exact stringRest_of_pieces hs r

theorem text_of_wholeNumber {negative : Bool} {n : Nat} {k : Int}
    (h : wholeNumber negative n = .integer k) :
    (Number.integer k).text = (if negative then ['-'] else []) ++ Nat.toDigits 10 n := by
  rw [text_integer]
  cases negative with
  | false =>
    cases h
    rw [if_neg (show ¬ (n : Int) < 0 by omega), Int.natAbs_natCast]
    rfl
  | true =>
    rw [wholeNumber, if_neg (by decide)] at h
    split at h
    · cases h
    · rename_i hn
      cases h
      simp only [Bool.or_eq_true, decide_eq_true_eq, not_or] at hn
      rw [if_pos (show -(n : Int) < 0 by omega), Int.natAbs_neg, Int.natAbs_natCast]
      rfl

/-- A numeral spells an integer only if it is written like one. -/
theorem spells_number {negative : Bool} {t : List Char} (h : UnsignedText t) {x : Number}
    (hx : x.IsFloat ∨
      ∃ n ≤ maxSignificand, x = wholeNumber negative n ∧ t = Nat.toDigits 10 n) :
    Spells ((if negative then ['-'] else []) ++ t) (.number x) := by
  have hnumeral : NumeralText ((if negative then ['-'] else []) ++ t) := by
    cases negative with
    | false => exact .unsigned h
    | true => exact .negative h
  rcases hx with ⟨y, rfl⟩ | ⟨n, hn, rfl, ht⟩
  · exact .float hnumeral
  · have hfits := fits_wholeNumber negative hn
    cases hwhole : wholeNumber negative n with
    | float y => exact .float hnumeral
    | integer k =>
      rw [hwhole] at hfits
      rw [ht, ← text_of_wholeNumber hwhole]
      exact .integer hfits

theorem UnsignedText.startsWithDigit {t : List Char} (h : UnsignedText t) (r : List Char) :
    startsWithDigit (t ++ r) = true := by
  obtain ⟨hwhole, _, _⟩ := h
  rcases hwhole with rfl | ⟨hdigits, _⟩
  · rfl
  · rw [List.append_assoc]
    exact hdigits.startsWithDigit _

theorem ScalarText.starts {t : List Char} (h : ScalarText t) :
    ∃ c s, t = c :: s ∧ startsScalar c = true := by
  cases h with
  | null => exact ⟨'n', _, rfl, rfl⟩
  | bool b =>
    cases b with
    | false => exact ⟨'f', _, rfl, rfl⟩
    | true => exact ⟨'t', _, rfl, rfl⟩
  | string h =>
    obtain ⟨s, ns, rfl, _⟩ := h
    exact ⟨'"', _, rfl, rfl⟩
  | number h =>
    cases h with
    | negative => exact ⟨'-', _, rfl, rfl⟩
    | unsigned h =>
      have hstart := h.startsWithDigit []
      rw [List.append_nil] at hstart
      cases t with
      | nil => cases hstart
      | cons c t => exact ⟨c, t, rfl, startsScalar_of_isDigit hstart⟩

theorem settles_number {t : List Char} (h : UnsignedText t) :
    SettlesUnless (OutOfRange t) scalar t (Spells t) := by
  have hread := (settles_unsignedNumeral false h).map fun x hx => spells_number h hx
  exact hread.congr fun r _ => scalar_of_startsWithDigit (h.startsWithDigit r)

theorem settles_negative {t : List Char} (h : UnsignedText t) :
    SettlesUnless (OutOfRange t) scalar ('-' :: t) (Spells ('-' :: t)) := by
  have hread := (settles_unsignedNumeral true h).map fun x hx => spells_number h hx
  exact hread.congr fun r _ => rfl

theorem settles_string {t : List Char} (h : StringToken t) :
    SettlesUnless (¬ ∃ text, StringText t text) scalar t (Spells t) := by
  obtain ⟨s, ns, rfl, hs⟩ := h
  obtain ⟨o, ho, hcomes⟩ := comes_stringRest hs
  refine ⟨o.map .string, ?_, fun a ha => ?_, fun r _ => ?_⟩
  · rw [Option.map_eq_none_iff]
    constructor
    · rintro rfl ⟨text, s', heq, htext⟩
      obtain rfl : s = s' := List.append_cancel_right (List.cons.inj heq).2
      exact nomatch (ho text).mpr htext
    · intro hspells
      rw [Option.eq_none_iff_forall_ne_some]
      exact fun text htext => hspells ⟨text, s, rfl, (ho text).mp htext⟩
  · obtain ⟨text, htext, rfl⟩ := Option.map_eq_some_iff.mp ha
    exact .string ⟨s, rfl, (ho text).mp htext⟩
  · rw [List.cons_append, List.append_assoc]
    exact (hcomes r).map Scalar.string

theorem settles_scalar {t : List Char} (h : ScalarText t) : Settles scalar t (Spells t) := by
  cases h with
  | null => exact ⟨some .null, fun a ha => by cases ha; exact .null, fun r _ => rfl⟩
  | bool b =>
    refine ⟨some (.bool b), fun a ha => by cases ha; exact .bool b, fun r _ => ?_⟩
    cases b <;> rfl
  | string h => exact (settles_string h).settles
  | number h =>
    cases h with
    | unsigned h => exact (settles_number h).settles
    | negative h => exact (settles_negative h).settles

inductive ReadableScalar : List Char → Prop
  | null : ReadableScalar "null".toList
  | bool (b : Bool) : ReadableScalar (if b then "true" else "false").toList
  | number {t : List Char} (h : UnsignedText t) (range : ¬ OutOfRange t) : ReadableScalar t
  | negative {t : List Char} (h : UnsignedText t) (range : ¬ OutOfRange t) : ReadableScalar ('-' :: t)
  | string {t : List Char} {text : String} (h : StringText t text) : ReadableScalar t

theorem ReadableScalar.scalarText {t : List Char} (h : ReadableScalar t) : ScalarText t := by
  cases h with
  | null => exact .null
  | bool b => exact .bool b
  | number h _ => exact .number (.unsigned h)
  | negative h _ => exact .number (.negative h)
  | string h => exact .string h.token

theorem ReadableScalar.reads {t : List Char} (h : ReadableScalar t) : ∃ a, Reads scalar t a := by
  cases h with
  | null => exact ⟨.null, fun r _ => rfl⟩
  | bool b => exact ⟨.bool b, fun r _ => by cases b <;> rfl⟩
  | number h range => exact (settles_number h).reads range
  | negative h range => exact (settles_negative h).reads range
  | string h => exact (settles_string h.token).reads (not_not_intro ⟨_, h⟩)

/-- A scalar is read unless it is a number out of range or a string that spells no text. -/
theorem readableScalar_iff {t : List Char} (h : ScalarText t) :
    ReadableScalar t ↔ ∃ a, Reads scalar t a := by
  refine ⟨fun hreadable => hreadable.reads, fun ⟨a, hread⟩ => ?_⟩
  cases h with
  | null => exact .null
  | bool b => exact .bool b
  | number h =>
    cases h with
    | unsigned h => exact .number h fun hrange => (settles_number h).not_reads hrange hread
    | negative h => exact .negative h fun hrange => (settles_negative h).not_reads hrange hread
  | string h =>
    by_cases hspells : ∃ text, StringText t text
    · obtain ⟨text, htext⟩ := hspells
      exact .string htext
    · exact absurd hread ((settles_string h).not_reads hspells)

theorem eq_append_of_word {α : Type} {a b : α} {letters s r : List Char}
    (h : word a letters s = .ok (b, r)) : s = letters ++ r := by
  induction letters generalizing s with
  | nil =>
    cases h
    rfl
  | cons l letters ih =>
    cases s with
    | nil => cases h
    | cons c s =>
      rw [word] at h
      split at h
      · rename_i hc
        rw [hc, ih h]
        rfl
      · cases h

theorem exists_of_map_eq_ok {α β : Type} {x : Except Failure (α × List Char)} {f : α → β} {b : β}
    {r : List Char} (h : (x.map fun (a, r) => (f a, r)) = .ok (b, r)) :
    ∃ a, x = .ok (a, r) ∧ f a = b := by
  cases x with
  | error e => cases h
  | ok p =>
    cases h
    exact ⟨p.1, rfl, rfl⟩

theorem exists_of_scalar {s r : List Char} {a : Scalar} (h : scalar s = .ok (a, r)) :
    ∃ t, s = t ++ r ∧ ScalarText t := by
  unfold scalar at h
  split at h
  · cases h
  · rw [eq_append_of_word h]
    exact ⟨_, rfl, .null⟩
  · rw [eq_append_of_word h]
    exact ⟨_, rfl, .bool true⟩
  · rw [eq_append_of_word h]
    exact ⟨_, rfl, .bool false⟩
  · obtain ⟨text, htext, rfl⟩ := exists_of_map_eq_ok h
    obtain ⟨t, rfl, ht⟩ := exists_of_stringRest htext
    exact ⟨'"' :: (t ++ ['"']), by simp, .string (StringText.token ⟨t, rfl, ht⟩)⟩
  · obtain ⟨x, hx, rfl⟩ := exists_of_map_eq_ok h
    obtain ⟨t, rfl, ht⟩ := exists_of_unsignedNumeral hx
    exact ⟨'-' :: t, rfl, .number (.negative ht)⟩
  · split at h
    · obtain ⟨x, hx, rfl⟩ := exists_of_map_eq_ok h
      obtain ⟨t, rfl, ht⟩ := exists_of_unsignedNumeral hx
      exact ⟨t, rfl, .number (.unsigned ht)⟩
    · cases h

theorem skipScalar_append {t : List Char} (h : ScalarText t) : Reads skipScalar t () := by
  intro r hr
  cases h with
  | null => rfl
  | bool b => cases b <;> rfl
  | string h =>
    obtain ⟨s, ns, rfl, hs⟩ := h
    rw [List.cons_append, List.append_assoc]
    exact skipStringRest_of_pieces hs r
  | number h =>
    cases h with
    | @negative t h =>
      show (skipNumeral (t ++ r)).map _ = _
      rw [skipNumeral_append h hr]
      rfl
    | unsigned h =>
      have hstart := h.startsWithDigit r
      rw [skipScalar, if_pos hstart, skipNumeral_append h hr]
      · rfl
      · exact fun s hs => ne_cons_of_startsWithDigit hstart rfl s hs
      · exact fun s hs => ne_cons_of_startsWithDigit hstart rfl s hs

end DocumentRest.Json
