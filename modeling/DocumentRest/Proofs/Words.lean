import DocumentRest.Text.Blank
import Mathlib.Data.List.Basic
import Mathlib.Data.List.TakeWhile
import Mathlib.Tactic.Common

namespace DocumentRest.Text

def IsBlankText (s : List Char) : Prop := ∀ c ∈ s, isBlank c = true

structure IsTrimmed (s : List Char) : Prop where
  first : ∀ c ∈ s.head?, isBlank c = false
  last : ∀ c ∈ s.getLast?, isBlank c = false

structure IsWord (s : List Char) : Prop where
  ne_nil : s ≠ []
  unbroken : ∀ c ∈ s, isBlank c = false

def Trims (s m : List Char) : Prop :=
  ∃ before behind, IsBlankText before ∧ IsBlankText behind ∧ s = before ++ m ++ behind ∧
    IsTrimmed m

theorem isBlankText_nil : IsBlankText [] := by simp [IsBlankText]

theorem isTrimmed_nil : IsTrimmed [] := ⟨by simp, by simp⟩

theorem isWord_of_any {s : List Char} (hne : s ≠ []) (h : s.any isBlank = false) : IsWord s := by
  rw [List.any_eq_false] at h
  exact ⟨hne, fun c hc => by simpa using h c hc⟩

theorem IsWord.any_eq_false {s : List Char} (h : IsWord s) : s.any isBlank = false :=
  List.any_eq_false.mpr fun c hc => by simp [h.unbroken c hc]

theorem IsWord.isTrimmed {s : List Char} (h : IsWord s) : IsTrimmed s :=
  ⟨fun c hc => h.unbroken c (List.mem_of_mem_head? hc),
    fun c hc => h.unbroken c (List.mem_of_mem_getLast? hc)⟩

theorem IsTrimmed.append {s t : List Char} (hs : IsTrimmed s) (hs' : s ≠ []) (ht : IsTrimmed t)
    (ht' : t ≠ []) (middle : List Char) : IsTrimmed (s ++ middle ++ t) := by
  constructor
  · intro c hc
    obtain ⟨a, s, rfl⟩ := List.exists_cons_of_ne_nil hs'
    exact hs.first c (by simpa using hc)
  · intro c hc
    rw [List.getLast?_append_of_ne_nil _ ht'] at hc
    exact ht.last c hc

section Trim

theorem IsBlankText.append {s t : List Char} (hs : IsBlankText s) (ht : IsBlankText t) :
    IsBlankText (s ++ t) := by
  intro c hc
  rcases List.mem_append.mp hc with hc | hc
  · exact hs c hc
  · exact ht c hc

theorem trimEnd_append {m behind : List Char} (hm : ∀ c ∈ m.getLast?, isBlank c = false)
    (hb : IsBlankText behind) : trimEnd (m ++ behind) = m := by
  induction m with
  | nil =>
    induction behind with
    | nil => rfl
    | cons c r ih =>
      have hr : trimEnd r = [] := ih fun d hd => hb d (List.mem_cons_of_mem c hd)
      rw [List.nil_append, trimEnd, hr]
      exact if_pos (hb c List.mem_cons_self)
  | cons c r ih =>
    cases r with
    | nil =>
      have hb' : trimEnd behind = [] := ih (by simp)
      rw [List.singleton_append, trimEnd, hb']
      exact if_neg (by simp [hm c rfl])
    | cons d t =>
      have hr : trimEnd ((d :: t) ++ behind) = d :: t := ih (by simpa using hm)
      rw [List.cons_append, trimEnd, hr]

theorem exists_trimEnd (s : List Char) :
    ∃ behind, IsBlankText behind ∧ s = trimEnd s ++ behind ∧
      ∀ c ∈ (trimEnd s).getLast?, isBlank c = false := by
  induction s with
  | nil => exact ⟨[], isBlankText_nil, rfl, by simp [trimEnd]⟩
  | cons c r ih =>
    obtain ⟨behind, hb, hr, hlast⟩ := ih
    cases ht : trimEnd r with
    | nil =>
      rw [ht, List.nil_append] at hr
      cases hc : isBlank c with
      | true =>
        have he : trimEnd (c :: r) = [] := by
          rw [trimEnd, ht]
          exact if_pos hc
        refine ⟨c :: behind, ?_, by rw [he, hr, List.nil_append], by simp [he]⟩
        intro d hd
        rcases List.mem_cons.mp hd with rfl | hd
        · exact hc
        · exact hb d hd
      | false =>
        have he : trimEnd (c :: r) = [c] := by
          rw [trimEnd, ht]
          exact if_neg (by simp [hc])
        exact ⟨behind, hb, by rw [he, hr, List.singleton_append], by simp [he, hc]⟩
    | cons d t =>
      have he : trimEnd (c :: r) = c :: d :: t := by rw [trimEnd, ht]
      rw [ht] at hr hlast
      exact ⟨behind, hb, by rw [he, hr]; rfl, by rw [he]; simpa using hlast⟩

theorem isBlank_of_mem_head?_trimStart (s : List Char) :
    ∀ c ∈ (trimStart s).head?, isBlank c = false := by
  intro c hc
  have h := List.head?_dropWhile_not isBlank s
  rw [trimStart] at hc
  rw [Option.mem_def.mp hc] at h
  simpa using h

theorem trims_trim (s : List Char) : Trims s (trim s) := by
  obtain ⟨behind, hb, hs, hlast⟩ := exists_trimEnd (trimStart s)
  refine ⟨s.takeWhile isBlank, behind, fun c hc => List.mem_takeWhile_imp hc, hb, ?_, ?_, hlast⟩
  · rw [List.append_assoc, trim, ← hs, trimStart, List.takeWhile_append_dropWhile]
  · intro c hc
    apply isBlank_of_mem_head?_trimStart s
    rw [hs]
    exact List.mem_head?_append_of_mem_head? hc

/-- Trimming takes away all blanks at both ends, and nothing else. -/
theorem trim_eq_iff {s m : List Char} : trim s = m ↔ Trims s m := by
  constructor
  · rintro rfl
    exact trims_trim s
  · rintro ⟨before, behind, hbefore, hbehind, rfl, hm⟩
    rw [trim, trimStart, List.append_assoc, List.dropWhile_append_of_pos hbefore]
    cases m with
    | nil =>
      rw [List.nil_append, List.dropWhile_eq_nil_iff.mpr hbehind]
      rfl
    | cons c r =>
      have hc : ¬ isBlank c = true := by simp [hm.first c rfl]
      rw [List.cons_append, List.dropWhile_cons_of_neg hc, ← List.cons_append,
        trimEnd_append hm.last hbehind]

theorem isTrimmed_trim (s : List Char) : IsTrimmed (trim s) := by
  obtain ⟨_, _, _, _, _, h⟩ := trims_trim s
  exact h

theorem trim_of_isTrimmed {s : List Char} (h : IsTrimmed s) : trim s = s :=
  trim_eq_iff.mpr ⟨[], [], isBlankText_nil, isBlankText_nil, by simp, h⟩

theorem trim_blanks {before behind : List Char} (hbefore : IsBlankText before)
    (hbehind : IsBlankText behind) (s : List Char) : trim (before ++ s ++ behind) = trim s := by
  obtain ⟨a, b, ha, hb, hs, hm⟩ := trims_trim s
  refine trim_eq_iff.mpr ⟨before ++ a, b ++ behind, hbefore.append ha, hb.append hbehind, ?_, hm⟩
  conv_lhs => rw [hs]
  simp only [List.append_assoc]

end Trim

section Words

theorem words_cons_of_isBlank {c : Char} (hc : isBlank c = true) (r : List Char) :
    words (c :: r) = words r := by
  simp [words, hc]

theorem words_cons_cons {c d : Char} (hc : isBlank c = false) (t : List Char) :
    words (c :: d :: t) =
      if isBlank d then [c] :: words (d :: t)
      else match words (d :: t) with
        | w :: ws => (c :: w) :: ws
        | [] => [[c]] := by
  generalize hw : words (d :: t) = ws
  rw [words.eq_def]
  simp only [hc, hw, Bool.false_eq_true, if_false]
  cases ws <;> cases hd : isBlank d <;> simp [hd]

/-- The words are the pieces between the blanks, without the empty ones. -/
theorem words_eq_filter (s : List Char) : words s = (s.splitOnP isBlank).filter (· ≠ []) := by
  induction s with
  | nil => rfl
  | cons c r ih =>
    rw [List.splitOnP_cons_eq_if_modifyHead]
    cases hc : isBlank c with
    | true =>
      rw [words_cons_of_isBlank hc, ih]
      simp
    | false =>
      cases r with
      | nil => simp [words, hc]
      | cons d t =>
        rw [words_cons_cons hc, ih, List.splitOnP_cons_eq_if_modifyHead]
        cases isBlank d with
        | true => simp
        | false =>
          obtain ⟨w, ws, hw⟩ := List.exists_cons_of_ne_nil (List.splitOnP_ne_nil isBlank t)
          simp [hw]

theorem eq_false_of_mem_splitOnP {α : Type} {p : α → Bool} {s w : List α}
    (h : w ∈ s.splitOnP p) : ∀ c ∈ w, p c = false := by
  induction s generalizing w with
  | nil =>
    rw [List.splitOnP_nil, List.mem_singleton] at h
    simp [h]
  | cons a r ih =>
    rw [List.splitOnP_cons_eq_if_modifyHead] at h
    cases ha : p a with
    | true =>
      rw [ha, if_pos rfl] at h
      rcases List.mem_cons.mp h with rfl | h
      · simp
      · exact ih h
    | false =>
      obtain ⟨v, vs, hv⟩ := List.exists_cons_of_ne_nil (List.splitOnP_ne_nil p r)
      rw [ha, if_neg Bool.false_ne_true, hv, List.modifyHead_cons] at h
      rw [hv] at ih
      rcases List.mem_cons.mp h with rfl | h
      · intro c hc
        rcases List.mem_cons.mp hc with rfl | hc
        · exact ha
        · exact ih List.mem_cons_self c hc
      · exact ih (List.mem_cons_of_mem v h)

theorem isWord_of_mem_words {s w : List Char} (h : w ∈ words s) : IsWord w := by
  rw [words_eq_filter, List.mem_filter] at h
  exact ⟨by simpa using h.2, eq_false_of_mem_splitOnP h.1⟩

theorem words_of_isWord {w : List Char} (h : IsWord w) : words w = [w] := by
  rw [words_eq_filter, List.splitOnP_eq_singleton h.unbroken]
  simp [h.ne_nil]

theorem words_append {c : Char} (hc : isBlank c = true) (s t : List Char) :
    words (s ++ c :: t) = words s ++ words t := by
  simp only [words_eq_filter, List.splitOnP_append_cons s t hc, List.filter_append]

theorem firstWord_append {w : List Char} (hw : IsWord w) {c : Char} (hc : isBlank c = true)
    (s : List Char) : firstWord (w ++ c :: s) = (w, trim (c :: s)) := by
  have hpos : ∀ d ∈ w, (!isBlank d) = true := fun d hd => by simp [hw.unbroken d hd]
  have hneg : ¬ (!isBlank c) = true := by simp [hc]
  rw [firstWord, List.takeWhile_append_of_pos hpos, List.dropWhile_append_of_pos hpos,
    List.takeWhile_cons_of_neg (p := fun a => !isBlank a) hneg,
    List.dropWhile_cons_of_neg (p := fun a => !isBlank a) hneg, List.append_nil]

theorem firstWord_of_isWord {w : List Char} (hw : IsWord w) : firstWord w = (w, []) := by
  have hpos : ∀ d ∈ w, (!isBlank d) = true := fun d hd => by simp [hw.unbroken d hd]
  rw [firstWord, List.takeWhile_eq_self_iff.mpr hpos, List.dropWhile_eq_nil_iff.mpr hpos]
  rfl

theorem words_blanks {before : List Char} (h : IsBlankText before) (s : List Char) :
    words (before ++ s) = words s := by
  induction before with
  | nil => rfl
  | cons c r ih =>
    rw [List.cons_append, words_cons_of_isBlank (h c List.mem_cons_self),
      ih fun d hd => h d (List.mem_cons_of_mem c hd)]

theorem words_of_isBlankText {s : List Char} (h : IsBlankText s) : words s = [] := by
  have hs := words_blanks h []
  rwa [List.append_nil] at hs

theorem words_trim (s : List Char) : words (trim s) = words s := by
  obtain ⟨before, behind, hbefore, hbehind, hs, _⟩ := trims_trim s
  conv_rhs => rw [hs, List.append_assoc, words_blanks hbefore]
  cases behind with
  | nil => rw [List.append_nil]
  | cons c r =>
    have hr : words r = [] := words_of_isBlankText fun d hd => hbehind d (List.mem_cons_of_mem c hd)
    rw [words_append (hbehind c List.mem_cons_self), hr, List.append_nil]

end Words

section Behind

def EndsWord (s : List Char) : Prop := ∀ c ∈ s.head?, isBlank c = true

variable {w s : List Char}

theorem EndsWord.blanks {separator : List Char} (h : IsBlankText separator)
    (hne : separator ≠ []) (s : List Char) : EndsWord (separator ++ s) := by
  obtain ⟨c, r, rfl⟩ := List.exists_cons_of_ne_nil hne
  intro d hd
  rw [List.cons_append, List.head?_cons, Option.mem_some_iff] at hd
  exact hd ▸ h c List.mem_cons_self

theorem firstWord_behind (hw : IsWord w) (hs : EndsWord s) : firstWord (w ++ s) = (w, trim s) := by
  cases s with
  | nil => rw [List.append_nil, firstWord_of_isWord hw, trim_of_isTrimmed isTrimmed_nil]
  | cons c r => exact firstWord_append hw (hs c rfl) r

theorem words_behind (hw : IsWord w) (hs : EndsWord s) : words (w ++ s) = w :: words s := by
  cases s with
  | nil => rw [List.append_nil, words_of_isWord hw]; rfl
  | cons c r =>
    have hc := hs c rfl
    rw [words_append hc, words_of_isWord hw, words_cons_of_isBlank hc]
    rfl

/-- Trimming a text that a word begins only takes away blanks behind the word. -/
theorem exists_trim_behind (hw : IsWord w) (hs : EndsWord s) :
    ∃ t, trim (w ++ s) = w ++ t ∧ EndsWord t ∧ trim t = trim s := by
  obtain ⟨behind, hb, hsplit, hlast⟩ := exists_trimEnd s
  have htrim : trim (trimEnd s) = trim s := by
    have h := trim_blanks isBlankText_nil hb (trimEnd s)
    rw [List.nil_append, ← hsplit] at h
    exact h.symm
  have hends : EndsWord (trimEnd s) := by
    intro c hc
    apply hs
    rw [hsplit]
    exact List.mem_head?_append_of_mem_head? hc
  refine ⟨trimEnd s, ?_, hends, htrim⟩
  refine trim_eq_iff.mpr ⟨[], behind, isBlankText_nil, hb, ?_, ?_⟩
  · rw [List.nil_append, List.append_assoc, ← hsplit]
  · constructor
    · intro c hc
      obtain ⟨a, r, rfl⟩ := List.exists_cons_of_ne_nil hw.ne_nil
      exact hw.isTrimmed.first c (by simpa using hc)
    · intro c hc
      by_cases hnil : trimEnd s = []
      · rw [hnil, List.append_nil] at hc
        exact hw.isTrimmed.last c hc
      · rw [List.getLast?_append_of_ne_nil _ hnil] at hc
        exact hlast c hc

theorem exists_of_words_eq_cons {line : List Char} {ws : List (List Char)}
    (h : words line = w :: ws) : ∃ before s, line = before ++ (w ++ s) ∧ IsBlankText before ∧
      IsWord w ∧ EndsWord s ∧ words s = ws := by
  let before := line.takeWhile isBlank
  let rest := line.dropWhile isBlank
  let v := rest.takeWhile (!isBlank ·)
  let s := rest.dropWhile (!isBlank ·)
  have hrest : v ++ s = rest := List.takeWhile_append_dropWhile
  have hline : line = before ++ (v ++ s) := by rw [hrest, List.takeWhile_append_dropWhile]
  have hbefore : IsBlankText before := fun c hc => List.mem_takeWhile_imp hc
  have hends : EndsWord s := by
    intro c hc
    have hhead := List.head?_dropWhile_not (!isBlank ·) rest
    rw [show rest.dropWhile (!isBlank ·) = s from rfl, Option.mem_def.mp hc] at hhead
    simpa using hhead
  have hunbroken : ∀ c ∈ v, isBlank c = false := fun c hc => by
    simpa using List.mem_takeWhile_imp hc
  rw [hline, words_blanks hbefore] at h
  by_cases hv : v = []
  · -- Without a first word all of the line is blank, but then it has no words.
    have hfirst := isBlank_of_mem_head?_trimStart line
    rw [hv, List.nil_append] at hrest h
    cases hs : s with
    | nil =>
      rw [hs] at h
      cases h
    | cons c r =>
      have hblank := hends c (by rw [hs]; rfl)
      have hnot := hfirst c (by rw [trimStart, show line.dropWhile isBlank = s from hrest.symm, hs]; rfl)
      rw [hblank] at hnot
      cases hnot
  · have hword : IsWord v := ⟨hv, hunbroken⟩
    rw [words_behind hword hends] at h
    obtain ⟨rfl, hws⟩ := List.cons.inj h
    exact ⟨before, s, hline, hbefore, hword, hends, hws⟩

end Behind

section Line

theorem exists_intercalate_cons (w : List Char) (ws : List (List Char)) :
    ∃ s, [' '].intercalate (w :: ws) = w ++ s := by
  cases ws with
  | nil => exact ⟨[], by rw [List.intercalate_singleton, List.append_nil]⟩
  | cons v vs => exact ⟨_, by rw [List.intercalate_cons_cons, List.append_assoc]⟩

theorem intercalate_ne_nil {w : List Char} (hw : w ≠ []) (ws : List (List Char)) :
    [' '].intercalate (w :: ws) ≠ [] := by
  obtain ⟨s, hs⟩ := exists_intercalate_cons w ws
  rw [hs]
  exact List.append_ne_nil_of_left_ne_nil hw s

theorem isTrimmed_intercalate {ws : List (List Char)} (h : ∀ w ∈ ws, w ≠ [] ∧ IsTrimmed w) :
    IsTrimmed ([' '].intercalate ws) := by
  induction ws with
  | nil => exact isTrimmed_nil
  | cons w ws ih =>
    obtain ⟨hne, hw⟩ := h w List.mem_cons_self
    have hws : ∀ v ∈ ws, v ≠ [] ∧ IsTrimmed v := fun v hv => h v (List.mem_cons_of_mem w hv)
    cases ws with
    | nil =>
      rw [List.intercalate_singleton]
      exact hw
    | cons v vs =>
      rw [List.intercalate_cons_cons]
      exact hw.append hne (ih hws) (intercalate_ne_nil (hws v List.mem_cons_self).1 vs) [' ']

theorem words_intercalate {ws : List (List Char)} (h : ∀ w ∈ ws, IsWord w) :
    words ([' '].intercalate ws) = ws := by
  induction ws with
  | nil => rfl
  | cons w ws ih =>
    have hw : words w = [w] := words_of_isWord (h w List.mem_cons_self)
    cases ws with
    | nil => rw [List.intercalate_singleton, hw]
    | cons v vs =>
      rw [List.intercalate_cons_cons, List.append_assoc, List.singleton_append,
        words_append (by decide), hw, ih fun u hu => h u (List.mem_cons_of_mem w hu)]
      rfl

/-- The first word of a line is what is written first, and the rest is what is written behind it. -/
theorem firstWord_intercalate {w : List Char} {ws : List (List Char)} (hw : IsWord w)
    (hws : IsTrimmed ([' '].intercalate ws)) :
    firstWord ([' '].intercalate (w :: ws)) = (w, [' '].intercalate ws) := by
  cases ws with
  | nil =>
    rw [List.intercalate_singleton, firstWord_of_isWord hw]
    rfl
  | cons v vs =>
    have hspace : IsBlankText [' '] := fun c hc => by rw [List.mem_singleton.mp hc]; decide
    have htrim := trim_blanks hspace isBlankText_nil ([' '].intercalate (v :: vs))
    rw [List.append_nil, trim_of_isTrimmed hws] at htrim
    rw [List.intercalate_cons_cons, List.append_assoc, List.singleton_append,
      firstWord_append hw (by decide)]
    exact congrArg (Prod.mk w) htrim

end Line

end DocumentRest.Text
