import DocumentRest.Proofs.RequestEncoding

namespace DocumentRest

namespace Text

def unreserved : List Char :=
  "ABCDEFGHIJKLMNOPQRSTUVWXYZabcdefghijklmnopqrstuvwxyz0123456789-_.~".toList

inductive IsEncoded : List Char → Prop
  | nil : IsEncoded []
  | plain {c : Char} (h : c ∈ unreserved) {s : List Char} (rest : IsEncoded s) : IsEncoded (c :: s)
  | escape {high low : Char} (hhigh : high ∈ hexDigits) (hlow : low ∈ hexDigits) {s : List Char}
      (rest : IsEncoded s) : IsEncoded ('%' :: high :: low :: s)

theorem mem_unreserved {n : Nat} (hn : n < 256) (h : isUnreserved (.ofNat n) = true) :
    Char.ofNat n ∈ unreserved := by
  have hall : ∀ n < 256, isUnreserved (.ofNat n) = true → Char.ofNat n ∈ unreserved := by
    decide +kernel
  exact hall n hn h

theorem mem_hexDigits {n : Nat} (hn : n < 16) : hexDigit n ∈ hexDigits := by
  have hall : ∀ n < 16, hexDigit n ∈ hexDigits := by decide
  exact hall n hn

theorem isEncoded_percentEncodeByte (b : UInt8) {s : List Char} (hs : IsEncoded s) :
    IsEncoded (percentEncodeByte b ++ s) := by
  have hb : b.toNat < 256 := b.toNat_lt
  by_cases hu : isUnreserved (Char.ofNat b.toNat) = true
  · rw [percentEncodeByte, if_pos hu]
    exact .plain (mem_unreserved hb hu) hs
  · rw [percentEncodeByte, if_neg hu]
    exact .escape (mem_hexDigits (by omega)) (mem_hexDigits (by omega)) hs

theorem isEncoded_percentEncode (s : String) : IsEncoded (percentEncode s).toList := by
  rw [percentEncode, String.toList_ofList]
  induction utf8Bytes s.toList with
  | nil => exact .nil
  | cons b bytes ih =>
    rw [List.flatMap_cons]
    exact isEncoded_percentEncodeByte b ih

end Text

def segments (path : String) : List String := (path.toList.splitOn '/').map .ofList

theorem segments_append_slash (s s' : String) :
    segments (s ++ ("/" ++ s')) = segments s ++ segments s' := by
  have hs : (s ++ ("/" ++ s')).toList = s.toList ++ '/' :: s'.toList := by simp
  rw [segments, hs, List.splitOn_append_cons_self, List.map_append]
  rfl

theorem segments_of_not_mem {s : String} (h : '/' ∉ s.toList) : segments s = [s] := by
  rw [segments, List.splitOn_eq_singleton h, List.map_singleton, String.ofList_toList]

theorem segments_cons {s : String} (h : '/' ∉ s.toList) (s' : String) :
    segments (s ++ ("/" ++ s')) = s :: segments s' := by
  rw [segments_append_slash, segments_of_not_mem h, List.singleton_append]

namespace Endpoint

def suffixSegments (limit fetchPlan : Option String) : List String :=
  ((effectiveLimit limit fetchPlan).toList ++ (nonEmpty fetchPlan).toList).flatMap segments

/-- Whatever stands before the last segments of a query's path, they are added to its segments. -/
theorem segments_append_querySuffix (s : String) (limit fetchPlan : Option String) :
    segments (s ++ querySuffix limit fetchPlan) =
      segments s ++ suffixSegments limit fetchPlan := by
  rw [querySuffix_eq, suffixSegments]
  cases hn : nonEmpty limit <;> cases hp : nonEmpty fetchPlan <;>
    simp [effectiveLimit, suffix, hn, hp, String.append_assoc, segments_append_slash]

theorem segments_querySuffix (limit fetchPlan : Option String) :
    segments (querySuffix limit fetchPlan) = "" :: suffixSegments limit fetchPlan := by
  have h := segments_append_querySuffix "" limit fetchPlan
  rwa [String.empty_append] at h

section Sql

variable {database : String} (h : '/' ∉ database.toList) (sql : String)
include h

/-- The segments of a path that holds encoded SQL, by those of what follows it. -/
theorem segments_sql {word : String} (hword : '/' ∉ word.toList) (tail : String) :
    segments ("/" ++ word ++ "/" ++ database ++ "/sql/" ++ tail) =
      ["", word, database, "sql"] ++ segments tail := by
  -- Grouped from the right, every slash stands before all that follows its segment.
  have hassoc : "/" ++ word ++ "/" ++ database ++ "/sql/" ++ tail =
      "" ++ ("/" ++ (word ++ ("/" ++ (database ++ ("/" ++ ("sql" ++ ("/" ++ tail))))))) := by
    apply String.toList_injective
    simp
  rw [hassoc, segments_cons (by decide), segments_cons hword, segments_cons h,
    segments_cons (by decide)]
  rfl

theorem segments_query (limit fetchPlan : Option String) :
    segments ((query sql limit fetchPlan).path database) =
      ["", "query", database, "sql", Text.percentEncode sql] ++ suffixSegments limit fetchPlan := by
  have hpath : (query sql limit fetchPlan).path database =
      "/" ++ "query" ++ "/" ++ database ++ "/sql/" ++
        (Text.percentEncode sql ++ querySuffix limit fetchPlan) := by
    rw [path, ← String.append_assoc]
    rfl
  rw [hpath, segments_sql h (by decide), segments_append_querySuffix,
    segments_of_not_mem (Text.slash_not_mem_percentEncode sql)]
  rfl

theorem segments_command :
    segments ((command sql).path database) =
      ["", "command", database, "sql", Text.percentEncode sql, ""] := by
  have hpath : (command sql).path database =
      "/" ++ "command" ++ "/" ++ database ++ "/sql/" ++
        (Text.percentEncode sql ++ ("/" ++ "")) := by
    rw [path, ← String.append_assoc]
    rfl
  rw [hpath, segments_sql h (by decide), segments_cons (Text.slash_not_mem_percentEncode sql),
    segments_of_not_mem (by decide)]
  rfl

end Sql

/-- The SQL of a query or of a command is one segment of its path and leaves all others as they are.
That segment holds unreserved characters and escapes only; it decodes to the UTF-8 bytes of the SQL,
and the text of these bytes is encoded as the same segment again. -/
theorem sql_fills_one_segment {database : String} (h : '/' ∉ database.toList) (sql : String) :
    (∀ limit fetchPlan,
      segments (querySuffix limit fetchPlan) = "" :: suffixSegments limit fetchPlan ∧
      segments ((query sql limit fetchPlan).path database) =
        ["", "query", database, "sql", Text.percentEncode sql] ++
          suffixSegments limit fetchPlan) ∧
    segments ((command sql).path database) =
      ["", "command", database, "sql", Text.percentEncode sql, ""] ∧
    Text.IsEncoded (Text.percentEncode sql).toList ∧
    Text.percentDecode? (Text.percentEncode sql).toList = some (Text.utf8Bytes sql.toList) ∧
    (text? (Text.percentEncode sql).toList).map Text.percentEncode =
      some (Text.percentEncode sql) := by
  refine ⟨fun limit fetchPlan => ⟨segments_querySuffix limit fetchPlan, ?_⟩, ?_, ?_, ?_, ?_⟩
  · exact segments_query h sql limit fetchPlan
  · exact segments_command h sql
  · exact Text.isEncoded_percentEncode sql
  · exact Text.percentDecode?_percentEncode sql
  · rw [text?_percentEncode, Option.map_some]

/-- SQL with slashes, with what looks like an escape or the last segments, and with a character of
two bytes. -/
theorem sql_fills_one_segment_slashes :
    let sql := "é/20/%2F?#"
    '/' ∉ "demo".toList ∧
      segments ((query sql none (some "*:-1/x")).path "demo") =
        ["", "query", "demo", "sql", "%C3%A9%2F20%2F%252F%3F%23", "20", "*:-1", "x"] ∧
      segments ((command sql).path "demo") =
        ["", "command", "demo", "sql", "%C3%A9%2F20%2F%252F%3F%23", ""] ∧
      Text.percentDecode? "%C3%A9%2F20%2F%252F%3F%23".toList =
        some (Text.utf8Bytes sql.toList) := by
  intro sql
  have hdemo : '/' ∉ "demo".toList := by decide
  have hcode : Text.percentEncode sql = "%C3%A9%2F20%2F%252F%3F%23" := by decide +kernel
  obtain ⟨hquery, hcommand, _, hdecode, _⟩ := sql_fills_one_segment hdemo sql
  rw [hcode] at hcommand hdecode
  refine ⟨hdemo, ?_, hcommand, hdecode⟩
  rw [(hquery none (some "*:-1/x")).2, hcode]
  decide +kernel

end Endpoint

end DocumentRest
