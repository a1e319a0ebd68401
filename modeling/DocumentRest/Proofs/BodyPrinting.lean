import DocumentRest.Body
import DocumentRest.Proofs.Json.Writing
import Mathlib

namespace DocumentRest.Body

theorem exists_of_ofText {text : String} {b : Body} (h : ofText true text = .ok b) :
    ∃ v, b = structured v ∧ Json.Value.parse text = .ok v := by
  rw [ofText, if_pos rfl] at h
  cases hv : Json.Value.parse text with
  | error e =>
    rw [hv] at h
    cases h
  | ok v =>
    rw [hv] at h
    cases h
    exact ⟨v, rfl, rfl⟩

theorem readable_of_ofText {text : String} {b : Body} (h : ofText true text = .ok b) :
    ∃ v, b = structured v ∧ v.Readable Json.maxDepth := by
  obtain ⟨v, rfl, hv⟩ := exists_of_ofText h
  exact ⟨v, rfl, (Json.gives_read Json.maxDepth).readText hv⟩

theorem ofText_of_parse {text : String} {v : Json.Value} (h : Json.Value.parse text = .ok v) :
    ofText true text = .ok (structured v) := by
  rw [ofText, if_pos rfl, h]
  rfl

/-- A parsed answer without floats is parsed again from its text on several lines and from that on one
line, and prints as the same two texts then. -/
theorem printing_loses_nothing {text : String} {b : Body} (h : ofText true text = .ok b)
    (hfree : b.toJson.FloatFree) :
    ofText true b.pretty = .ok b ∧ ofText true b.toJson.compact = .ok b ∧
      ∀ printed ∈ [b.pretty, b.toJson.compact],
        (ofText true printed).map (fun b' => (b'.pretty, b'.toJson.compact)) =
          .ok (b.pretty, b.toJson.compact) := by
  obtain ⟨v, rfl, hv⟩ := readable_of_ofText h
  have hread (l : Json.Layout) : ofText true (.ofList (v.write l)) = .ok (structured v) :=
    ofText_of_parse (Json.readText_of_reads (Json.reads_write hv hfree l))
  have hpretty : ofText true v.pretty = .ok (structured v) := hread (.indented 0)
  have hcompact : ofText true v.compact = .ok (structured v) := hread .compact
  refine ⟨hpretty, hcompact, fun printed hprinted => ?_⟩
  have hagain : ofText true printed = .ok (structured v) := by
    rcases List.mem_pair.mp hprinted with rfl | rfl
    · exact hpretty
    · exact hcompact
  rw [hagain]
  rfl

theorem printing_loses_nothing_nested :
    let text := "\x7b\"b\": 0, \"a\": [[], \x7b\x7d, -9223372036854775808, 18446744073709551615],
      \"b\": \"\\u001f\\ud83d\\ude00\\/\\n\\\"\"\x7d"
    let b := structured (.object [
      ("a", .array [.array [], .object [], .integer (-9223372036854775808),
        .integer 18446744073709551615]),
      ("b", .string "\x1f😀/\n\"")])
    ofText true text = .ok b ∧ b.toJson.FloatFree ∧
      ofText true b.pretty = .ok b ∧ ofText true b.toJson.compact = .ok b ∧
      ∀ printed ∈ [b.pretty, b.toJson.compact],
        (ofText true printed).map (fun b' => (b'.pretty, b'.toJson.compact)) =
          .ok (b.pretty, b.toJson.compact) := by
  intro text b
  have hb : ofText true text = .ok b := by
    unfold text b
    cbv
  have hfree : b.toJson.FloatFree := by
    simp [b, toJson, Json.Value.integer, Json.Value.string, Json.Scalar.IsFloat]
  exact ⟨hb, hfree, printing_loses_nothing hb hfree⟩

end DocumentRest.Body
