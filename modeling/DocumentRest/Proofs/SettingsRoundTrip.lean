import DocumentRest.Config
import DocumentRest.DatabasePath
import DocumentRest.Proofs.Json.Records

namespace DocumentRest

open Json

theorem reads_logSettings (l : LogSettings) :
    Reads LogSettings.schema.read (l.toJson.write .compact) l := by
  have hstring := scalarReader_readString.reads
  exact Schema.Fills.reads (.field (hstring _) (.field (hstring _) .nil)) (by decide)

theorem reads_querySettings (q : QuerySettings) :
    Reads QuerySettings.schema.read (q.toJson.write .compact) q := by
  have hoption := scalarReader_readString.reads_optional
  exact Schema.Fills.reads (.field (hoption _ _) (.field (hoption _ _) .nil)) (by decide)

theorem reads_config (c : Config) : Reads Config.schema.read (c.toJson.write .compact) c := by
  have hstring := scalarReader_readString.reads
  have hoption := scalarReader_readString.reads_optional
  have hbool := scalarReader_readBool.reads
  have htimeout := scalarReader_readUInt64.reads_optional
  exact Schema.Fills.reads
    (.field (hstring c.databasePath) <| .field (hoption c.username _) <|
      .field (hoption c.password _) <| .field (hbool c.structured) <|
      .field (htimeout c.timeout _) <| .field (reads_logSettings c.log) <|
      .field (reads_querySettings c.query) .nil)
    (by decide)

theorem reads_databasePath (p : DatabasePath) :
    Reads DatabasePath.schema.read (p.toJson.write .compact) p := by
  have hstring := scalarReader_readString.reads
  exact Schema.Fills.reads (.field (hstring _) (.field (hstring _) .nil)) (by decide)

/-- A configuration and a database path are read back from their JSON texts. -/
theorem settings_read_back :
    (∀ c : Config, Config.ofJson c.toJson.compact = .ok c) ∧
      ∀ p : DatabasePath, DatabasePath.ofJson p.toJson.compact = .ok p :=
  ⟨fun c => readText_of_reads (reads_config c), fun p => readText_of_reads (reads_databasePath p)⟩

end DocumentRest
