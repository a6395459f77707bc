/-
Settings, written and read back. Writing cuts a span to whole milliseconds
and keeps the low 64 bits of their number, so settings read back as
themselves if their spans are whole milliseconds that fit. Every span that
was read is: whatever text settings were read from, with its entries in any
order, with some left out or with others among them, or as a list, they are
settings that read back.
-/
import Courier.Proofs.Json.Records
import Courier.Settings.Connection
import Courier.Settings.Consumer
import Courier.Settings.Producer

namespace Courier

-- ================================================ statement vocabulary

/-- Spans of whole milliseconds, of which 64 bits can tell the number. -/
def Span.IsWholeMillis (d : Span) : Prop := d.nanosBelowMilli = 0 ∧ d.millis < UInt64.size

-- =============================================================== spans

/-- Whole milliseconds are not changed by writing and reading. -/
theorem Span.ofMillis_millis64 {d : Span} (whole : d.IsWholeMillis) :
    Span.ofMillis d.millis64 = d := by
  obtain ⟨exact, fits⟩ := whole
  have parts := d.millis_add_nanosBelowMilli
  have number : d.millis64.toNat = d.millis := UInt64.toNat_ofNat_of_lt' fits
  rw [exact, Nat.add_zero] at parts
  rw [Span.mk.injEq]
  show d.millis64.toNat * nanosPerMilli = d.nanoseconds
  rw [number, parts]

/-- What is read as milliseconds has no part below one. -/
theorem Span.isWholeMillis_ofMillis (n : UInt64) : (Span.ofMillis n).IsWholeMillis := by
  constructor
  · exact Nat.mul_mod_left n.toNat nanosPerMilli
  · rw [Span.millis_ofMillis]
    exact n.toNat_lt

-- ============================================================= records

section Records

variable {α : Type} {shape : Json.Shape} {ofRow : Json.Row shape.fields → α}

/-- What is the same after it was put into a row is the same after it was written
and read. -/
theorem Json.Shape.reread (distinct : shape.Distinct) {row : Json.Row shape.fields} {a : α}
    (same : ofRow row = a) : ofRow <$> shape.ofBytes (shape.toValue row).bytes = .ok a := by
  rw [shape.ofBytes_toValue distinct, ← same]
  rfl

/-- What was read came out of a row. -/
theorem Json.Shape.row_of_read {bytes : List UInt8} {a : α}
    (read : ofRow <$> shape.ofBytes bytes = .ok a) : ∃ row, ofRow row = a := by
  cases scanned : shape.ofBytes bytes with
  | error fault =>
      rw [scanned] at read
      cases read
  | ok row =>
      rw [scanned] at read
      exact ⟨row, Except.ok.inj read⟩

end Records

namespace Settings

-- ============================================================ settings

/-- Connection settings that are written are read back, if their wait is in whole
milliseconds. -/
theorem Connection.reread {c : Connection} (whole : c.retryTimeout.IsWholeMillis) :
    Connection.ofBytes c.toJson.bytes = .ok c := by
  apply Json.Shape.reread (by decide)
  rw [Connection.ofRow_toRow, Span.ofMillis_millis64 whole]

/-- The timeout of settings that were read is in whole milliseconds. -/
theorem Connection.isWholeMillis_of_read {bytes : List UInt8} {c : Connection}
    (read : Connection.ofBytes bytes = .ok c) : c.retryTimeout.IsWholeMillis := by
  obtain ⟨⟨_, _, _, _, _, millis, _, _⟩, rfl⟩ := Json.Shape.row_of_read read
  exact Span.isWholeMillis_ofMillis millis

theorem Consumer.reread (c : Consumer) : Consumer.ofBytes c.toJson.bytes = .ok c :=
  Json.Shape.reread (by decide) (Consumer.ofRow_toRow c)

/-- So are producer settings, if their delay is. -/
theorem Producer.reread {p : Producer} (whole : p.attemptDelay.IsWholeMillis) :
    Producer.ofBytes p.toJson.bytes = .ok p := by
  apply Json.Shape.reread (by decide)
  rw [Producer.ofRow_toRow, Span.ofMillis_millis64 whole]

/-- The delay of settings that were read is in whole milliseconds, also where it
is the default. -/
theorem Producer.isWholeMillis_of_read {bytes : List UInt8} {p : Producer}
    (read : Producer.ofBytes bytes = .ok p) : p.attemptDelay.IsWholeMillis := by
  obtain ⟨⟨_, _, millis, _⟩, rfl⟩ := Json.Shape.row_of_read read
  exact Span.isWholeMillis_ofMillis millis

/-- Settings whose spans are whole milliseconds read back as they were written,
and so do settings that were read from any text at all. -/
theorem read_as_written :
    ((∀ c : Connection, c.retryTimeout.IsWholeMillis →
        Connection.ofBytes c.toJson.bytes = .ok c)
      ∧ (∀ c : Consumer, Consumer.ofBytes c.toJson.bytes = .ok c)
      ∧ ∀ p : Producer, p.attemptDelay.IsWholeMillis →
        Producer.ofBytes p.toJson.bytes = .ok p)
    ∧ ∀ bytes : List UInt8,
      (∀ c, Connection.ofBytes bytes = .ok c → Connection.ofBytes c.toJson.bytes = .ok c)
      ∧ (∀ c, Consumer.ofBytes bytes = .ok c → Consumer.ofBytes c.toJson.bytes = .ok c)
      ∧ ∀ p, Producer.ofBytes bytes = .ok p → Producer.ofBytes p.toJson.bytes = .ok p := by
  refine ⟨⟨fun c whole => Connection.reread whole, Consumer.reread,
    fun p whole => Producer.reread whole⟩, fun bytes => ⟨?_, ?_, ?_⟩⟩
  · intro c read
    exact Connection.reread (Connection.isWholeMillis_of_read read)
  · intro c _
    exact Consumer.reread c
  · intro p read
    exact Producer.reread (Producer.isWholeMillis_of_read read)

/-- Settings as a list, without the count, which has a default. -/
def listed : List UInt8 :=
  Text.utf8Bytes "[\"rabbit\", \"/\", 5673, \"app\", \"se\\u0063ret\", 1500]"

/-- Settings with their entries the other way round. -/
def reversed : List UInt8 :=
  Text.utf8Bytes "\x7b\"max_degree_of_parallelism\":7,\"consumer_group\":\"é\"\x7d"

/-- Settings with an entry that no field has, and without a delay. -/
def loose : List UInt8 :=
  Text.utf8Bytes " \x7b\"max_retry_count\":2,\"x\":[null],\"max_pool_length\": 5\x7d "

theorem read_as_written_of_spellings :
    (∃ c, Connection.ofBytes listed = .ok c ∧ c.retryTimeout.IsWholeMillis
        ∧ Connection.ofBytes c.toJson.bytes = .ok c)
      ∧ (∃ c, Consumer.ofBytes reversed = .ok c ∧ Consumer.ofBytes c.toJson.bytes = .ok c)
      ∧ (∃ p, Producer.ofBytes loose = .ok p ∧ p.attemptDelay = .ofMillis 100
        ∧ Producer.ofBytes p.toJson.bytes = .ok p)
      ∧ Connection.ofBytes (Connection.toJson {}).bytes = .ok {}
      ∧ Producer.ofBytes (Producer.toJson ⟨4, 3, .ofMillis 0⟩).bytes
        = .ok ⟨4, 3, .ofMillis 0⟩ := by
  have list : Connection.ofBytes listed
      = .ok ⟨"rabbit", "/", 5673, "app", "secret", .ofMillis 1500, 0⟩ := by rfl
  have object : Consumer.ofBytes reversed = .ok ⟨"é", 7⟩ := by rfl
  have others : Producer.ofBytes loose = .ok ⟨5, 2, .ofMillis 100⟩ := by rfl
  obtain ⟨⟨connection, -, producer⟩, read⟩ := read_as_written
  refine ⟨⟨_, list, Span.isWholeMillis_ofMillis 1500, (read listed).1 _ list⟩,
    ⟨_, object, (read reversed).2.1 _ object⟩, ⟨_, others, rfl, (read loose).2.2 _ others⟩,
    connection _ ?_, producer _ ?_⟩
  · exact Span.isWholeMillis_ofMillis 5000
  · exact Span.isWholeMillis_ofMillis 0

end Settings

end Courier
