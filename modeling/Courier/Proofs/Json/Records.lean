/-
Records, written and read back. The reader of an object keeps a draft of
the values that it has met, and what decides is which names were met, not
in which order: after the entries of some names, the draft holds the values
of just those fields (`Draft.only`). One step adds one name to them
(`scanObject_entry` with `Draft.fill?_entry`), and an object is read from
any list of different entries of a row, in any order, that leaves out
nothing but fields at their defaults (`Shape.ofBytes_object`). What a row is
written as is such a list, with nothing left out.

The names of a shape have to differ: of two fields with one name the reader
would fill the first twice.
-/
import Courier.Json.Shape
import Courier.Proofs.Json.Digits

namespace Courier.Json

-- ================================================ statement vocabulary

/-- No two fields have one name. -/
def Shape.Distinct (shape : Shape) : Prop := (shape.fields.map Field.name).Nodup

instance (shape : Shape) : Decidable shape.Distinct :=
  inferInstanceAs (Decidable (List.Nodup _))

/-- The draft of a row of which the fields of those names were met. -/
def Draft.only (names : List String) : (fs : List Field) → Row fs → Draft fs
  | [], _ => ()
  | f :: fs, (v, row) => (if f.name ∈ names then some v else none, only names fs row)

/-- Fields of a row without one of those names are at their defaults. -/
def Row.DefaultsBeyond (names : List String) : (fs : List Field) → Row fs → Prop
  | [], _ => True
  | f :: fs, (v, row) => (f.name ∈ names ∨ f.default = some v) ∧ DefaultsBeyond names fs row

/-- An entry as it is written. -/
def entryChars (entry : String × Value) : List Char :=
  literalChars entry.1 ++ ':' :: entry.2.chars

/-- Entries behind another one, each after a comma. -/
def moreChars (entries : List (String × Value)) : List Char :=
  entries.flatMap fun entry => ',' :: entryChars entry

-- ======================================================= what is written

theorem bytes_eq_spelled (v : Value) : v.bytes = spelled v.chars := utf8Bytes_ofList v.chars

theorem moreChars_cons (entry : String × Value) (entries : List (String × Value)) :
    moreChars (entry :: entries) = ',' :: (entryChars entry ++ moreChars entries) := by
  simp [moreChars]

/-- The first entry, and all others behind their commas. -/
theorem entriesChars_cons (entry : String × Value) (entries : List (String × Value)) :
    entriesChars (entry :: entries) = entryChars entry ++ moreChars entries := by
  induction entries generalizing entry with
  | nil => simp [entriesChars, entryChars, moreChars]
  | cons next entries ih =>
      obtain ⟨name, v⟩ := entry
      calc entriesChars ((name, v) :: next :: entries)
          = literalChars name ++ ':' :: v.chars ++ ',' :: entriesChars (next :: entries) := by
            rw [entriesChars]
            simp
        _ = entryChars (name, v) ++ moreChars (next :: entries) := by
            rw [ih, moreChars_cons]
            rfl

/-- The bytes of an entry, from its opening quote on. -/
theorem spelled_entryChars (name : String) (v : Value) (rest : Input) :
    spelled (entryChars (name, v)) ++ rest
      = byte '"' :: (spelled (name.toList.flatMap literalChar)
          ++ byte '"' :: (byte ':' :: (spelled v.chars ++ rest))) := by
  rw [entryChars, spelled_append, spelled_literalChars, spelled_cons (by decide)]
  simp

theorem spelled_moreChars_cons (entry : String × Value) (entries : List (String × Value)) :
    spelled (moreChars (entry :: entries))
      = byte ',' :: (spelled (entryChars entry) ++ spelled (moreChars entries)) := by
  rw [moreChars_cons, spelled_cons (by decide), spelled_append]

/-- Neither a comma nor the end of an object goes on with a number. -/
theorem endsNumber_more (entries : List (String × Value)) (rest : Input) :
    EndsNumber (spelled (moreChars entries) ++ byte '}' :: rest) := by
  cases entries with
  | nil => exact endsNumber_cons (by decide) (by decide) (by decide) rest
  | cons entry entries =>
      rw [spelled_moreChars_cons, List.cons_append]
      exact endsNumber_cons (by decide) (by decide) (by decide) _

/-- Every entry takes a byte at least. -/
theorem length_le_more (entries : List (String × Value)) :
    entries.length ≤ (spelled (moreChars entries)).length := by
  induction entries with
  | nil => exact Nat.zero_le _
  | cons entry entries ih =>
      rw [spelled_moreChars_cons, List.length_cons, List.length_cons, List.length_append]
      omega

-- ============================================================ one value

theorem skipSpace_cons {b : UInt8} (h : isSpace b = false) (rest : Input) :
    skipSpace (b :: rest) = b :: rest := by
  simp [skipSpace, h]

/-- A word has 64 bits at most. -/
theorem Word.toNat_lt (w : Word) (v : (Kind.word w).Carrier) : w.toNat v < UInt64.size := by
  cases w with
  | u16 => exact Nat.lt_trans (UInt16.toNat_lt v) (by decide)
  | u32 => exact Nat.lt_trans (UInt32.toNat_lt v) (by decide)
  | u64 => exact UInt64.toNat_lt v
  | size => exact UInt64.toNat_lt v

/-- The value of a field that was written is read back. -/
theorem Kind.scan_toValue (k : Kind) (v : k.Carrier) {rest : Input} (ends : EndsNumber rest) :
    k.scan (spelled (k.toValue v).chars ++ rest) = .ok (v, rest) := by
  cases k with
  | text =>
      have chars : (Kind.text.toValue v).chars = literalChars v := by
        rw [Kind.toValue, Value.chars]
      rw [chars, spelled_literalChars, List.cons_append, List.append_assoc, List.singleton_append,
        Kind.scan, skipSpace_cons (by decide)]
      simp only [if_true]
      exact scanText_literal v rest
  | word w =>
      have chars : ((Kind.word w).toValue v).chars = digits (w.toNat v) := by
        simp [Kind.toValue, Value.chars, Number.chars, integerChars]
      have number := scanNumber_digits (w.toNat_lt v) ends
      obtain ⟨b, bs, written, digit⟩ := spelled_digits (w.toNat v)
      rw [written, List.cons_append] at number
      rw [chars, written, List.cons_append, Kind.scan, skipSpace_cons (isSpace_of_isDigit digit)]
      simp only [numberNext, digit, Bool.or_true, if_true, number, Word.ofInt?_toNat]

-- ============================================================ the draft

theorem mem_snoc_of_ne {name other : String} (ne : other ≠ name) (names : List String) :
    other ∈ names ++ [name] ↔ other ∈ names := by
  simp [ne]

/-- The entries of a row bear the names of its fields. -/
theorem Row.entries_names (fs : List Field) (row : Row fs) :
    (Row.entries fs row).map Prod.fst = fs.map Field.name := by
  induction fs with
  | nil => rfl
  | cons f fs ih =>
      obtain ⟨v, row⟩ := row
      rw [Row.entries, List.map_cons, List.map_cons, ih]

theorem Row.name_mem {fs : List Field} {row : Row fs} {name : String} {v : Value}
    (entry : (name, v) ∈ Row.entries fs row) : name ∈ fs.map Field.name := by
  rw [← Row.entries_names fs row]
  exact List.mem_map_of_mem (f := Prod.fst) entry

theorem Draft.only_nil (fs : List Field) (row : Row fs) :
    Draft.only [] fs row = Draft.empty fs := by
  induction fs with
  | nil => rfl
  | cons f fs ih =>
      obtain ⟨v, row⟩ := row
      simp only [Draft.only, Draft.empty, ih, List.not_mem_nil, if_false]
      rfl

/-- A name of no field makes no difference to a draft. -/
theorem Draft.only_snoc_of_not_mem {fs : List Field} {name : String}
    (absent : name ∉ fs.map Field.name) (names : List String) (row : Row fs) :
    Draft.only (names ++ [name]) fs row = Draft.only names fs row := by
  induction fs with
  | nil => rfl
  | cons f fs ih =>
      obtain ⟨v, row⟩ := row
      rw [List.map_cons, List.mem_cons, not_or] at absent
      simp only [Draft.only, ih absent.2, mem_snoc_of_ne (Ne.symm absent.1)]
      rfl

/-- An entry of the row whose name was not met yet adds just that name. -/
theorem Draft.fill?_entry {fs : List Field} (distinct : (fs.map Field.name).Nodup)
    {row : Row fs} {names : List String} {name : String} {v : Value}
    (entry : (name, v) ∈ Row.entries fs row) (unmet : name ∉ names) {rest : Input}
    (ends : EndsNumber rest) :
    Draft.fill? fs (Draft.only names fs row) name (byte ':' :: (spelled v.chars ++ rest))
      = some (.ok (Draft.only (names ++ [name]) fs row, rest)) := by
  induction fs with
  | nil => cases entry
  | cons f fs ih =>
      obtain ⟨v', row⟩ := row
      rw [List.map_cons, List.nodup_cons] at distinct
      by_cases here : name = f.name
      · subst here
        rcases List.mem_cons.1 entry with same | other
        · cases same
          have met : f.name ∈ names ++ [f.name] := by simp
          have colon (bs : Input) : scanColon (byte ':' :: bs) = .ok bs := by
            rw [scanColon, skipSpace_cons (by decide)]
            rfl
          simp only [Draft.fill?, Draft.only, if_true, if_neg unmet, if_pos met, colon,
            Option.isSome_none, Bool.false_eq_true, if_false, bind, Except.bind,
            Kind.scan_toValue f.kind v' ends, Draft.only_snoc_of_not_mem distinct.1]
          rfl
        · exact absurd (Row.name_mem other) distinct.1
      · have other : (name, v) ∈ Row.entries fs row := by
          rcases List.mem_cons.1 entry with same | other
          · cases same
            exact absurd rfl here
          · exact other
        simp only [Draft.fill?, Draft.only, if_neg here, ih distinct.2 other,
          mem_snoc_of_ne (Ne.symm here), Option.map_some]
        rfl

/-- A draft is completed to its row if only defaults are missing. -/
theorem Draft.complete_only {names : List String} {fs : List Field} {row : Row fs}
    (defaults : Row.DefaultsBeyond names fs row) :
    Draft.complete fs (Draft.only names fs row) = .ok row := by
  induction fs with
  | nil => rfl
  | cons f fs ih =>
      obtain ⟨v, row⟩ := row
      obtain ⟨here, others⟩ := defaults
      by_cases met : f.name ∈ names
      · simp only [Draft.only, if_pos met, Draft.complete, ih others]
        rfl
      · have absent : f.default = some v := here.resolve_left met
        simp only [Draft.only, if_neg met, Draft.complete, absent, ih others]
        rfl

/-- Nothing is missing if every name was met. -/
theorem Row.defaultsBeyond_of_all {names : List String} {fs : List Field}
    (all : ∀ f ∈ fs, f.name ∈ names) (row : Row fs) : Row.DefaultsBeyond names fs row := by
  induction fs with
  | nil => exact True.intro
  | cons f fs ih =>
      obtain ⟨v, row⟩ := row
      obtain ⟨here, others⟩ := List.forall_mem_cons.1 all
      exact ⟨.inl here, ih others row⟩

-- ============================================================ an object

section Objects

variable {fs : List Field} {row : Row fs}

/-- One entry is scanned into the draft, after a comma unless it is the first. -/
theorem scanObject_entry {draft draft' : Draft fs} {name : String} {v : Value} {rest : Input}
    (fill : draft.fill? fs name (byte ':' :: (spelled v.chars ++ rest))
      = some (.ok (draft', rest))) (fuel : Nat) (first : Bool) :
    scanObject fs (fuel + 1) first draft
        ((if first then [] else [byte ',']) ++ (spelled (entryChars (name, v)) ++ rest))
      = scanObject fs fuel false draft' rest := by
  have noEnd : byte '"' ≠ byte '}' := by decide
  have noEnd' : byte ',' ≠ byte '}' := by decide
  have space : isSpace (byte '"') = false := by decide
  have space' : isSpace (byte ',') = false := by decide
  rw [spelled_entryChars]
  cases first with
  | true =>
      simp only [if_true, List.nil_append, scanObject, skipSpace_cons space, if_neg noEnd,
        true_or, scanText_literal, fill, bind, Except.bind]
  | false =>
      simp only [Bool.false_eq_true, if_false, List.cons_append, List.nil_append, scanObject,
        skipSpace_cons space', skipSpace_cons space, if_neg noEnd', false_or, if_true,
        scanText_literal, fill, bind, Except.bind]

/-- The closing bracket completes the row. -/
theorem scanObject_end {names : List String} (defaults : Row.DefaultsBeyond names fs row)
    (fuel : Nat) (first : Bool) (rest : Input) :
    scanObject fs (fuel + 1) first (Draft.only names fs row) (byte '}' :: rest)
      = .ok (row, rest) := by
  have space : isSpace (byte '}') = false := by decide
  simp only [scanObject, skipSpace_cons space, if_true, Draft.complete_only defaults]
  rfl

/-- The entries behind those of `names` are scanned, and complete the row. -/
theorem scanObject_more (distinct : (fs.map Field.name).Nodup)
    {entries : List (String × Value)} (names : List String)
    (valid : ∀ entry ∈ entries, entry ∈ Row.entries fs row)
    (fresh : (names ++ entries.map Prod.fst).Nodup)
    (defaults : Row.DefaultsBeyond (names ++ entries.map Prod.fst) fs row) {fuel : Nat}
    (enough : entries.length < fuel) (rest : Input) :
    scanObject fs fuel false (Draft.only names fs row)
        (spelled (moreChars entries) ++ byte '}' :: rest) = .ok (row, rest) := by
  induction entries generalizing names fuel with
  | nil =>
      obtain ⟨fuel, rfl⟩ := Nat.exists_eq_add_one.2 enough
      rw [List.map_nil, List.append_nil] at defaults
      exact scanObject_end defaults fuel false rest
  | cons entry entries ih =>
      obtain ⟨name, v⟩ := entry
      obtain ⟨fuel, rfl⟩ : ∃ n, fuel = n + 1 := Nat.exists_eq_add_one.2 (by omega)
      obtain ⟨here, others⟩ := List.forall_mem_cons.1 valid
      have unmet : name ∉ names := by
        intro met
        exact (List.nodup_append.1 fresh).2.2 name met name List.mem_cons_self rfl
      have split : names ++ (((name, v) :: entries).map Prod.fst)
          = (names ++ [name]) ++ entries.map Prod.fst := by simp
      rw [split] at fresh defaults
      rw [List.length_cons] at enough
      have fill := Draft.fill?_entry distinct here unmet (endsNumber_more entries rest)
      have step := scanObject_entry fill fuel false
      calc scanObject fs (fuel + 1) false (Draft.only names fs row)
            (spelled (moreChars ((name, v) :: entries)) ++ byte '}' :: rest)
          = scanObject fs fuel false (Draft.only (names ++ [name]) fs row)
              (spelled (moreChars entries) ++ byte '}' :: rest) := by
            rw [← step, spelled_moreChars_cons]
            simp
        _ = .ok (row, rest) := ih _ others fresh defaults (by omega)

/-- An object of different entries of a row, in any order, is scanned as that
row if the entries it leaves out are at their defaults. -/
theorem scanObject_entries (distinct : (fs.map Field.name).Nodup)
    {entries : List (String × Value)}
    (valid : ∀ entry ∈ entries, entry ∈ Row.entries fs row)
    (fresh : (entries.map Prod.fst).Nodup)
    (defaults : Row.DefaultsBeyond (entries.map Prod.fst) fs row) (rest : Input) :
    scanObject fs ((spelled (entriesChars entries) ++ byte '}' :: rest).length + 1) true
        (Draft.empty fs) (spelled (entriesChars entries) ++ byte '}' :: rest)
      = .ok (row, rest) := by
  rw [← Draft.only_nil fs row]
  cases entries with
  | nil => exact scanObject_end defaults _ true rest
  | cons entry entries =>
      obtain ⟨name, v⟩ := entry
      obtain ⟨here, others⟩ := List.forall_mem_cons.1 valid
      have ends := endsNumber_more entries rest
      have fill := Draft.fill?_entry distinct here List.not_mem_nil ends
      have enough := length_le_more entries
      rw [entriesChars_cons, spelled_append, List.append_assoc]
      -- The first entry is taken without a comma, all others behind theirs.
      refine (scanObject_entry fill _ true).trans ?_
      apply scanObject_more distinct [name] others fresh defaults
      rw [List.length_append, List.length_append, List.length_cons]
      omega

end Objects

-- ============================================================= a record

variable {shape : Shape}

/-- A record is read from different entries of a row in any order, as long as
the entries that are left out are at their defaults. -/
theorem Shape.ofBytes_object (distinct : shape.Distinct) {row : Row shape.fields}
    {entries : List (String × Value)}
    (valid : ∀ entry ∈ entries, entry ∈ Row.entries shape.fields row)
    (fresh : (entries.map Prod.fst).Nodup)
    (defaults : Row.DefaultsBeyond (entries.map Prod.fst) shape.fields row) :
    shape.ofBytes (Value.object entries).bytes = .ok row := by
  have written : (Value.object entries).bytes
      = byte '{' :: (spelled (entriesChars entries) ++ byte '}' :: []) := by
    rw [bytes_eq_spelled, Value.chars, List.cons_append, spelled_cons (by decide),
      spelled_append, spelled_cons (by decide), spelled_nil]
  have scanned : shape.scan (Value.object entries).bytes = .ok (row, []) := by
    rw [written, Shape.scan, skipSpace_cons (by decide)]
    simp only [if_true]
    rw [if_neg (by decide)]
    exact scanObject_entries distinct valid fresh defaults []
  rw [Shape.ofBytes, readAll, scanned]
  rfl

/-- A record that was written is read back. -/
theorem Shape.ofBytes_toValue (distinct : shape.Distinct) (row : Row shape.fields) :
    shape.ofBytes (shape.toValue row).bytes = .ok row := by
  apply Shape.ofBytes_object distinct
  · exact fun entry h => h
  · rw [Row.entries_names]
    exact distinct
  · apply Row.defaultsBeyond_of_all
    intro f h
    rw [Row.entries_names]
    exact List.mem_map_of_mem h

end Courier.Json
