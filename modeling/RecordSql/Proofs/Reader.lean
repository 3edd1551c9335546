import RecordSql.FetchedRow

/-!
# Reading a row in turn

A reader is no more than a place in a row.  `FetchedRow.answer` says what the read with a given number
answers, by the row and the type alone: what the row has at that index, or, behind its last value, that
it has no more.  A reader that has been asked `k` times stands behind `k` values, or behind all of them,
and gives the answer with number `k` (`next_readerAfter`), so a sequence of reads is the sequence of these
answers, whatever the reads before have come to (`reads_answers`).
-/

namespace RecordSql

/-- Reads values of the given types in turn, also behind a read that has failed. -/
def Reader.reads (r : Reader) : List FieldType → List (Except Fault Value) × Reader
  | [] => ([], r)
  | t :: ts =>
    let (answer, r) := r.next t
    let (answers, r) := reads r ts
    (answer :: answers, r)

namespace FetchedRow

variable (row : FetchedRow)

/-- The answer to a read behind the last value. -/
def exhausted : Except Fault Value :=
  .error (.decode (Text.showNat row.values.length)
    ("row has only " ++ Text.showNat row.values.length ++ " values"))

/-- The answer to the read with number `k`, counted from 0. -/
def answer (t : FieldType) (k : Nat) : Except Fault Value :=
  if k < row.values.length then row.get t k else row.exhausted

/-- The reader of a row after `k` reads. -/
def readerAfter (k : Nat) : Reader :=
  ⟨row, min k row.values.length⟩

theorem reader_eq : row.reader = row.readerAfter 0 := by
  rw [reader, readerAfter, Nat.zero_min]

theorem remaining_readerAfter (k : Nat) :
    (row.readerAfter k).remaining = row.values.length - k := by
  show row.values.length - min k row.values.length = _
  omega

/-- A read moves on whatever it answers, but not beyond the last value. -/
theorem next_readerAfter (t : FieldType) (k : Nat) :
    (row.readerAfter k).next t = (row.answer t k, row.readerAfter (k + 1)) := by
  by_cases hk : k < row.values.length
  · have hmin : min k row.values.length = k := by omega
    have hmin' : min (k + 1) row.values.length = k + 1 := by omega
    rw [readerAfter, readerAfter, answer, hmin, hmin', if_pos hk, Reader.next, if_pos hk]
  · have hmin : min k row.values.length = row.values.length := by omega
    have hmin' : min (k + 1) row.values.length = row.values.length := by omega
    rw [readerAfter, readerAfter, answer, hmin, hmin', if_neg hk, Reader.next,
      if_neg (Nat.lt_irrefl _), exhausted]

/-- From any place on, reads answer one after the other. -/
theorem reads_readerAfter (ts : List FieldType) (k : Nat) :
    (row.readerAfter k).reads ts =
      (ts.mapIdx fun i t => row.answer t (k + i), row.readerAfter (k + ts.length)) := by
  induction ts generalizing k with
  | nil => rfl
  | cons t ts ih =>
    have hanswers : (fun i t => row.answer t (k + (i + 1))) =
        fun i t => row.answer t (k + 1 + i) := by
      funext i t
      rw [Nat.add_right_comm, Nat.add_assoc]
    rw [Reader.reads, next_readerAfter]
    dsimp only
    rw [ih, List.mapIdx_cons, hanswers, List.length_cons, Nat.add_right_comm, Nat.add_assoc]
    rfl

/-- **Reading a row in turn is reading it by index.**  The read with number `k` answers what the row has
at index `k`, or that the row has no more values, whatever the reads before it have come to.  After `k`
reads all but the first `k` values are left, and the reader never stands behind more values than there
are. -/
theorem reads_answers (ts : List FieldType) :
    (row.reader.reads ts).1.length = ts.length ∧
    (∀ (k : Nat) t, ts[k]? = some t →
      (k < row.values.length → (row.reader.reads ts).1[k]? = some (row.get t k)) ∧
      (row.values.length ≤ k → (row.reader.reads ts).1[k]? =
        some (.error (.decode (Text.showNat row.values.length)
          ("row has only " ++ Text.showNat row.values.length ++ " values"))))) ∧
    ∀ k ≤ ts.length,
      (row.reader.reads (ts.take k)).2.remaining = row.values.length - k ∧
      (row.reader.reads (ts.take k)).2.position ≤ row.values.length := by
  -- the reads start at the front, so each answers by its own number
  have hreads (us : List FieldType) : row.reader.reads us =
      (us.mapIdx fun i t => row.answer t i, row.readerAfter us.length) := by
    rw [reader_eq, reads_readerAfter]
    simp only [Nat.zero_add]
  refine ⟨?_, fun k t hk => ?_, fun k hk => ?_⟩
  · rw [hreads, List.length_mapIdx]
  · have hanswer : (row.reader.reads ts).1[k]? = some (row.answer t k) := by
      rw [hreads, List.getElem?_mapIdx, hk, Option.map_some]
    rw [hanswer, answer]
    constructor
    · intro hlt
      rw [if_pos hlt]
    · intro hle
      rw [if_neg (Nat.not_lt.mpr hle), exhausted]
  · have hlength : (ts.take k).length = k := by
      rw [List.length_take]
      omega
    rw [hreads, hlength, remaining_readerAfter]
    exact ⟨rfl, Nat.min_le_right _ _⟩

/-- A value that cannot be read is passed over, and the name that the row lacks is no hindrance. -/
theorem reads_answers_short :
    let row : FetchedRow := ⟨["code"], [.text "X1", .int .i64 ⟨7, by decide⟩]⟩
    let i64 : FieldType := ⟨.int .i64, false⟩
    let types := [i64, i64, i64, i64]
    let answers := (row.reader.reads types).1
    answers[0]? = some (.error (.decode "code" "expected i64, got text")) ∧
      answers[1]? = some (.ok (.int .i64 ⟨7, by decide⟩)) ∧
      answers[2]? = some (.error (.decode "2" "row has only 2 values")) ∧
      answers[3]? = some (.error (.decode "2" "row has only 2 values")) ∧
      (row.reader.reads (types.take 3)).2.remaining = 0 := by
  intro row i64 types answers
  have hmismatch : row.get i64 0 = .error (.decode "code" "expected i64, got text") := rfl
  have hvalue : row.get i64 1 = .ok (.int .i64 ⟨7, by decide⟩) := rfl
  have hexhausted : row.exhausted = .error (.decode "2" "row has only 2 values") := by
    rw [exhausted, show row.values.length = 2 from rfl]
    rfl
  obtain ⟨-, hanswers, hremaining⟩ := reads_answers row types
  have hpast (k : Nat) (hk : types[k]? = some i64) (hle : 2 ≤ k) :
      answers[k]? = some (.error (.decode "2" "row has only 2 values")) := by
    rw [← hexhausted]
    exact (hanswers k i64 hk).2 hle
  refine ⟨?_, ?_, hpast 2 rfl (by decide), hpast 3 rfl (by decide), (hremaining 3 (by decide)).1⟩
  · rw [← hmismatch]
    exact (hanswers 0 i64 rfl).1 (by decide)
  · rw [← hvalue]
    exact (hanswers 1 i64 rfl).1 (by decide)

end FetchedRow

end RecordSql
