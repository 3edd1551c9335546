import RecordSql.Log
import RecordSql.Proofs.Text.ByteLength

/-!
# The text of logged statements

A logger of events keeps the text of a statement as it is if it fits the budget, or if there is none.
Otherwise it keeps the longest beginning that fits, and dots (`record_cut`).  In the bytes of the text,
that beginning ends where going back from the budget first finds the start of a character.
-/

namespace RecordSql.Logger

open Text

/-- A text that is to be cut can be: going back from the budget ends at the end of its cut. -/
theorem exists_retreat?_eq (sql : String) {budget : Nat}
    (h : budget < (Utf8.encode sql).length) :
    ∃ n, Utf8.retreat? (Utf8.encode sql) budget = some n ∧
      Utf8.encode (String.ofList (cut sql.toList budget)) = (Utf8.encode sql).take n := by
  unfold Utf8.encode at h ⊢
  rw [length_encodeChars] at h
  obtain ⟨hbegins, hlength⟩ := cut_of_lt h
  refine ⟨lastBoundary sql.toList budget, Utf8.retreat?_encodeChars sql.toList budget, ?_⟩
  rw [String.toList_ofList, ← hlength, Utf8.take_encodeChars hbegins]

/-- A text that does not fit the budget is cut to it and gets dots. -/
theorem shorten_some (budget : Nat) (sql : String) :
    shorten (some budget) sql =
      if (Utf8.encode sql).length ≤ budget then sql
      else String.ofList (cut sql.toList budget) ++ "..." := by
  have hlength : (Utf8.encode sql).length = byteLength sql.toList := length_encodeChars sql.toList
  rw [hlength, shorten, String.ofList_append]

/-- **The text of an event is cut at the last possible character.**  Going back from the budget never
passes the first byte, and ends behind the longest beginning of the text that fits; at most three bytes
of the budget are left over.  A text that fits is kept as it is, and so is every text without a budget. -/
theorem record_cut (level : Level) (st : Statement) (budget : Nat) :
    let text := st.sql.toList
    let bytes := Utf8.encode st.sql
    (∀ s : String, byteLength s.toList = (Utf8.encode s).length) ∧
    (budget < bytes.length → ∃ n, Utf8.retreat? bytes budget = some n ∧
      Utf8.encode (String.ofList (cut text budget)) = bytes.take n) ∧
    (cut text budget <+: text ∧ byteLength (cut text budget) ≤ budget ∧
      ∀ p, p <+: text → byteLength p ≤ budget → p <+: cut text budget) ∧
    (budget < bytes.length → budget - 3 ≤ byteLength (cut text budget)) ∧
    (events level (some budget)).record st =
      [.event level st.args.length (showValues st.args)
        (if bytes.length ≤ budget then st.sql else String.ofList (cut text budget) ++ "...")] ∧
    (events level none).record st =
      [.event level st.args.length (showValues st.args) st.sql] := by
  intro text bytes
  have hbytes : bytes.length = byteLength text := length_encodeChars text
  refine ⟨fun s => (length_encodeChars s.toList).symm, fun h => exists_retreat?_eq st.sql h,
    ⟨cut_isPrefix text budget, byteLength_cut_le text budget, fun p hp fits => prefix_cut hp fits⟩,
    fun h => ?_, ?_, rfl⟩
  · have hslack := le_byteLength_cut (hbytes ▸ h)
    omega
  · rw [record, shorten_some]

/-- Three bytes of the budget are left over in front of a character of four. -/
theorem record_cut_wide :
    let st : Statement := ⟨"a😀b", []⟩
    let bytes := Utf8.encode st.sql
    4 < bytes.length ∧ Utf8.retreat? bytes 4 = some 1 ∧ cut st.sql.toList 4 = ['a'] ∧
      (∀ p, p <+: ['a', '😀', 'b'] → byteLength p ≤ 4 → p <+: ['a']) ∧
      4 - 3 ≤ byteLength ['a'] ∧
      (events .debug (some 4)).record st = [.event .debug 0 "[]" "a..."] := by
  intro st bytes
  obtain ⟨-, hretreat, ⟨-, -, hlongest⟩, hslack, hrecord, -⟩ := record_cut .debug st 4
  have hlong : 4 < bytes.length := by decide
  have htext : st.sql.toList = ['a', '😀', 'b'] := by decide
  have hcut : cut st.sql.toList 4 = ['a'] := by decide
  obtain ⟨n, hn, -⟩ := hretreat hlong
  have hone : n = 1 := by
    have hback : Utf8.retreat? bytes 4 = some 1 := by decide
    exact Option.some.inj (hn.symm.trans hback)
  rw [hcut] at hlongest hslack
  rw [htext] at hlongest
  refine ⟨hlong, hone ▸ hn, hcut, hlongest, hslack hlong, hrecord.trans ?_⟩
  decide

end RecordSql.Logger
