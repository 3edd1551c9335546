import RecordSql.Proofs.Template.Cut

/-!
# Where the sigils of a text go

A sigil that is no name character stands in no name.  So every sigil of a text either introduces a
parameter or is copied, and a sigil is copied only directly behind a name, which it ends: the first
segment of the cut has none, and a later one only as its first character (`IsCut.count_sigil`,
`IsCut.not_mem_tail`).
-/

namespace RecordSql

/-- What stands between segments is counted beside what stands in them. -/
theorem count_weave (c : Char) {segments middles : List (List Char)}
    (h : segments.length = middles.length + 1) :
    (weave segments middles).count c = middles.flatten.count c + segments.flatten.count c := by
  induction middles generalizing segments with
  | nil =>
    obtain ⟨l, rfl⟩ := List.length_eq_one_iff.mp h
    simp [weave]
  | cons m ms ih =>
    rcases segments with _ | ⟨l, ls⟩
    · cases h
    · have hrest := ih (Nat.add_right_cancel h)
      rw [weave, List.count_append, List.count_append, hrest, List.flatten_cons, List.flatten_cons,
        List.count_append, List.count_append]
      omega

/-- Names without the sigil in them, each behind a sigil, hold as many sigils as there are names. -/
theorem count_introduced {sigil : Char} {names : List (List Char)}
    (h : ∀ name ∈ names, sigil ∉ name) :
    (names.map (sigil :: ·)).flatten.count sigil = names.length := by
  induction names with
  | nil => rfl
  | cons name names ih =>
    rw [List.forall_mem_cons] at h
    rw [List.map_cons, List.flatten_cons, List.count_append, List.count_cons_self,
      List.count_eq_zero_of_not_mem h.1, ih h.2, List.length_cons]
    omega

namespace IsCut

variable {sigil : Char} {text : List Char} {segments names : List (List Char)}

theorem not_mem_name (h : IsCut sigil text segments names) (hsigil : isNameChar sigil = false) :
    ∀ name ∈ names, sigil ∉ name := by
  intro name hname hmem
  have hc := h.isNameChar_of_mem name hname sigil hmem
  rw [hsigil] at hc
  cases hc

/-- A sigil introduces a parameter or is copied. -/
theorem count_sigil (h : IsCut sigil text segments names) (hsigil : isNameChar sigil = false) :
    text.count sigil = names.length + segments.flatten.count sigil := by
  have hlength : segments.length = (names.map (sigil :: ·)).length + 1 := by
    rw [List.length_map]
    exact h.length_segments
  rw [← h.weave_eq, count_weave sigil hlength, count_introduced (h.not_mem_name hsigil)]

/-- Behind a name, only the character that ends it can be a sigil. -/
theorem not_mem_tail (h : IsCut sigil text segments names) : ∀ l ∈ segments.tail, sigil ∉ l.tail := by
  intro l hl
  have hends := h.endsName_of_mem l hl
  cases l with
  | nil => exact List.not_mem_nil
  | cons c cs => exact (hends c cs rfl).2

end IsCut

/-- Compiling a text for a statement of its own puts the markers from the first one on between the
segments of the cut. -/
theorem compile_eq (sigil : Char) (d : Dialect) (text : String) :
    (compile sigil d.markers text).1 =
      ⟨String.ofList (weave (Template.ofText sigil text).segments
          ((List.range' 1 (Template.ofText sigil text).parameters.length).map d.style.marker)),
        (Template.ofText sigil text).nameRuns.map String.ofList⟩ := by
  have hweave := Template.weave_render d.style 0 (Template.ofText sigil text)
  rw [Nat.zero_add] at hweave
  rw [hweave, ← Template.names_eq]
  rfl

end RecordSql
