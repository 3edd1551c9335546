import RecordSql.Template

/-!
# The cut of a text at its parameters

A text is cut into segments `l₀, …, lₙ` and names `p₁, …, pₙ` such that it is `l₀`, the sigil, `p₁`,
`l₁`, the sigil, `p₂`, and so on up to `lₙ`.  `IsCut` says which cuts are meant: names consist of
name characters, a segment behind a name does not go on with it, and a sigil stands nowhere but in
front of a name or directly behind one.  Every text has exactly one such cut, and compiling puts the
markers of the sequence in order between its segments (`compile_eq_weave`).

`outside_eq_iff` carries the proof: the templates that `outside` can produce are those that satisfy
`Template.Proper`, and each of them is the template of the text it was cut from.
-/

namespace RecordSql

/-- The text `l₀ ++ m₁ ++ l₁ ++ ⋯ ++ mₙ ++ lₙ` of the segments `lᵢ` with `mᵢ` between them. -/
def weave : List (List Char) → List (List Char) → List Char
  | [], _ => []
  | l :: _, [] => l
  | l :: ls, m :: ms => l ++ m ++ weave ls ms

/-- Whether a text can stand behind a name: it does not go on with it, and its first character is
the only one that may be the sigil. -/
def EndsName (sigil : Char) (after : List Char) : Prop :=
  ∀ c cs, after = c :: cs → isNameChar c = false ∧ sigil ∉ cs

/-- `segments` with `names` between them are a cut of `text` at its parameters. -/
structure IsCut (sigil : Char) (text : List Char) (segments names : List (List Char)) : Prop where
  length_segments : segments.length = names.length + 1
  weave_eq : weave segments (names.map (sigil :: ·)) = text
  isNameChar_of_mem : ∀ name ∈ names, ∀ c ∈ name, isNameChar c = true
  not_mem_first : ∀ l ∈ segments.head?, sigil ∉ l
  inner_ne_nil : ∀ l ∈ segments.tail.dropLast, l ≠ []
  endsName_of_mem : ∀ l ∈ segments.tail, EndsName sigil l

namespace Template

variable {sigil : Char}

/-! ### Equations of the scan -/

@[simp] theorem outside_nil : outside sigil [] = ⟨[], []⟩ := by
  rw [outside]

@[simp] theorem inside_nil : inside sigil [] = ([], ⟨[], []⟩) := by
  rw [inside]

theorem outside_sigil (cs : List Char) :
    outside sigil (sigil :: cs) =
      ⟨[], ⟨(inside sigil cs).1, (inside sigil cs).2.head⟩ :: (inside sigil cs).2.parameters⟩ := by
  rw [outside, if_pos rfl]

theorem outside_of_ne {c : Char} (h : c ≠ sigil) (cs : List Char) :
    outside sigil (c :: cs) = push c (outside sigil cs) := by
  rw [outside, if_neg h]

theorem inside_of_isNameChar {c : Char} (h : isNameChar c = true) (cs : List Char) :
    inside sigil (c :: cs) = (c :: (inside sigil cs).1, (inside sigil cs).2) := by
  rw [inside, if_pos h]

theorem inside_of_not_isNameChar {c : Char} (h : isNameChar c = false) (cs : List Char) :
    inside sigil (c :: cs) = ([], push c (outside sigil cs)) := by
  rw [inside, if_neg (by rw [h]; decide)]

/-- What has no sigil in it goes in front of the template. -/
theorem outside_append {a : List Char} (h : sigil ∉ a) (b : List Char) :
    outside sigil (a ++ b) =
      ⟨a ++ (outside sigil b).head, (outside sigil b).parameters⟩ := by
  induction a with
  | nil => rfl
  | cons c a ih =>
    rw [List.mem_cons, not_or] at h
    rw [List.cons_append, outside_of_ne (Ne.symm h.1), ih h.2]
    rfl

/-- Name characters go in front of the name. -/
theorem inside_append {a : List Char} (h : ∀ c ∈ a, isNameChar c = true) (b : List Char) :
    inside sigil (a ++ b) = (a ++ (inside sigil b).1, (inside sigil b).2) := by
  induction a with
  | nil => rfl
  | cons c a ih =>
    rw [List.forall_mem_cons] at h
    rw [List.cons_append, inside_of_isNameChar h.1, ih h.2]
    rfl

/-! ### Proper templates -/

/-- Parameters as the scan leaves them: only the last one may have nothing behind it. -/
def ProperRun (sigil : Char) : List Parameter → Prop
  | [] => True
  | p :: ps => (∀ c ∈ p.name, isNameChar c = true) ∧ EndsName sigil p.after ∧
      (ps ≠ [] → p.after ≠ []) ∧ ProperRun sigil ps

/-- A template as the scan leaves it. -/
def Proper (sigil : Char) (t : Template) : Prop :=
  sigil ∉ t.head ∧ ProperRun sigil t.parameters

theorem ProperRun.eq_nil {p : Parameter} {ps : List Parameter} (h : ProperRun sigil (p :: ps))
    (hafter : p.after = []) : ps = [] := by
  obtain ⟨-, -, hlast, -⟩ := h
  by_cases hps : ps = []
  · exact hps
  · exact absurd hafter (hlast hps)

theorem endsName_nil : EndsName sigil [] := by
  intro c cs h
  cases h

theorem endsName_cons {c : Char} {cs : List Char} (hc : isNameChar c = false) (hs : sigil ∉ cs) :
    EndsName sigil (c :: cs) := by
  rintro d ds ⟨⟩
  exact ⟨hc, hs⟩

/-- The invariant of the scan.  Inside a name, the name read so far and the template after it make
one more parameter in front. -/
theorem proper_outside_inside (cs : List Char) :
    (outside sigil cs).Proper sigil ∧
      ProperRun sigil
        (⟨(inside sigil cs).1, (inside sigil cs).2.head⟩ :: (inside sigil cs).2.parameters) := by
  induction cs with
  | nil =>
    rw [outside_nil, inside_nil]
    exact ⟨⟨List.not_mem_nil, trivial⟩, by simp, endsName_nil, by simp, trivial⟩
  | cons c cs ih =>
    obtain ⟨⟨hhead, hrun⟩, hinside⟩ := ih
    constructor
    · by_cases hc : c = sigil
      · subst hc
        rw [outside_sigil]
        exact ⟨List.not_mem_nil, hinside⟩
      · rw [outside_of_ne hc]
        exact ⟨fun hmem => (List.mem_cons.mp hmem).elim (fun h => hc h.symm) hhead, hrun⟩
    · cases hc : isNameChar c with
      | true =>
        -- the name goes on
        obtain ⟨hname, hafter, hlast, hrest⟩ := hinside
        rw [inside_of_isNameChar hc]
        exact ⟨List.forall_mem_cons.mpr ⟨hc, hname⟩, hafter, hlast, hrest⟩
      | false =>
        -- the name ends, and whatever ends it stays in front of what the scan leaves outside
        rw [inside_of_not_isNameChar hc]
        exact ⟨by simp, endsName_cons hc hhead, by simp [push], hrun⟩

/-! ### Putting a text together again -/

/-- The parameters of a text, each with its sigil and what stands behind it. -/
def sourceOf (sigil : Char) : List Parameter → List Char
  | [] => []
  | p :: ps => sigil :: p.name ++ p.after ++ sourceOf sigil ps

theorem source_eq (t : Template) : t.source sigil = t.head ++ sourceOf sigil t.parameters := by
  have h : ∀ (ps : List Parameter) (k : Nat),
      fillFrom (fun _ name => sigil :: name) k ps = sourceOf sigil ps := by
    intro ps
    induction ps with
    | nil => intro k; rfl
    | cons p ps ih => intro k; rw [fillFrom, ih, sourceOf]
  rw [source, fill, h]

/-- Nothing is lost by cutting. -/
theorem source_outside_inside (cs : List Char) :
    (outside sigil cs).source sigil = cs ∧
      (inside sigil cs).1 ++ (inside sigil cs).2.source sigil = cs := by
  induction cs with
  | nil => exact ⟨by rw [outside_nil]; rfl, by rw [inside_nil]; rfl⟩
  | cons c cs ih =>
    -- the scan changes places at a sigil and at the end of a name, so both halves go together
    obtain ⟨hout, hin⟩ := ih
    rw [source_eq] at hout hin
    constructor
    · by_cases hc : c = sigil
      · subst hc
        rw [outside_sigil, source_eq, sourceOf, List.nil_append, List.cons_append,
          List.cons_append, List.append_assoc, hin]
      · rw [outside_of_ne hc, source_eq, push, List.cons_append, hout]
    · cases hc : isNameChar c with
      | true => rw [inside_of_isNameChar hc, source_eq, List.cons_append, hin]
      | false =>
        rw [inside_of_not_isNameChar hc, source_eq, List.nil_append, push, List.cons_append, hout]

/-- The scan finds the parameters of a text that was put together from them. -/
theorem outside_sourceOf {ps : List Parameter} (h : ProperRun sigil ps) :
    outside sigil (sourceOf sigil ps) = ⟨[], ps⟩ := by
  induction ps with
  | nil => exact outside_nil
  | cons p ps ih =>
    have hlast : p.after = [] → ps = [] := h.eq_nil
    obtain ⟨hname, hafter, -, hrest⟩ := h
    rw [sourceOf, List.cons_append, List.cons_append, List.append_assoc, outside_sigil,
      inside_append hname]
    cases ha : p.after with
    | nil =>
      -- Nothing stands behind the name, so it is the last one.
      obtain rfl := hlast ha
      rw [sourceOf, List.nil_append, inside_nil, List.append_nil, ← ha]
    | cons c cs =>
      obtain ⟨hc, hs⟩ := hafter c cs ha
      rw [List.cons_append, inside_of_not_isNameChar hc, outside_append hs, ih hrest]
      simp only [push, List.append_nil, ← ha]

/-- A template is the one of a text if it is proper and was cut from that text. -/
theorem outside_eq_iff {cs : List Char} {t : Template} :
    outside sigil cs = t ↔ t.Proper sigil ∧ t.source sigil = cs := by
  constructor
  · rintro rfl
    exact ⟨(proper_outside_inside cs).1, (source_outside_inside cs).1⟩
  · rintro ⟨⟨hhead, hrun⟩, rfl⟩
    rw [source_eq, outside_append hhead, outside_sourceOf hrun, List.append_nil]

/-! ### Segments and names -/

/-- The segments of a template. -/
def segments (t : Template) : List (List Char) :=
  t.head :: t.parameters.map (·.after)

/-- The names of a template as lists of characters. -/
def nameRuns (t : Template) : List (List Char) :=
  t.parameters.map (·.name)

theorem names_eq (t : Template) : t.names = t.nameRuns.map String.ofList := by
  rw [names, nameRuns, List.map_map]
  rfl

theorem weave_source (t : Template) :
    weave t.segments (t.nameRuns.map (sigil :: ·)) = t.source sigil := by
  obtain ⟨head, ps⟩ := t
  rw [source_eq, segments, nameRuns]
  induction ps generalizing head with
  | nil => rw [List.map_nil, List.map_nil, List.map_nil, weave, sourceOf, List.append_nil]
  | cons p ps ih =>
    rw [List.map_cons, List.map_cons, List.map_cons, weave, ih, sourceOf]
    simp only [List.append_assoc, List.cons_append]

theorem weave_render (style : MarkerStyle) (used : Nat) (t : Template) :
    weave t.segments ((List.range' (used + 1) t.parameters.length).map style.marker) =
      t.render style used := by
  -- the markers of the rest go on counting from `k`
  have h : ∀ (ps : List Parameter) (head : List Char) (k : Nat),
      weave (head :: ps.map (·.after)) ((List.range' (used + k + 1) ps.length).map style.marker) =
        head ++ fillFrom (fun k _ => style.marker (used + k + 1)) k ps := by
    intro ps
    induction ps with
    | nil => intro head k; exact (List.append_nil head).symm
    | cons p ps ih =>
      intro head k
      have hrest : weave (p.after :: ps.map (·.after))
          ((List.range' (used + k + 1 + 1) ps.length).map style.marker) =
            p.after ++ fillFrom (fun k _ => style.marker (used + k + 1)) (k + 1) ps :=
        ih p.after (k + 1)
      rw [List.map_cons, List.length_cons, List.range'_succ, List.map_cons, weave, hrest, fillFrom,
        List.append_assoc, List.append_assoc]
  exact h t.parameters t.head 0

/-- The parameters of a template are those of a cut if each part of them is as it must be. -/
theorem properRun_iff {ps : List Parameter} :
    ProperRun sigil ps ↔
      (∀ name ∈ ps.map (·.name), ∀ c ∈ name, isNameChar c = true) ∧
      (∀ l ∈ (ps.map (·.after)).dropLast, l ≠ []) ∧
      (∀ l ∈ ps.map (·.after), EndsName sigil l) := by
  induction ps with
  | nil => simp [ProperRun]
  | cons p ps ih =>
    -- only between two parameters must there be something
    have hlast : (∀ l ∈ ((p :: ps).map (·.after)).dropLast, l ≠ []) ↔
        (ps ≠ [] → p.after ≠ []) ∧ ∀ l ∈ (ps.map (·.after)).dropLast, l ≠ [] := by
      rcases ps with _ | ⟨q, qs⟩
      · simp
      · rw [List.map_cons, List.map_cons, List.dropLast_cons_cons, List.forall_mem_cons]
        simp
    rw [ProperRun, ih, hlast, List.map_cons, List.map_cons, List.forall_mem_cons,
      List.forall_mem_cons]
    constructor
    · rintro ⟨h1, h2, h3, h4, h5, h6⟩
      exact ⟨⟨h1, h4⟩, ⟨h3, h5⟩, h2, h6⟩
    · rintro ⟨⟨h1, h4⟩, ⟨h3, h5⟩, h2, h6⟩
      exact ⟨h1, h2, h3, h4, h5, h6⟩

/-- The scan finds the cut. -/
theorem isCut_iff {text : List Char} {t : Template} :
    IsCut sigil text t.segments t.nameRuns ↔ outside sigil text = t := by
  rw [outside_eq_iff, Proper, properRun_iff]
  constructor
  · intro h
    have hfirst : sigil ∉ t.head := h.not_mem_first t.head rfl
    exact ⟨⟨hfirst, h.isNameChar_of_mem, h.inner_ne_nil, h.endsName_of_mem⟩,
      (weave_source t).symm.trans h.weave_eq⟩
  · rintro ⟨⟨hfirst, hnames, hinner, hends⟩, hsource⟩
    refine ⟨by simp [segments, nameRuns], (weave_source t).trans hsource, hnames, ?_, hinner, hends⟩
    rintro l ⟨⟩
    exact hfirst

/-- Segments and names of fitting number are those of a template. -/
theorem exists_segments_nameRuns {segments names : List (List Char)}
    (h : segments.length = names.length + 1) :
    ∃ t : Template, t.segments = segments ∧ t.nameRuns = names := by
  rcases segments with _ | ⟨l, ls⟩
  · cases h
  · rw [List.length_cons, Nat.add_right_cancel_iff] at h
    refine ⟨⟨l, (names.zip ls).map fun p => ⟨p.1, p.2⟩⟩, ?_, ?_⟩
    · rw [Template.segments, List.map_map]
      exact congrArg (l :: ·) (List.map_snd_zip (Nat.le_of_eq h))
    · rw [nameRuns, List.map_map]
      exact List.map_fst_zip (Nat.le_of_eq h.symm)

end Template

/-! ### The cut of a text -/

/-- A text is cut in one way only. -/
theorem IsCut.unique {sigil : Char} {text : List Char}
    {segments names segments' names' : List (List Char)}
    (h : IsCut sigil text segments names) (h' : IsCut sigil text segments' names') :
    segments' = segments ∧ names' = names := by
  obtain ⟨t, rfl, rfl⟩ := Template.exists_segments_nameRuns h.length_segments
  obtain ⟨t', rfl, rfl⟩ := Template.exists_segments_nameRuns h'.length_segments
  rw [Template.isCut_iff] at h h'
  obtain rfl : t = t' := h.symm.trans h'
  exact ⟨rfl, rfl⟩

/-- Markers are `$1`, `$2`, … in Postgres, and question marks elsewhere. -/
theorem marker_style (d : Dialect) :
    d.style.marker = fun k => if d = .postgres then '$' :: Nat.toDigits 10 k else ['?'] := by
  cases d <;> rfl

/-- **Compiling is exact and lossless**: a text has one cut at its parameters, which depends on
neither the dialect nor the markers used before, and compiling puts the next markers between its
segments: `$k` with the number in decimal for Postgres, `?` for the others. -/
theorem compile_eq_weave (sigil : Char) (text : String) :
    ∃ segments names, IsCut sigil text.toList segments names ∧
      (∀ segments' names', IsCut sigil text.toList segments' names' →
        segments' = segments ∧ names' = names) ∧
      ∀ (d : Dialect) (count : Nat), compile sigil ⟨d.style, count⟩ text =
        (⟨String.ofList
            (weave segments ((List.range' (count + 1) names.length).map fun k =>
              if d = .postgres then '$' :: Nat.toDigits 10 k else ['?'])),
          names.map String.ofList⟩, ⟨d.style, count + names.length⟩) := by
  have hcut : IsCut sigil text.toList (Template.ofText sigil text).segments
      (Template.ofText sigil text).nameRuns := Template.isCut_iff.mpr rfl
  refine ⟨_, _, hcut, fun _ _ h => hcut.unique h, fun d count => ?_⟩
  rw [← marker_style, compile, ← Template.weave_render, Template.names_eq, Template.nameRuns,
    List.length_map]

/-- A sigil behind a name ends the name and introduces nothing. -/
example : (compile '@' ⟨.numbered, 0⟩ "a=@x@y").1 = ⟨"a=$1@y", ["x"]⟩ := by decide

end RecordSql
