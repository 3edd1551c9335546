import RecordSql.Proofs.Binding
import RecordSql.Proofs.Template.Cut
import RecordSql.Statement

/-!
# Reading a compiled text back

Two readers cut a text into characters that stand for themselves and holes.  `readNamed` reads a
text with named parameters: a hole is the sigil with the longest run of name characters behind it.
`MarkerStyle.read` reads a text with positional markers: a hole is the `k`-th question mark, or a
dollar sign with the longest run of digits behind it.  The two readings of a text and of its
compiled form have the same holes in the same places (`read_render`), so filling them with the
values of the arguments gives the same text (`named_read_back`).

What keeps the reader of markers from running on is that no digit stands behind a marker: a digit is
a name character, and the name in front of it would have taken it.
-/

namespace RecordSql

/-! ### Texts with holes -/

/-- A piece of a text that has been read: a character that stands for itself, or a hole. -/
inductive Piece (α : Type) where
  | plain (c : Char)
  | hole (a : α)
deriving DecidableEq, Repr

namespace Piece

variable {α β : Type}

/-- The text with its holes filled. -/
def fill (put : α → List Char) : List (Piece α) → List Char
  | [] => []
  | plain c :: ps => c :: fill put ps
  | hole a :: ps => put a ++ fill put ps

/-- The characters that stand for themselves. -/
def plains : List (Piece α) → List Char
  | [] => []
  | plain c :: ps => c :: plains ps
  | hole _ :: ps => plains ps

/-- The holes in order. -/
def holes : List (Piece α) → List α
  | [] => []
  | plain _ :: ps => holes ps
  | hole a :: ps => a :: holes ps

theorem fill_plain_append (put : α → List Char) (l : List Char) (ps : List (Piece α)) :
    fill put (l.map plain ++ ps) = l ++ fill put ps := by
  induction l with
  | nil => rfl
  | cons c l ih => rw [List.map_cons, List.cons_append, fill, ih, List.cons_append]

theorem plains_plain_append (l : List Char) (ps : List (Piece α)) :
    plains (l.map plain ++ ps) = l ++ plains ps := by
  induction l with
  | nil => rfl
  | cons c l ih => rw [List.map_cons, List.cons_append, plains, ih, List.cons_append]

theorem holes_plain_append (l : List Char) (ps : List (Piece α)) :
    holes (l.map plain ++ ps) = holes ps := by
  induction l with
  | nil => rfl
  | cons c l ih => rw [List.map_cons, List.cons_append, holes, ih]

end Piece

open Piece

/-! ### The two readers -/

/-- Reads a text with named parameters.  What ends a name stands for itself. -/
def readNamed (sigil : Char) : List Char → List (Piece (List Char))
  | [] => []
  | c :: cs =>
    if c = sigil then
      let rest := cs.dropWhile isNameChar
      hole (cs.takeWhile isNameChar) :: (rest.take 1).map plain ++ readNamed sigil (rest.drop 1)
    else plain c :: readNamed sigil cs
termination_by cs => cs.length
decreasing_by
  · have := (List.dropWhile_sublist (l := cs) isNameChar).length_le
    simp only [List.length_drop, List.length_cons]
    omega
  · exact Nat.lt_succ_self _

/-- Reads a text in which the markers are question marks, of which `used` have been read. -/
def readQuestions : Nat → List Char → List (Piece Nat)
  | _, [] => []
  | used, c :: cs =>
    if c = '?' then hole (used + 1) :: readQuestions (used + 1) cs
    else plain c :: readQuestions used cs

/-- Reads a text in which the markers are numbers behind a dollar sign. -/
def readNumbers : List Char → List (Piece Nat)
  | [] => []
  | c :: cs =>
    if c = '$' ∧ cs.takeWhile Char.isDigit ≠ [] then
      hole (Nat.ofDigitChars 10 (cs.takeWhile Char.isDigit) 0) ::
        readNumbers (cs.dropWhile Char.isDigit)
    else plain c :: readNumbers cs
termination_by cs => cs.length
decreasing_by
  · have := (List.dropWhile_sublist (l := cs) Char.isDigit).length_le
    simp only [List.length_cons]
    omega
  · exact Nat.lt_succ_self _

namespace MarkerStyle

/-- The character that every marker starts with. -/
def introducer : MarkerStyle → Char
  | question => '?'
  | numbered => '$'

/-- Reads a text with markers, of which `used` have been read. -/
def readFrom : MarkerStyle → Nat → List Char → List (Piece Nat)
  | question, used => readQuestions used
  | numbered, _ => readNumbers

/-- Reads a text with markers. -/
def read (style : MarkerStyle) : List Char → List (Piece Nat) :=
  style.readFrom 0

theorem readFrom_nil (style : MarkerStyle) (used : Nat) : style.readFrom used [] = [] := by
  cases style with
  | question => rfl
  | numbered => rw [readFrom, readNumbers]

/-- What has no marker in it is read as it is. -/
theorem readFrom_append {style : MarkerStyle} {l : List Char} (h : style.introducer ∉ l)
    (used : Nat) (rest : List Char) :
    style.readFrom used (l ++ rest) = l.map plain ++ style.readFrom used rest := by
  induction l with
  | nil => rfl
  | cons c l ih =>
    rw [List.mem_cons, not_or] at h
    have hcons : style.readFrom used (c :: (l ++ rest)) =
        plain c :: style.readFrom used (l ++ rest) := by
      cases style with
      | question =>
        have hc : c ≠ '?' := Ne.symm h.1
        rw [readFrom, readQuestions, if_neg hc]
      | numbered => rw [readFrom, readNumbers, if_neg fun hc => h.1 hc.1.symm]
    rw [List.cons_append, hcons, ih h.2, List.map_cons, List.cons_append]

/-- A marker is read back with its number if no digit stands behind it. -/
theorem readFrom_marker (style : MarkerStyle) (used : Nat) {rest : List Char}
    (h : ∀ c cs, rest = c :: cs → c.isDigit = false) :
    style.readFrom used (style.marker (used + 1) ++ rest) =
      hole (used + 1) :: style.readFrom (used + 1) rest := by
  cases style with
  | question =>
    rw [readFrom, marker, List.singleton_append, readQuestions, if_pos rfl]
    rfl
  | numbered =>
    have hdigits : ∀ c ∈ Nat.toDigits 10 (used + 1), c.isDigit = true := fun c hc =>
      Nat.isDigit_of_mem_toDigits (by decide) (by decide) hc
    -- the digits end where the marker does, since no digit follows
    have htake : rest.takeWhile Char.isDigit = [] := by
      cases rest with
      | nil => rfl
      | cons c cs => rw [List.takeWhile_cons, h c cs rfl]; rfl
    have hdrop : rest.dropWhile Char.isDigit = rest := by
      cases rest with
      | nil => rfl
      | cons c cs => rw [List.dropWhile_cons, h c cs rfl]; rfl
    have hne : Nat.toDigits 10 (used + 1) ≠ [] := Nat.toDigits_ne_nil
    rw [readFrom, marker, List.cons_append, readNumbers, List.takeWhile_append_of_pos hdigits,
      List.dropWhile_append_of_pos hdigits, htake, hdrop, List.append_nil, if_pos ⟨rfl, hne⟩,
      Nat.ofDigitChars_ten_toDigits]
    rfl

end MarkerStyle

/-! ### The pieces of a template -/

namespace Template

variable {α : Type} {sigil : Char}

/-- The pieces of parameters, the first of which is the `k`-th. -/
def piecesFrom (hole : Nat → List Char → α) : Nat → List Parameter → List (Piece α)
  | _, [] => []
  | k, p :: ps => .hole (hole k p.name) :: (p.after.map .plain ++ piecesFrom hole (k + 1) ps)

/-- The pieces of a template. -/
def pieces (hole : Nat → List Char → α) (t : Template) : List (Piece α) :=
  t.head.map .plain ++ piecesFrom hole 0 t.parameters

/-- Filling the pieces of a template is filling the template. -/
theorem fill_pieces (hole : Nat → List Char → α) (put : α → List Char) (t : Template) :
    Piece.fill put (t.pieces hole) = t.fill fun k name => put (hole k name) := by
  have h : ∀ (ps : List Parameter) (k : Nat), Piece.fill put (piecesFrom hole k ps) =
      fillFrom (fun k name => put (hole k name)) k ps := by
    intro ps
    induction ps with
    | nil => intro k; rfl
    | cons p ps ih =>
      intro k
      rw [piecesFrom, Piece.fill, fill_plain_append, ih, fillFrom, List.append_assoc]
  rw [pieces, fill_plain_append, h, Template.fill]

theorem plains_pieces (hole : Nat → List Char → α) (t : Template) :
    plains (t.pieces hole) = t.head ++ (t.parameters.map (·.after)).flatten := by
  have h : ∀ (ps : List Parameter) (k : Nat),
      plains (piecesFrom hole k ps) = (ps.map (·.after)).flatten := by
    intro ps
    induction ps with
    | nil => intro k; rfl
    | cons p ps ih =>
      intro k
      rw [piecesFrom, plains, plains_plain_append, ih, List.map_cons, List.flatten_cons]
  rw [pieces, plains_plain_append, h]

theorem holes_pieces_name (t : Template) : holes (t.pieces fun _ name => name) = t.nameRuns := by
  have h : ∀ (ps : List Parameter) (k : Nat),
      holes (piecesFrom (fun _ name => name) k ps) = ps.map (·.name) := by
    intro ps
    induction ps with
    | nil => intro k; rfl
    | cons p ps ih => intro k; rw [piecesFrom, holes, holes_plain_append, ih, List.map_cons]
  rw [pieces, holes_plain_append, h, nameRuns]

theorem holes_pieces_number (t : Template) :
    holes (t.pieces fun k _ => k + 1) = List.range' 1 t.parameters.length := by
  have h : ∀ (ps : List Parameter) (k : Nat),
      holes (piecesFrom (fun k _ => k + 1) k ps) = List.range' (k + 1) ps.length := by
    intro ps
    induction ps with
    | nil => intro k; rfl
    | cons p ps ih =>
      intro k
      rw [piecesFrom, holes, holes_plain_append, ih, List.length_cons, List.range'_succ]
  rw [pieces, holes_plain_append, h]

/-- What ends a name is copied, whatever it is. -/
theorem inside_eq (cs : List Char) :
    inside sigil cs = (cs.takeWhile isNameChar,
      ⟨(cs.dropWhile isNameChar).take 1 ++ (outside sigil ((cs.dropWhile isNameChar).drop 1)).head,
        (outside sigil ((cs.dropWhile isNameChar).drop 1)).parameters⟩) := by
  induction cs with
  | nil => rw [inside_nil, List.takeWhile_nil, List.dropWhile_nil, List.drop_nil, outside_nil]; rfl
  | cons c cs ih =>
    cases hc : isNameChar c with
    | true =>
      rw [inside_of_isNameChar hc, ih, List.takeWhile_cons, List.dropWhile_cons, if_pos hc,
        if_pos hc]
    | false =>
      have hc' : ¬isNameChar c = true := by rw [hc]; decide
      rw [inside_of_not_isNameChar hc, List.takeWhile_cons, List.dropWhile_cons, if_neg hc',
        if_neg hc']
      rfl

theorem piecesFrom_name (k : Nat) (ps : List Parameter) :
    piecesFrom (fun _ name => name) (k + 1) ps = piecesFrom (fun _ name => name) k ps := by
  induction ps generalizing k with
  | nil => rfl
  | cons p ps ih => rw [piecesFrom, piecesFrom, ih]

/-- Reading a text with named parameters gives the pieces of its template. -/
theorem readNamed_eq_pieces (cs : List Char) :
    readNamed sigil cs = (outside sigil cs).pieces fun _ name => name := by
  fun_induction readNamed sigil cs with
  | case1 => rw [outside_nil]; rfl
  | case2 cs rest ih =>
    rw [outside_sigil, inside_eq, ih, pieces, pieces, piecesFrom, piecesFrom_name, List.map_append,
      List.append_assoc]
    rfl
  | case3 c cs hc ih =>
    rw [outside_of_ne hc, ih]
    rfl

end Template

/-! ### Markers among other text -/

theorem isNameChar_of_isDigit {c : Char} (h : c.isDigit = true) : isNameChar c = true := by
  have hlt : c.toNat < 128 := by
    have hc : 48 ≤ c.toNat ∧ c.toNat ≤ 57 := by
      simpa [Char.isDigit, UInt32.le_iff_toNat_le] using h
    omega
  have hascii := Text.isAlphanum_eq_isAlphanumeric c.toNat hlt
  rw [Char.ofNat_toNat] at hascii
  rw [isNameChar, ← hascii, Char.isAlphanum, h, Bool.or_true, Bool.true_or, Bool.true_or]

/-- The character that ends a name is no digit, so a number ends where its marker does. -/
theorem EndsName.isDigit_eq_false {sigil c : Char} {cs : List Char} (h : EndsName sigil (c :: cs)) :
    c.isDigit = false := by
  have hc := (h c cs rfl).1
  rw [← Bool.not_eq_true]
  intro hdigit
  rw [isNameChar_of_isDigit hdigit] at hc
  cases hc

namespace Template

variable {sigil : Char}

theorem readFrom_fillFrom {style : MarkerStyle} {ps : List Parameter} (hps : ProperRun sigil ps)
    (hplain : ∀ p ∈ ps, style.introducer ∉ p.after) (k : Nat) :
    style.readFrom k (fillFrom (fun k _ => style.marker (k + 1)) k ps) =
      piecesFrom (fun k _ => k + 1) k ps := by
  induction ps generalizing k with
  | nil => exact style.readFrom_nil k
  | cons p ps ih =>
    have hlast : p.after = [] → ps = [] := hps.eq_nil
    obtain ⟨-, hafter, -, hrest⟩ := hps
    rw [List.forall_mem_cons] at hplain
    -- No digit stands behind the marker: either the text does, or nothing at all.
    have hdigit : ∀ c cs,
        p.after ++ fillFrom (fun k _ => style.marker (k + 1)) (k + 1) ps = c :: cs →
          c.isDigit = false := by
      intro c cs h
      cases ha : p.after with
      | nil =>
        rw [ha, hlast ha] at h
        cases h
      | cons d ds =>
        rw [ha, List.cons_append] at h
        obtain ⟨rfl, -⟩ := List.cons.inj h
        exact (ha ▸ hafter).isDigit_eq_false
    rw [fillFrom, List.append_assoc, style.readFrom_marker k hdigit,
      MarkerStyle.readFrom_append hplain.1, ih hrest hplain.2, piecesFrom]

/-- Reading a text with markers gives the pieces of the template it was made of. -/
theorem read_render {style : MarkerStyle} {t : Template} (ht : t.Proper sigil)
    (hplain : style.introducer ∉ plains (t.pieces fun _ name => name)) :
    style.read (t.render style 0) = t.pieces fun k _ => k + 1 := by
  rw [plains_pieces, List.mem_append, not_or, List.mem_flatten] at hplain
  have hafter : ∀ p ∈ t.parameters, style.introducer ∉ p.after := fun p hp hmem =>
    hplain.2 ⟨p.after, List.mem_map_of_mem hp, hmem⟩
  have hrender : t.render style 0 =
      t.head ++ fillFrom (fun k _ => style.marker (k + 1)) 0 t.parameters := by
    simp only [render, fill, Nat.zero_add]
  rw [hrender, MarkerStyle.read, MarkerStyle.readFrom_append hplain.1,
    readFrom_fillFrom ht.2 hafter, pieces]

theorem fill_congr {put put' : Nat → List Char → List Char} {t : Template}
    (h : ∀ k name, t.nameRuns[k]? = some name → put k name = put' k name) :
    t.fill put = t.fill put' := by
  -- by induction on the parameters, with the number of the first of them for any
  have hfrom : ∀ (ps : List Parameter) (k : Nat),
      (∀ i name, (ps.map (·.name))[i]? = some name → put (k + i) name = put' (k + i) name) →
      fillFrom put k ps = fillFrom put' k ps := by
    intro ps
    induction ps with
    | nil => intro k _; rfl
    | cons p ps ih =>
      intro k hk
      have htail : fillFrom put (k + 1) ps = fillFrom put' (k + 1) ps := by
        refine ih (k + 1) fun i name hi => ?_
        rw [Nat.add_right_comm]
        exact hk (i + 1) name hi
      have hhead : put k p.name = put' k p.name := hk 0 p.name rfl
      rw [fillFrom, fillFrom, htail, hhead]
  rw [Template.fill, Template.fill, hfrom t.parameters 0 fun i name hi => by
    rw [Nat.zero_add]; exact h i name hi]

end Template

/-! ### The meaning of a compiled text -/

theorem Statement.named_eq (d : Dialect) (sigil : Char) (text : String) (args : List Argument) :
    Statement.named d sigil text args =
      (bindArguments (compile sigil d.markers text).1.params args).map fun values =>
        ⟨(compile sigil d.markers text).1.sql, values⟩ := by
  rw [Statement.named]
  cases bindArguments (compile sigil d.markers text).1.params args <;> rfl

theorem Statement.sql_of_named {d : Dialect} {sigil : Char} {text : String} {args : List Argument}
    {st : Statement} (h : Statement.named d sigil text args = .ok st) :
    st.sql = (compile sigil d.markers text).1.sql := by
  rw [Statement.named_eq] at h
  cases hvalues : bindArguments (compile sigil d.markers text).1.params args with
  | error e => rw [hvalues] at h; cases h
  | ok values => rw [hvalues] at h; cases h; rfl

/-- The values bound to the parameters of a text are looked up by their names. -/
theorem getElem?_of_bindArguments {t : Template} {args : List Argument} {values : List Value}
    (h : bindArguments t.names args = .ok values) {k : Nat} {name : List Char}
    (hk : t.nameRuns[k]? = some name) : values[k]? = lookup? args (String.ofList name) := by
  have hname : t.names[k]? = some (String.ofList name) := by
    rw [Template.names_eq, List.getElem?_map, hk, Option.map_some]
  exact getElem?_of_bindArguments_eq_ok h hname

/-- **Compiling and binding preserve the meaning of a text**: in a text that does not itself contain
what introduces markers, the markers of the compiled form are numbered from 1 in order, one for each
bound value, and putting the values in place of the markers gives the same text as putting, in place
of each parameter, the value of the last argument with its name. -/
theorem named_read_back (d : Dialect) (sigil : Char) (text : String) (args : List Argument)
    (r : Value → List Char)
    (supplied : ∀ name ∈ holes (readNamed sigil text.toList),
      ∃ a ∈ args, a.name = String.ofList name)
    (unmarked : d.style.introducer ∉ plains (readNamed sigil text.toList)) :
    ∃ st, Statement.named d sigil text args = .ok st ∧
      holes (d.style.read st.sql.toList) = List.range' 1 st.args.length ∧
      Piece.fill (fun k => (st.args[k - 1]?).elim [] r) (d.style.read st.sql.toList) =
        Piece.fill
          (fun name => ((args.filter (·.name == String.ofList name)).getLast?).elim [] (r ·.value))
          (readNamed sigil text.toList) := by
  obtain ⟨t, ht⟩ : ∃ t, Template.ofText sigil text = t := ⟨_, rfl⟩
  have hpieces : readNamed sigil text.toList = t.pieces fun _ name => name := by
    rw [Template.readNamed_eq_pieces, ← ht]
    rfl
  have hcompile : compile sigil d.markers text =
      (⟨String.ofList (t.render d.style 0), t.names⟩, ⟨d.style, 0 + t.parameters.length⟩) := by
    rw [compile, ht]
    rfl
  rw [hpieces, Template.holes_pieces_name] at supplied
  rw [hpieces] at unmarked ⊢
  -- every name has an argument, so there is one value for each parameter
  obtain ⟨values, hvalues⟩ : ∃ values, bindArguments t.names args = .ok values := by
    refine exists_bindArguments_eq_ok fun name hname => ?_
    rw [Template.names_eq, List.mem_map] at hname
    obtain ⟨run, hrun, rfl⟩ := hname
    exact supplied run hrun
  have hlength : values.length = t.parameters.length := by
    have := congrArg List.length (bindArguments_eq_ok_iff.mp hvalues)
    simpa [Template.names] using this.symm
  -- what is read back is the template, with the numbers of its parameters in their places
  have hread : d.style.read (t.render d.style 0) = t.pieces fun k _ => k + 1 :=
    Template.read_render (Template.outside_eq_iff.mp ht).1 unmarked
  refine ⟨⟨String.ofList (t.render d.style 0), values⟩, ?_, ?_, ?_⟩
  · rw [Statement.named_eq, hcompile, hvalues]
    rfl
  · rw [String.toList_ofList, hread, Template.holes_pieces_number, hlength]
  · rw [String.toList_ofList, hread, Template.fill_pieces, Template.fill_pieces]
    refine Template.fill_congr fun k name hk => ?_
    rw [Nat.add_sub_cancel, getElem?_of_bindArguments hvalues hk, lookup?_eq_getLast?,
      Option.elim_map]
    rfl

/-- A name that is used twice, and one that is empty. -/
theorem named_read_back_repeated :
    let text := "a=@x AND b=@ OR c=@x@"
    let args : List Argument := [⟨"x", .text "1"⟩, ⟨"", .null⟩, ⟨"x", .text "2"⟩]
    let r : Value → List Char := fun v => match v with | .text s => s.toList | _ => "NULL".toList
    (∀ name ∈ holes (readNamed '@' text.toList), ∃ a ∈ args, a.name = String.ofList name) ∧
    '$' ∉ plains (readNamed '@' text.toList) ∧
    ∃ st, Statement.named .postgres '@' text args = .ok st ∧
      holes (MarkerStyle.numbered.read st.sql.toList) = List.range' 1 st.args.length ∧
      Piece.fill (fun k => (st.args[k - 1]?).elim [] r) (MarkerStyle.numbered.read st.sql.toList) =
        Piece.fill
          (fun name => ((args.filter (·.name == String.ofList name)).getLast?).elim [] (r ·.value))
          (readNamed '@' text.toList) := by
  intro text args r
  have supplied : ∀ name ∈ holes (readNamed '@' text.toList), ∃ a ∈ args,
      a.name = String.ofList name := by
    rw [Template.readNamed_eq_pieces]
    decide
  have unmarked : '$' ∉ plains (readNamed '@' text.toList) := by
    rw [Template.readNamed_eq_pieces]
    decide
  exact ⟨supplied, unmarked, named_read_back .postgres '@' text args r supplied unmarked⟩

end RecordSql
