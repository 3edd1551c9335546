import RecordSql.Proofs.Template.Cut

/-!
# Compiling a text part by part

Going through a text, the scan stands either outside a parameter or inside the name of one: `Place`.
Where it stands outside, a text can be cut in two, and the parts are compiled one after the other, the
second with the markers that the first has left.  Where it stands inside a name, the same holds behind the
character that ends the name.  So what stands behind a parameter changes neither its name nor its marker
nor anything in front of it (`compile_seam`).

On templates, one part behind another is `Template.behind`, and `outside_append_of_goesOn` is the lemma that
carries the proof: it holds for both places at once, because the scan of the second part goes on from the
place that the scan of the first part has reached.
-/

namespace RecordSql

/-- Where the scan of a text stands. -/
inductive Place where
  /-- Outside a parameter. -/
  | outside
  /-- Inside the name of a parameter. -/
  | inside
deriving DecidableEq, Repr

namespace Place

/-- Where the scan stands after one more character: the sigil opens a name, and the first character that
is no name character closes it. -/
def step (sigil : Char) : Place → Char → Place
  | outside, c => if c = sigil then inside else outside
  | inside, c => if isNameChar c then inside else outside

/-- Where the scan stands after more characters. -/
def after (sigil : Char) (p : Place) (cs : List Char) : Place :=
  cs.foldl (step sigil) p

/-- Where the scan stands at the end of a text. -/
def atEnd (sigil : Char) (text : String) : Place :=
  outside.after sigil text.toList

end Place

/-- One compiled text behind another. -/
instance : Append Compiled :=
  ⟨fun p q => ⟨p.sql ++ q.sql, p.params ++ q.params⟩⟩

namespace Template

variable {sigil : Char}

/-! ### One template behind another -/

/-- The template with the given head and parameters, and `u` behind it. -/
def behind (u : Template) : List Char → List Parameter → Template
  | head, [] => ⟨head ++ u.head, u.parameters⟩
  | head, p :: ps =>
    let rest := behind u p.after ps
    ⟨head, ⟨p.name, rest.head⟩ :: rest.parameters⟩

instance : Append Template :=
  ⟨fun t u => behind u t.head t.parameters⟩

theorem push_append (c : Char) (t u : Template) : push c t ++ u = push c (t ++ u) := by
  obtain ⟨head, ps⟩ := t
  cases ps <;> rfl

theorem parameters_append_length (t u : Template) :
    (t ++ u).parameters.length = t.parameters.length + u.parameters.length := by
  have h : ∀ (ps : List Parameter) (head : List Char),
      (behind u head ps).parameters.length = ps.length + u.parameters.length := by
    intro ps
    induction ps with
    | nil => intro head; exact (Nat.zero_add _).symm
    | cons p ps ih => intro head; rw [behind, List.length_cons, List.length_cons, ih]; omega
  exact h t.parameters t.head

theorem names_append (t u : Template) : (t ++ u).names = t.names ++ u.names := by
  have h : ∀ (ps : List Parameter) (head : List Char),
      (behind u head ps).names = ps.map (fun p => String.ofList p.name) ++ u.names := by
    intro ps
    induction ps with
    | nil => intro head; rfl
    | cons p ps ih => intro head; exact congrArg (String.ofList p.name :: ·) (ih p.after)
  exact h t.parameters t.head

theorem fillFrom_add (put : Nat → List Char → List Char) (n k : Nat) (ps : List Parameter) :
    fillFrom put (k + n) ps = fillFrom (fun j => put (j + n)) k ps := by
  induction ps generalizing k with
  | nil => rfl
  | cons p ps ih => rw [fillFrom, fillFrom, ← ih, Nat.add_right_comm]

/-- The parameters of a second part are filled behind those of the first. -/
theorem fill_append (put : Nat → List Char → List Char) (t u : Template) :
    (t ++ u).fill put = t.fill put ++ u.fill fun k => put (k + t.parameters.length) := by
  -- by induction on the parameters of the first part, from any number on
  have h : ∀ (ps : List Parameter) (head : List Char) (k : Nat),
      (behind u head ps).head ++ fillFrom put k (behind u head ps).parameters =
        head ++ fillFrom put k ps ++ (u.head ++ fillFrom put (k + ps.length) u.parameters) := by
    intro ps
    induction ps with
    | nil =>
      intro head k
      rw [behind, fillFrom, List.append_nil, List.append_assoc]
      rfl
    | cons p ps ih =>
      intro head k
      have hrest := ih p.after (k + 1)
      rw [behind, fillFrom, fillFrom, List.length_cons, List.append_assoc (put k p.name), hrest,
        Nat.add_right_comm k, Nat.add_assoc k]
      simp only [List.append_assoc]
  have hall := h t.parameters t.head 0
  rw [fillFrom_add put t.parameters.length 0] at hall
  exact hall

/-- The markers of the second template are those behind the markers of the first. -/
theorem render_append (style : MarkerStyle) (used : Nat) (t u : Template) :
    (t ++ u).render style used =
      t.render style used ++ u.render style (used + t.parameters.length) := by
  have hshift : (fun k (_ : List Char) => style.marker (used + (k + t.parameters.length) + 1)) =
      fun k _ => style.marker (used + t.parameters.length + k + 1) := by
    funext k _
    rw [Nat.add_comm k, ← Nat.add_assoc]
  rw [render, render, render, fill_append, hshift]

/-! ### The scan at the seam -/

/-- Whether the scan of a text goes on from a place with the template `u`, and no more of the name that
it may stand in. -/
def GoesOn (sigil : Char) (cs : List Char) (u : Template) : Place → Prop
  | .outside => outside sigil cs = u
  | .inside => inside sigil cs = ([], u)

/-- The template of a text in two parts is that of the first with that of the second behind it.  Inside
a name, it is what follows the name that the second part goes on with. -/
theorem outside_append_of_goesOn {a b : List Char} {u : Template} :
    (GoesOn sigil b u (Place.outside.after sigil a) →
      outside sigil (a ++ b) = outside sigil a ++ u) ∧
    (GoesOn sigil b u (Place.inside.after sigil a) →
      inside sigil (a ++ b) = ((inside sigil a).1, (inside sigil a).2 ++ u)) := by
  -- for both places at once: the sigil moves the scan inside, and the end of a name moves it back
  induction a with
  | nil =>
    constructor
    · intro h
      rw [outside_nil]
      exact h
    · intro h
      rw [inside_nil]
      exact h
  | cons c a ih =>
    obtain ⟨hout, hin⟩ := ih
    constructor
    · intro h
      by_cases hc : c = sigil
      · subst hc
        rw [Place.after, List.foldl_cons, Place.step, if_pos rfl] at h
        rw [List.cons_append, outside_sigil, outside_sigil, hin h]
        rfl
      · rw [Place.after, List.foldl_cons, Place.step, if_neg hc] at h
        rw [List.cons_append, outside_of_ne hc, outside_of_ne hc, hout h, push_append]
    · intro h
      cases hc : isNameChar c with
      | true =>
        rw [Place.after, List.foldl_cons, Place.step, hc, if_pos rfl] at h
        rw [List.cons_append, inside_of_isNameChar hc, inside_of_isNameChar hc, hin h]
      | false =>
        rw [Place.after, List.foldl_cons, Place.step, hc, if_neg Bool.false_ne_true] at h
        rw [List.cons_append, inside_of_not_isNameChar hc, inside_of_not_isNameChar hc, hout h,
          push_append]

end Template

/-! ### Compiling at the seam -/

variable {sigil : Char} {a b : String}

/-- What is compiled behind a text takes the markers that the text has left. -/
theorem compile_of_append {u : Template}
    (h : Template.ofText sigil (a ++ b) = Template.ofText sigil a ++ u) (m : Markers) :
    compile sigil m (a ++ b) =
      ((compile sigil m a).1 ++
          ⟨String.ofList (u.render m.style (compile sigil m a).2.count), u.names⟩,
        { m with count := (compile sigil m a).2.count + u.parameters.length }) := by
  rw [compile, h, Template.render_append, Template.names_append, Template.parameters_append_length,
    String.ofList_append, ← Nat.add_assoc]
  rfl

/-- Outside a parameter, what follows is compiled on its own. -/
theorem compile_append_of_outside (h : Place.atEnd sigil a = .outside) (m : Markers) :
    compile sigil m (a ++ b) =
      ((compile sigil m a).1 ++ (compile sigil (compile sigil m a).2 b).1,
        (compile sigil (compile sigil m a).2 b).2) := by
  have hgoes : Template.GoesOn sigil b.toList (Template.ofText sigil b) (Place.atEnd sigil a) := by
    rw [h]
    rfl
  have htext : Template.ofText sigil (a ++ b) = Template.ofText sigil a ++ Template.ofText sigil b := by
    rw [Template.ofText, String.toList_append]
    exact Template.outside_append_of_goesOn.1 hgoes
  exact compile_of_append htext m

/-- Inside a name, what follows the character that ends the name is compiled on its own. -/
theorem compile_append_of_inside (h : Place.atEnd sigil a = .inside) {t : Char}
    (ends : isNameChar t = false) (m : Markers) :
    compile sigil m (a ++ (String.singleton t ++ b)) =
      ((compile sigil m a).1 ++ (⟨String.singleton t, []⟩ ++ (compile sigil (compile sigil m a).2 b).1),
        (compile sigil (compile sigil m a).2 b).2) := by
  -- the character that ends the name belongs to the text behind the parameter
  have hgoes : Template.GoesOn sigil (t :: b.toList) (Template.push t (Template.ofText sigil b))
      (Place.atEnd sigil a) := by
    rw [h]
    exact Template.inside_of_not_isNameChar ends b.toList
  have htext : Template.ofText sigil (a ++ (String.singleton t ++ b)) =
      Template.ofText sigil a ++ Template.push t (Template.ofText sigil b) := by
    rw [Template.ofText, String.toList_append, String.toList_append, String.toList_singleton]
    exact Template.outside_append_of_goesOn.1 hgoes
  rw [compile_of_append htext]
  have hrender (used : Nat) : (Template.push t (Template.ofText sigil b)).render m.style used =
      t :: (Template.ofText sigil b).render m.style used := rfl
  rw [hrender, ← List.singleton_append, String.ofList_append]
  rfl

/-- What stands behind a name leaves it, its marker and everything in front of it as they are. -/
theorem exists_compile_append (h : Place.atEnd sigil a = .inside)
    (ends : ∀ t ∈ b.toList.head?, isNameChar t = false) (m : Markers) :
    ∃ more, (compile sigil m (a ++ b)).1 = (compile sigil m a).1 ++ more := by
  cases hb : b.toList with
  | nil =>
    -- the text ends with the name
    obtain rfl : b = "" := String.toList_inj.mp hb
    refine ⟨⟨"", []⟩, ?_⟩
    show _ = Compiled.mk ((compile sigil m a).1.sql ++ "") ((compile sigil m a).1.params ++ [])
    rw [String.append_empty, String.append_empty, List.append_nil]
  | cons t cs =>
    obtain rfl : b = String.singleton t ++ String.ofList cs := String.toList_inj.mp (by simp [hb])
    rw [compile_append_of_inside h (ends t (by simp)) m]
    exact ⟨_, rfl⟩

/-- **Compiling is compositional.**  Behind a text that ends outside a parameter, what follows is compiled
as if it stood alone, with the markers that are left; behind one that ends inside a name, this holds of what
follows the character that ends the name.  So no continuation that ends the name changes what was compiled
up to there. -/
theorem compile_seam (sigil : Char) (m : Markers) (a b : String) :
    (Place.atEnd sigil a = .outside →
      compile sigil m (a ++ b) =
        ((compile sigil m a).1 ++ (compile sigil (compile sigil m a).2 b).1,
          (compile sigil (compile sigil m a).2 b).2)) ∧
    (Place.atEnd sigil a = .inside → ∀ t, isNameChar t = false →
      compile sigil m (a ++ (String.singleton t ++ b)) =
        ((compile sigil m a).1 ++
            (⟨String.singleton t, []⟩ ++ (compile sigil (compile sigil m a).2 b).1),
          (compile sigil (compile sigil m a).2 b).2)) ∧
    (Place.atEnd sigil a = .inside → (∀ t ∈ b.toList.head?, isNameChar t = false) →
      ∃ more, (compile sigil m (a ++ b)).1 = (compile sigil m a).1 ++ more) :=
  ⟨fun h => compile_append_of_outside h m, fun h _ ends => compile_append_of_inside h ends m,
    fun h ends => exists_compile_append h ends m⟩

/-- The sigil itself ends a name.  Behind it the scan stands outside again, so it introduces nothing, and
the next sigil does. -/
theorem compile_seam_sigil :
    let m : Markers := ⟨.numbered, 8⟩
    Place.atEnd '@' "a=@x" = .inside ∧ isNameChar '@' = false ∧ Place.atEnd '@' "a=@x@" = .outside ∧
      compile '@' m ("a=@x" ++ (String.singleton '@' ++ "y=@z")) =
        (⟨"a=$9", ["x"]⟩ ++ (⟨"@", []⟩ ++ ⟨"y=$10", ["z"]⟩), ⟨.numbered, 10⟩) ∧
      compile '@' m ("a=@x@" ++ "y=@z") =
        (⟨"a=$9@", ["x"]⟩ ++ ⟨"y=$10", ["z"]⟩, ⟨.numbered, 10⟩) ∧
      ∃ more, (compile '@' m ("a=@x" ++ "@y=@z")).1 = ⟨"a=$9", ["x"]⟩ ++ more := by
  intro m
  have hinside : Place.atEnd '@' "a=@x" = .inside := by decide
  have hname : isNameChar '@' = false := by decide
  have houtside : Place.atEnd '@' "a=@x@" = .outside := by decide
  have hfirst : compile '@' m "a=@x" = (⟨"a=$9", ["x"]⟩, ⟨.numbered, 9⟩) := by decide
  have hclosed : compile '@' m "a=@x@" = (⟨"a=$9@", ["x"]⟩, ⟨.numbered, 9⟩) := by decide
  have hsecond : compile '@' ⟨.numbered, 9⟩ "y=@z" = (⟨"y=$10", ["z"]⟩, ⟨.numbered, 10⟩) := by decide
  have hhead : ∀ t ∈ "@y=@z".toList.head?, isNameChar t = false := by
    rintro _ ⟨⟩
    exact hname
  have hends := (compile_seam '@' m "a=@x" "y=@z").2.1 hinside '@' hname
  have hcut := (compile_seam '@' m "a=@x@" "y=@z").1 houtside
  have hkept := (compile_seam '@' m "a=@x" "@y=@z").2.2 hinside hhead
  rw [hfirst] at hends hkept
  rw [hclosed] at hcut
  rw [hsecond] at hends hcut
  exact ⟨hinside, hname, houtside, hends, hcut, hkept⟩

end RecordSql
