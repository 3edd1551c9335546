import Mathlib.Data.List.Forall2
import RecordSql.Embedded.Grammar
import RecordSql.Proofs.Embedded.Spelling

/-!
# What phrases read

`Reads p ts before P` says that the phrase `p` takes the tokens `ts` from the front of a statement and
answers with something that satisfies `P`, wherever the next token satisfies `before`.  Phrases that are
put one after the other read tokens that are put one after the other (`Reads.bind`), and a list with
commas reads the items between them (`Reads.items`).
-/

namespace RecordSql.Embedded.Phrase

variable {α β : Type}

/-- The token in front, if there is one. -/
def next (ls : List Lexeme) : Option Token :=
  ls.head?.map (·.token)

/-- A phrase takes tokens before a token that satisfies `before`, and answers with something that
satisfies `P`. -/
def Reads (p : Phrase α) (ts : List Token) (before : Option Token → Prop) (P : α → Prop) : Prop :=
  ∀ ls rest : List Lexeme, ls.map (·.token) = ts → before (next rest) →
    ∃ a, P a ∧ p.run (ls ++ rest) = some (a, rest)

/-- Any token may come next, or none. -/
def Any (_t : Option Token) : Prop := True

/-- What stands next is the first token of a phrase, or the token behind it if the phrase has none.
-/
theorem next_append {ls : List Lexeme} {ts : List Token} (h : ls.map (·.token) = ts)
    (rest : List Lexeme) : next (ls ++ rest) = ts.head?.or (next rest) := by
  subst h
  cases ls <;> rfl

/-- A phrase may be read before fewer tokens, and less may be said of its answer. -/
theorem Reads.mono {p : Phrase α} {ts : List Token} {before before' : Option Token → Prop}
    {P Q : α → Prop} (h : Reads p ts before P) (hbefore : ∀ t, before' t → before t)
    (hP : ∀ a, P a → Q a) : Reads p ts before' Q := by
  intro ls rest hls hrest
  obtain ⟨a, ha, hrun⟩ := h ls rest hls (hbefore _ hrest)
  exact ⟨a, hP a ha, hrun⟩

theorem reads_pure {before : Option Token → Prop} (a : α) :
    Reads (pure a) [] before (· = a) := by
  intro ls rest hls _
  rw [List.map_eq_nil_iff] at hls
  subst hls
  exact ⟨a, rfl, rfl⟩

/-- Phrases one after the other. -/
theorem Reads.bind {p : Phrase α} {f : α → Phrase β} {ts us : List Token}
    {before before' : Option Token → Prop} {P : α → Prop} {Q : β → Prop}
    (hp : Reads p ts before P) (hf : ∀ a, P a → Reads (f a) us before' Q)
    (follows : ∀ t, before' t → before (us.head?.or t)) :
    Reads (p >>= f) (ts ++ us) before' Q := by
  intro ls rest hls hrest
  obtain ⟨ks, ms, rfl, hks, hms⟩ := List.map_eq_append_iff.mp hls
  have hbefore : before (next (ms ++ rest)) := by
    rw [next_append hms]
    exact follows _ hrest
  obtain ⟨a, ha, hrun⟩ := hp ks (ms ++ rest) hks hbefore
  obtain ⟨b, hb, hrun'⟩ := hf a ha ms rest hms hrest
  refine ⟨b, hb, ?_⟩
  rw [List.append_assoc, StateT.run_bind, hrun]
  exact hrun'

/-- A phrase that reads nothing comes first. -/
theorem Reads.bind_nil {p : Phrase α} {f : α → Phrase β} {us : List Token}
    {before before' : Option Token → Prop} {P : α → Prop} {Q : β → Prop}
    (hp : Reads p [] before P) (hf : ∀ a, P a → Reads (f a) us before' Q)
    (follows : ∀ t, before' t → before (us.head?.or t)) : Reads (p >>= f) us before' Q :=
  Reads.bind hp hf follows

/-- A phrase that reads one token comes first. -/
theorem Reads.bind_cons {p : Phrase α} {f : α → Phrase β} {t : Token} {us : List Token}
    {before before' : Option Token → Prop} {P : α → Prop} {Q : β → Prop}
    (hp : Reads p [t] before P) (hf : ∀ a, P a → Reads (f a) us before' Q)
    (follows : ∀ t, before' t → before (us.head?.or t)) : Reads (p >>= f) (t :: us) before' Q :=
  Reads.bind hp hf follows

/-- A phrase that reads nothing comes last. -/
theorem Reads.bind_last {p : Phrase α} {f : α → Phrase β} {ts : List Token}
    {before before' : Option Token → Prop} {P : α → Prop} {Q : β → Prop}
    (hp : Reads p ts before P) (hf : ∀ a, P a → Reads (f a) [] before' Q)
    (follows : ∀ t, before' t → before t) : Reads (p >>= f) ts before' Q :=
  List.append_nil ts ▸ Reads.bind hp hf follows

/-- A phrase ends with an answer. -/
theorem Reads.bind_pure {p : Phrase α} {f : α → β} {ts : List Token}
    {before : Option Token → Prop} {P : α → Prop} {Q : β → Prop} (hp : Reads p ts before P)
    (hf : ∀ a, P a → Q (f a)) : Reads (p >>= fun a => pure (f a)) ts before Q :=
  Reads.bind_last hp (fun a ha => (reads_pure (f a)).mono (fun _ h => h) fun _ hb => hb ▸ hf a ha)
    fun _ h => h

/-- A phrase may look at what is left of the statement: that is at least what it reads. -/
theorem reads_get {f : List Lexeme → Phrase β} {ts : List Token} {before : Option Token → Prop}
    {P : β → Prop} (h : ∀ s, ts.length ≤ s.length → Reads (f s) ts before P) :
    Reads (get >>= f) ts before P := by
  intro ls rest hls hrest
  have hlength : ts.length ≤ (ls ++ rest).length := by
    rw [← hls, List.length_map, List.length_append]
    exact Nat.le_add_right _ _
  exact h _ hlength ls rest hls hrest

/-- The answer of a phrase is changed. -/
theorem Reads.map {p : Phrase α} {f : α → β} {ts : List Token} {before : Option Token → Prop}
    {P : α → Prop} {Q : β → Prop} (hp : Reads p ts before P) (hf : ∀ a, P a → Q (f a)) :
    Reads (f <$> p) ts before Q := by
  intro ls rest hls hrest
  obtain ⟨a, ha, hrun⟩ := hp ls rest hls hrest
  refine ⟨f a, hf a ha, ?_⟩
  rw [StateT.run_map, hrun]
  rfl

/-! ### Words and signs -/

theorem reads_peek (before : Option Token → Prop) : Reads peek [] before before := by
  intro ls rest hls hrest
  rw [List.map_eq_nil_iff] at hls
  subst hls
  exact ⟨next rest, hrest, rfl⟩

theorem reads_take (t : Token) : Reads take [t] Any (· = t) := by
  intro ls rest hls _
  obtain ⟨l, rfl, rfl⟩ := List.map_eq_singleton_iff.mp hls
  exact ⟨l.token, rfl, rfl⟩

theorem reads_takeWord? {word : String} {t : Token} (h : isWord word t = true) :
    Reads (takeWord? word) [t] Any (· = true) := by
  intro ls rest hls _
  obtain ⟨l, rfl, rfl⟩ := List.map_eq_singleton_iff.mp hls
  refine ⟨true, rfl, ?_⟩
  rw [takeWord?, StateT.run_bind]
  show (if isWord word l.token = true then _ else _ : Phrase Bool).run (l :: rest) = _
  rw [if_pos h]
  rfl

/-- A word that does not stand there is not taken. -/
theorem reads_takeWord?_false {word : String} :
    Reads (takeWord? word) [] (fun t => t.any (isWord word) = false) (· = false) := by
  intro ls rest hls hrest
  rw [List.map_eq_nil_iff] at hls
  subst hls
  refine ⟨false, rfl, ?_⟩
  rw [takeWord?, StateT.run_bind]
  show (if (next rest).any (isWord word) = true then _ else _ : Phrase Bool).run rest = _
  rw [hrest]
  rfl

/-- A phrase that goes another way behind the given word. -/
theorem Reads.orElseWord {word : String} {p q : Phrase α} {ts : List Token}
    {before : Option Token → Prop} {P : α → Prop} (hq : Reads q ts before P)
    (absent : ∀ t, before t → (ts.head?.or t).any (isWord word) = false) :
    Reads (do if ← takeWord? word then p else q) ts before P := by
  refine Reads.bind_nil reads_takeWord?_false ?_ absent
  rintro _ rfl
  exact hq

/-- Words are taken in turn, in whatever case they are written. -/
theorem reads_takeWords {words : List String} {ts : List Token}
    (h : List.Forall₂ (fun word t => isWord word t = true) words ts) :
    Reads (takeWords words) ts Any (fun _ => True) := by
  induction h with
  | nil => exact (reads_pure ()).mono (fun _ h => h) fun _ _ => trivial
  | cons hword _ ih =>
    refine Reads.bind (reads_takeWord? hword) ?_ fun _ _ => trivial
    rintro _ rfl
    exact ih

theorem reads_takeSign?_false {sign : String} :
    Reads (takeSign? sign) [] (· ≠ some (.sign sign)) (· = false) := by
  intro ls rest hls hrest
  rw [List.map_eq_nil_iff] at hls
  subst hls
  refine ⟨false, rfl, ?_⟩
  rw [takeSign?, StateT.run_bind]
  show (if (next rest == some (.sign sign)) = true then _ else _ : Phrase Bool).run rest = _
  rw [beq_false_of_ne hrest]
  rfl

theorem reads_takeSign? (sign : String) : Reads (takeSign? sign) [.sign sign] Any (· = true) := by
  intro ls rest hls _
  obtain ⟨l, rfl, hl⟩ := List.map_eq_singleton_iff.mp hls
  refine ⟨true, rfl, ?_⟩
  rw [takeSign?, StateT.run_bind]
  show (if (some l.token == some (.sign sign)) = true then _ else _ : Phrase Bool).run (l :: rest) = _
  rw [hl, if_pos (beq_self_eq_true _)]
  rfl

theorem reads_takeSign (sign : String) :
    Reads (takeSign sign) [.sign sign] Any (fun _ => True) := by
  refine Reads.bind_last (reads_takeSign? sign) ?_ fun _ _ => trivial
  rintro _ rfl
  exact (reads_pure ()).mono (fun _ h => h) fun _ _ => trivial

/-- Something in parentheses. -/
theorem Reads.parens {p : Phrase α} {ts : List Token} {before : Option Token → Prop} {P : α → Prop}
    (h : Reads p ts before P) (hparen : before (some (.sign ")"))) :
    Reads (parens p) (.sign "(" :: (ts ++ [.sign ")"])) Any P := by
  refine Reads.bind_cons (reads_takeSign "(") (fun _ _ => ?_) fun _ _ => trivial
  refine Reads.bind h (fun a ha => ?_) fun _ _ => hparen
  exact Reads.bind_pure (reads_takeSign ")") fun _ _ => ha

/-! ### Lists -/

/-- Further items are read as long as commas stand in front of them. -/
theorem reads_itemsAfter {ξ : Type} {item : Phrase α} {xs : List ξ} {tokens : ξ → List Token}
    {before : Option Token → Prop} {P : ξ → α → Prop}
    (h : ∀ x ∈ xs, Reads item (tokens x) before (P x)) (comma : before (some (.sign ",")))
    {fuel : Nat} (hfuel : xs.length ≤ fuel) :
    Reads (itemsAfter item fuel) (xs.flatMap fun x => .sign "," :: tokens x)
      (fun t => t ≠ some (.sign ",") ∧ before t) (List.Forall₂ P xs) := by
  induction xs generalizing fuel with
  | nil =>
    have hnil : Reads (pure [] : Phrase (List α)) []
        (fun t => t ≠ some (.sign ",") ∧ before t) (List.Forall₂ P []) :=
      (reads_pure []).mono (fun _ h => h) fun _ ha => ha ▸ List.Forall₂.nil
    cases fuel with
    | zero => exact hnil
    | succ fuel =>
      refine Reads.bind_nil reads_takeSign?_false ?_ fun _ h => h.1
      rintro _ rfl
      exact hnil
  | cons x xs ih =>
    obtain ⟨hx, hxs⟩ := List.forall_mem_cons.mp h
    obtain ⟨fuel, rfl⟩ := Nat.exists_eq_add_one.mpr (Nat.lt_of_lt_of_le (Nat.succ_pos _) hfuel)
    rw [List.flatMap_cons, List.cons_append]
    refine Reads.bind_cons (reads_takeSign? ",") ?_ fun _ _ => trivial
    rintro _ rfl
    refine Reads.bind hx (fun a ha => ?_) fun t ht => ?_
    · exact Reads.bind_pure (ih hxs (Nat.le_of_succ_le_succ hfuel)) fun as has =>
        List.Forall₂.cons ha has
    · -- another comma or the end of the list comes next
      cases xs with
      | nil => exact ht.2
      | cons y ys => exact comma

/-- Each item has a token of its own, so the number of tokens is fuel enough. -/
theorem length_flatMap_cons_le {ξ : Type} {τ : Type} (xs : List ξ) (t : τ) (f : ξ → List τ) :
    xs.length ≤ (xs.flatMap fun x => t :: f x).length := by
  induction xs with
  | nil => exact Nat.le_refl _
  | cons x xs ih =>
    rw [List.flatMap_cons, List.length_append, List.length_cons, List.length_cons]
    omega

/-- Items with commas between them. -/
theorem Reads.items {ξ : Type} {item : Phrase α} {xs : List ξ} {tokens : ξ → List Token}
    {before : Option Token → Prop} {P : ξ → α → Prop}
    (h : ∀ x ∈ xs, Reads item (tokens x) before (P x)) (comma : before (some (.sign ",")))
    (hxs : xs ≠ []) :
    Reads (items item) ([.sign ","].intercalate (xs.map tokens))
      (fun t => t ≠ some (.sign ",") ∧ before t) (List.Forall₂ P xs) := by
  obtain ⟨x, xs, rfl⟩ := List.exists_cons_of_ne_nil hxs
  obtain ⟨hx, hxs⟩ := List.forall_mem_cons.mp h
  rw [List.map_cons, intercalate_cons, List.flatMap_map]
  refine Reads.bind hx (fun a ha => reads_get fun s hs => ?_) fun t ht => ?_
  · have hfuel := Nat.le_trans (length_flatMap_cons_le xs (.sign ",") tokens) hs
    exact Reads.bind_pure (reads_itemsAfter hxs comma hfuel) fun as has =>
      List.Forall₂.cons ha has
  · cases xs with
    | nil => exact ht.2
    | cons y ys => exact comma

theorem eq_map_of_forall₂ {ξ : Type} {f : ξ → α} {xs : List ξ} {as : List α}
    (h : List.Forall₂ (fun x a => a = f x) xs as) : as = xs.map f := by
  induction h with
  | nil => rfl
  | cons ha _ ih => rw [List.map_cons, ha, ih]

/-- Items that are each read as a function of what they stand for. -/
theorem reads_items_eq_map {ξ : Type} {item : Phrase α} {xs : List ξ} {tokens : ξ → List Token}
    {before : Option Token → Prop} {f : ξ → α}
    (h : ∀ x ∈ xs, Reads item (tokens x) before (· = f x)) (comma : before (some (.sign ",")))
    (hxs : xs ≠ []) :
    Reads (items item) ([.sign ","].intercalate (xs.map tokens))
      (fun t => t ≠ some (.sign ",") ∧ before t) (· = xs.map f) :=
  (Reads.items h comma hxs).mono (fun _ h => h) fun _ has => eq_map_of_forall₂ has

/-- A list of one item. -/
theorem reads_items_one {item : Phrase α} {ts : List Token} {before : Option Token → Prop} {a : α}
    (h : Reads item ts before (· = a)) (comma : before (some (.sign ","))) :
    Reads (items item) ts (fun t => t ≠ some (.sign ",") ∧ before t) (· = [a]) := by
  have hitems := reads_items_eq_map (fun (_ : Unit) _ => h) comma (List.cons_ne_nil () [])
  rwa [List.map_singleton, List.intercalate_singleton] at hitems

end RecordSql.Embedded.Phrase
