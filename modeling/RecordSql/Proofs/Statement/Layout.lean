import Mathlib.Data.List.Forall2
import RecordSql.Document.Reader
import RecordSql.Proofs.Select
import RecordSql.Proofs.Text.Numeral
import RecordSql.Statement

/-!
# What the text of a statement says

The text of a statement names a table and columns and holds markers.  `Layout.ofText? d` reads these
from a text by the forms that statements have in the dialect `d`, and by nothing else: it does not
know from which row a text was made.  A name is read as far as there are name characters, and a
marker as it is written.

`Takes p s before a` says that the reading `p` takes the text `s` and answers `a`, wherever the
characters behind it satisfy `before`.  Readings that follow one another take texts that follow one
another (`Takes.bind`), as long as no name runs into a name or a number behind it (`Apart`).
-/

namespace RecordSql

/-- A marker and the column that it gives a value to. -/
structure Slot where
  column : String
  marker : String
deriving DecidableEq, Repr

/-- A condition on a column. -/
inductive Comparison where
  /-- `column IS NULL` -/
  | isNull (column : String)
  /-- `column=marker` -/
  | equals (slot : Slot)
deriving DecidableEq, Repr

/-- The names and the markers of a statement, in the order in which they stand in its text. -/
inductive Layout where
  /-- The columns that are written, each with the marker in its place, or the dialect's tail for none;
  and the column that is read back. -/
  | insert (table : String) (written : Option (List Slot)) (returning : Option String)
  /-- The columns that are overwritten, and the key. -/
  | update (table : String) (assigned : List Slot) (key : Slot)
  /-- The columns that are read, the conditions, and the column whose greatest value comes first. -/
  | select (table : String) (listed : List String) (conditions : List Comparison)
      (greatest : Option String)
  /-- The key. -/
  | delete (table : String) (key : Slot)
deriving DecidableEq, Repr

namespace Comparison

/-- The column that is compared. -/
def column : Comparison → String
  | isNull column => column
  | equals slot => slot.column

/-- The marker that a column is compared with, unless it is tested for null. -/
def slot? : Comparison → Option Slot
  | isNull _ => none
  | equals slot => some slot

@[simp] theorem column_isNull (column : String) : (isNull column).column = column := rfl

@[simp] theorem column_equals (slot : Slot) : (equals slot).column = slot.column := rfl

@[simp] theorem slot?_isNull (column : String) : (isNull column).slot? = none := rfl

@[simp] theorem slot?_equals (slot : Slot) : (equals slot).slot? = some slot := rfl

end Comparison

namespace Layout

/-- The markers from left to right, with the columns that they give values to. -/
def slots : Layout → List Slot
  | insert _ written _ => written.getD []
  | update _ assigned key => assigned ++ [key]
  | select _ _ conditions _ => conditions.filterMap (·.slot?)
  | delete _ key => [key]

/-! ### Reading a text -/

open Document (Reading)
open Document.Reading

variable {α β γ : Type}

/-- A name. -/
def name : Reading String := do
  match ← takeAll isNameChar with
  | [] => failure
  | cs => return String.ofList cs

/-- A marker. -/
def marker : MarkerStyle → Reading String
  | .question => do
    takeExactly ['?']
    return "?"
  | .numbered => do
    takeExactly ['$']
    match ← takeAll Char.isDigit with
    | [] => failure
    | ds => return String.ofList ('$' :: ds)

/-- Items with a separator between them, at least one and at most `fuel` of them. -/
def itemsIn (separator : String) (item : Reading α) : Nat → Reading (List α)
  | 0 => failure
  | fuel + 1 => do
    let a ← item
    if ← takeExactly? separator.toList then
      let more ← itemsIn separator item fuel
      return a :: more
    else return [a]

/-- Items with a separator between them, at least one. -/
def items (separator : String) (item : Reading α) : Reading (List α) := do
  itemsIn separator item ((← get).length + 1)

/-- `column=marker` -/
def slot (style : MarkerStyle) : Reading Slot := do
  let column ← name
  takeExactly "=".toList
  let m ← marker style
  return ⟨column, m⟩

/-- A condition. -/
def comparison (style : MarkerStyle) : Reading Comparison := do
  let column ← name
  if ← takeExactly? " IS NULL".toList then return .isNull column
  else
    takeExactly "=".toList
    let m ← marker style
    return .equals ⟨column, m⟩

/-- What an insert writes. -/
def written (d : Dialect) : Reading (Option (List Slot)) := do
  if ← takeExactly? d.emptyInsertTail.toList then return none
  else
    takeExactly " (".toList
    let columns ← items "," name
    takeExactly ") VALUES (".toList
    let markers ← items "," (marker d.style)
    takeExactly ")".toList
    if columns.length = markers.length then return some (List.zipWith Slot.mk columns markers)
    else failure

/-- What an insert reads back. -/
def returning : Reading (Option String) := do
  if ← takeExactly? " RETURNING ".toList then
    let column ← name
    return some column
  else return none

/-- What a selection asks of a row. -/
def conditions (style : MarkerStyle) : Reading (List Comparison) := do
  if ← takeExactly? " WHERE ".toList then items " AND " (comparison style) else return []

/-- By which column a selection puts the greatest first. -/
def greatest : Reading (Option String) := do
  if ← takeExactly? " ORDER BY ".toList then
    let column ← name
    takeExactly " DESC".toList
    return some column
  else return none

/-- The rest of an insert. -/
def insertion (d : Dialect) : Reading Layout := do
  let table ← name
  let slots ← written d
  let column ← returning
  return .insert table slots column

/-- The rest of an update. -/
def updating (d : Dialect) : Reading Layout := do
  let table ← name
  takeExactly " SET ".toList
  let assigned ← items "," (slot d.style)
  takeExactly " WHERE ".toList
  let key ← slot d.style
  return .update table assigned key

/-- The rest of a selection. -/
def selection (d : Dialect) : Reading Layout := do
  let listed ← items "," name
  takeExactly " FROM ".toList
  let table ← name
  let asked ← conditions d.style
  let column ← greatest
  return .select table listed asked column

/-- The rest of a removal. -/
def removal (d : Dialect) : Reading Layout := do
  let table ← name
  takeExactly " WHERE ".toList
  let key ← slot d.style
  return .delete table key

/-- A statement. -/
def statement (d : Dialect) : Reading Layout := do
  if ← takeExactly? "INSERT INTO ".toList then insertion d
  else if ← takeExactly? "UPDATE ".toList then updating d
  else if ← takeExactly? "SELECT ".toList then selection d
  else
    takeExactly "DELETE FROM ".toList
    removal d

/-- A reading takes a text before characters that satisfy `before`, and answers `a`. -/
def Takes (p : Reading α) (s : String) (before : List Char → Prop) (a : α) : Prop :=
  ∀ rest, before rest → p.run (s.toList ++ rest) = some (a, rest)

/-- Any characters may come next, or none. -/
def Anything (_rest : List Char) : Prop := True

/-- What comes next continues no name and no number. -/
def Apart (rest : List Char) : Prop :=
  ∀ c ∈ rest.head?, isNameChar c = false

/-- The text `s` does not come next. -/
def Lacks (s : String) (rest : List Char) : Prop :=
  ¬ s.toList <+: rest

/-- Nothing comes next. -/
def AtEnd (rest : List Char) : Prop :=
  rest = []

/-- Whether a text begins with a character that is in no name. -/
def OpensApart (s : String) : Prop :=
  s.toList.head?.any (!isNameChar ·) = true

instance (s : String) : Decidable (OpensApart s) :=
  inferInstanceAs (Decidable (s.toList.head?.any (!isNameChar ·) = true))

/-- Whether two texts differ in a character before either ends. -/
def Differ (s t : String) : Prop :=
  ¬ s.toList <+: t.toList ∧ ¬ t.toList <+: s.toList

instance (s t : String) : Decidable (Differ s t) :=
  inferInstanceAs (Decidable (¬ s.toList <+: t.toList ∧ ¬ t.toList <+: s.toList))

theorem OpensApart.apart {s : String} (h : OpensApart s) (rest : List Char) :
    Apart (s.toList ++ rest) := by
  intro c hc
  cases hs : s.toList with
  | nil => rw [OpensApart, hs] at h; cases h
  | cons d ds =>
    rw [hs, List.cons_append, List.head?_cons, Option.mem_some_iff] at hc
    subst hc
    rw [OpensApart, hs] at h
    simpa using h

theorem OpensApart.append {s : String} (h : OpensApart s) (t : String) : OpensApart (s ++ t) := by
  cases hs : s.toList with
  | nil => rw [OpensApart, hs] at h; cases h
  | cons d ds =>
    rw [OpensApart, hs] at h
    rw [OpensApart, String.toList_append, hs]
    exact h

theorem Differ.lacks {s t : String} (h : Differ s t) (rest : List Char) :
    Lacks s (t.toList ++ rest) := fun hs =>
  (List.prefix_or_prefix_of_prefix hs (List.prefix_append t.toList rest)).elim h.1 h.2

theorem Differ.append {s t : String} (h : Differ s t) (u : String) : Differ s (t ++ u) := by
  rw [Differ, String.toList_append]
  exact ⟨h.lacks u.toList, fun ht => h.2 ((List.prefix_append _ _).trans ht)⟩

theorem AtEnd.apart {rest : List Char} (h : AtEnd rest) : Apart rest := by
  intro c hc
  rw [h] at hc
  cases hc

theorem AtEnd.lacks {rest : List Char} (h : AtEnd rest) {s : String} (hs : s.toList ≠ []) :
    Lacks s rest := fun hprefix => hs (List.prefix_nil.mp (h ▸ hprefix))

variable {p q : Reading α} {s t : String} {before before' : List Char → Prop} {a : α} {b : β}

theorem takes_pure (a : α) : Takes (pure a) "" before a := fun _ _ => rfl

theorem Takes.mono (h : Takes p s before a) (hbefore : ∀ rest, before' rest → before rest) :
    Takes p s before' a := fun rest hrest => h rest (hbefore rest hrest)

/-- Readings one after the other. -/
theorem Takes.bind {f : α → Reading β} (hp : Takes p s before a) (hf : Takes (f a) t before' b)
    (follows : ∀ rest, before' rest → before (t.toList ++ rest)) :
    Takes (p >>= f) (s ++ t) before' b := by
  intro rest hrest
  rw [String.toList_append, List.append_assoc, StateT.run_bind, hp _ (follows rest hrest)]
  exact hf rest hrest

/-- A reading that takes nothing comes last. -/
theorem Takes.bind_last {f : α → Reading β} (hp : Takes p s before a)
    (hf : Takes (f a) "" before' b) (follows : ∀ rest, before' rest → before rest) :
    Takes (p >>= f) s before' b :=
  String.append_empty (s := s) ▸ Takes.bind hp hf follows

/-- A reading ends with an answer. -/
theorem Takes.bind_pure {f : α → β} (hp : Takes p s before a) :
    Takes (p >>= fun a => pure (f a)) s before (f a) :=
  Takes.bind_last hp (takes_pure (f a)) fun _ h => h

/-- A reading may look at what is left of the text: that is at least what it takes. -/
theorem takes_get {f : List Char → Reading β}
    (h : ∀ cs, s.length ≤ cs.length → Takes (f cs) s before b) : Takes (get >>= f) s before b := by
  intro rest hrest
  have hlength : s.length ≤ (s.toList ++ rest).length := by
    rw [List.length_append, String.length_toList]
    exact Nat.le_add_right _ _
  exact h _ hlength rest hrest

/-! ### Given texts -/

theorem takes_takeExactly? (s : String) : Takes (takeExactly? s.toList) s Anything true := by
  intro rest _
  show (if s.toList.isPrefixOf (s.toList ++ rest) = true then _ else _ : Reading Bool).run _ = _
  rw [if_pos (List.isPrefixOf_iff_prefix.mpr (List.prefix_append s.toList rest)),
    List.drop_left]
  rfl

theorem takes_takeExactly?_false (s : String) :
    Takes (takeExactly? s.toList) "" (Lacks s) false := by
  intro rest hrest
  show (if s.toList.isPrefixOf rest = true then _ else _ : Reading Bool).run _ = _
  rw [if_neg fun h => hrest (List.isPrefixOf_iff_prefix.mp h)]
  rfl

theorem takes_takeExactly (s : String) : Takes (takeExactly s.toList) s Anything () :=
  Takes.bind_last (takes_takeExactly? s) (takes_pure ()) fun _ h => h

/-- The text that decides between two readings comes next. -/
theorem Takes.taken (s : String) (h : Takes p t before a) :
    Takes (do if ← takeExactly? s.toList then p else q) (s ++ t) before a :=
  Takes.bind (takes_takeExactly? s) h fun _ _ => trivial

/-- The text that decides between two readings does not come next. -/
theorem Takes.passed {s : String} (h : Takes q t before a)
    (lacks : ∀ rest, before rest → Lacks s (t.toList ++ rest)) :
    Takes (do if ← takeExactly? s.toList then p else q) t before a :=
  String.empty_append (s := t) ▸ Takes.bind (takes_takeExactly?_false s) h lacks

theorem Takes.passed_text {s : String} (h : Takes q t before a) (hdiffer : Differ s t) :
    Takes (do if ← takeExactly? s.toList then p else q) t before a :=
  Takes.passed h fun rest _ => hdiffer.lacks rest

/-- A given text comes first. -/
theorem Takes.behind {f : Unit → Reading α} (s : String) (h : Takes (f ()) t before a) :
    Takes (takeExactly s.toList >>= f) (s ++ t) before a :=
  Takes.bind (takes_takeExactly s) h fun _ _ => trivial

theorem takes_takeAll {p : Char → Bool} {s : String} (h : ∀ c ∈ s.toList, p c = true) :
    Takes (takeAll p) s (fun rest => ∀ c ∈ rest.head?, p c = false) s.toList := by
  intro rest hrest
  have htake : rest.takeWhile p = [] := by
    cases rest with
    | nil => rfl
    | cons c cs => rw [List.takeWhile_cons, hrest c rfl]; rfl
  have hdrop : rest.dropWhile p = rest := by
    cases rest with
    | nil => rfl
    | cons c cs => rw [List.dropWhile_cons, hrest c rfl]; rfl
  show some ((s.toList ++ rest).takeWhile p, (s.toList ++ rest).dropWhile p) = _
  rw [List.takeWhile_append_of_pos h, List.dropWhile_append_of_pos h, htake, hdrop,
    List.append_nil]

/-- A name is read up to where no name goes on. -/
theorem takes_name (h : IsName s) : Takes name s Apart s := by
  have hne : s.toList ≠ [] := fun hnil => h.1 (String.toList_eq_nil_iff.mp hnil)
  refine Takes.bind_last (takes_takeAll h.2) ?_ fun _ hrest => hrest
  split
  · contradiction
  · rw [String.ofList_toList]
    exact takes_pure s

/-- A marker is read with all its digits. -/
theorem takes_marker (d : Dialect) (k : Nat) :
    Takes (marker d.style) (d.marker k) Apart (d.marker k) := by
  rw [Dialect.marker]
  cases d.style with
  | question => exact (Takes.bind_pure (takes_takeExactly "?")).mono fun _ _ => trivial
  | numbered =>
    -- what is apart from names is apart from digits
    have hbefore : ∀ rest, Apart rest → ∀ c ∈ rest.head?, c.isDigit = false := by
      intro rest hrest c hc
      rw [← Bool.not_eq_true]
      intro hdigit
      have := hrest c hc
      rw [isNameChar_of_isDigit hdigit] at this
      cases this
    have hdigits : ∀ c ∈ (String.ofList (Nat.toDigits 10 k)).toList, c.isDigit = true := by
      rw [String.toList_ofList]
      exact fun c hc => Text.isDigit_of_mem_toDigits hc
    have hne : (String.ofList (Nat.toDigits 10 k)).toList ≠ [] := by
      rw [String.toList_ofList]
      exact Nat.toDigits_ne_nil
    have htext : String.ofList (MarkerStyle.numbered.marker k) =
        "$" ++ String.ofList (Nat.toDigits 10 k) := by
      rw [MarkerStyle.marker, ← List.singleton_append, String.ofList_append]
    rw [htext]
    refine Takes.behind "$" (Takes.bind_last (takes_takeAll hdigits) ?_ hbefore)
    split
    · contradiction
    · rw [← List.singleton_append, String.ofList_append, String.ofList_toList]
      exact takes_pure _

/-- A name or a number ends where another text begins. -/
theorem Takes.before_text (h : Takes p s Apart a) {f : α → Reading β} (ht : OpensApart t)
    (hf : Takes (f a) t before b) : Takes (p >>= f) (s ++ t) before b :=
  Takes.bind h hf fun rest _ => ht.apart rest

theorem takes_equals (hs : IsName s) (d : Dialect) (k : Nat) :
    Takes (comparison d.style) (s ++ ("=" ++ d.marker k)) Apart (.equals ⟨s, d.marker k⟩) :=
  (takes_name hs).before_text (OpensApart.append (by decide) _)
    (Takes.passed_text (Takes.behind "=" (takes_marker d k).bind_pure)
      (Differ.append (by decide) _))

/-! ### Lists -/

/-- What comes next goes on with no item and with no separator. -/
def Beyond (separator : String) (rest : List Char) : Prop :=
  Apart rest ∧ Lacks separator rest

variable {separator : String} {item : Reading α} {texts : List String} {as : List α}

theorem takes_itemsIn (h : List.Forall₂ (Takes item · Apart ·) texts as) (hne : texts ≠ [])
    (hseparator : OpensApart separator) {fuel : Nat} (hfuel : texts.length ≤ fuel) :
    Takes (itemsIn separator item fuel) (separator.intercalate texts) (Beyond separator) as := by
  induction h generalizing fuel with
  | nil => exact absurd rfl hne
  | @cons s a texts as hs htexts ih =>
    obtain ⟨fuel, rfl⟩ := Nat.exists_eq_add_of_lt (Nat.lt_of_lt_of_le (Nat.succ_pos _) hfuel)
    rw [Nat.zero_add] at hfuel ⊢
    rw [List.length_cons, Nat.add_le_add_iff_right] at hfuel
    -- every item but the last has a separator behind it, and the rest of the list behind that
    cases htexts with
    | nil =>
      rw [String.intercalate_singleton]
      exact Takes.bind_last hs (Takes.passed (takes_pure [a]) fun _ hrest => hrest.2)
        fun _ hrest => hrest.1
    | @cons t b texts as ht htexts =>
      have hmore := ih (List.cons_ne_nil t texts) hfuel
      rw [String.intercalate_cons_cons, String.append_assoc]
      exact hs.before_text (hseparator.append _) (Takes.taken separator hmore.bind_pure)

theorem OpensApart.length_pos (h : OpensApart s) : 0 < s.length := by
  refine Nat.pos_of_ne_zero fun hs => ?_
  rw [String.length_eq_zero_iff.mp hs] at h
  exact absurd h (by decide)

theorem length_le_length_intercalate (hseparator : 0 < separator.length) (texts : List String) :
    texts.length ≤ (separator.intercalate texts).length + 1 := by
  induction texts with
  | nil => exact Nat.zero_le _
  | cons s texts ih =>
    cases texts with
    | nil => exact Nat.le_add_left _ _
    | cons t texts =>
      rw [String.intercalate_cons_cons, String.length_append, String.length_append,
        List.length_cons]
      omega

/-- A list is read back if its items are, and its separator opens none of them. -/
theorem takes_items (h : List.Forall₂ (Takes item · Apart ·) texts as) (hne : texts ≠ [])
    (hseparator : OpensApart separator) :
    Takes (items separator item) (separator.intercalate texts) (Beyond separator) as :=
  takes_get fun _ hcs => takes_itemsIn h hne hseparator <|
    Nat.le_trans (length_le_length_intercalate hseparator.length_pos texts)
      (Nat.succ_le_succ hcs)

/-- A list of one item. -/
theorem takes_items_one (h : Takes item s Apart a) (hseparator : OpensApart separator) :
    Takes (items separator item) s (Beyond separator) [a] := by
  have hitems := takes_items (List.Forall₂.cons h List.Forall₂.nil) (List.cons_ne_nil s [])
    hseparator
  rwa [String.intercalate_singleton] at hitems

/-- A list ends where another text begins. -/
theorem Takes.before_end (h : Takes p s (Beyond separator) a) {f : α → Reading β}
    (ht : OpensApart t) (hdiffer : Differ separator t) (hf : Takes (f a) t before b) :
    Takes (p >>= f) (s ++ t) before b :=
  Takes.bind h hf fun rest _ => ⟨ht.apart rest, hdiffer.lacks rest⟩

/-! ### Whole texts -/

end Layout

end RecordSql
