import RecordSql.Proofs.Embedded.Phrase
import RecordSql.Proofs.Embedded.Spelling
import RecordSql.Proofs.Lookup.Query

/-!
# Names and conditions as the embedded database reads them

A plain name is a word that the grammar asks for nowhere.  It is read as a name wherever one can stand,
and as a column in an expression.  Conditions with `AND` between them are read as the conjunction of the
conditions, from the left (`reads_conjunction`).
-/

namespace RecordSql.Embedded

/-! ### Names -/

/-- The words that are not names in some place. -/
def barred : List String :=
  reserved ++ joining ++ Phrase.formWords ++ Phrase.timeWords ++ ["if"]

/-- A word that is a name everywhere. -/
structure IsPlainName (s : String) : Prop where
  word : isWord s.toList = true
  free : isAmong barred s = false

instance (s : String) : Decidable (IsPlainName s) :=
  decidable_of_iff (isWord s.toList = true ∧ isAmong barred s = false)
    ⟨fun h => ⟨h.1, h.2⟩, fun h => ⟨h.word, h.free⟩⟩

namespace IsPlainName

variable {s : String}

theorem isEmpty_eq_false (h : IsPlainName s) : s.isEmpty = false := by
  rw [Bool.eq_false_iff]
  intro hempty
  obtain rfl := String.isEmpty_iff.mp hempty
  exact absurd h.word (by decide)

/-- A plain name is none of the words that the grammar bars. -/
theorem isAmong_eq_false (h : IsPlainName s) {ws : List String} (hws : ∀ w ∈ ws, w ∈ barred) :
    isAmong ws s = false := by
  rw [isAmong, List.any_eq_false]
  intro w hw
  exact List.any_eq_false.mp h.free w (hws w hw)

theorem sameName_eq_false (h : IsPlainName s) {w : String} (hw : w ∈ barred) :
    sameName s w = false :=
  Bool.eq_false_iff.mpr (List.any_eq_false.mp h.free w hw)

end IsPlainName

namespace Phrase

variable {s : String}

/-- A word is a name wherever it is not asked for as a word. -/
theorem nameOf?_word {ws : List String} (h : isAmong ws s = false) :
    nameOf? ws (.word s) = some s := by
  rw [nameOf?, h]
  rfl

/-- A plain name is a name wherever one must stand. -/
theorem reads_name (h : IsPlainName s) : Reads name [.word s] Any (· = s) := by
  refine Reads.bind_last (reads_take (.word s)) ?_ fun _ _ => trivial
  rintro _ rfl
  rw [nameOf?_word (h.isAmong_eq_false fun w hw => by simp [barred, hw])]
  exact reads_pure s

/-- Nothing but a name is a name. -/
theorem reads_plainName?_none :
    Reads plainName? [] (fun t => t.bind (nameOf? (reserved ++ joining)) = none) (· = none) := by
  refine Reads.bind_nil (reads_peek fun t => t.bind (nameOf? (reserved ++ joining)) = none)
    (fun t ht => ?_) fun _ h => h
  rw [ht]
  exact reads_pure none

/-- A word that joins nothing is a name wherever one may stand. -/
theorem reads_plainName? (h : isAmong (reserved ++ joining) s = false) :
    Reads plainName? [.word s] Any (· = some s) := by
  intro ls rest hls _
  obtain ⟨l, rfl, hl⟩ := List.map_eq_singleton_iff.mp hls
  refine ⟨some s, rfl, ?_⟩
  have hpeek : peek.run ([l] ++ rest) = some (some l.token, l :: rest) := rfl
  have hname : (some l.token).bind (nameOf? (reserved ++ joining)) = some s := by
    rw [hl]
    exact nameOf?_word h
  rw [plainName?, StateT.run_bind, hpeek]
  simp only [bind, Option.bind_some, hname]
  rfl

/-! ### Expressions -/

/-- A token that is an expression by itself, and starts no other. -/
structure IsAtom (t : Token) (e : Expr String) : Prop where
  atom : atom t = some e
  notWord : isWord "not" t = false
  notSign : ∀ sign, t ≠ .sign sign

/-- A plain name by itself is a column. -/
theorem isAtom_word (h : IsPlainName s) : IsAtom (.word s) (.column s) where
  atom := by
    have hnull : sameName s "null" = false := h.sameName_eq_false (by decide)
    have htime : isAmong timeWords s = false :=
      h.isAmong_eq_false fun w hw => by simp [barred, hw]
    have hform : isAmong (reserved ++ formWords) s = false := by
      refine h.isAmong_eq_false fun w hw => ?_
      rcases List.mem_append.mp hw with hw | hw <;> simp [barred, hw]
    rw [Phrase.atom, hnull, htime, hform]
    rfl
  notWord := h.sameName_eq_false (by decide)
  notSign := fun _ h => by cases h

theorem isAtom_marker (k : Nat) : IsAtom (.marker (.numbered k)) (.marker k) where
  atom := rfl
  notWord := rfl
  notSign := fun _ h => by cases h

theorem isAtom_null : IsAtom (.word "NULL") (.literal .null) where
  atom := by decide
  notWord := by decide
  notSign := fun _ h => by cases h

/-- Whether a token goes on no expression of operators of at least the given level. -/
def Stops (level : Nat) (t : Option Token) : Prop :=
  ∀ u ∈ t, nullTest? u = none ∧ ∀ op own, operator? u = some (op, own) → own < level

/-- What ends the looser operators ends the tighter ones as well. -/
theorem Stops.mono {level level' : Nat} {t : Option Token} (h : Stops level t)
    (hle : level ≤ level') : Stops level' t := fun u hu =>
  ⟨(h u hu).1, fun op own hop => Nat.lt_of_lt_of_le ((h u hu).2 op own hop) hle⟩

/-- An operand of one token is read at once, with any fuel. -/
theorem reads_operandIn {t : Token} {e : Expr String} (h : IsAtom t e) (fuel : Nat) :
    Reads (operandIn (fuel + 1)) [t] Any (· = e) := by
  rw [operandIn]
  refine Reads.bind_last (reads_take t) ?_ fun _ _ => trivial
  rintro _ rfl
  rw [h.notWord, if_neg Bool.false_ne_true, beq_false_of_ne (h.notSign "-"),
    beq_false_of_ne (h.notSign "+"), beq_false_of_ne (h.notSign "("), if_neg Bool.false_ne_true,
    if_neg Bool.false_ne_true, if_neg Bool.false_ne_true, h.atom]
  exact reads_pure e

/-- An expression is not gone on with where its operators stop. -/
theorem reads_continueIn_of_stops (fuel level : Nat) (a : Expr String) :
    Reads (continueIn (fuel + 1) level a) [] (Stops level) (· = a) := by
  rw [continueIn]
  refine Reads.bind_nil (reads_peek (Stops level)) (fun t ht => ?_) fun _ h => h
  cases t with
  | none => exact reads_pure a
  | some u =>
    -- neither a test for null nor an operator of this level stands next
    obtain ⟨htest, hlower⟩ := ht u rfl
    simp only [htest]
    cases hop : operator? u with
    | none => exact reads_pure a
    | some found =>
      obtain ⟨op, own⟩ := found
      simp only [if_pos (hlower op own hop)]
      exact reads_pure a

/-- An expression of a single token. -/
theorem reads_exprIn_atom {t : Token} {e : Expr String} (h : IsAtom t e) (fuel level : Nat) :
    Reads (exprIn (fuel + 2) level) [t] (Stops level) (· = e) := by
  rw [exprIn]
  refine Reads.bind_last (reads_operandIn h fuel) ?_ fun _ _ => trivial
  rintro _ rfl
  exact reads_continueIn_of_stops fuel level _

/-- The rest of an expression behind an operator other than `IS`. -/
theorem reads_continueIn {t : Token} {ts us : List Token} {op : BinaryOp} {own fuel level : Nat}
    {a b : Expr String} {before before' : Option Token → Prop} {P : Expr String → Prop}
    (test : nullTest? t = none) (hop : operator? t = some (op, own)) (hlevel : level ≤ own)
    (plain : op ≠ .same) (hb : Reads (exprIn fuel (own + 1)) ts before (· = b))
    (hrest : Reads (continueIn fuel level (.binary op a b)) us before' P)
    (follows : ∀ t, before' t → before (us.head?.or t)) :
    Reads (continueIn (fuel + 1) level a) (t :: (ts ++ us)) before' P := by
  rw [continueIn]
  refine Reads.bind_nil (reads_peek (· = some t)) ?_ fun _ _ => rfl
  rintro _ rfl
  simp only [test, hop, if_neg (Nat.not_lt.mpr hlevel), if_neg plain, pure_bind]
  refine Reads.bind_cons (reads_take t) (fun _ _ => ?_) fun _ _ => trivial
  refine Reads.bind hb ?_ follows
  rintro _ rfl
  exact hrest

/-- The rest of an expression behind `IS NULL`. -/
theorem reads_continueIn_isNull {us : List Token} {fuel level : Nat} {a : Expr String}
    {before : Option Token → Prop} {P : Expr String → Prop} (hlevel : level ≤ 4)
    (hrest : Reads (continueIn (fuel + 2) level (.binary .same a (.literal .null))) us before P)
    (follows : ∀ t, before t → Stops 5 (us.head?.or t)) :
    Reads (continueIn (fuel + 3) level a) (.word "IS" :: .word "NULL" :: us) before P := by
  rw [continueIn]
  refine Reads.bind_nil (reads_peek (· = some (.word "IS"))) ?_ fun _ _ => rfl
  rintro _ rfl
  -- `IS` is an operator of the level of equality, and `NULL` its right operand
  have test : nullTest? (.word "IS") = none := by decide
  have hop : operator? (.word "IS") = some (.same, 4) := by decide
  have hnot : isWord "not" (.word "NULL") = false := by decide
  simp only [test, hop, if_neg (Nat.not_lt.mpr hlevel), if_true, bind_assoc]
  refine Reads.bind_cons (reads_take _) (fun _ _ => ?_) fun _ _ => trivial
  refine Reads.bind_nil reads_takeWord?_false ?_ fun _ _ => hnot
  rintro _ rfl
  simp only [Bool.false_eq_true, if_false, pure_bind]
  refine Reads.bind_cons (reads_exprIn_atom isAtom_null fuel 5) ?_ follows
  rintro _ rfl
  exact hrest

end Phrase

end RecordSql.Embedded

/-! ### Conditions -/

namespace RecordSql

open Embedded Embedded.Phrase

namespace Condition

/-- The column of a condition. -/
def column : Condition → String
  | isNull column | equals column _ => column

/-- The tokens of a condition, its marker being numbered. -/
def tokens : Condition → List Embedded.Token
  | isNull column => [.word column, .word "IS", .word "NULL"]
  | equals column k => [.word column, .sign "=", .marker (.numbered k)]

/-- The expression of a condition. -/
def expr : Condition → Expr String
  | isNull column => .binary .same (.column column) (.literal .null)
  | equals column k => .binary .equal (.column column) (.marker k)

/-- The tokens of a condition behind its column. -/
def test (condition : Condition) : List Embedded.Token :=
  condition.tokens.tail

theorem tokens_eq (condition : Condition) :
    condition.tokens = .word condition.column :: condition.test := by
  cases condition <;> rfl

/-- The rest of an expression behind the column of a condition. -/
theorem reads_continueIn {condition : Condition} {us : List Embedded.Token} {fuel level : Nat}
    {before : Option Embedded.Token → Prop} {P : Expr String → Prop} (hlevel : level ≤ 4)
    (hrest : Reads (continueIn (fuel + 2) level condition.expr) us before P)
    (follows : ∀ t, before t → Stops 5 (us.head?.or t)) :
    Reads (continueIn (fuel + 3) level (.column condition.column)) (condition.test ++ us) before P := by
  cases condition with
  | isNull column => exact reads_continueIn_isNull hlevel hrest follows
  | equals column k =>
    have hmarker := reads_exprIn_atom (isAtom_marker k) fuel 5
    exact Phrase.reads_continueIn rfl rfl hlevel (by decide) hmarker hrest follows

/-- A condition is an expression of any level as loose as its own test. -/
theorem reads_exprIn {condition : Condition} (h : IsPlainName condition.column) {level : Nat}
    (hlevel : level ≤ 4) (fuel : Nat) :
    Reads (exprIn (fuel + 4) level) condition.tokens (Stops level) (· = condition.expr) := by
  rw [exprIn, tokens_eq, ← List.singleton_append]
  refine Reads.bind (reads_operandIn (isAtom_word h) (fuel + 2)) ?_ fun _ _ => trivial
  rintro _ rfl
  have hstop := reads_continueIn_of_stops (fuel + 1) level condition.expr
  rw [← List.append_nil condition.test]
  exact reads_continueIn hlevel hstop fun _ ht => ht.mono (Nat.le_succ_of_le hlevel)

end Condition

/-- The conjunction of an expression and conditions, from the left. -/
def conjunction (e : Expr String) (conditions : List Condition) : Expr String :=
  conditions.foldl (fun e condition => .binary .and e condition.expr) e

/-- The tokens of further conditions. -/
def furtherTokens (conditions : List Condition) : List Embedded.Token :=
  conditions.flatMap fun condition => .word "AND" :: condition.tokens

/-- The `AND` in front of further conditions ends whatever binds tighter. -/
theorem stops_furtherTokens {conditions : List Condition} {level : Nat} (hlevel : 2 < level)
    {t : Option Embedded.Token} (ht : Stops 0 t) : Stops level ((furtherTokens conditions).head?.or t) := by
  cases conditions with
  | nil => exact ht.mono (Nat.zero_le _)
  | cons condition conditions =>
    rintro _ ⟨⟩
    refine ⟨by decide, fun op own hop => ?_⟩
    have hand : operator? (.word "AND") = some (.and, 2) := by decide
    rw [hand] at hop
    cases hop
    exact hlevel

/-- The rest of a conjunction behind its first conditions. -/
theorem reads_conjunction {conditions : List Condition}
    (h : ∀ condition ∈ conditions, IsPlainName condition.column) {fuel : Nat}
    (hfuel : conditions.length + 4 < fuel) (e : Expr String) :
    Reads (continueIn fuel 0 e) (furtherTokens conditions) (Stops 0)
      (· = conjunction e conditions) := by
  induction conditions generalizing fuel e with
  | nil =>
    obtain ⟨fuel, rfl⟩ := Nat.exists_eq_add_one.mpr (Nat.zero_lt_of_lt hfuel)
    exact reads_continueIn_of_stops fuel 0 e
  -- each further condition takes one unit of fuel; its own levels take four
  | cons condition conditions ih =>
    obtain ⟨hname, hnames⟩ := List.forall_mem_cons.mp h
    obtain ⟨fuel, rfl⟩ : ∃ n, fuel = n + 5 := ⟨fuel - 5, by omega⟩
    have hlength : conditions.length + 4 < fuel + 4 := by
      rw [List.length_cons] at hfuel
      omega
    have hcondition : Reads (exprIn (fuel + 4) 3) condition.tokens (Stops 3) (· = condition.expr) :=
      Condition.reads_exprIn hname (by decide) fuel
    exact Phrase.reads_continueIn (by decide) (by decide) (Nat.zero_le _) (by decide) hcondition
      (ih hnames hlength _) fun _ ht => stops_furtherTokens (by decide) ht

/-- Conditions with `AND` between them are read as their conjunction. -/
theorem reads_expr {condition : Condition} {conditions : List Condition}
    (h : ∀ c ∈ condition :: conditions, IsPlainName c.column) :
    Reads expr (condition.tokens ++ furtherTokens conditions) (Stops 0)
      (· = conjunction condition.expr conditions) := by
  obtain ⟨hname, hnames⟩ := List.forall_mem_cons.mp h
  refine reads_get fun s hs => ?_
  have hthree : condition.tokens.length = 3 := by cases condition <;> rfl
  have hlength : conditions.length ≤ (furtherTokens conditions).length :=
    length_flatMap_cons_le conditions (Embedded.Token.word "AND") Condition.tokens
  -- three tokens for each condition are fuel enough
  have hfuel : conditions.length + 4 < 2 * s.length := by
    rw [List.length_append, hthree] at hs
    omega
  obtain ⟨fuel, hfuel'⟩ : ∃ n, 2 * s.length + 2 = n + 4 := ⟨2 * s.length - 2, by omega⟩
  rw [hfuel', exprIn, Condition.tokens_eq, List.cons_append]
  refine Reads.bind_cons (reads_operandIn (isAtom_word hname) (fuel + 2)) ?_ fun _ _ => trivial
  rintro _ rfl
  refine Condition.reads_continueIn (Nat.zero_le _) ?_ fun _ ht => stops_furtherTokens (by decide) ht
  exact reads_conjunction hnames (by omega) _

end RecordSql
