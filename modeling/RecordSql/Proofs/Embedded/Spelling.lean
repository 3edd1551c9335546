import RecordSql.Embedded.Token

/-!
# Texts and their tokens

Words, signs and markers that are put together with the blanks they need are cut into the same words,
signs and markers again.  `Spells before cs ts` says so of a text `cs` wherever what follows satisfies
`before`: a word must not be gone on (`EndsWord`), a sign may stand before anything (`Anything`).  The
relation is closed under putting texts together (`Spells.append`) and under lists with commas
(`Spells.commas`), and `Spells.lexemes` is what it says of a whole text.

Numbering the markers leaves the other tokens alone (`numberAll_eq`).
-/

namespace RecordSql.Embedded

/-! ### Characters of words -/

theorem ne_of_isWordStart {c d : Char} (hd : isWordStart d = false) (h : isWordStart c = true) :
    c ≠ d := by
  rintro rfl
  rw [hd] at h
  cases h

theorem isDigit_eq_false_of_isWordStart {c : Char} (h : isWordStart c = true) :
    c.isDigit = false := by
  rw [Bool.eq_false_iff]
  intro hdigit
  unfold isWordStart at h
  delta Char.isAlpha Char.isUpper Char.isLower at h
  simp only [Char.isDigit, Bool.or_eq_true, Bool.and_eq_true, decide_eq_true_eq, beq_iff_eq,
    ge_iff_le, UInt32.le_iff_toNat_le] at h hdigit
  change (((65 ≤ c.toNat ∧ c.toNat ≤ 90) ∨ (97 ≤ c.toNat ∧ c.toNat ≤ 122)) ∨ c = '_') ∨
    128 ≤ c.toNat at h
  change 48 ≤ c.toNat ∧ c.toNat ≤ 57 at hdigit
  -- words start with a letter, with an underscore, or beyond the digits
  rcases h with (h | rfl) | h
  · omega
  · exact absurd hdigit (by decide)
  · omega

/-- Whether characters are a word: a start and what can go on one.  What separates words starts none, even
if it may stand in one. -/
def isWord : List Char → Bool
  | [] => false
  | c :: cs => isWordStart c && !isSeparator c && cs.all isWordChar

/-- Whether a text cannot go on a word in front of it. -/
def EndsWord (rest : List Char) : Prop :=
  ∀ c ∈ rest.head?, isWordChar c = false ∧ c ≠ '\''

theorem endsWord_nil : EndsWord [] := fun _ h => by cases h

/-- A character that no word has ends the word in front of it. -/
theorem endsWord_cons {c : Char} (h : isWordChar c = false ∧ c ≠ '\'') (cs : List Char) :
    EndsWord (c :: cs) := by
  rintro _ ⟨⟩
  exact h

/-- What cannot go on a word starts no digits. -/
theorem EndsWord.takeWhile_isDigit {rest : List Char} (h : EndsWord rest) :
    rest.takeWhile Char.isDigit = [] ∧ rest.dropWhile Char.isDigit = rest := by
  cases rest with
  | nil => exact ⟨rfl, rfl⟩
  | cons c cs =>
    have hchar := (h c rfl).1
    have hdigit : ¬ c.isDigit = true := by
      intro hdigit
      rw [isWordChar, hdigit, Bool.or_true, Bool.true_or] at hchar
      cases hchar
    exact ⟨List.takeWhile_cons_of_neg hdigit, List.dropWhile_cons_of_neg hdigit⟩

/-- Nothing more is taken of such a text for a word. -/
theorem EndsWord.takeWhile_isWordChar {rest : List Char} (h : EndsWord rest) :
    rest.takeWhile isWordChar = [] ∧ rest.dropWhile isWordChar = rest := by
  cases rest with
  | nil => exact ⟨rfl, rfl⟩
  | cons c cs =>
    have hchar : ¬ isWordChar c = true := Bool.eq_false_iff.mp (h c rfl).1
    exact ⟨List.takeWhile_cons_of_neg hchar, List.dropWhile_cons_of_neg hchar⟩

/-! ### The first token -/

/-- A word that nothing goes on is the first token. -/
theorem firstToken_word {c : Char} {cs rest : List Char} (hc : isWordStart c = true)
    (hcs : cs.all isWordChar = true) (h : EndsWord rest) :
    firstToken c (cs ++ rest) = (.word (String.ofList (c :: cs)), rest) := by
  have hne (d : Char) (hd : isWordStart d = false := by decide) : c ≠ d := ne_of_isWordStart hd hc
  have hdigit := isDigit_eq_false_of_isWordStart hc
  have hdot : (c == '.') = false := beq_false_of_ne (hne '.')
  have hall : ∀ d ∈ cs, isWordChar d = true := List.all_eq_true.mp hcs
  have htake : takeWord c (cs ++ rest) = (String.ofList (c :: cs), rest) := by
    rw [takeWord, List.takeWhile_append_of_pos hall, List.dropWhile_append_of_pos hall,
      h.takeWhile_isWordChar.1, h.takeWhile_isWordChar.2, List.append_nil]
  -- the word is not the `x` of bytes in quotes
  have hquote : ∀ more, cs ++ rest ≠ '\'' :: more := by
    intro more heq
    cases cs with
    | nil =>
      rw [List.nil_append] at heq
      exact (h '\'' (by rw [heq]; rfl)).2 rfl
    | cons d ds =>
      rw [List.cons_append, List.cons.injEq] at heq
      have := hall d List.mem_cons_self
      rw [heq.1] at this
      exact absurd this (by decide)
  rw [firstToken.eq_def, hdigit, hdot, Bool.false_and, Bool.or_false, if_neg Bool.false_ne_true,
    if_neg (hne '\''), if_neg (not_or.mpr ⟨hne '"', hne '\x60'⟩), if_neg (hne '['),
    if_neg (hne '?'), if_neg (not_or.mpr ⟨hne '$', not_or.mpr ⟨hne ':', hne '@'⟩⟩), if_pos hc]
  split
  · exact absurd ‹_› (hquote _)
  · rw [htake]

theorem firstToken_marker {rest : List Char} (h : EndsWord rest) :
    firstToken '?' rest = (.marker .next, rest) := by
  show (numberedToken (rest.takeWhile Char.isDigit), rest.dropWhile Char.isDigit) = _
  rw [h.takeWhile_isDigit.1, h.takeWhile_isDigit.2]
  rfl

/-- A sign that starts no longer one is the first token. -/
theorem firstToken_sign {c : Char} (hc : c = '(' ∨ c = ')' ∨ c = ',') (rest : List Char) :
    firstToken c rest = (.sign c.toString, rest) := by
  rcases hc with rfl | rfl | rfl <;> cases rest <;> rfl

/-! ### Texts -/

theorem lexemesIn_nil (fuel : Nat) : lexemesIn fuel [] = [] := by
  cases fuel <;> rfl

/-- A character that starts no comment is a separator or starts a token. -/
theorem lexemesIn_cons {c : Char} (hyphen : c ≠ '-') (slash : c ≠ '/') (fuel : Nat)
    (cs : List Char) :
    lexemesIn (fuel + 1) (c :: cs) =
      if isSeparator c then lexemesIn fuel cs
      else ⟨(firstToken c cs).1, cs.length + 1, (firstToken c cs).2.length⟩ ::
        lexemesIn fuel (firstToken c cs).2 := by
  rw [lexemesIn.eq_def]
  split
  · cases ‹fuel + 1 = 0›
  · cases ‹c :: cs = []›
  · rename_i heq
    cases ‹fuel + 1 = _›
    cases heq
    split
    · exact absurd rfl hyphen
    · exact absurd rfl slash
    · rfl

/-- A text is cut into the given tokens, however many more steps are allowed than it has characters. -/
def Cuts (cs : List Char) (ts : List Token) : Prop :=
  ∀ fuel, cs.length ≤ fuel → (lexemesIn fuel cs).map (·.token) = ts

theorem Cuts.nil : Cuts [] [] := fun fuel _ => by rw [lexemesIn_nil]; rfl

/-- White space in front of a text adds no token. -/
theorem Cuts.separator {c : Char} {cs : List Char} {ts : List Token} (hc : isSeparator c = true)
    (h : Cuts cs ts) : Cuts (c :: cs) ts := by
  intro fuel hfuel
  have hyphen : c ≠ '-' := by rintro rfl; exact absurd hc (by decide)
  have slash : c ≠ '/' := by rintro rfl; exact absurd hc (by decide)
  obtain ⟨fuel, rfl⟩ := Nat.exists_eq_add_one.mpr (Nat.lt_of_lt_of_le (Nat.succ_pos _) hfuel)
  rw [lexemesIn_cons hyphen slash, if_pos hc]
  exact h fuel (Nat.le_of_succ_le_succ hfuel)

/-- A token in front of a text is cut off if it starts no comment and leaves no more than the text
behind it. -/
theorem Cuts.token {c : Char} {cs rest : List Char} {t : Token} {ts : List Token}
    (hyphen : c ≠ '-') (slash : c ≠ '/') (hc : isSeparator c = false)
    (hfirst : firstToken c cs = (t, rest)) (shorter : rest.length ≤ cs.length) (h : Cuts rest ts) :
    Cuts (c :: cs) (t :: ts) := by
  intro fuel hfuel
  obtain ⟨fuel, rfl⟩ := Nat.exists_eq_add_one.mpr (Nat.lt_of_lt_of_le (Nat.succ_pos _) hfuel)
  have hrest := h fuel (Nat.le_trans shorter (Nat.le_of_succ_le_succ hfuel))
  rw [lexemesIn_cons hyphen slash, if_neg (Bool.eq_false_iff.mp hc), hfirst, List.map_cons, hrest]

/-- Before what satisfies `before`, a text is cut into the given tokens. -/
def Spells (before : List Char → Prop) (cs : List Char) (ts : List Token) : Prop :=
  ∀ rest more, before rest → Cuts rest more → Cuts (cs ++ rest) (ts ++ more)

/-- Anything may follow. -/
def Anything (_rest : List Char) : Prop := True

namespace Spells

variable {before before' : List Char → Prop} {cs ds : List Char} {ts us : List Token}

/-- The tokens of a text that is spelled. -/
theorem lexemes (h : Spells before cs ts) (hnil : before []) :
    (lexemes cs).map (·.token) = ts := by
  have hcuts := h [] [] hnil Cuts.nil
  rw [List.append_nil, List.append_nil] at hcuts
  exact hcuts cs.length (Nat.le_refl _)

theorem nil : Spells before [] [] := fun _ _ _ h => h

/-- Texts may be put together where the second one may follow the first. -/
theorem append (hcs : Spells before cs ts) (hds : Spells before' ds us)
    (follows : ∀ rest, before' rest → before (ds ++ rest)) :
    Spells before' (cs ++ ds) (ts ++ us) := by
  intro rest more hrest hcuts
  rw [List.append_assoc, List.append_assoc]
  exact hcs _ _ (follows rest hrest) (hds rest more hrest hcuts)

/-- Everything may follow what anything may follow. -/
theorem append_anything (hcs : Spells Anything cs ts) (hds : Spells before ds us) :
    Spells before (cs ++ ds) (ts ++ us) :=
  hcs.append hds fun _ _ => trivial

/-- A word may be followed by a text that starts with a blank, a sign or a marker. -/
theorem append_of_head (hcs : Spells EndsWord cs ts) (hds : Spells before ds us) {c : Char}
    (hhead : ds.head? = some c) (hc : isWordChar c = false ∧ c ≠ '\'') :
    Spells before (cs ++ ds) (ts ++ us) := by
  refine hcs.append hds fun rest _ => ?_
  cases ds with
  | nil => cases hhead
  | cons d ds =>
    cases hhead
    exact endsWord_cons hc _

/-- A blank spells nothing. -/
theorem space : Spells Anything [' '] [] := fun _ _ _ h => h.separator rfl

/-- A word spells itself if the text behind it does not go on with it. -/
theorem word {w : String} (h : isWord w.toList = true) : Spells EndsWord w.toList [.word w] := by
  intro rest more hrest hcuts
  obtain ⟨c, cs, hw⟩ : ∃ c cs, w.toList = c :: cs := by
    cases hw : w.toList with
    | nil => rw [hw] at h; cases h
    | cons c cs => exact ⟨c, cs, rfl⟩
  rw [hw, isWord, Bool.and_eq_true, Bool.and_eq_true, Bool.not_eq_true'] at h
  obtain ⟨⟨hc, hseparator⟩, hcs⟩ := h
  have hfirst := firstToken_word hc hcs hrest
  rw [← hw, String.ofList_toList] at hfirst
  have shorter : rest.length ≤ (cs ++ rest).length := by
    rw [List.length_append]
    exact Nat.le_add_left _ _
  rw [hw, List.cons_append]
  exact Cuts.token (ne_of_isWordStart rfl hc) (ne_of_isWordStart rfl hc) hseparator hfirst shorter
    hcuts

theorem marker : Spells EndsWord ['?'] [.marker .next] := fun _ _ hrest hcuts =>
  Cuts.token (by decide) (by decide) rfl (firstToken_marker hrest) (Nat.le_refl _) hcuts

/-- A sign spells itself before anything. -/
theorem sign {c : Char} (hc : c = '(' ∨ c = ')' ∨ c = ',') :
    Spells Anything [c] [.sign c.toString] := by
  intro rest more _ hcuts
  have hfirst := firstToken_sign hc rest
  rcases hc with rfl | rfl | rfl <;>
    exact Cuts.token (by decide) (by decide) rfl hfirst (Nat.le_refl _) hcuts

theorem leftParen : Spells Anything ['('] [.sign "("] := sign (Or.inl rfl)

theorem rightParen : Spells Anything [')'] [.sign ")"] := sign (Or.inr (Or.inl rfl))

theorem comma : Spells Anything [','] [.sign ","] := sign (Or.inr (Or.inr rfl))

/-- An equation with a marker. -/
theorem equalsMarker : Spells EndsWord ['=', '?'] [.sign "=", .marker .next] := by
  intro rest more hrest hcuts
  have hmarker := marker rest more hrest hcuts
  exact Cuts.token (by decide) (by decide) rfl rfl (Nat.le_refl _) hmarker

/-- The greatest length of a text. -/
theorem length255 :
    Spells Anything "(255)".toList [.sign "(", .literal (.integer ⟨255, by decide⟩), .sign ")"] := by
  intro rest more _ hcuts
  have hparen := rightParen rest more trivial hcuts
  have hnumber : Cuts ("255)".toList ++ rest)
      (.literal (.integer ⟨255, by decide⟩) :: .sign ")" :: more) :=
    Cuts.token (by decide) (by decide) rfl rfl (by simp) hparen
  exact leftParen _ _ trivial hnumber

/-- Items with commas between them. -/
theorem commas {α : Type} {xs : List α} {text : α → List Char} {tokens : α → List Token}
    (h : ∀ x ∈ xs, Spells EndsWord (text x) (tokens x)) :
    Spells EndsWord ([','].intercalate (xs.map text)) ([.sign ","].intercalate (xs.map tokens)) := by
  induction xs with
  | nil => exact nil
  | cons x xs ih =>
    obtain ⟨hx, hxs⟩ := List.forall_mem_cons.mp h
    cases xs with
    | nil => rwa [List.map_singleton, List.map_singleton, List.intercalate_singleton,
        List.intercalate_singleton]
    | cons y ys =>
      have hrest := hx.append_of_head comma rfl (by decide)
      simp only [List.map_cons, List.intercalate_cons_cons]
      exact hrest.append_anything (ih hxs)

/-- Words with a blank behind each. -/
theorem words (ws : List String) (h : ∀ w ∈ ws, isWord w.toList = true) :
    Spells Anything (ws.flatMap fun w => w.toList ++ [' ']) (ws.map .word) := by
  induction ws with
  | nil => exact nil
  | cons w ws ih =>
    obtain ⟨hw, hws⟩ := List.forall_mem_cons.mp h
    have hspaced := (word hw).append_of_head space rfl (by decide)
    exact hspaced.append_anything (ih hws)

/-- Words with a blank before the first and behind each. -/
theorem spacedWords (ws : List String) (h : ∀ w ∈ ws, isWord w.toList = true) :
    Spells Anything (' ' :: ws.flatMap fun w => w.toList ++ [' ']) (ws.map .word) :=
  space.append_anything (words ws h)

end Spells

/-! ### Markers -/

/-- Separators stand in front of all items but the first. -/
theorem intercalate_cons {ξ : Type} (sep x : List ξ) (xs : List (List ξ)) :
    sep.intercalate (x :: xs) = x ++ xs.flatMap (sep ++ ·) := by
  induction xs generalizing x with
  | nil => rw [List.intercalate_singleton, List.flatMap_nil, List.append_nil]
  | cons y ys ih =>
    rw [List.intercalate_cons_cons, ih, List.flatMap_cons, List.append_assoc, List.append_assoc]

/-- Tokens with their markers numbered from `k + 1` on. -/
def numbered : Nat → List Token → List Token
  | _, [] => []
  | k, .marker .next :: ts => .marker (.numbered (k + 1)) :: numbered (k + 1) ts
  | k, t :: ts => t :: numbered k ts

/-- Whether every marker among tokens stands for the next value. -/
def MarksNext (ts : List Token) : Prop :=
  ∀ m, .marker m ∈ ts → m = .next

/-- Only markers are numbered. -/
theorem numbered_of_not_marker {t : Token} (h : t ≠ .marker .next) (k : Nat) (ts : List Token) :
    numbered k (t :: ts) = t :: numbered k ts := by
  rw [numbered]
  rintro rfl
  exact h rfl

/-- Whether there is no marker among tokens. -/
def Unmarked (ts : List Token) : Prop :=
  ∀ m, .marker m ∉ ts

theorem Unmarked.append {ts us : List Token} (hts : Unmarked ts) (hus : Unmarked us) :
    Unmarked (ts ++ us) := fun m hm =>
  (List.mem_append.mp hm).elim (hts m) (hus m)

theorem Unmarked.intercalate {xs : List (List Token)} (h : ∀ x ∈ xs, Unmarked x) :
    Unmarked ([.sign ","].intercalate xs) := by
  cases xs with
  | nil => exact fun _ hm => by cases hm
  | cons x xs =>
    obtain ⟨hx, hxs⟩ := List.forall_mem_cons.mp h
    rw [intercalate_cons]
    refine hx.append fun m hm => ?_
    obtain ⟨y, hy, hmem⟩ := List.mem_flatMap.mp hm
    rcases List.mem_cons.mp hmem with hsign | hmem
    · cases hsign
    · exact hxs y hy m hmem

theorem Unmarked.marksNext {ts : List Token} (h : Unmarked ts) : MarksNext ts := fun m hm =>
  absurd hm (h m)

theorem Unmarked.count_eq_zero {ts : List Token} (h : Unmarked ts) :
    ts.count (.marker .next) = 0 :=
  List.count_eq_zero.mpr (h .next)

/-- Tokens without markers leave the numbers to what follows. -/
theorem numbered_append {ts : List Token} (h : Unmarked ts) (k : Nat) (us : List Token) :
    numbered k (ts ++ us) = ts ++ numbered k us := by
  induction ts with
  | nil => rfl
  | cons t ts ih =>
    have ht : t ≠ .marker .next := by
      rintro rfl
      exact h .next List.mem_cons_self
    rw [List.cons_append, numbered_of_not_marker ht, List.cons_append,
      ih fun m hm => h m (List.mem_cons_of_mem _ hm)]

theorem numbered_of_unmarked {ts : List Token} (h : Unmarked ts) (k : Nat) : numbered k ts = ts := by
  have happend := numbered_append h k []
  rwa [List.append_nil, numbered, List.append_nil] at happend

/-- The tokens of markers with commas between them, which have the numbers of a list. -/
def markerTokens (numbers : List Nat) : List Token :=
  [.sign ","].intercalate (numbers.map fun k => [.marker (.numbered k)])

/-- Markers behind commas get one number after the other. -/
theorem numbered_flatMap_markers {ξ : Type} (k : Nat) (xs : List ξ) (us : List Token) :
    numbered k ((xs.flatMap fun _ => [.sign ",", .marker .next]) ++ us) =
      ((List.range' (k + 1) xs.length).flatMap fun i => [.sign ",", .marker (.numbered i)]) ++
        numbered (k + xs.length) us := by
  induction xs generalizing k with
  | nil => rfl
  | cons x xs ih =>
    rw [List.flatMap_cons, List.length_cons, List.range'_succ, List.flatMap_cons, List.append_assoc,
      List.append_assoc]
    have hrest := ih (k + 1)
    rw [Nat.add_right_comm k 1 xs.length] at hrest
    exact congrArg (fun ts => .sign "," :: .marker (.numbered (k + 1)) :: ts) hrest

/-- Markers with commas between them are numbered one after the other. -/
theorem numbered_markers {ξ : Type} (k : Nat) (xs : List ξ) (us : List Token) :
    numbered k ([.sign ","].intercalate (xs.map fun _ => [.marker .next]) ++ us) =
      markerTokens (List.range' (k + 1) xs.length) ++ numbered (k + xs.length) us := by
  cases xs with
  | nil => rfl
  | cons x xs =>
    have hrest := numbered_flatMap_markers (k + 1) xs us
    rw [markerTokens, List.length_cons, List.range'_succ, List.map_cons, List.map_cons,
      intercalate_cons, intercalate_cons, List.flatMap_map, List.flatMap_map]
    show .marker (.numbered (k + 1)) :: numbered (k + 1) _ = _
    rw [Nat.add_right_comm k 1 xs.length] at hrest
    exact congrArg _ hrest

theorem MarksNext.append {ts us : List Token} (hts : MarksNext ts) (hus : MarksNext us) :
    MarksNext (ts ++ us) := fun m hm =>
  (List.mem_append.mp hm).elim (hts m) (hus m)

theorem marksNext_markers {ξ : Type} (xs : List ξ) :
    MarksNext ([Token.sign ","].intercalate (xs.map fun _ => [.marker .next])) := by
  cases xs with
  | nil => exact fun _ hm => by cases hm
  | cons x xs =>
    intro m hm
    rw [List.map_cons, intercalate_cons, List.flatMap_map] at hm
    rcases List.mem_append.mp hm with hm | hm
    · cases List.mem_singleton.mp hm
      rfl
    · obtain ⟨_, -, hmem⟩ := List.mem_flatMap.mp hm
      simpa using hmem

/-- A list of markers has as many of them as items. -/
theorem count_markers {ξ : Type} (xs : List ξ) :
    ([Token.sign ","].intercalate (xs.map fun _ => [.marker .next])).count (.marker .next) =
      xs.length := by
  cases xs with
  | nil => rfl
  | cons x xs =>
    have hrest : (xs.flatMap fun _ => [Token.sign ",", .marker .next]).count (.marker .next) =
        xs.length := by
      induction xs with
      | nil => rfl
      | cons y ys ih =>
        rw [List.flatMap_cons, List.count_append, ih, List.length_cons, Nat.add_comm]
        rfl
    rw [List.map_cons, intercalate_cons, List.flatMap_map, List.count_append, List.length_cons,
      Nat.add_comm]
    exact congrArg (· + 1) hrest

/-- Numbering a marker takes the next number. -/
theorem numberAll_of_next {l : Lexeme} (h : l.token = .marker .next) (k : Nat) (ls : List Lexeme) :
    (Numbering.mk k []).numberAll (l :: ls) =
      ({ l with token := .marker (.numbered (k + 1)) } :: ((Numbering.mk (k + 1) []).numberAll ls).1,
        ((Numbering.mk (k + 1) []).numberAll ls).2) := by
  rw [Numbering.numberAll, h]
  rfl

/-- Any other token keeps its place and takes no number. -/
theorem numberAll_of_not_marker {l : Lexeme} (h : ∀ m, l.token ≠ .marker m) (n : Numbering)
    (ls : List Lexeme) : n.numberAll (l :: ls) = (l :: (n.numberAll ls).1, (n.numberAll ls).2) := by
  rw [Numbering.numberAll]
  split
  · exact absurd ‹_› (h _)
  · rfl

/-- The markers are numbered and counted. -/
theorem numberAll_eq {ls : List Lexeme} (h : MarksNext (ls.map (·.token))) (k : Nat) :
    ((Numbering.mk k []).numberAll ls).1.map (·.token) = numbered k (ls.map (·.token)) ∧
      ((Numbering.mk k []).numberAll ls).2 = k + (ls.map (·.token)).count (.marker .next) := by
  induction ls generalizing k with
  | nil => exact ⟨rfl, rfl⟩
  | cons l ls ih =>
    have hls : MarksNext (ls.map (·.token)) := fun m hm => h m (List.mem_cons_of_mem _ hm)
    -- a marker takes a number, and every other token leaves it to the rest
    by_cases ht : l.token = .marker .next
    · obtain ⟨htokens, hcount⟩ := ih hls (k + 1)
      rw [numberAll_of_next ht, List.map_cons, List.map_cons, htokens, hcount, ht, numbered,
        List.count_cons_self]
      exact ⟨rfl, by omega⟩
    · have hmarker : ∀ m, l.token ≠ .marker m := by
        intro m hm
        obtain rfl : m = .next := h m (by rw [List.map_cons, hm]; exact List.mem_cons_self)
        exact ht hm
      obtain ⟨htokens, hcount⟩ := ih hls k
      rw [numberAll_of_not_marker hmarker, List.map_cons, List.map_cons, htokens, hcount,
        numbered_of_not_marker ht, List.count_cons_of_ne ht]
      exact ⟨rfl, rfl⟩

end RecordSql.Embedded
