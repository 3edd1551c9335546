import RecordSql.Declaration.Attribute
import RecordSql.Proofs.Result
import Mathlib.Data.List.Forall2

/-!
# The grammar of attribute lists

A list of items is read in passes.  A pass takes the key of an item, its value if an equals sign
follows, and the comma behind it unless the list ends there (`takeItem`).
`takeItem_eq_ok_iff` says what a pass takes, and all the rest follows from it: what is read is
what is written between single commas (`parseItems_eq_ok_iff`), a list is refused if and only if a
word in it is a keyword or two neighbours do not go together (`exists_parseItems_iff`), and there
are no more passes than tokens (`passes_eq_some`).
-/

namespace RecordSql.Declaration

/-! ### Written items -/

namespace Item

/-- The tokens behind the key of an item. -/
def valueTokens : Option String → List Token
  | none => []
  | some value => [.equals, .string value]

/-- The tokens that an item is written with. -/
def tokens (item : Item) : List Token :=
  .word item.key :: valueTokens item.value

/-- Whether the key of an item is an identifier; a keyword is one only as a raw word. -/
def HasIdentifier (item : Item) : Prop :=
  item.key ∉ keywords

instance (item : Item) : Decidable item.HasIdentifier :=
  inferInstanceAs (Decidable (¬ _))

end Item

/-- Items with single commas between them, and with one behind the last if it is `trailing`. -/
def separated (items : List Item) (trailing : Bool) : List Token :=
  [Token.comma].intercalate (items.map Item.tokens) ++ if trailing then [.comma] else []

/-- The tokens are a list of the given items: each has an identifier, and one comma may follow the
last of them. -/
def IsListOf (items : List Item) (ts : List Token) : Prop :=
  (∀ item ∈ items, item.HasIdentifier) ∧
    ∃ trailing, (trailing = true → items ≠ []) ∧ ts = separated items trailing

theorem separated_singleton (item : Item) (trailing : Bool) :
    separated [item] trailing = item.tokens ++ if trailing then [.comma] else [] := by
  simp [separated]

theorem separated_cons_cons (item next : Item) (items : List Item) (trailing : Bool) :
    separated (item :: next :: items) trailing =
      item.tokens ++ .comma :: separated (next :: items) trailing := by
  simp [separated, List.intercalate]

/-- Nothing is written as the empty list but nothing. -/
theorem isListOf_nil {ts : List Token} : IsListOf [] ts ↔ ts = [] := by
  constructor
  · rintro ⟨-, trailing, htrailing, rfl⟩
    cases trailing with
    | true => exact absurd rfl (htrailing rfl)
    | false => rfl
  · rintro rfl
    exact ⟨by simp, false, by simp, rfl⟩

/-- A list of items is its first item, alone or with a comma and a list of the others behind it. -/
theorem isListOf_cons {item : Item} {items : List Item} {ts : List Token} :
    IsListOf (item :: items) ts ↔ item.HasIdentifier ∧
      (ts = item.tokens ∧ items = [] ∨
        ∃ more, ts = item.tokens ++ .comma :: more ∧ IsListOf items more) := by
  cases items with
  | nil =>
    simp only [isListOf_nil, exists_eq_right, and_true]
    constructor
    · rintro ⟨hitem, trailing, -, rfl⟩
      refine ⟨hitem item (by simp), ?_⟩
      rw [separated_singleton]
      cases trailing <;> simp
    · -- the comma behind the last item is the trailing one
      rintro ⟨hitem, hts⟩
      refine ⟨by simpa using hitem, ?_⟩
      rcases hts with rfl | rfl
      · exact ⟨false, by simp, by simp [separated_singleton]⟩
      · exact ⟨true, by simp, by simp [separated_singleton]⟩
  | cons next items =>
    simp only [IsListOf, separated_cons_cons, List.forall_mem_cons, reduceCtorEq, and_false,
      false_or]
    constructor
    · rintro ⟨⟨hitem, hitems⟩, trailing, -, rfl⟩
      exact ⟨hitem, _, rfl, hitems, trailing, by simp, rfl⟩
    · rintro ⟨hitem, _, rfl, hitems, trailing, -, rfl⟩
      exact ⟨⟨hitem, hitems⟩, trailing, by simp, rfl⟩

/-! ### One pass -/

/-- The value behind a key, if there is an equals sign, and what follows. -/
def takeValue : List Token → Except Rejection (Option String × List Token)
  | .parens :: _ => .error .arguments
  | .equals :: .string value :: rest => .ok (some value, rest)
  | .equals :: rest => .error (.noString rest.isEmpty)
  | rest => .ok (none, rest)

/-- What follows the comma behind an item, unless the list ends there. -/
def takeComma : List Token → Except Rejection (List Token)
  | [] => .ok []
  | .comma :: rest => .ok rest
  | _ => .error .noComma

/-- The item in front of a list, and what is left for the passes to come. -/
def takeItem (token : Token) (rest : List Token) : Except Rejection (Item × List Token) := do
  let key ← token.identifier
  let (value, rest) ← takeValue rest
  let rest ← takeComma rest
  return (⟨key, value⟩, rest)

/-- The items of a list are that of the first pass and those of the passes to come. -/
theorem parseItems_cons (token : Token) (rest : List Token) :
    parseItems (token :: rest) = do
      let (item, more) ← takeItem token rest
      return item :: (← parseItems more) := by
  rw [parseItems, takeItem]
  cases token.identifier with
  | error e => rfl
  | ok key =>
    -- three tokens settle how the value and the comma are read
    rcases rest with _ | ⟨_ | _ | _ | _ | _ | _,
      _ | ⟨_ | _ | _ | _ | _ | _, _ | ⟨_ | _ | _ | _ | _ | _, _⟩⟩⟩ <;> rfl

/-- A key is any word that is no keyword. -/
theorem identifier_eq_ok_iff {token : Token} {key : String} :
    token.identifier = .ok key ↔ token = .word key ∧ key ∉ keywords := by
  cases token with
  | word text =>
    rw [Token.identifier, Token.word.injEq]
    by_cases h : text ∈ keywords
    · rw [if_pos (List.contains_iff_mem.mpr h)]
      refine iff_of_false (by simp) ?_
      rintro ⟨rfl, hkey⟩
      exact hkey h
    · rw [if_neg (mt List.contains_iff_mem.mp h), Except.ok.injEq]
      exact ⟨fun heq => ⟨heq, heq ▸ h⟩, And.left⟩
  | _ => simp [Token.identifier]

/-- Behind an item the tokens end, or a comma stands. -/
theorem takeComma_eq_ok_iff {rest more : List Token} :
    takeComma rest = .ok more ↔ rest = [] ∧ more = [] ∨ rest = .comma :: more := by
  rcases rest with _ | ⟨_ | _ | _ | _ | _ | _, rest⟩
  case nil =>
    simp only [takeComma, Except.ok.injEq, true_and, reduceCtorEq, or_false]
    exact eq_comm
  all_goals simp [takeComma]

/-- The value is read as it is written, if an item may end behind it. -/
theorem takeValue_eq_ok_iff {rest more behind : List Token} {value : Option String}
    (h : takeComma more = .ok behind) :
    takeValue rest = .ok (value, more) ↔ rest = Item.valueTokens value ++ more := by
  constructor
  · intro htake
    unfold takeValue at htake
    split at htake
    · cases htake
    · cases htake
      rfl
    · cases htake
    · cases htake
      rfl
  · rintro rfl
    cases value with
    | some value => rfl
    -- without a value, what follows the key is a comma or the end, and no sign of equality
    | none =>
      rcases takeComma_eq_ok_iff.mp h with ⟨rfl, -⟩ | rfl <;> rfl

/-- **A pass takes an item that is written in front of a list,** with the comma behind it if there is
one. -/
theorem takeItem_eq_ok_iff {token : Token} {rest more : List Token} {item : Item} :
    takeItem token rest = .ok (item, more) ↔ item.HasIdentifier ∧
      (token :: rest = item.tokens ∧ more = [] ∨ token :: rest = item.tokens ++ .comma :: more) := by
  obtain ⟨key, value⟩ := item
  unfold takeItem Item.HasIdentifier Item.tokens
  constructor
  · intro h
    obtain ⟨word, hword, h⟩ := bind_eq_ok_iff.mp h
    obtain ⟨⟨given, behind⟩, hvalue, h⟩ := bind_eq_ok_iff.mp h
    obtain ⟨left, hcomma, h⟩ := bind_eq_ok_iff.mp h
    cases h
    obtain ⟨rfl, hkey⟩ := identifier_eq_ok_iff.mp hword
    obtain rfl := (takeValue_eq_ok_iff hcomma).mp hvalue
    refine ⟨hkey, ?_⟩
    rcases takeComma_eq_ok_iff.mp hcomma with ⟨rfl, rfl⟩ | rfl
    · exact .inl ⟨by simp, rfl⟩
    · exact .inr rfl
  · rintro ⟨hkey, h⟩
    obtain ⟨behind, hrest, hcomma⟩ : ∃ behind, token :: rest =
        .word key :: (Item.valueTokens value ++ behind) ∧ takeComma behind = .ok more := by
      rcases h with ⟨h, rfl⟩ | h
      · exact ⟨[], by simpa using h, rfl⟩
      · exact ⟨.comma :: more, h, rfl⟩
    obtain ⟨rfl, rfl⟩ := List.cons.inj hrest
    rw [identifier_eq_ok_iff.mpr ⟨rfl, hkey⟩]
    show (takeValue (Item.valueTokens value ++ behind) >>= _) = _
    rw [(takeValue_eq_ok_iff hcomma).mpr rfl]
    show (takeComma behind >>= _) = _
    rw [hcomma]
    rfl

/-- An item takes at least one token, so the passes over a list come to an end. -/
theorem length_lt_of_takeItem {token : Token} {rest more : List Token} {item : Item}
    (h : takeItem token rest = .ok (item, more)) : more.length < (token :: rest).length := by
  rcases (takeItem_eq_ok_iff.mp h).2 with ⟨-, rfl⟩ | h
  · simp
  · rw [h]
    simp only [List.length_append, List.length_cons]
    omega

/-! ### All passes -/

theorem parseItems_eq_nil_iff {ts : List Token} : parseItems ts = .ok [] ↔ ts = [] := by
  cases ts with
  | nil => exact iff_of_true rfl rfl
  | cons token rest =>
    refine iff_of_false (fun h => ?_) (by simp)
    rw [parseItems_cons] at h
    obtain ⟨⟨item, more⟩, -, h⟩ := bind_eq_ok_iff.mp h
    obtain ⟨items, -, h⟩ := bind_eq_ok_iff.mp h
    cases h

/-- A list starts with an item whose key is an identifier; behind it the list ends, or a comma stands
and the other items follow. -/
theorem parseItems_eq_cons_iff {ts : List Token} {item : Item} {items : List Item} :
    parseItems ts = .ok (item :: items) ↔ item.HasIdentifier ∧
      (ts = item.tokens ∧ items = [] ∨
        ∃ more, ts = item.tokens ++ .comma :: more ∧ parseItems more = .ok items) := by
  cases ts with
  | nil => simp [parseItems, Item.tokens]
  | cons token rest =>
    rw [parseItems_cons]
    constructor
    · intro h
      obtain ⟨⟨_, more⟩, htake, h⟩ := bind_eq_ok_iff.mp h
      obtain ⟨_, hmore, h⟩ := bind_eq_ok_iff.mp h
      cases h
      obtain ⟨hitem, ⟨hts, rfl⟩ | hts⟩ := takeItem_eq_ok_iff.mp htake
      · cases hmore
        exact ⟨hitem, .inl ⟨hts, rfl⟩⟩
      · exact ⟨hitem, .inr ⟨more, hts, hmore⟩⟩
    · rintro ⟨hitem, ⟨hts, rfl⟩ | ⟨more, hts, hmore⟩⟩
      · rw [takeItem_eq_ok_iff.mpr ⟨hitem, .inl ⟨hts, rfl⟩⟩]
        rfl
      · rw [takeItem_eq_ok_iff.mpr ⟨hitem, .inr hts⟩]
        show (parseItems more >>= _) = _
        rw [hmore]
        rfl

/-- **What is read is what is written.** -/
theorem parseItems_eq_ok_iff {ts : List Token} {items : List Item} :
    parseItems ts = .ok items ↔ IsListOf items ts := by
  induction items generalizing ts with
  | nil => rw [parseItems_eq_nil_iff, isListOf_nil]
  | cons item items ih =>
    rw [parseItems_eq_cons_iff, isListOf_cons]
    simp only [ih]

/-! ### Neighbours -/

/-- Whether two tokens may stand side by side; `none` is the edge of the list. -/
def Adjoin : Option Token → Option Token → Prop
  | none, none | none, some (.word _) => True
  | some (.word _), none | some (.word _), some .comma | some (.word _), some .equals => True
  | some .equals, some (.string _) => True
  | some (.string _), none | some (.string _), some .comma => True
  | some .comma, none | some .comma, some (.word _) => True
  | _, _ => False

/-- Whether all tokens may stand where they stand, when `before` is in front of them. -/
def GoTogether (before : Option Token) (ts : List Token) : Prop :=
  List.IsChain Adjoin (before :: (ts.map some ++ [none]))

/-- Whether no word is a keyword. -/
def HasNoKeyword (ts : List Token) : Prop :=
  ∀ word, .word word ∈ ts → word ∉ keywords

/-- The only word of an item that may be a keyword is its key. -/
theorem hasNoKeyword_tokens_append {item : Item} {ts : List Token} :
    HasNoKeyword (item.tokens ++ ts) ↔ item.HasIdentifier ∧ HasNoKeyword ts := by
  obtain ⟨key, value⟩ := item
  cases value <;> simp [HasNoKeyword, Item.tokens, Item.valueTokens, Item.HasIdentifier, or_imp,
    forall_and]

theorem hasNoKeyword_comma {ts : List Token} : HasNoKeyword (.comma :: ts) ↔ HasNoKeyword ts := by
  simp [HasNoKeyword]

/-- What may stand behind a comma may begin a list. -/
theorem goTogether_comma {ts : List Token} : GoTogether (some .comma) ts ↔ GoTogether none ts := by
  rcases ts with _ | ⟨_ | _ | _ | _ | _ | _, ts⟩ <;> simp [GoTogether, Adjoin]

theorem goTogether_tokens {item : Item} : GoTogether none item.tokens := by
  obtain ⟨key, value⟩ := item
  cases value <;> simp [GoTogether, Adjoin, Item.tokens, Item.valueTokens]

/-- A comma behind an item lets every item follow. -/
theorem goTogether_tokens_append_comma {item : Item} {ts : List Token} :
    GoTogether none (item.tokens ++ .comma :: ts) ↔ GoTogether none ts := by
  refine Iff.trans ?_ goTogether_comma
  obtain ⟨key, value⟩ := item
  cases value <;> simp [GoTogether, Adjoin, Item.tokens, Item.valueTokens]

/-- Tokens that go together are written items. -/
theorem exists_item_of_goTogether {ts : List Token} (h : GoTogether none ts) :
    ts = [] ∨ ∃ item : Item, ts = item.tokens ∨ ∃ more, ts = item.tokens ++ .comma :: more := by
  -- neighbours that go together spell an item, so no other list of three tokens is left
  rcases ts with _ | ⟨_ | _ | _ | _ | _ | _, ts⟩
  case nil => exact .inl rfl
  case cons.word key =>
    rcases ts with _ | ⟨_ | _ | _ | _ | _ | _, ts⟩
    case nil => exact .inr ⟨⟨key, none⟩, .inl rfl⟩
    case cons.comma => exact .inr ⟨⟨key, none⟩, .inr ⟨ts, rfl⟩⟩
    case cons.equals =>
      rcases ts with _ | ⟨_ | value | _ | _ | _ | _, _ | ⟨_ | _ | _ | _ | _ | _, ts⟩⟩
      case cons.string.nil => exact .inr ⟨⟨key, some value⟩, .inl rfl⟩
      case cons.string.cons.comma => exact .inr ⟨⟨key, some value⟩, .inr ⟨ts, rfl⟩⟩
      all_goals simp [GoTogether, Adjoin] at h
    all_goals simp [GoTogether, Adjoin] at h
  all_goals simp [GoTogether, Adjoin] at h

/-- **A list is accepted if and only if no word is a keyword and all neighbours go together.** -/
theorem exists_parseItems_iff {ts : List Token} :
    (∃ items, parseItems ts = .ok items) ↔ HasNoKeyword ts ∧ GoTogether none ts := by
  constructor
  · rintro ⟨items, h⟩
    induction items generalizing ts with
    | nil =>
      obtain rfl := parseItems_eq_nil_iff.mp h
      exact ⟨by simp [HasNoKeyword], by simp [GoTogether, Adjoin]⟩
    | cons item items ih =>
      obtain ⟨hitem, ⟨rfl, -⟩ | ⟨more, rfl, hmore⟩⟩ := parseItems_eq_cons_iff.mp h
      · rw [← List.append_nil item.tokens, hasNoKeyword_tokens_append, List.append_nil]
        exact ⟨⟨hitem, by simp [HasNoKeyword]⟩, goTogether_tokens⟩
      · rw [hasNoKeyword_tokens_append, hasNoKeyword_comma, goTogether_tokens_append_comma, and_assoc]
        exact ⟨hitem, ih hmore⟩
  · rintro ⟨hwords, htogether⟩
    -- an item is taken off the front, and fewer tokens are left
    induction hlength : ts.length using Nat.strongRecOn generalizing ts with
    | _ length ih =>
      rcases exists_item_of_goTogether htogether with rfl | ⟨item, rfl | ⟨more, rfl⟩⟩
      · exact ⟨[], rfl⟩
      · rw [← List.append_nil item.tokens, hasNoKeyword_tokens_append] at hwords
        exact ⟨[item], parseItems_eq_cons_iff.mpr ⟨hwords.1, .inl ⟨rfl, rfl⟩⟩⟩
      · rw [hasNoKeyword_tokens_append, hasNoKeyword_comma] at hwords
        have hshorter : more.length < length := by
          rw [← hlength]
          simp only [List.length_append, List.length_cons]
          omega
        obtain ⟨items, hmore⟩ :=
          ih more.length hshorter hwords.2 (goTogether_tokens_append_comma.mp htogether) rfl
        exact ⟨item :: items, parseItems_eq_cons_iff.mpr ⟨hwords.1, .inr ⟨more, rfl, hmore⟩⟩⟩

/-! ### The loop -/

/-- At most `n` passes over a list, behind the given items; none if that is not enough. -/
def passes : Nat → List Item → List Token → Option (Except Rejection (List Item))
  | _, items, [] => some (.ok items)
  | 0, _, _ :: _ => none
  | n + 1, items, token :: rest =>
    match takeItem token rest with
    | .error e => some (.error e)
    | .ok (item, more) => passes n (items ++ [item]) more

/-- **There are no more passes than tokens,** and they read the items of the list. -/
theorem passes_eq_some {n : Nat} {items : List Item} {ts : List Token} (h : ts.length ≤ n) :
    passes n items ts = some ((parseItems ts).map (items ++ ·)) := by
  induction n generalizing items ts with
  | zero =>
    obtain rfl := List.length_eq_zero_iff.mp (Nat.le_zero.mp h)
    simp [passes, parseItems, Except.map]
  | succ n ih =>
    cases ts with
    | nil => simp [passes, parseItems, Except.map]
    | cons token rest =>
      rw [passes, parseItems_cons]
      cases htake : takeItem token rest with
      | error e => rfl
      | ok taken =>
        obtain ⟨item, more⟩ := taken
        -- an item takes a token, so the fuel that is left is enough for what is left
        have hmore : more.length ≤ n := by
          have := length_lt_of_takeItem htake
          omega
        show passes n (items ++ [item]) more = some (Except.map _ (parseItems more >>= _))
        rw [ih hmore]
        cases parseItems more with
        | error e => rfl
        | ok others => simp [Except.map, bind, Except.bind, pure, Except.pure]

/-! ### Attributes -/

/-- The attribute has the given items. -/
def Attribute.Holds : Attribute → List Item → Prop
  | list ts, items => IsListOf items ts
  | foreign, items => items = []
  | bare, _ | assigned, _ => False

/-- An attribute is read exactly if it holds the items, which are the ones that are read. -/
theorem Attribute.items_eq_ok_iff {a : Attribute} {items : List Item} :
    a.items = .ok items ↔ a.Holds items := by
  cases a with
  | list ts => exact parseItems_eq_ok_iff
  | foreign => simp [Attribute.items, Attribute.Holds, eq_comm]
  | bare => simp [Attribute.items, Attribute.Holds]
  | assigned => simp [Attribute.items, Attribute.Holds]

/-- The items of several attributes are those of each, one list behind the other. -/
theorem allItems_eq_ok_iff {attributes : List Attribute} {items : List Item} :
    allItems attributes = .ok items ↔
      ∃ lists, List.Forall₂ Attribute.Holds attributes lists ∧ items = lists.flatten := by
  induction attributes generalizing items with
  | nil => simp [allItems, eq_comm]
  -- attributes are read in turn, and the first one that is refused ends the reading
  | cons a rest ih =>
    rw [allItems]
    constructor
    · intro h
      obtain ⟨given, hgiven, h⟩ := bind_eq_ok_iff.mp h
      obtain ⟨more, hmore, h⟩ := bind_eq_ok_iff.mp h
      cases h
      obtain ⟨lists, hlists, rfl⟩ := ih.mp hmore
      exact ⟨given :: lists, .cons (Attribute.items_eq_ok_iff.mp hgiven) hlists, rfl⟩
    · rintro ⟨_, hlists, rfl⟩
      cases hlists with
      | cons hgiven hlists =>
        rw [Attribute.items_eq_ok_iff.mpr hgiven]
        show (allItems rest >>= _) = _
        rw [ih.mpr ⟨_, hlists, rfl⟩]
        rfl

/-- **Lists of items are read as they are written, and nothing else is read.** -/
theorem lists_read_as_written :
    (∀ ts items, parseItems ts = .ok items ↔ IsListOf items ts) ∧
    (∀ ts, (∃ items, parseItems ts = .ok items) ↔ HasNoKeyword ts ∧ GoTogether none ts) ∧
    (∀ ts, passes ts.length [] ts = some (parseItems ts)) ∧
    ∀ attributes items, allItems attributes = .ok items ↔
      ∃ lists, List.Forall₂ Attribute.Holds attributes lists ∧ items = lists.flatten := by
  refine ⟨fun ts items => parseItems_eq_ok_iff, fun ts => exists_parseItems_iff, fun ts => ?_,
    fun attributes items => allItems_eq_ok_iff⟩
  rw [passes_eq_some (Nat.le_refl _)]
  cases parseItems ts <;> rfl

end RecordSql.Declaration
