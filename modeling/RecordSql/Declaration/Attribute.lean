import RecordSql.Declaration.Token

/-!
# Attributes

A record type and its fields carry attributes, each with a list of items.  An item is a key, alone or
with a string as its value; items are separated by single commas, and one comma may follow the last.
The items of all attributes of one place are read before any of them is given a meaning, so a malformed
list is reported before an unknown key in front of it.
-/

namespace RecordSql.Declaration

/-- Why a declaration is rejected. -/
inductive Rejection where
  /-- The fields have no names. -/
  | unnamedFields
  /-- The declared type has no fields. -/
  | notRecord
  /-- An attribute has no list. -/
  | noList
  /-- An attribute has a value in place of its list. -/
  | notList
  /-- A key is no identifier. -/
  | noIdentifier
  /-- A key is a keyword. -/
  | keyword (word : String)
  /-- A key is followed by a group in parentheses. -/
  | arguments
  /-- A value is no string, or is missing at the end of the list. -/
  | noString (atEnd : Bool)
  /-- Two items have no comma between them. -/
  | noComma
  /-- A key lacks its value. -/
  | valueMissing (key : String)
  /-- A key has a value that it does not take. -/
  | valueUnwanted (key : String)
  /-- The table has an empty name. -/
  | emptyTable
  /-- The type has an attribute with an unknown key. -/
  | unknownTypeKey (key : String)
  /-- A field has an attribute with an unknown key. -/
  | unknownFieldKey (key : String)
  /-- A field that is not stored has other attributes. -/
  | skippedWithOthers
  /-- A field is a generated key and binary data at once. -/
  | keyAndBlob
deriving DecidableEq, Repr

/-- The text of a rejection. -/
def Rejection.message : Rejection → String
  | unnamedFields => "Record can only be derived for structs with named fields"
  | notRecord => "Record can only be derived for structs"
  | noList => "expected attribute arguments in parentheses: #[rowmap(...)]"
  | notList => "expected parentheses: #[rowmap(...)]"
  | noIdentifier => "expected identifier"
  | keyword word => "expected identifier, found keyword `" ++ word ++ "`"
  | arguments => "unexpected function-style attribute"
  | noString atEnd =>
    if atEnd then "unexpected end of input, expected string literal" else "expected string literal"
  | noComma => "expected `,`"
  | valueMissing key => "`" ++ key ++ "` expects a string value"
  | valueUnwanted key => "`" ++ key ++ "` takes no value"
  | emptyTable => "table name is empty"
  | unknownTypeKey key => "unknown struct attribute `" ++ key ++ "`"
  | unknownFieldKey key => "unknown field attribute `" ++ key ++ "`"
  | skippedWithOthers => "`skip` cannot be combined with other rowmap attributes"
  | keyAndBlob => "`auto_key` and `blob` are mutually exclusive"

/-- An item of an attribute list. -/
structure Item where
  key : String
  value : Option String
deriving DecidableEq, Repr

/-- The identifier that a token is. -/
def Token.identifier : Token → Except Rejection String
  | word text => if keywords.contains text then .error (.keyword text) else .ok text
  | _ => .error .noIdentifier

/-- The items of a list. -/
def parseItems : List Token → Except Rejection (List Item)
  | [] => .ok []
  | token :: rest => do
    let key ← token.identifier
    match rest with
    | [] => return [⟨key, none⟩]
    | .comma :: more => return ⟨key, none⟩ :: (← parseItems more)
    | .parens :: _ => .error .arguments
    | [.equals] => .error (.noString true)
    | [.equals, .string value] => return [⟨key, some value⟩]
    | .equals :: .string value :: .comma :: more =>
      return ⟨key, some value⟩ :: (← parseItems more)
    | .equals :: .string _ :: _ => .error .noComma
    | .equals :: _ => .error (.noString false)
    | _ => .error .noComma

/-- An attribute of a type or of a field. -/
inductive Attribute where
  /-- A list in parentheses. -/
  | list (tokens : List Token)
  /-- No list. -/
  | bare
  /-- A value after an equals sign. -/
  | assigned
  /-- An attribute that is not for this library. -/
  | foreign
deriving DecidableEq, Repr

/-- The items of an attribute. -/
def Attribute.items : Attribute → Except Rejection (List Item)
  | list tokens => parseItems tokens
  | bare => .error .noList
  | assigned => .error .notList
  | foreign => .ok []

/-- The items of all attributes of one place. -/
def allItems : List Attribute → Except Rejection (List Item)
  | [] => .ok []
  | a :: rest => do
    let items ← a.items
    let more ← allItems rest
    return items ++ more

namespace Item

/-- The value of an item that needs one. -/
def required (item : Item) : Except Rejection String :=
  match item.value with
  | some value => .ok value
  | none => .error (.valueMissing item.key)

/-- The mark that an item without a value sets. -/
def mark (item : Item) : Except Rejection Bool :=
  match item.value with
  | some _ => .error (.valueUnwanted item.key)
  | none => .ok true

end Item

/-- The table that the items of a type name, when `table` is the one named so far. -/
def tableOf (table : Option String) : List Item → Except Rejection (Option String)
  | [] => .ok table
  | item :: rest => do
    if item.key = "table" then
      let name ← item.required
      if name.isEmpty then .error .emptyTable else tableOf (some name) rest
    else .error (.unknownTypeKey item.key)

/-- What the items of a field say. -/
structure FieldMarks where
  column : Option String
  sqlType : Option String
  primaryKey : Bool
  autoKey : Bool
  noInsert : Bool
  blob : Bool
  skip : Bool
deriving DecidableEq, Repr

namespace FieldMarks

/-- No marks. -/
def empty : FieldMarks := ⟨none, none, false, false, false, false, false⟩

/-- Whether the marks call for column options. -/
def hasOptions (m : FieldMarks) : Bool :=
  m.primaryKey || m.autoKey || m.noInsert || m.blob || m.sqlType.isSome

/-- The marks with one more item. -/
def add (m : FieldMarks) (item : Item) : Except Rejection FieldMarks :=
  match item.key with
  | "column" => return { m with column := some (← item.required) }
  | "sql_type" => return { m with sqlType := some (← item.required) }
  | "primary_key" => return { m with primaryKey := ← item.mark }
  | "auto_key" => return { m with autoKey := ← item.mark }
  | "no_insert" => return { m with noInsert := ← item.mark }
  | "blob" => return { m with blob := ← item.mark }
  | "skip" => return { m with skip := ← item.mark }
  | key => .error (.unknownFieldKey key)

/-- Refuses marks that do not go together. -/
def check (m : FieldMarks) : Except Rejection FieldMarks :=
  if m.skip && (m.hasOptions || m.column.isSome) then .error .skippedWithOthers
  else if m.autoKey && m.blob then .error .keyAndBlob
  else .ok m

/-- The marks of a list of items. -/
def ofItems (items : List Item) : Except Rejection FieldMarks := do
  (← items.foldlM add empty).check

/-- The marks of a field with the given attributes. -/
def ofAttributes (attributes : List Attribute) : Except Rejection FieldMarks := do
  ofItems (← allItems attributes)

end FieldMarks

end RecordSql.Declaration
